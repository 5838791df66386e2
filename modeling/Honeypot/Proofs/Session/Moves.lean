import Mathlib.Logic.Relation
import Honeypot.Persona.Catalogue
import Honeypot.Session.Course

/-!
# The moves of a session

Whatever a session is asked to do, it does by a few kinds of moves: `Move` lists them, and
`moves_after` takes every deed apart into moves. What all moves preserve is thereby preserved by
every deed. A session is closed by moves of one kind only, for reasons that depend on the deed.
-/

namespace Honeypot

/-- Whether a session differs from another one at most in what it works with. -/
def Session.SameBut {τ : Type} (s t : Session τ) : Prop :=
  t = { s with
    user? := t.user?, commands := t.commands, env := t.env, history := t.history
    chances := t.chances, channel := t.channel, attached := t.attached
    workspace? := t.workspace?, interruption? := t.interruption? }

namespace Scene

variable {τ : Type} [Clock τ]

/-- A move of a session that is closed only for some reasons. -/
inductive Move (R : String → Prop) (c : Scene τ) : Scene τ → Prop
  /-- The session works on something of its own, which takes nothing but time and made-up files. -/
  | work {d : Scene τ} (session : c.session.SameBut d.session)
      (station : d.station = { c.station with now := d.station.now, noise := d.station.noise })
      (interruption : ∀ reason, d.session.interruption? = some reason →
        c.session.interruption? = some reason) : Move R c d
  | touch : Move R c c.touch
  | logIn (user : String) : Move R c (c.logIn user)
  /-- Something is measured that leaves the numbers of sessions and connections alone. -/
  | measure (f : Metrics.Collector → Metrics.Collector)
      (sessions : ∀ m, (f m).active = m.active ∧ (f m).gauge = m.gauge)
      (connections : ∀ m, (f m).connections = m.connections) : Move R c (c.measure f)
  /-- An event is told of that is neither the beginning nor the end. -/
  | tell (kind : Events.Kind) (fields : List (String × Json)) (beginning : kind ≠ .connection)
      (ending : kind ≠ .disconnect) : Move R c (c.emit kind fields)
  | finish (reason : String) (allowed : R reason) : Move R c (c.ended reason)

abbrev Moves (R : String → Prop) : Scene τ → Scene τ → Prop := Relation.ReflTransGen (Move R)

/-- Whether the session may be closed for the reason for which a wait would be cut short. -/
def Allows (R : String → Prop) (c : Scene τ) : Prop :=
  ∀ reason, c.session.interruption? = some reason → R reason

variable {R : String → Prop} {c d : Scene τ}

/-! ## Parts of deeds -/

theorem session_submit_emit (c : Scene τ) (r : Events.Record) :
    (c.submit (.emit r)).session =
      { c.session with pending := (c.submit (.emit r)).session.pending } := by
  unfold submit
  cases c.station.pool with
  | shut => rfl
  | later => rfl
  | atOnce =>
    unfold carryOut perform
    dsimp only
    split <;> rfl

theorem session_emit (c : Scene τ) (kind : Events.Kind) (fields : List (String × Json)) :
    (c.emit kind fields).session =
      { c.session with pending := (c.emit kind fields).session.pending } := by
  unfold emit
  split
  · rfl
  · exact session_submit_emit c _

theorem interruption_ended (c : Scene τ) (reason : String) :
    (c.ended reason).session.interruption? = c.session.interruption? := by
  unfold ended close
  split
  · rfl
  · show (((c.beginClosing reason).hangUp).signOff reason).session.interruption? = _
    have hhang : (c.beginClosing reason).hangUp.session.interruption? =
        c.session.interruption? := by
      unfold hangUp
      split <;> rfl
    rw [← hhang]
    generalize (c.beginClosing reason).hangUp = c'
    unfold signOff
    split
    · show (Scene.emit _ _ _).session.interruption? = _
      rw [session_emit]
    · rfl

theorem Move.interruption (h : Move R c d) {reason : String}
    (hd : d.session.interruption? = some reason) : c.session.interruption? = some reason := by
  cases h with
  | work _ _ hint => exact hint reason hd
  | touch =>
    revert hd
    unfold Scene.touch
    split <;> exact id
  | logIn user =>
    revert hd
    unfold Scene.logIn
    split <;> exact id
  | measure f _ _ => exact hd
  | tell kind fields _ _ =>
    rw [session_emit] at hd
    exact hd
  | finish reason' _ =>
    rw [interruption_ended] at hd
    exact hd

theorem Moves.allows (h : Moves R c d) (hR : c.Allows R) : d.Allows R := by
  induction h with
  | refl => exact hR
  | tail _ hmove ih =>
    intro reason hreason
    exact ih reason (hmove.interruption hreason)

theorem moves_session {s : Session τ} (hs : c.session.SameBut s)
    (hint : s.interruption? = c.session.interruption?) : Moves R c { c with session := s } :=
  .single (.work hs rfl fun _ h => hint ▸ h)

theorem moves_touch (c : Scene τ) : Moves R c c.touch := .single .touch

theorem moves_ensureLoggedIn (c : Scene τ) : Moves R c c.ensureLoggedIn := by
  unfold ensureLoggedIn
  split
  · exact .single (.logIn "")
  · exact .refl

theorem moves_send (htransport : R "transport-error") (c : Scene τ) (text : String) :
    Moves R c (c.send text) := by
  unfold send
  split
  · exact .refl
  · split
    · exact moves_session rfl rfl
    · exact .single (.finish _ htransport)

theorem moves_sendPrompt (htransport : R "transport-error") (c : Scene τ) :
    Moves R c c.sendPrompt := by
  unfold sendPrompt
  split
  · exact moves_send htransport c _
  · exact .refl

theorem moves_wait (hR : c.Allows R) (time : τ) : Moves R c (c.wait time).2 := by
  unfold wait
  split
  · exact .refl
  · split
    · next reason hreason =>
      have hclear : Move R c { c with session.interruption? := none } :=
        .work rfl rfl fun _ hnone => absurd hnone (Option.some_ne_none _).symm
      exact .tail (.single hclear) (.finish reason (hR reason hreason))
    · exact .single (.work rfl rfl fun _ => id)

/-! ## Running lines -/

theorem moves_noteDownload (c : Scene τ) (d : Shell.Download) : Moves R c (c.noteDownload d) := by
  unfold noteDownload
  have hmeasure : Move R c (c.measure fun m => m.downloaded d.tool.name) :=
    .measure _ (fun _ => ⟨rfl, rfl⟩) fun _ => rfl
  exact .tail (.single hmeasure) (.tell .download _ nofun nofun)

theorem moves_noteDownloads (ds : List Shell.Download) (c : Scene τ) :
    Moves R c (ds.foldl noteDownload c) := by
  induction ds generalizing c with
  | nil => exact .refl
  | cons d ds ih => exact (moves_noteDownload c d).trans (ih _)

theorem moves_runLine (c : Scene τ) (w : Workspace) (line : String) :
    Moves R c (c.runLine w line).2 := by
  unfold runLine
  dsimp only
  refine .head ?_ (moves_noteDownloads _ _)
  exact .work rfl rfl fun _ => id

theorem moves_runEntered (hR : c.Allows R) (w : Workspace) (line : String) :
    Moves R c (c.runEntered w line).2 := by
  have hhistory : Moves R c { c with session.history := c.session.history ++ [line] } :=
    moves_session rfl rfl
  refine hhistory.trans ?_
  have hwait := moves_wait (hhistory.allows hR) c.session.delay
  unfold runEntered
  dsimp only
  split
  · split
    · next hcut =>
      rw [hcut] at hwait
      exact hwait
    · next hcut =>
      rw [hcut] at hwait
      exact hwait.trans (moves_runLine _ w line)
  · exact moves_runLine _ w line

theorem moves_giveToShell (hR : c.Allows R) (line : String) :
    Moves R c (c.giveToShell line).2 := by
  unfold giveToShell
  split
  · exact .refl
  · split
    · exact .refl
    · split
      · exact .refl
      · exact moves_runEntered hR _ _

def counted (c : Scene τ) : Scene τ :=
  { c.ensureLoggedIn with session.commands := c.ensureLoggedIn.session.commands + 1 }

/-- Tells of a line that was run, unless the session is closed. -/
def noteLine (c : Scene τ) (line : String) (response? : Option Shell.Response) : Scene τ :=
  if c.session.closed then c
  else
    (c.emit .command [("input", .text line),
      ("output", .text (outputOf (response?.getD (.text (failureText line)))))]).measure fun m =>
        m.ran (if response?.isNone then Metrics.erroneous
          else if Shell.isKnownLine line then Metrics.known else Metrics.unknown)

/-- A line is counted, given to the shell and told of. -/
theorem execute_eq (c : Scene τ) (line : String) :
    c.execute line =
      (⟨(c.counted.giveToShell line).1.getD (.text (failureText line)),
        (c.counted.giveToShell line).1.isNone⟩,
      (c.counted.giveToShell line).2.noteLine line (c.counted.giveToShell line).1) := by
  unfold execute counted
  dsimp only
  rcases giveToShell _ line with ⟨response?, c'⟩
  rfl

theorem moves_counted (c : Scene τ) : Moves R c c.counted :=
  (moves_ensureLoggedIn c).trans (moves_session rfl rfl)

theorem moves_noteLine (c : Scene τ) (line : String) (response? : Option Shell.Response) :
    Moves R c (c.noteLine line response?) := by
  unfold noteLine
  split
  · exact .refl
  · refine .trans (.single ?_) (.single (.measure _ (fun _ => ⟨rfl, rfl⟩) fun _ => rfl))
    exact .tell .command _ nofun nofun

theorem moves_execute (hR : c.Allows R) (line : String) : Moves R c (c.execute line).2 := by
  rw [execute_eq]
  have hcounted := moves_counted (R := R) c
  have hgiven := moves_giveToShell (hcounted.allows hR) line
  exact hcounted.trans (hgiven.trans (moves_noteLine _ line _))

/-! ## The terminal -/

/-- The session with a user at its terminal. -/
def seated (c : Scene τ) : Scene τ := { c.ensureLoggedIn with session.attached := true }

/-- Greets the user and asks for a line. -/
def greet (c : Scene τ) : Except Lapse Unit × Scene τ :=
  let (greeting, chances) :=
    (Shell.banner c.session.device c.station.seconds).run c.session.chances
  let c := { c with session.chances := chances }
  match greeting with
  | .error fault => (.error (.greeting fault), c)
  | .ok text => (.ok (), (c.send (Text.crlf text)).sendPrompt)

theorem attach_eq (c : Scene τ) :
    c.attach =
      if c.seated.session.workspace?.isNone then (.error .noShell, c.seated)
      else c.seated.greet := by
  unfold attach seated
  dsimp only
  split
  · rfl
  · rfl

theorem moves_greet (htransport : R "transport-error") (c : Scene τ) :
    Moves R c c.greet.2 := by
  unfold greet
  rcases (Shell.banner c.session.device c.station.seconds).run c.session.chances
    with ⟨greeting, chances⟩
  have hdrawn : Moves R c { c with session.chances := chances } := moves_session rfl rfl
  cases greeting with
  | error fault => exact hdrawn
  | ok text =>
    exact hdrawn.trans ((moves_send htransport _ _).trans (moves_sendPrompt htransport _))

theorem moves_attach (htransport : R "transport-error") (c : Scene τ) :
    Moves R c c.attach.2 := by
  have hseated : Moves R c c.seated := (moves_ensureLoggedIn c).trans (moves_session rfl rfl)
  refine hseated.trans ?_
  rw [attach_eq]
  split
  · exact .refl
  · exact moves_greet htransport _

section Typing

variable (htransport : R "transport-error") (hexit : R "exit") (hlogout : R "logout")

include htransport hexit

theorem moves_runAtTerminal (hR : c.Allows R) (line : String) :
    Moves R c (c.runAtTerminal line).2 := by
  refine (moves_execute hR line).trans ?_
  unfold runAtTerminal
  dsimp only
  split
  · exact .refl
  · split
    · exact .tail (moves_send htransport _ _) (.finish _ hexit)
    · exact (moves_send htransport _ _).trans (moves_sendPrompt htransport _)

include hlogout

theorem moves_press (hR : c.Allows R) (key : Terminal.Key) : Moves R c (c.press key).2 := by
  have hecho : Moves R c (c.send key.echo) := moves_send htransport c _
  refine hecho.trans ?_
  unfold press
  dsimp only
  split
  · exact .single (.finish _ hlogout)
  · exact moves_runAtTerminal htransport hexit (hecho.allows hR) _
  · split
    · exact moves_sendPrompt htransport _
    · exact .refl

theorem moves_feedBytes (bytes : List UInt8) (hR : c.Allows R) :
    Moves R c (c.feedBytes bytes).2 := by
  induction bytes generalizing c with
  | nil => exact .refl
  | cons byte rest ih =>
    unfold feedBytes
    split
    · exact .refl
    · next w _ =>
      have hstep : Moves R c
          { c with session.workspace? := some { w with terminal := (w.terminal.step byte).1 } } :=
        moves_session rfl rfl
      refine hstep.trans ?_
      dsimp only
      split
      · exact ih (hstep.allows hR)
      · next key _ =>
        have hpress := moves_press htransport hexit hlogout (hstep.allows hR) key
        split
        · next hpressed =>
          rw [hpressed] at hpress
          exact hpress.trans (ih (hpress.allows (hstep.allows hR)))
        · next hpressed =>
          rw [hpressed] at hpress
          exact hpress

theorem moves_feed (hR : c.Allows R) (bytes : List UInt8) : Moves R c (c.feed bytes).2 := by
  unfold feed
  split
  · exact .refl
  · exact (moves_touch c).trans
      (moves_feedBytes htransport hexit hlogout bytes ((moves_touch c).allows hR))

end Typing

/-- Shows what a single line came to and closes the session. -/
def deliver (c : Scene τ) (execution : Execution) : Nat × Scene τ :=
  let status := if execution.failed then 1 else 0
  let c := c.send (terminated (outputOf execution.response))
  let c :=
    if c.session.closed then c
    else { c with session.channel := c.session.channel.exit status }
  (status, c.ended "exec-complete")

/-- The session with a peer that waits for a single line to be run. -/
def addressed (c : Scene τ) : Scene τ := ({ c with session.attached := true }).touch

theorem runOnce_eq (c : Scene τ) (line : String) :
    c.runOnce line =
      (c.addressed.execute line).2.deliver (c.addressed.execute line).1 := by
  unfold runOnce addressed
  dsimp only
  rcases execute _ line with ⟨execution, c'⟩
  rfl

theorem moves_deliver (htransport : R "transport-error") (hdone : R "exec-complete")
    (c : Scene τ) (execution : Execution) : Moves R c (c.deliver execution).2 := by
  have hsent := moves_send htransport c (terminated (outputOf execution.response))
  unfold deliver
  refine .tail (hsent.trans ?_) (.finish _ hdone)
  split
  · exact .refl
  · exact moves_session rfl rfl

theorem moves_addressed (c : Scene τ) : Moves R c c.addressed := by
  have hattached : Moves R c { c with session.attached := true } := moves_session rfl rfl
  exact hattached.trans (moves_touch _)

theorem moves_runOnce (htransport : R "transport-error") (hdone : R "exec-complete")
    (hR : c.Allows R) (line : String) : Moves R c (c.runOnce line).2 := by
  rw [runOnce_eq]
  have haddressed := moves_addressed (R := R) c
  have hexecuted := moves_execute (haddressed.allows hR) line
  exact haddressed.trans (hexecuted.trans (moves_deliver htransport hdone _ _))

/-! ## Watching -/

/-- How long it is until the session will have done nothing for too long. -/
def timeLeft (c : Scene τ) : τ :=
  let now := c.station.now
  let deadline := c.session.deadline?.getD now
  let deadline := if deadline ≤ Clock.span 0 ∧ Clock.span 0 ≤ deadline then now else deadline
  deadline - now

theorem watch_succ (c : Scene τ) (rounds : Nat) :
    c.watch (rounds + 1) =
      if c.session.closed then c
      else if c.timeLeft ≤ Clock.span 0 then c.ended "idle-timeout"
      else
        match c.wait c.timeLeft with
        | (true, c) => c
        | (false, c) => c.watch rounds := rfl

theorem moves_watch (hidle : R "idle-timeout") (rounds : Nat) (hR : c.Allows R) :
    Moves R c (c.watch rounds) := by
  induction rounds generalizing c with
  | zero => exact .refl
  | succ rounds ih =>
    rw [watch_succ]
    split
    · exact .refl
    · split
      · exact .single (.finish _ hidle)
      · have hwait := moves_wait hR c.timeLeft
        have hallows := hwait.allows hR
        revert hwait hallows
        rcases c.wait c.timeLeft with ⟨cut, c'⟩
        intro hwait hallows
        cases cut with
        | true => exact hwait
        | false => exact hwait.trans (ih hallows)

/-! ## Arrival -/

/-- The session with a place in the registry. -/
def placed (c : Scene τ) (registry : Registry) : Scene τ :=
  ({ session := { c.session with admitted := true, status := .authenticating }
     station := { c.station with registry } } : Scene τ).measure fun m =>
    (m.connected Metrics.accepted).started

/-- Finds out about the peer and begins to wait for it. -/
def settleIn (c : Scene τ) : Scene τ :=
  let c := if c.station.lookups?.isSome then c.submit .lookUp else c
  let c := c.touch
  if Clock.span 0 < c.session.idleTimeout then { c with session.watched := true } else c

theorem serve_eq (c : Scene τ) (registry : Registry) :
    c.serve registry = ((c.placed registry).emit .connection []).settleIn := rfl

/-! ## Deeds -/

/-- What a session may be asked to do once it is admitted. -/
inductive Deed where
  | authenticate (method user : String) (password? : Option String)
  | logIn (user : String)
  | attach
  | feed (bytes : List UInt8)
  | execute (line : String)
  | runOnce (line : String)
  | watch (rounds : Nat)
  | close (reason : String)

def after (c : Scene τ) : Deed → Scene τ
  | .authenticate method user password? => (c.authenticate method user password?).2
  | .logIn user => c.logIn user
  | .attach => c.attach.2
  | .feed bytes => (c.feed bytes).2
  | .execute line => (c.execute line).2
  | .runOnce line => (c.runOnce line).2
  | .watch rounds => c.watch rounds
  | .close reason => (c.close reason).2

/-- The reasons for which a deed may close a session whose waits would be cut short for some reason
or none. -/
def Deed.reasons (interruption? : Option String) : Deed → List String
  | .authenticate _ _ _ => []
  | .logIn _ => []
  | .attach => ["transport-error"]
  | .feed _ => "transport-error" :: "exit" :: "logout" :: interruption?.toList
  | .execute _ => interruption?.toList
  | .runOnce _ => "transport-error" :: "exec-complete" :: interruption?.toList
  | .watch _ => "idle-timeout" :: interruption?.toList
  | .close reason => [reason]

/-- Whether a deed may close the session for a reason. -/
def MayEnd (c : Scene τ) (deed : Deed) (reason : String) : Prop :=
  reason ∈ deed.reasons c.session.interruption?

/-- The session of the user who authenticates, if the attempt is accepted. -/
def named (c : Scene τ) (method user : String) : Scene τ :=
  if method == "password" then { c with session.user? := some user } else c

theorem authenticate_eq (c : Scene τ) (method user : String) (password? : Option String) :
    c.authenticate method user password? =
      (method == "password",
        ((c.touch.named method user).measure fun m => m.authenticated method).emit .authentication
          [("method", .text method), ("username", .text user),
            ("password", (password?.map Json.text).getD .null),
            ("accepted", .bool (method == "password"))]) := rfl

theorem moves_authenticate (c : Scene τ) (method user : String) (password? : Option String) :
    Moves R c (c.authenticate method user password?).2 := by
  have hnamed : Moves R c.touch (c.touch.named method user) := by
    unfold named
    split
    · exact moves_session rfl rfl
    · exact .refl
  have hmeasured : Moves R (c.touch.named method user)
      ((c.touch.named method user).measure fun m => m.authenticated method) :=
    .single (.measure _ (fun _ => ⟨rfl, rfl⟩) fun _ => rfl)
  rw [authenticate_eq]
  refine (moves_touch c).trans (hnamed.trans (hmeasured.tail ?_))
  exact .tell .authentication _ nofun nofun

/-- **Every deed is made of moves**, and closes the session for none but its own reasons. -/
theorem moves_after (c : Scene τ) (deed : Deed) : Moves (c.MayEnd deed) c (c.after deed) := by
  have hcut {reason : String} (h : c.session.interruption? = some reason) :
      reason ∈ c.session.interruption?.toList := by
    rw [h]
    exact .head _
  cases deed with
  | authenticate method user password? => exact moves_authenticate c method user password?
  | logIn user => exact .single (.logIn user)
  | attach => exact moves_attach (.head _) c
  | feed bytes =>
    refine moves_feed (.head _) (.tail _ (.head _)) (.tail _ (.tail _ (.head _))) ?_ bytes
    exact fun _ h => .tail _ (.tail _ (.tail _ (hcut h)))
  | execute line => exact moves_execute (fun _ => hcut) line
  | runOnce line =>
    refine moves_runOnce (.head _) (.tail _ (.head _)) ?_ line
    exact fun _ h => .tail _ (.tail _ (hcut h))
  | watch rounds => exact moves_watch (.head _) rounds fun _ h => .tail _ (hcut h)
  | close reason => exact .single (.finish reason (.head _))

/-- A peer that arrives at a station without any other. -/
def exampleArrival : Scene Int where
  session := .fresh 0 "7f3a" "203.0.113.9" 40000 Persona.standard 300 0 true 0 (.ofSeed 7)
  station :=
    { now := 0, noise := .ofSeed 0, registry := .empty 10 0, metrics? := none
      sink? := some ⟨.memory, []⟩, lookups? := none, pool := .later, queue := [], jobs := 0
      failures := [], notices := [] }

end Scene
end Honeypot
