import Honeypot.Proofs.Session.Moves

/-!
# What a closed session still does

Every way of sending and waiting looks at whether the session is closed, and so does taking a chunk
of input; running a line does not. A closed session is therefore moved by just those inputs that
come to running a line: `footprint_after_iff` says so for deeds, and `footprint_goOn_iff` for the
rest of the chunk in the middle of which the session was closed.
-/

namespace Honeypot

open Terminal (Key Decoder)

/-! ## Keys -/

/-- Whether a key ends the chunk that it is in, at the latest if the session is closed. -/
def Terminal.Key.stops : Key → Bool
  | .entered _ => true
  | .loggedOut => true
  | _ => false

/-- Whether the first key that ends the chunk enters a line. -/
def Terminal.enters (keys : List Key) : Bool :=
  ((keys.find? Key.stops).bind Key.line?).isSome

theorem enters_cons (key : Key) (keys : List Key) :
    Terminal.enters (key :: keys) =
      if key.stops then key.line?.isSome else Terminal.enters keys := by
  unfold Terminal.enters
  rw [List.find?_cons]
  cases key <;> rfl

/-! ## What running lines leaves behind -/

/-- What lines that are run may change about a session and its measurements. -/
structure Footprint where
  commands : Nat
  history : List String
  env : Shell.Env
  files? : Option FileSystem
  outcomes? : Option Metrics.Tally
  tools? : Option Metrics.Tally

namespace Scene

variable {τ : Type}

/-- What lines have left behind so far. -/
def footprint (c : Scene τ) : Footprint where
  commands := c.session.commands
  history := c.session.history
  env := c.session.env
  files? := c.session.workspace?.map Workspace.files
  outcomes? := c.station.metrics?.map Metrics.Collector.outcomes
  tools? := c.station.metrics?.map Metrics.Collector.tools

structure Shut (c : Scene τ) : Prop where
  closing : c.session.closing = true
  closed : c.session.closed = true

variable {c d : Scene τ} {R : String → Prop}

theorem commands_of_footprint (h : d.footprint = c.footprint) :
    d.session.commands = c.session.commands := congrArg Footprint.commands h

theorem shut_hangUp (h : c.Shut) : c.hangUp.Shut := by
  unfold hangUp
  split
  · exact ⟨h.closing, h.closed⟩
  · exact h

theorem logIn_of_shut (h : c.Shut) (user : String) : c.logIn user = c := by
  unfold logIn
  rw [if_pos h.closed]

theorem ensureLoggedIn_of_shut (h : c.Shut) : c.ensureLoggedIn = c := by
  unfold ensureLoggedIn
  split
  · exact logIn_of_shut h ""
  · rfl

variable [Clock τ]

theorem shut_signOff (h : c.Shut) (reason : String) : (c.signOff reason).Shut := by
  unfold signOff
  split
  · constructor
    · show (Scene.emit _ _ _).session.closing = true
      rw [session_emit]
      exact h.closing
    · show (Scene.emit _ _ _).session.closed = true
      rw [session_emit]
      exact h.closed
  · exact h

theorem shut_ended (h : c.session.closing = false) (reason : String) : (c.ended reason).Shut := by
  have hbegun : (c.beginClosing reason).Shut := ⟨rfl, rfl⟩
  have hsigned := shut_signOff (shut_hangUp hbegun) reason
  unfold ended close
  rw [if_neg (by rw [h]; decide)]
  exact ⟨hsigned.closing, hsigned.closed⟩

/-! ## What a closed session does not do -/

theorem send_of_shut (h : c.Shut) (text : String) : c.send text = c := by
  unfold send
  rw [h.closed, Bool.or_true]
  rfl

theorem sendPrompt_of_shut (h : c.Shut) : c.sendPrompt = c := by
  unfold sendPrompt
  split
  · exact send_of_shut h _
  · rfl

theorem ended_of_shut (h : c.Shut) (reason : String) : c.ended reason = c := by
  unfold ended
  rw [close_of_closing h.closing]

theorem wait_of_shut (h : c.Shut) (time : τ) : c.wait time = (true, c) := by
  unfold wait
  rw [if_pos h.closed]

theorem feed_of_shut (h : c.Shut) (bytes : List UInt8) : c.feed bytes = (false, c) := by
  unfold feed
  rw [h.closed, Bool.true_or]
  rfl

theorem watch_of_shut (h : c.Shut) (rounds : Nat) : c.watch rounds = c := by
  cases rounds with
  | zero => rfl
  | succ rounds =>
    rw [watch_succ, if_pos h.closed]

/-! ## Closed sessions stay closed -/

theorem shut_move (hmove : Move R c d) (h : c.Shut) : d.Shut := by
  cases hmove with
  | work hsession _ _ =>
    constructor
    · rw [hsession]
      exact h.closing
    · rw [hsession]
      exact h.closed
  | touch =>
    unfold touch
    split
    · exact ⟨h.closing, h.closed⟩
    · exact h
  | logIn user =>
    rw [logIn_of_shut h]
    exact h
  | measure f _ _ => exact ⟨h.closing, h.closed⟩
  | tell kind fields _ _ =>
    constructor
    · rw [session_emit]
      exact h.closing
    · rw [session_emit]
      exact h.closed
  | finish reason _ =>
    rw [ended_of_shut h]
    exact h

theorem shut_moves (hmoves : Moves R c d) (h : c.Shut) : d.Shut := by
  induction hmoves with
  | refl => exact h
  | tail _ hmove ih => exact shut_move hmove ih

theorem shut_after (h : c.Shut) (deed : Deed) : (c.after deed).Shut :=
  shut_moves (moves_after c deed) h

/-! ## Lines that are run nevertheless -/

theorem session_noteDownloads (ds : List Shell.Download) (c : Scene τ) :
    (ds.foldl noteDownload c).session =
      { c.session with pending := (ds.foldl noteDownload c).session.pending } := by
  induction ds generalizing c with
  | nil => rfl
  | cons d ds ih =>
    have hnoted : (c.noteDownload d).session =
        { c.session with pending := (c.noteDownload d).session.pending } := session_emit _ _ _
    rw [List.foldl_cons, ih, hnoted]

theorem commands_runLine (c : Scene τ) (w : Workspace) (line : String) :
    (c.runLine w line).2.session.commands = c.session.commands := by
  unfold runLine
  dsimp only
  rcases (Shell.runLine _ line).run _ with ⟨result, after⟩
  show (after.downloads.foldl noteDownload _).session.commands = _
  rw [session_noteDownloads]

theorem commands_runEntered (h : c.Shut) (w : Workspace) (line : String) :
    (c.runEntered w line).2.session.commands = c.session.commands := by
  have hnoted : ({ c with session.history := c.session.history ++ [line] } : Scene τ).Shut :=
    ⟨h.closing, h.closed⟩
  unfold runEntered
  dsimp only
  split
  · rw [wait_of_shut hnoted]
  · exact commands_runLine _ w line

theorem commands_giveToShell (h : c.Shut) (line : String) :
    (c.giveToShell line).2.session.commands = c.session.commands := by
  unfold giveToShell
  split
  · rfl
  · split
    · rfl
    · split
      · rfl
      · exact commands_runEntered h _ _

theorem commands_execute (h : c.Shut) (line : String) :
    (c.execute line).2.session.commands = c.session.commands + 1 := by
  have hcounted : c.counted.Shut := by
    unfold counted
    rw [ensureLoggedIn_of_shut h]
    exact ⟨h.closing, h.closed⟩
  have hgiven : (c.counted.giveToShell line).2.Shut :=
    shut_moves (moves_giveToShell (R := fun _ => True) (fun _ _ => trivial) line) hcounted
  rw [execute_eq]
  unfold noteLine
  rw [if_pos hgiven.closed, commands_giveToShell hcounted line]
  unfold counted
  rw [ensureLoggedIn_of_shut h]

/-! ## Deeds that run no line -/

theorem metrics_submit_emit (c : Scene τ) (r : Events.Record) :
    (c.submit (.emit r)).station.metrics? = c.station.metrics? := by
  have htell (s : Station τ) : (s.tell r).1.metrics? = s.metrics? := by
    unfold Station.tell
    split <;> rfl
  unfold submit
  cases c.station.pool with
  | shut => rfl
  | later => rfl
  | atOnce =>
    unfold carryOut perform
    dsimp only
    split
    · exact htell _
    · exact htell _

theorem metrics_emit (c : Scene τ) (kind : Events.Kind) (fields : List (String × Json)) :
    (c.emit kind fields).station.metrics? = c.station.metrics? := by
  unfold emit
  split
  · rfl
  · exact metrics_submit_emit c _

theorem footprint_emit (c : Scene τ) (kind : Events.Kind) (fields : List (String × Json)) :
    (c.emit kind fields).footprint = c.footprint := by
  unfold footprint
  rw [metrics_emit, session_emit]

theorem footprint_touch (c : Scene τ) : c.touch.footprint = c.footprint := by
  unfold touch
  split <;> rfl

theorem footprint_authenticate (c : Scene τ) (method user : String) (password? : Option String) :
    (c.authenticate method user password?).2.footprint = c.footprint := by
  have hnamed : (c.touch.named method user).footprint = c.touch.footprint := by
    unfold named
    split <;> rfl
  have hmeasured : ((c.touch.named method user).measure fun m =>
      m.authenticated method).footprint = (c.touch.named method user).footprint := by
    unfold footprint measure Station.measure
    cases (c.touch.named method user).station.metrics? <;> rfl
  rw [authenticate_eq]
  dsimp only
  rw [footprint_emit, hmeasured, hnamed, footprint_touch]

theorem footprint_attach (h : c.Shut) : c.attach.2.footprint = c.footprint := by
  have hseated : c.seated = { c with session.attached := true } := by
    unfold seated
    rw [ensureLoggedIn_of_shut h]
  rw [attach_eq, hseated]
  split
  · rfl
  · unfold greet
    rcases (Shell.banner _ _).run _ with ⟨greeting, chances⟩
    cases greeting with
    | error fault => rfl
    | ok text =>
      have hdrawn : ({ c with
          session.attached := true, session.chances := chances } : Scene τ).Shut :=
        ⟨h.closing, h.closed⟩
      show (Scene.sendPrompt (Scene.send _ _)).footprint = _
      rw [send_of_shut hdrawn, sendPrompt_of_shut hdrawn]
      rfl

/-- Whether a deed comes to running a line. -/
def Deed.runsLine : Deed → Bool
  | .execute _ => true
  | .runOnce _ => true
  | _ => false

/-- **Deeds that run no line leave a closed session as it is.** -/
theorem footprint_after_of_not_runsLine (h : c.Shut) {deed : Deed}
    (hdeed : deed.runsLine = false) : (c.after deed).footprint = c.footprint := by
  cases deed with
  | authenticate method user password? => exact footprint_authenticate c method user password?
  | logIn user => exact congrArg footprint (logIn_of_shut h user)
  | attach => exact footprint_attach h
  | feed bytes =>
    show (c.feed bytes).2.footprint = _
    rw [feed_of_shut h]
  | execute line => cases hdeed
  | runOnce line => cases hdeed
  | watch rounds => exact congrArg footprint (watch_of_shut h rounds)
  | close reason => exact congrArg footprint (ended_of_shut h reason)

/-- **Deeds that run a line add it to a closed session.** -/
theorem commands_after_of_runsLine (h : c.Shut) {deed : Deed} (hdeed : deed.runsLine = true) :
    (c.after deed).session.commands = c.session.commands + 1 := by
  cases deed with
  | execute line => exact commands_execute h line
  | runOnce line =>
    have haddressed : c.addressed.Shut := shut_moves (moves_addressed (R := fun _ => True) c) h
    have hexecuted : (c.addressed.execute line).2.Shut := shut_after haddressed (.execute line)
    show (c.runOnce line).2.session.commands = _
    rw [runOnce_eq]
    unfold deliver
    dsimp only
    rw [send_of_shut hexecuted, if_pos hexecuted.closed, ended_of_shut hexecuted,
      commands_execute haddressed]
    show c.addressed.footprint.commands + 1 = _
    unfold addressed
    rw [footprint_touch]
    rfl
  | authenticate _ _ _ => cases hdeed
  | logIn _ => cases hdeed
  | attach => cases hdeed
  | feed _ => cases hdeed
  | watch _ => cases hdeed
  | close _ => cases hdeed

/-! ## The rest of a chunk -/

def react (c : Scene τ) (key : Key) : Bool × Scene τ :=
  match key with
  | .loggedOut => (false, c.ended "logout")
  | .entered line => c.runAtTerminal line
  | key => (true, if key.wantsPrompt then c.sendPrompt else c)

/-- Goes on with a chunk of which a key was shown, if there is one, and some bytes are left. -/
def goOn (c : Scene τ) (key? : Option Key) (rest : List UInt8) : Bool × Scene τ :=
  match key? with
  | none => c.feedBytes rest
  | some key =>
    match c.react key with
    | (true, c) => c.feedBytes rest
    | (false, c) => (false, c)

def typing (c : Scene τ) (w : Workspace) (terminal : Decoder) : Scene τ :=
  { c with session.workspace? := some { w with terminal } }

/-- The scene in which a chunk goes on after a byte: a key is shown first. -/
def shown (c : Scene τ) : Option Key → Scene τ
  | none => c
  | some key => c.send key.echo

/-- **A chunk is taken byte by byte**, so that every moment of it is one at which it goes on. -/
theorem goOn_cons {w : Workspace} (hw : c.session.workspace? = some w) (byte : UInt8)
    (rest : List UInt8) :
    c.goOn none (byte :: rest) =
      ((c.typing w (w.terminal.step byte).1).shown (w.terminal.step byte).2).goOn
        (w.terminal.step byte).2 rest := by
  show c.feedBytes (byte :: rest) = _
  unfold feedBytes
  rw [hw]
  dsimp only
  cases (w.terminal.step byte).2 with
  | none => rfl
  | some key => rfl

theorem feed_eq_goOn (hclosed : c.session.closed = false) {w : Workspace}
    (hw : c.session.workspace? = some w) (bytes : List UInt8) :
    c.feed bytes = c.touch.goOn none bytes := by
  unfold feed
  rw [hclosed, hw]
  rfl

/-- The keys that the terminal of a session makes of some bytes. -/
def keysOf (c : Scene τ) (bytes : List UInt8) : List Key :=
  match c.session.workspace? with
  | none => []
  | some w => (w.terminal.feed bytes).2

/-- Whether a line is entered by the rest of a chunk. -/
def entersLine (c : Scene τ) (key? : Option Key) (rest : List UInt8) : Bool :=
  Terminal.enters (key?.toList ++ c.keysOf rest)

/-- What the rest of a chunk does to a closed session: one more line, or nothing. -/
def GoesOn (c : Scene τ) (key? : Option Key) (rest : List UInt8) : Prop :=
  if c.entersLine key? rest then
    (c.goOn key? rest).2.session.commands = c.session.commands + 1
  else (c.goOn key? rest).2.footprint = c.footprint

theorem goesOn_some (h : c.Shut) {rest : List UInt8} (hrest : c.GoesOn none rest) (key : Key) :
    c.GoesOn (some key) rest := by
  have hprompt : c.sendPrompt = c := sendPrompt_of_shut h
  unfold GoesOn entersLine at hrest ⊢
  rw [Option.toList_some, List.singleton_append, enters_cons]
  cases key with
  | loggedOut => exact congrArg footprint (ended_of_shut h _)
  | entered line =>
    have hexecuted : (c.execute line).2.Shut := shut_after h (.execute line)
    have hrun : c.goOn (some (.entered line)) rest = (false, (c.execute line).2) := by
      show (match c.runAtTerminal line with | (true, c) => _ | (false, c) => _) = _
      unfold runAtTerminal
      dsimp only
      rw [if_pos hexecuted.closed]
    rw [hrun]
    exact commands_execute h line
  | enteredBlank =>
    have hsame : c.goOn (some .enteredBlank) rest = c.goOn none rest :=
      congrArg (feedBytes · rest) hprompt
    rw [hsame]
    exact hrest
  | erased => exact hrest
  | interrupted =>
    have hsame : c.goOn (some .interrupted) rest = c.goOn none rest :=
      congrArg (feedBytes · rest) hprompt
    rw [hsame]
    exact hrest
  | tab => exact hrest
  | typed char => exact hrest

/-- **The rest of a chunk in a closed session** enters one more line or does nothing. -/
theorem goesOn (h : c.Shut) (key? : Option Key) (rest : List UInt8) : c.GoesOn key? rest := by
  -- A key in hand is dealt with by `goesOn_some`, so that only the bytes are left to go through.
  have hkey (hnone : ∀ {c : Scene τ}, c.Shut → c.GoesOn none rest) : c.GoesOn key? rest := by
    cases key? with
    | none => exact hnone h
    | some key => exact goesOn_some h (hnone h) key
  apply hkey
  clear hkey h
  intro c h
  induction rest generalizing c with
  | nil =>
    have hkeys : c.keysOf [] = [] := by
      unfold keysOf
      split <;> rfl
    unfold GoesOn entersLine
    rw [hkeys]
    rfl
  | cons byte rest ih =>
    cases hw : c.session.workspace? with
    | none =>
      have hkeys : c.keysOf (byte :: rest) = [] := by
        unfold keysOf
        rw [hw]
      have hstays : c.goOn none (byte :: rest) = (!c.session.closed, c) := by
        show c.feedBytes (byte :: rest) = _
        unfold feedBytes
        rw [hw]
      unfold GoesOn entersLine
      rw [hkeys, hstays]
      rfl
    | some w =>
      have htyping : (c.typing w (w.terminal.step byte).1).Shut := ⟨h.closing, h.closed⟩
      have hshown : (c.typing w (w.terminal.step byte).1).shown (w.terminal.step byte).2 =
          c.typing w (w.terminal.step byte).1 := by
        unfold shown
        split
        · rfl
        · exact send_of_shut htyping _
      have hkeys : c.keysOf (byte :: rest) =
          (w.terminal.step byte).2.toList ++
            (c.typing w (w.terminal.step byte).1).keysOf rest := by
        unfold keysOf
        rw [hw]
        rfl
      have hfoot : (c.typing w (w.terminal.step byte).1).footprint = c.footprint := by
        unfold footprint
        rw [hw]
        rfl
      have hnext : (c.typing w (w.terminal.step byte).1).GoesOn (w.terminal.step byte).2 rest := by
        cases (w.terminal.step byte).2 with
        | none => exact ih htyping
        | some key => exact goesOn_some htyping (ih htyping) key
      unfold GoesOn entersLine at hnext ⊢
      rw [goOn_cons hw, hshown, hkeys]
      rw [hfoot] at hnext
      exact hnext

/-! ## Runs of closed sessions -/

theorem footprint_after_iff (h : c.Shut) (deed : Deed) :
    (c.after deed).footprint = c.footprint ↔ deed.runsLine = false := by
  cases hdeed : deed.runsLine with
  | false => exact ⟨fun _ => rfl, fun _ => footprint_after_of_not_runsLine h hdeed⟩
  | true =>
    have hcount := commands_after_of_runsLine h hdeed
    refine ⟨fun hsame => ?_, nofun⟩
    have hsame' := commands_of_footprint hsame
    omega

theorem commands_goOn (h : c.Shut) {key? : Option Key} {rest : List UInt8}
    (henters : c.entersLine key? rest = true) :
    (c.goOn key? rest).2.session.commands = c.session.commands + 1 := by
  have hgoes := goesOn h key? rest
  unfold GoesOn at hgoes
  rw [if_pos henters] at hgoes
  exact hgoes

theorem footprint_goOn_iff (h : c.Shut) (key? : Option Key) (rest : List UInt8) :
    (c.goOn key? rest).2.footprint = c.footprint ↔ c.entersLine key? rest = false := by
  cases henters : c.entersLine key? rest with
  | false =>
    have hgoes := goesOn h key? rest
    unfold GoesOn at hgoes
    rw [henters] at hgoes
    exact ⟨fun _ => rfl, fun _ => hgoes⟩
  | true =>
    have hcount := commands_goOn h henters
    refine ⟨fun hsame => ?_, nofun⟩
    have hsame' := commands_of_footprint hsame
    omega

/-- A closed session counts just the deeds that run a line. -/
theorem commands_deeds (h : c.Shut) (deeds : List Deed) :
    (deeds.foldl after c).session.commands =
      c.session.commands + deeds.countP Deed.runsLine := by
  induction deeds generalizing c with
  | nil => rfl
  | cons deed deeds ih =>
    rw [List.foldl_cons, ih (shut_after h deed), List.countP_cons]
    cases hdeed : deed.runsLine with
    | true =>
      rw [commands_after_of_runsLine h hdeed, if_pos rfl]
      omega
    | false =>
      rw [commands_of_footprint (footprint_after_of_not_runsLine h hdeed)]
      rfl

theorem footprint_deeds_iff (h : c.Shut) (deeds : List Deed) :
    (deeds.foldl after c).footprint = c.footprint ↔ ∀ deed ∈ deeds, deed.runsLine = false := by
  constructor
  · intro hsame
    have hcount := commands_deeds h deeds
    have hsame' := commands_of_footprint hsame
    have hnone : deeds.countP Deed.runsLine = 0 := by omega
    intro deed hdeed
    exact Bool.eq_false_iff.mpr (List.countP_eq_zero.mp hnone deed hdeed)
  · induction deeds generalizing c with
    | nil => exact fun _ => rfl
    | cons deed deeds ih =>
      intro hall
      obtain ⟨hfirst, hrest⟩ := List.forall_mem_cons.mp hall
      rw [List.foldl_cons, ih (shut_after h deed) hrest, footprint_after_of_not_runsLine h hfirst]

/-- The session with one more line counted and noted, and nothing to cut its delay short. -/
def heldBack (c : Scene τ) (entered : String) : Scene τ :=
  { c with session := { c.session with
      commands := c.session.commands + 1
      history := c.session.history ++ [entered]
      interruption? := none } }

theorem wait_of_cut {reason : String} (hclosed : c.session.closed = false)
    (hcut : c.session.interruption? = some reason) (time : τ) :
    c.wait time = (true, ({ c with session.interruption? := none } : Scene τ).ended reason) := by
  have hopen : ¬c.session.closed = true := Bool.eq_false_iff.mp hclosed
  unfold wait
  rw [if_neg hopen, hcut]

theorem runEntered_of_cut {reason : String} (hclosed : c.session.closed = false)
    (hdelay : Clock.span 0 < c.session.delay) (hcut : c.session.interruption? = some reason)
    (w : Workspace) (line : String) :
    (c.runEntered w line).2 =
      ({ c with
        session.history := c.session.history ++ [line]
        session.interruption? := none } : Scene τ).ended reason := by
  have hwait := wait_of_cut (c := { c with session.history := c.session.history ++ [line] })
    hclosed hcut c.session.delay
  unfold runEntered
  dsimp only
  rw [if_pos hdelay, hwait]

theorem giveToShell_of_workspace {w : Workspace} {line entered : String}
    (hw : c.session.workspace? = some w) (hbroken : w.broken = false)
    (hline : Shell.enteredLine? line = some entered) :
    c.giveToShell line = c.runEntered w entered := by
  have hsound : ¬w.broken = true := Bool.eq_false_iff.mp hbroken
  unfold giveToShell
  rw [hw]
  dsimp only
  rw [if_neg hsound, hline]

/-- A line whose delay is cut short by the end of the session is counted and noted before that, and
nothing happens after it. -/
theorem execute_of_cut {w : Workspace} {line entered reason : String}
    (hclosing : c.session.closing = false) (hclosed : c.session.closed = false)
    (hw : c.session.workspace? = some w) (hbroken : w.broken = false)
    (hline : Shell.enteredLine? line = some entered) (hdelay : Clock.span 0 < c.session.delay)
    (hcut : c.session.interruption? = some reason) :
    (c.execute line).2 = (c.heldBack entered).ended reason := by
  have hcounted : c.counted = { c with session.commands := c.session.commands + 1 } := by
    unfold counted ensureLoggedIn
    rw [hw]
    rfl
  have hgiven : (c.counted.giveToShell line).2 = (c.heldBack entered).ended reason := by
    have hw' : c.counted.session.workspace? = some w := hcounted ▸ hw
    have hclosed' : c.counted.session.closed = false := hcounted ▸ hclosed
    have hdelay' : Clock.span 0 < c.counted.session.delay := hcounted ▸ hdelay
    have hcut' : c.counted.session.interruption? = some reason := hcounted ▸ hcut
    rw [giveToShell_of_workspace hw' hbroken hline, runEntered_of_cut hclosed' hdelay' hcut',
      hcounted]
    rfl
  have hshut : ((c.heldBack entered).ended reason).Shut :=
    shut_ended (c := c.heldBack entered) hclosing reason
  rw [execute_eq]
  dsimp only
  rw [hgiven]
  unfold noteLine
  rw [if_pos hshut.closed]

/-- **What moves a closed session.** The rest of a chunk does if it enters a line, and of all deeds
just those do that run a line; anything else leaves the counts, the history, the variables, the
files and the measurements of commands and downloads as they are. A line whose delay is cut short
by the end of the session does nothing after it. -/
theorem footprint_of_closed (hclosing : c.session.closing = true)
    (hclosed : c.session.closed = true) :
    (∀ key? rest, (c.goOn key? rest).2.footprint = c.footprint ↔
      c.entersLine key? rest = false) ∧
    (∀ bytes, c.feed bytes = (false, c)) ∧
    (∀ deed, (c.after deed).footprint = c.footprint ↔ deed.runsLine = false) ∧
    (∀ deeds : List Deed, (deeds.foldl after c).footprint = c.footprint ↔
      ∀ deed ∈ deeds, deed.runsLine = false) ∧
    ∀ (d : Scene τ) (w : Workspace) (line entered reason : String),
      d.session.closing = false → d.session.closed = false →
      d.session.workspace? = some w → w.broken = false →
      Shell.enteredLine? line = some entered → Clock.span 0 < d.session.delay →
      d.session.interruption? = some reason →
      (d.execute line).2 = (d.heldBack entered).ended reason := by
  have h : c.Shut := ⟨hclosing, hclosed⟩
  exact ⟨footprint_goOn_iff h, feed_of_shut h, footprint_after_iff h, footprint_deeds_iff h,
    fun _ _ _ _ _ => execute_of_cut⟩

theorem footprint_of_closed_example :
    (exampleArrival.ended "exit").session.closing = true ∧
    (exampleArrival.ended "exit").session.closed = true ∧
    ((exampleArrival.ended "exit").after (.feed [0x6C, 0x0D])).footprint =
      (exampleArrival.ended "exit").footprint := by
  have hshut : (exampleArrival.ended "exit").Shut := shut_ended rfl "exit"
  obtain ⟨_, _, hdeed, _⟩ := footprint_of_closed hshut.closing hshut.closed
  exact ⟨hshut.closing, hshut.closed, (hdeed _).mpr rfl⟩

/-- A user at the terminal of a channel that carries nothing. -/
def exampleUser : Scene Int :=
  { exampleArrival with session := { exampleArrival.session with
      attached := true
      channel := { Channel.fresh with failsToSend := true }
      workspace? := some ⟨"root", .fresh [] "/" "/", .fresh, false⟩ } }

/-- The same user after a letter that could not be shown. -/
def exampleHungUp : Scene Int :=
  (exampleUser.touch.typing ⟨"root", .fresh [] "/" "/", .fresh, false⟩
    ⟨['x'], .plain, false⟩).ended "transport-error"

/-- The first byte of a chunk closes the session, and the rest of the chunk runs a line. -/
theorem chunk_runs_line_after_close :
    (exampleUser.feed [0x78]).2.session.closed = true ∧
    (exampleUser.feed [0x78]).2.session.commands = 0 ∧
    (exampleUser.feed [0x78, 0x6C, 0x73, 0x0D]).2.session.commands = 1 := by
  have hshut : exampleHungUp.Shut := shut_ended rfl "transport-error"
  have henters : exampleHungUp.entersLine (some (.typed 'x')) [0x6C, 0x73, 0x0D] = true := by
    decide
  refine ⟨rfl, rfl, ?_⟩
  rw [feed_eq_goOn rfl rfl, goOn_cons rfl]
  exact commands_goOn hshut henters

end Scene
end Honeypot
