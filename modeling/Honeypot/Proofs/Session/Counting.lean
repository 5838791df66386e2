import Mathlib.Logic.Basic
import Honeypot.Proofs.Session.Attempts

/-!
# Counting lines over a whole stay

From its admission on, the lines of a session are counted by the session, by its events and by what
is measured. An `Account` says how the first two fit with each other and with the attempts to run a
line that were made; every deed carries an account on (`tallies_after`, `Account.extend`), and so
does a whole stay (`lines_counted_once`).
-/

namespace Honeypot

open Events (Record)

/-- Whether an event is one of a command. -/
def Events.Record.isCommand (r : Record) : Bool := r.kind = .command

namespace Scene

variable {τ : Type} [Clock τ] {c d e : Scene τ}

/-! ## Accounts -/

/-- An account of a session that had counted some lines: the events that it has handed on since and
the attempts that were made since fit with each other, and with what has become of it. -/
structure Account (n : Nat) (events : List Record) (attempts : List (Attempt τ)) (d : Scene τ) :
    Prop where
  counted : d.session.commands = n + attempts.length
  told : events.filter Record.isCommand = (attempts.filter Attempt.isWhole).map Attempt.record
  begins : ∀ a ∈ attempts, a.scene.session.closed = false → a.scene.Ready
  ends :
    (d.Ready ∧ (∀ a ∈ attempts, a.isWhole = true) ∧ ∀ r ∈ events, r.kind ≠ .disconnect) ∨
    ∃ reason front last, d.Over reason ∧ events = front ++ [last] ∧
      (∀ r ∈ front, r.kind ≠ .disconnect) ∧ last.kind = .disconnect ∧
      last.fields.lookup "command_count" = some (.int
        (n + front.countP Record.isCommand + (attempts.any Attempt.isCut).toNat : Nat))

/-- Whether what has become of a session, and some attempts, fit with the events that it has handed
on. -/
structure Tallies (c : Scene τ) (attempts : List (Attempt τ)) (d : Scene τ) : Prop where
  ongoing : c.Ready → ∃ events, d.station.handed = c.station.handed ++ events ∧
    Account c.session.commands events attempts d
  finished : ∀ reason, c.Over reason → d.Over reason ∧
    d.station.handed = c.station.handed ∧
    d.session.commands = c.session.commands + attempts.length ∧
    ∀ a ∈ attempts, a.scene.session.closed = true

theorem filter_isWhole_of_closed {attempts : List (Attempt τ)}
    (h : ∀ a ∈ attempts, a.scene.session.closed = true) :
    attempts.filter Attempt.isWhole = [] :=
  List.filter_eq_nil_iff.mpr fun a ha => Bool.eq_false_iff.mp (Attempt.of_closed (h a ha)).1

theorem any_isCut_eq_false {attempts : List (Attempt τ)}
    (h : ∀ a ∈ attempts, a.isCut = false) : attempts.any Attempt.isCut = false :=
  List.any_eq_false.mpr fun a ha => Bool.eq_false_iff.mp (h a ha)

theorem filter_isCommand_eq_nil {events : List Record} (h : ∀ r ∈ events, r.kind ≠ .command) :
    events.filter Record.isCommand = [] :=
  List.filter_eq_nil_iff.mpr fun r hr => mt of_decide_eq_true (h r hr)

variable {n : Nat} {events : List Record} {first second : List (Attempt τ)}

/-- The account of a session that has come to its end after attempts of which none is whole. -/
theorem account_of_end {reason : String} {last : Record} (hover : d.Over reason)
    (hlast : last.IsEnd reason) (hcounted : d.session.commands = n + first.length)
    (hbegins : ∀ a ∈ first, a.scene.session.closed = false → a.scene.Ready)
    (hbroken : ∀ a ∈ first, a.isWhole = false)
    (hcount : last.fields.lookup "command_count" =
      some (.int (n + (first.any Attempt.isCut).toNat : Nat))) :
    Account n [last] first d where
  counted := hcounted
  told := by
    have hother : ∀ r ∈ [last], r.kind ≠ .command :=
      List.forall_mem_singleton.mpr (hlast.1.trans_ne (by decide))
    have hnone : first.filter Attempt.isWhole = [] :=
      List.filter_eq_nil_iff.mpr fun a ha => Bool.eq_false_iff.mp (hbroken a ha)
    rw [filter_isCommand_eq_nil hother, hnone, List.map_nil]
  begins := hbegins
  ends := .inr ⟨reason, [], last, hover, rfl, List.forall_mem_nil _, hlast.1, hcount⟩

/-- **An account goes on** with what becomes of the session. -/
theorem Account.extend (h : Account n events first d) (ht : Tallies d second e) :
    ∃ more, e.station.handed = d.station.handed ++ more ∧
      Account n (events ++ more) (first ++ second) e := by
  have hbegins (hsecond : ∀ a ∈ second, a.scene.session.closed = false → a.scene.Ready) :
      ∀ a ∈ first ++ second, a.scene.session.closed = false → a.scene.Ready :=
    List.forall_mem_append.mpr ⟨h.begins, hsecond⟩
  obtain ⟨hready, hwhole, hendless⟩ |
    ⟨reason, front, last, hover, hevents, hfront, hlast, hcount⟩ := h.ends
  · obtain ⟨more, hhanded, hmore⟩ := ht.ongoing hready
    -- All attempts so far were counted once, so that the count is that of the events.
    have hsofar : d.session.commands = n + events.countP Record.isCommand := by
      rw [h.counted, List.countP_eq_length_filter, h.told, List.length_map,
        List.filter_eq_self.mpr hwhole]
    have huncut : first.any Attempt.isCut = false :=
      any_isCut_eq_false fun a ha => Attempt.of_whole (hwhole a ha)
    refine ⟨more, hhanded, ?_, ?_, hbegins hmore.begins, ?_⟩
    · rw [hmore.counted, h.counted, List.length_append, Nat.add_assoc]
    · rw [List.filter_append, h.told, hmore.told, List.filter_append, List.map_append]
    · obtain ⟨hready', hwhole', hendless'⟩ |
        ⟨reason, front, last, hover, rfl, hfront, hlast, hcount⟩ := hmore.ends
      · exact .inl ⟨hready', List.forall_mem_append.mpr ⟨hwhole, hwhole'⟩,
          List.forall_mem_append.mpr ⟨hendless, hendless'⟩⟩
      · refine .inr ⟨reason, events ++ front, last, hover, (List.append_assoc _ _ _).symm,
          List.forall_mem_append.mpr ⟨hendless, hfront⟩, hlast, ?_⟩
        rw [hcount, hsofar, List.countP_append, List.any_append, huncut, Bool.false_or,
          Nat.add_assoc n]
  · obtain ⟨hover', hhanded, hcommands, hclosed⟩ := ht.finished reason hover
    have hsilent := filter_isWhole_of_closed hclosed
    have huncut : second.any Attempt.isCut = false :=
      any_isCut_eq_false fun a ha => (Attempt.of_closed (hclosed a ha)).2
    refine ⟨[], hhanded.trans (List.append_nil _).symm, ?_, ?_, hbegins fun a ha hopen => ?_, ?_⟩
    · rw [hcommands, h.counted, List.length_append, Nat.add_assoc]
    · rw [List.append_nil, h.told, List.filter_append, hsilent, List.append_nil]
    · rw [hclosed a ha] at hopen
      cases hopen
    · refine .inr ⟨reason, front, last, hover', ?_, hfront, hlast, ?_⟩
      · rw [List.append_nil, hevents]
      · rw [hcount, List.any_append, huncut, Bool.or_false]

namespace Tallies

theorem quiet (h : c.Quiet d) : Tallies c [] d where
  ongoing hc := by
    refine ⟨[], h.aside.handed.trans (List.append_nil _).symm, h.commands, rfl,
      List.forall_mem_nil _, .inl ⟨h.ready hc, List.forall_mem_nil _, List.forall_mem_nil _⟩⟩
  finished _ hc := ⟨h.aside.ended hc, h.aside.handed, h.commands, List.forall_mem_nil _⟩

theorem refl (c : Scene τ) : Tallies c [] c := quiet (.refl c)

theorem trans (hcd : Tallies c first d) (hde : Tallies d second e) :
    Tallies c (first ++ second) e where
  ongoing hc := by
    obtain ⟨events, hhanded, haccount⟩ := hcd.ongoing hc
    obtain ⟨more, hmore, haccount'⟩ := haccount.extend hde
    exact ⟨events ++ more, by rw [hmore, hhanded, List.append_assoc], haccount'⟩
  finished reason hc := by
    obtain ⟨hd, hhanded, hcommands, hclosed⟩ := hcd.finished reason hc
    obtain ⟨he, hhanded', hcommands', hclosed'⟩ := hde.finished reason hd
    refine ⟨he, hhanded'.trans hhanded, ?_, List.forall_mem_append.mpr ⟨hclosed, hclosed'⟩⟩
    rw [hcommands', hcommands, List.length_append, Nat.add_assoc]

theorem next (hcd : Tallies c first d) (hde : Tallies d [] e) : Tallies c first e := by
  have h := hcd.trans hde
  rwa [List.append_nil] at h

end Tallies

/-! ## Parts of deeds -/

theorem tallies_ended (c : Scene τ) (reason : String) : Tallies c [] (c.ended reason) where
  ongoing hc := by
    obtain ⟨hover, last, hlast, hcount, hhanded⟩ := over_ended hc.ongoing reason
    exact ⟨[last], hhanded, account_of_end hover hlast (commands_ended c reason)
      (List.forall_mem_nil _) (List.forall_mem_nil _) hcount⟩
  finished reason' hc := by
    rw [ended_eq, if_pos hc.closing]
    exact ⟨hc, rfl, rfl, List.forall_mem_nil _⟩

theorem tallies_emit (c : Scene τ) {kind : Events.Kind} (command : kind ≠ .command)
    (ending : kind ≠ .disconnect) (fields : List (String × Json)) :
    Tallies c [] (c.emit kind fields) where
  ongoing hc := by
    have hhands := hands_emit hc.ongoing.listening kind (.inl hc.ongoing.closing) fields
    have hready : (c.emit kind fields).Ready := by
      refine ⟨hhands.ongoing hc.ongoing, ?_⟩
      rw [metrics_emit]
      exact hc.measured
    have hother : [c.record kind fields].filter Record.isCommand = [] :=
      filter_isCommand_eq_nil (List.forall_mem_singleton.mpr command)
    refine ⟨[c.record kind fields], hhands.handed, ?_, hother, List.forall_mem_nil _, .inl ?_⟩
    · rw [session_emit]
      rfl
    · exact ⟨hready, List.forall_mem_nil _, List.forall_mem_singleton.mpr ending⟩
  finished reason hc := by
    rw [emit_of_closing hc.closing ending]
    exact ⟨hc, rfl, rfl, List.forall_mem_nil _⟩

/-- **An attempt** is counted once, or the session is closed during it. -/
theorem Attempt.tallies (a : Attempt τ) : Tallies a.scene [a] a.after where
  ongoing hc := by
    have hbegins : ∀ b ∈ [a], b.scene.session.closed = false → b.scene.Ready :=
      List.forall_mem_singleton.mpr fun _ => hc
    have hopen : a.scene.session.closed = false := hc.ongoing.closed
    obtain ⟨hready, honce⟩ | ⟨hcommands, reason, last, hover, hlast, hcount, hhanded⟩ :=
      a.cases_of_ready hc
    · obtain ⟨downloads, hkinds, hhanded⟩ := honce.event
      have hwhole : a.isWhole = true := Attempt.isWhole_iff.mpr ⟨hopen, hready.ongoing.closed⟩
      have hkind : a.record.kind ≠ .disconnect := Events.Kind.noConfusion
      have hother : downloads.filter Record.isCommand = [] :=
        filter_isCommand_eq_nil fun r hr => (hkinds r hr).trans_ne (by decide)
      have hendless : ∀ r ∈ downloads, r.kind ≠ .disconnect := fun r hr =>
        (hkinds r hr).trans_ne (by decide)
      refine ⟨downloads ++ [a.record], hhanded, honce.commands, ?_, hbegins, .inl ?_⟩
      · rw [List.filter_append, hother, List.filter_cons_of_pos hwhole]
        rfl
      · exact ⟨hready, List.forall_mem_singleton.mpr hwhole,
          List.forall_mem_append.mpr ⟨hendless, List.forall_mem_singleton.mpr hkind⟩⟩
    · have hcut : a.isCut = true := by
        unfold Attempt.isCut
        rw [hopen, hover.closed]
        rfl
      have hbroken : a.isWhole = false := by
        unfold Attempt.isWhole
        rw [hover.closed, Bool.not_true, Bool.and_false]
      refine ⟨[last], hhanded, account_of_end hover hlast hcommands hbegins
        (List.forall_mem_singleton.mpr hbroken) ?_⟩
      rw [hcount, List.any_cons, hcut, Bool.true_or, Bool.toNat_true]
  finished reason hc := by
    -- A line that is run after the end is counted, and nothing is told of it.
    have hshut : a.scene.Shut := ⟨hc.closing, hc.closed⟩
    obtain ⟨hover, hhanded⟩ := (advance_after a.scene (.execute a.line)).finished reason hc
    exact ⟨hover, hhanded, commands_execute hshut a.line,
      List.forall_mem_singleton.mpr hc.closed⟩

theorem tallies_send (c : Scene τ) (text : String) : Tallies c [] (c.send text) := by
  unfold send
  split
  · exact .refl c
  · split
    · exact .quiet (quiet_session rfl rfl)
    · exact tallies_ended c _

theorem tallies_sendPrompt (c : Scene τ) : Tallies c [] c.sendPrompt := by
  unfold sendPrompt
  split
  · exact tallies_send c _
  · exact .refl c

theorem tallies_wait (c : Scene τ) (time : τ) : Tallies c [] (c.wait time).2 := by
  cases hclosed : c.session.closed with
  | true =>
    have hstays : c.wait time = (true, c) := if_pos hclosed
    rw [hstays]
    exact .refl c
  | false =>
    obtain ⟨-, hworks⟩ | ⟨-, d, reason, hworks, hended⟩ := wait_cases hclosed time
    · exact .quiet hworks.quiet
    · rw [hended]
      exact (Tallies.quiet hworks.quiet).trans (tallies_ended d reason)

theorem tallies_runAtTerminal (c : Scene τ) (line : String) :
    Tallies c [⟨c, line⟩] (c.runAtTerminal line).2 := by
  have hrun : Tallies c [⟨c, line⟩] (c.execute line).2 := Attempt.tallies ⟨c, line⟩
  rw [runAtTerminal_eq]
  split
  · exact hrun
  · cases (c.execute line).1.response with
    | exit => exact hrun.next ((tallies_send _ _).next (tallies_ended _ _))
    | text output => exact hrun.next ((tallies_send _ _).next (tallies_sendPrompt _))

/-- The attempt that a key makes, if it enters a line. -/
def attemptsOn (c : Scene τ) (key : Terminal.Key) : List (Attempt τ) :=
  key.line?.toList.map (Attempt.mk (c.send key.echo))

theorem tallies_press (c : Scene τ) (key : Terminal.Key) :
    Tallies c (c.attemptsOn key) (c.press key).2 := by
  have hecho := tallies_send c key.echo
  cases key with
  | entered line => exact hecho.trans (tallies_runAtTerminal _ line)
  | loggedOut => exact hecho.next (tallies_ended _ "logout")
  | enteredBlank => exact hecho.next (tallies_sendPrompt _)
  | interrupted => exact hecho.next (tallies_sendPrompt _)
  | erased => exact hecho
  | tab => exact hecho
  | typed _ => exact hecho

/-- The attempts that the bytes of a chunk make, as they are taken one by one. -/
def attemptsIn (c : Scene τ) : List UInt8 → List (Attempt τ)
  | [] => []
  | byte :: rest =>
    match c.session.workspace? with
    | none => []
    | some w =>
      let c := c.typing w (w.terminal.step byte).1
      match (w.terminal.step byte).2 with
      | none => c.attemptsIn rest
      | some key =>
        c.attemptsOn key ++ if (c.press key).1 then (c.press key).2.attemptsIn rest else []

/-- **The bytes of a chunk** make one attempt after the other. -/
theorem tallies_feedBytes (c : Scene τ) (bytes : List UInt8) :
    Tallies c (c.attemptsIn bytes) (c.feedBytes bytes).2 := by
  induction bytes generalizing c with
  | nil => exact .refl c
  | cons byte rest ih =>
    unfold attemptsIn
    cases hw : c.session.workspace? with
    | none =>
      rw [feedBytes_of_none hw]
      exact .refl c
    | some w =>
      have htyping : Tallies c [] (c.typing w (w.terminal.step byte).1) :=
        .quiet (quiet_session rfl rfl)
      rw [feedBytes_cons hw]
      dsimp only
      cases (w.terminal.step byte).2 with
      | none => exact htyping.trans (ih _)
      | some key =>
        have hpressed := htyping.trans (tallies_press _ key)
        dsimp only
        split
        · exact hpressed.trans (ih _)
        · exact hpressed.trans (.refl _)

def attempts (c : Scene τ) : Deed → List (Attempt τ)
  | .feed bytes =>
    if c.session.closed || c.session.workspace?.isNone then [] else c.touch.attemptsIn bytes
  | .execute line => [⟨c, line⟩]
  | .runOnce line => [⟨c.addressed, line⟩]
  | _ => []

theorem tallies_feed (c : Scene τ) (bytes : List UInt8) :
    Tallies c (c.attempts (.feed bytes)) (c.feed bytes).2 := by
  unfold attempts feed
  dsimp only
  split
  · exact .refl c
  · exact (Tallies.quiet (quiet_touch c)).trans (tallies_feedBytes c.touch bytes)

omit [Clock τ] in
theorem quiet_ensureLoggedIn (c : Scene τ) : c.Quiet c.ensureLoggedIn := by
  unfold ensureLoggedIn
  split
  · exact quiet_logIn c ""
  · exact .refl c

theorem tallies_greet (c : Scene τ) : Tallies c [] c.greet.2 := by
  unfold greet
  rcases (Shell.banner c.session.device c.station.seconds).run c.session.chances
    with ⟨greeting, chances⟩
  have hdrawn : Tallies c [] { c with session.chances := chances } :=
    .quiet (quiet_session rfl rfl)
  cases greeting with
  | error fault => exact hdrawn
  | ok text => exact hdrawn.trans ((tallies_send _ _).trans (tallies_sendPrompt _))

theorem tallies_attach (c : Scene τ) : Tallies c [] c.attach.2 := by
  have hseated : Tallies c [] c.seated :=
    .quiet ((quiet_ensureLoggedIn c).trans (quiet_session rfl rfl))
  rw [attach_eq]
  split
  · exact hseated
  · exact hseated.trans (tallies_greet _)

theorem tallies_deliver (c : Scene τ) (execution : Execution) :
    Tallies c [] (c.deliver execution).2 := by
  have hsent := tallies_send c (terminated (outputOf execution.response))
  unfold deliver
  dsimp only
  refine (hsent.next ?_).next (tallies_ended _ _)
  split
  · exact .refl _
  · exact .quiet (quiet_session rfl rfl)

theorem tallies_runOnce (c : Scene τ) (line : String) :
    Tallies c [⟨c.addressed, line⟩] (c.runOnce line).2 := by
  have hattached : c.Quiet { c with session.attached := true } := quiet_session rfl rfl
  have haddressed : Tallies c [] c.addressed := .quiet (hattached.trans (quiet_touch _))
  have hrun : Tallies c.addressed [⟨c.addressed, line⟩] (c.addressed.execute line).2 :=
    Attempt.tallies ⟨c.addressed, line⟩
  rw [runOnce_eq]
  exact haddressed.trans (hrun.next (tallies_deliver _ _))

theorem tallies_watch (c : Scene τ) (rounds : Nat) : Tallies c [] (c.watch rounds) := by
  induction rounds generalizing c with
  | zero => exact .refl c
  | succ rounds ih =>
    rw [watch_succ]
    split
    · exact .refl c
    · split
      · exact tallies_ended c _
      · have hwait := tallies_wait c c.timeLeft
        revert hwait
        rcases c.wait c.timeLeft with ⟨cut, d⟩
        intro hwait
        cases cut with
        | true => exact hwait
        | false => exact hwait.trans (ih d)

theorem tallies_authenticate (c : Scene τ) (method user : String) (password? : Option String) :
    Tallies c [] (c.authenticate method user password?).2 := by
  have hnamed : c.touch.Quiet (c.touch.named method user) := by
    unfold named
    split
    · exact quiet_session rfl rfl
    · exact .refl _
  have hmeasured := (quiet_touch c).trans (hnamed.trans
    (quiet_measure _ fun m => m.authenticated method))
  have hcommand : Events.Kind.authentication ≠ .command := nofun
  have hending : Events.Kind.authentication ≠ .disconnect := nofun
  rw [authenticate_eq]
  exact (Tallies.quiet hmeasured).next (tallies_emit _ hcommand hending _)

/-- **What becomes of a session by a deed** fits with the attempts that the deed makes. -/
theorem tallies_after (c : Scene τ) (deed : Deed) :
    Tallies c (c.attempts deed) (c.after deed) := by
  cases deed with
  | authenticate method user password? => exact tallies_authenticate c method user password?
  | logIn user => exact .quiet (quiet_logIn c user)
  | attach => exact tallies_attach c
  | feed bytes => exact tallies_feed c bytes
  | execute line => exact Attempt.tallies ⟨c, line⟩
  | runOnce line => exact tallies_runOnce c line
  | watch rounds => exact tallies_watch c rounds
  | close reason => exact tallies_ended c reason

/-! ## Whole stays -/

/-- What goes on outside a session, which neither closes it nor counts its lines nor stops to
measure it. -/
structure Beside (c d : Scene τ) : Prop where
  elsewhere : c.Elsewhere d
  commands : d.session.commands = c.session.commands
  measured : d.station.metrics?.isSome = true

/-- The stay of a session from its admission on, with all events that it hands on and all attempts
to run a line. -/
inductive Stay (c : Scene τ) : List Record → List (Attempt τ) → Scene τ → Prop
  | admitted {d : Scene τ} (h : c.arrive = (true, d)) : Stay c (c.newly d) [] d
  | deed {told : List Record} {attempts : List (Attempt τ)} {d : Scene τ}
      (h : Stay c told attempts d) (deed : Deed) :
      Stay c (told ++ d.newly (d.after deed)) (attempts ++ d.attempts deed) (d.after deed)
  | beside {told : List Record} {attempts : List (Attempt τ)} {d e : Scene τ}
      (h : Stay c told attempts d) (he : d.Beside e) : Stay c told attempts e

/-- The account of a session that was just admitted is that of its connection. -/
theorem account_of_arrive (hlistening : c.station.Listening)
    (hmeasured : c.station.metrics?.isSome = true) (hclosing : c.session.closing = false)
    (hclosed : c.session.closed = false) (hcommands : c.session.commands = 0)
    (h : c.arrive = (true, d)) : Account 0 (c.newly d) [] d := by
  obtain ⟨registry, rfl⟩ := exists_of_arrive h
  have hplaced : (c.placed registry).Ready :=
    ⟨⟨hlistening.congr rfl rfl rfl, rfl, hclosing, hclosed⟩, Option.isSome_map.trans hmeasured⟩
  have hcommand : Events.Kind.connection ≠ .command := nofun
  have hending : Events.Kind.connection ≠ .disconnect := nofun
  have htold := tallies_emit (c.placed registry) hcommand hending []
  have hserved : Tallies (c.placed registry) [] (c.serve registry) :=
    htold.next (.quiet (quiet_settleIn _))
  obtain ⟨events, hhanded, haccount⟩ := hserved.ongoing hplaced
  have hzero : (c.placed registry).session.commands = 0 := hcommands
  have hnewly : c.newly (c.serve registry) = events := newly_eq hhanded
  rwa [hnewly, ← hzero]

theorem Account.beside {attempts : List (Attempt τ)} (h : Account n events attempts d)
    (he : d.Beside e) : Account n events attempts e := by
  refine ⟨he.commands.trans h.counted, h.told, h.begins, ?_⟩
  obtain ⟨hready, hwhole, hendless⟩ | ⟨reason, front, last, hover, hlast⟩ := h.ends
  · exact .inl ⟨⟨he.elsewhere.ongoing hready.ongoing, he.measured⟩, hwhole, hendless⟩
  · exact .inr ⟨reason, front, last, he.elsewhere.finished hover, hlast⟩

theorem account_of_stay {told : List Record} {attempts : List (Attempt τ)}
    (hlistening : c.station.Listening) (hmeasured : c.station.metrics?.isSome = true)
    (hclosing : c.session.closing = false) (hclosed : c.session.closed = false)
    (hcommands : c.session.commands = 0) (h : Stay c told attempts d) :
    Account 0 told attempts d := by
  induction h with
  | admitted h => exact account_of_arrive hlistening hmeasured hclosing hclosed hcommands h
  | @deed told attempts d h deed ih =>
    obtain ⟨more, hhanded, haccount⟩ := ih.extend (tallies_after d deed)
    rwa [newly_eq hhanded]
  | beside _ he ih => exact ih.beside he

/-- **Lines are counted once.** Every attempt to run a line that begins and ends in an open session
adds one to the number of lines, one event of a command and one to an outcome. There are no other
events of commands, and no other lines are counted than those of the attempts. If the session is
closed, the event of its end comes last; the number of lines in it is that of the events of commands
before it, and one more if the session was closed during an attempt. -/
theorem lines_counted_once {told : List Record} {attempts : List (Attempt τ)}
    (hlistening : c.station.Listening) (hmeasured : c.station.metrics?.isSome = true)
    (hclosing : c.session.closing = false) (hclosed : c.session.closed = false)
    (hcommands : c.session.commands = 0) (h : Stay c told attempts d) :
    (∀ a ∈ attempts, a.isWhole = true → a.CountedOnce) ∧
    told.filter Record.isCommand = (attempts.filter Attempt.isWhole).map Attempt.record ∧
    d.session.commands = attempts.length ∧
    (d.session.closed = false → ∀ r ∈ told, r.kind ≠ .disconnect) ∧
    (d.session.closed = true → ∃ front last, told = front ++ [last] ∧
      (∀ r ∈ front, r.kind ≠ .disconnect) ∧ last.kind = .disconnect ∧
      last.fields.lookup "command_count" = some (.int
        (front.countP Record.isCommand + if attempts.any Attempt.isCut then 1 else 0 : Nat))) := by
  have haccount := account_of_stay hlistening hmeasured hclosing hclosed hcommands h
  refine ⟨fun a ha hwhole => ?_, haccount.told, haccount.counted.trans (Nat.zero_add _), ?_⟩
  · -- That an attempt begins in an open session is not enough: the session must be measured then.
    obtain ⟨hbegins, hafter⟩ := Attempt.isWhole_iff.mp hwhole
    obtain ⟨-, honce⟩ | ⟨-, reason, last, hover, -⟩ :=
      Attempt.cases_of_ready (haccount.begins a ha hbegins)
    · exact honce
    · rw [hover.closed] at hafter
      cases hafter
  · obtain ⟨hready, -, hendless⟩ | ⟨reason, front, last, hover, htold, hfront, hlast, hcount⟩ :=
      haccount.ends
    · refine ⟨fun _ => hendless, fun hended => ?_⟩
      rw [hready.ongoing.closed] at hended
      cases hended
    · refine ⟨fun hopen => ?_, fun _ => ⟨front, last, htold, hfront, hlast, ?_⟩⟩
      · rw [hover.closed] at hopen
        cases hopen
      · rw [hcount, Nat.zero_add]
        cases attempts.any Attempt.isCut <;> rfl

/-- A peer that arrives at a station that measures, and whose lines are held back. -/
def exampleHeldBack : Scene Int where
  session := { exampleArrival.session with delay := 1 }
  station := { exampleArrival.station with metrics? := some (.fresh "standard" 0) }

/-- The same peer after its admission, with somebody about to close the session. -/
def exampleAwaited : Scene Int :=
  { exampleHeldBack.arrive.2 with session.interruption? := some "shutdown" }

/-- The only line of the session is cut short by its end, so that it is in the number of lines, and
there is no event of it. -/
theorem lines_counted_once_example :
    exampleHeldBack.station.Listening ∧ exampleHeldBack.station.metrics?.isSome = true ∧
    exampleHeldBack.session.closing = false ∧ exampleHeldBack.session.closed = false ∧
    exampleHeldBack.session.commands = 0 ∧
    ∃ told d, Stay exampleHeldBack told [⟨exampleAwaited, "id"⟩] d ∧
      told.filter Record.isCommand = [] ∧ d.session.commands = 1 ∧
      ∃ front last, told = front ++ [last] ∧ last.kind = .disconnect ∧
        last.fields.lookup "command_count" = some (.int 1) := by
  have hlistening : exampleHeldBack.station.Listening := ⟨rfl, nofun, nofun⟩
  have hbeside : exampleHeldBack.arrive.2.Beside exampleAwaited :=
    ⟨⟨⟨rfl, nofun, nofun⟩, rfl, rfl, rfl, rfl⟩, rfl, rfl⟩
  have hstay := ((Stay.admitted (c := exampleHeldBack) rfl).beside hbeside).deed (.execute "id")
  have hcut : (exampleAwaited.execute "id").2.session.closed = true := rfl
  obtain ⟨-, htold, hcommands, -, hlast⟩ :=
    lines_counted_once hlistening rfl rfl rfl rfl hstay
  obtain ⟨front, last, hsplit, -, hkind, hcount⟩ := hlast hcut
  have hnone : front.countP Record.isCommand = 0 := by
    rw [hsplit, List.filter_append] at htold
    rw [List.countP_eq_length_filter, (List.append_eq_nil_iff.mp htold).1]
    rfl
  rw [hnone] at hcount
  exact ⟨hlistening, rfl, rfl, rfl, rfl, _, _, hstay, htold, hcommands, front, last, hsplit, hkind,
    hcount⟩

end Scene
end Honeypot
