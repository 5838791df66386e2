import Honeypot.Proofs.Clock
import Honeypot.Proofs.Session.Teardown

/-!
# Sessions that do nothing for too long

While a session does what it does, somebody watches for its deadline: looks whether it has come,
closes the session if it has, and otherwise sleeps until the deadline that was read. Meanwhile the
deadline may be put off. A session puts it off by arriving, authenticating, running a single line
and taking input at an open terminal, and by nothing else (`due_after`), so that whoever wakes is
never late. A deadline of zero is taken for none, so that the watch is exact on a clock that does
not read below zero.
-/

namespace Honeypot.Scene

variable {τ : Type} [Clock τ] {c d e : Scene τ}

/-! ## What leaves the deadline alone -/

theorem now_emit (c : Scene τ) (kind : Events.Kind) (fields : List (String × Json)) :
    (c.emit kind fields).station.now = c.station.now := by
  rw [station_emit]

theorem now_ended (c : Scene τ) (reason : String) :
    (c.ended reason).station.now = c.station.now := by
  have hhang : (c.beginClosing reason).hangUp.station = c.station := by
    rw [hangUp_eq]
    rfl
  rw [ended_eq]
  split
  · rfl
  · show ((c.beginClosing reason).hangUp.signOff reason).station.now = _
    rw [← hhang]
    generalize (c.beginClosing reason).hangUp = d
    cases hadmitted : d.session.admitted with
    | true => rw [station_signOff hadmitted]
    | false =>
      unfold signOff
      rw [if_neg (Bool.eq_false_iff.mp hadmitted)]

variable [ExactClock τ]

theorem le_zero_iff {t : τ} : t ≤ Clock.span 0 ↔ ExactClock.value t ≤ 0 := by
  rw [ExactClock.le_iff, ExactClock.value_span, Nat.cast_zero]

theorem zero_le_iff {t : τ} : Clock.span 0 ≤ t ↔ 0 ≤ ExactClock.value t := by
  rw [ExactClock.le_iff, ExactClock.value_span, Nat.cast_zero]

/-- What has become of a session that has not put its deadline off while time passed. -/
structure Lapses (c d : Scene τ) : Prop where
  idleTimeout : d.session.idleTimeout = c.session.idleTimeout
  deadline : d.session.deadline? = c.session.deadline?
  forward : ExactClock.value c.station.now ≤ ExactClock.value d.station.now

theorem Lapses.refl (c : Scene τ) : c.Lapses c := ⟨rfl, rfl, le_rfl⟩

theorem Lapses.trans (hcd : c.Lapses d) (hde : d.Lapses e) : c.Lapses e where
  idleTimeout := hde.idleTimeout.trans hcd.idleTimeout
  deadline := hde.deadline.trans hcd.deadline
  forward := hcd.forward.trans hde.forward

theorem lapses_measure (c : Scene τ) (f : Metrics.Collector → Metrics.Collector) :
    c.Lapses (c.measure f) := ⟨rfl, rfl, le_rfl⟩

theorem lapses_emit (c : Scene τ) (kind : Events.Kind) (fields : List (String × Json)) :
    c.Lapses (c.emit kind fields) := by
  have hsession := session_emit c kind fields
  refine ⟨?_, ?_, (congrArg ExactClock.value (now_emit c kind fields)).ge⟩
  · rw [hsession]
  · rw [hsession]

theorem lapses_ended (c : Scene τ) (reason : String) : c.Lapses (c.ended reason) := by
  have hnow := (congrArg ExactClock.value (now_ended c reason)).ge
  cases hclosing : c.session.closing with
  | true =>
    unfold ended
    rw [close_of_closing hclosing]
    exact .refl c
  | false =>
    have hends := endsAs_ended hclosing reason
    refine ⟨?_, ?_, hnow⟩
    · rw [hends]
    · rw [hends]

theorem lapses_send (c : Scene τ) (text : String) : c.Lapses (c.send text) := by
  unfold send
  split
  · exact .refl c
  · split
    · exact ⟨rfl, rfl, le_rfl⟩
    · exact lapses_ended c _

theorem lapses_sendPrompt (c : Scene τ) : c.Lapses c.sendPrompt := by
  unfold sendPrompt
  split
  · exact lapses_send c _
  · exact .refl c

theorem lapses_wait (c : Scene τ) {time : τ} (h : 0 ≤ ExactClock.value time) :
    c.Lapses (c.wait time).2 := by
  have hlater : ExactClock.value c.station.now ≤ ExactClock.value (c.station.now + time) := by
    rw [ExactClock.value_add]
    exact le_add_of_nonneg_right h
  unfold wait
  split
  · exact .refl c
  · split
    · refine .trans ?_ (lapses_ended _ _)
      exact ⟨rfl, rfl, le_rfl⟩
    · exact ⟨rfl, rfl, hlater⟩

theorem lapses_logIn (c : Scene τ) (user : String) : c.Lapses (c.logIn user) := by
  unfold logIn
  split
  · exact .refl c
  · exact ⟨rfl, rfl, le_rfl⟩

theorem lapses_ensureLoggedIn (c : Scene τ) : c.Lapses c.ensureLoggedIn := by
  unfold ensureLoggedIn
  split
  · exact lapses_logIn c ""
  · exact .refl c

theorem lapses_noteDownloads (ds : List Shell.Download) (c : Scene τ) :
    c.Lapses (ds.foldl noteDownload c) := by
  induction ds generalizing c with
  | nil => exact .refl c
  | cons d ds ih =>
    have hnoted : c.Lapses (c.noteDownload d) := (lapses_measure c _).trans (lapses_emit _ _ _)
    exact hnoted.trans (ih _)

theorem lapses_runLine (c : Scene τ) (w : Workspace) (line : String) :
    c.Lapses (c.runLine w line).2 := by
  have hworked : c.Lapses (c.worked w (c.shellRun w line).2) := ⟨rfl, rfl, le_rfl⟩
  rw [runLine_eq]
  exact hworked.trans (lapses_noteDownloads _ _)

theorem lapses_attach (c : Scene τ) : c.Lapses c.attach.2 := by
  have hseated : c.Lapses c.seated := (lapses_ensureLoggedIn c).trans ⟨rfl, rfl, le_rfl⟩
  refine hseated.trans ?_
  rw [attach_eq]
  split
  · exact .refl _
  · unfold greet
    rcases (Shell.banner _ _).run _ with ⟨greeting, chances⟩
    cases greeting with
    | error fault => exact ⟨rfl, rfl, le_rfl⟩
    | ok text =>
      refine .trans ?_ ((lapses_send _ (Text.crlf text)).trans (lapses_sendPrompt _))
      exact ⟨rfl, rfl, le_rfl⟩

theorem lapses_deliver (c : Scene τ) (execution : Execution) :
    c.Lapses (c.deliver execution).2 := by
  have hsent := lapses_send c (terminated (outputOf execution.response))
  unfold deliver
  refine .trans (hsent.trans ?_) (lapses_ended _ _)
  split
  · exact .refl _
  · exact ⟨rfl, rfl, le_rfl⟩

theorem lapses_watch (c : Scene τ) (rounds : Nat) : c.Lapses (c.watch rounds) := by
  induction rounds generalizing c with
  | zero => exact .refl c
  | succ rounds ih =>
    rw [watch_succ]
    split
    · exact .refl c
    · split
      · exact lapses_ended c _
      · next hleft =>
        have hwaited := lapses_wait c (not_le.mp fun hle => hleft (le_zero_iff.mpr hle)).le
        revert hwaited
        rcases c.wait c.timeLeft with ⟨cut, d⟩
        intro hwaited
        cases cut with
        | true => exact hwaited
        | false => exact hwaited.trans (ih d)

section Forward

variable [OrderedClock τ]

theorem zero_lt_iff {t : τ} : Clock.span 0 < t ↔ 0 < ExactClock.value t := by
  rw [OrderedClock.lt_iff_not_le, le_zero_iff, not_le]

theorem lapses_runEntered (c : Scene τ) (w : Workspace) (line : String) :
    c.Lapses (c.runEntered w line).2 := by
  have hnoted : c.Lapses (c.remembering line) := ⟨rfl, rfl, le_rfl⟩
  refine hnoted.trans ?_
  rw [runEntered_eq]
  split
  · next hdelay =>
    have hwaited := lapses_wait (c.remembering line) (zero_lt_iff.mp hdelay).le
    split
    · exact hwaited
    · exact hwaited.trans (lapses_runLine _ w line)
  · exact lapses_runLine _ w line

theorem lapses_giveToShell (c : Scene τ) (line : String) : c.Lapses (c.giveToShell line).2 := by
  unfold giveToShell
  split
  · exact .refl c
  · split
    · exact .refl c
    · split
      · exact .refl c
      · exact lapses_runEntered c _ _

theorem lapses_execute (c : Scene τ) (line : String) : c.Lapses (c.execute line).2 := by
  have hcounted : c.Lapses c.counted :=
    (lapses_ensureLoggedIn c).trans ⟨rfl, rfl, le_rfl⟩
  have hnoted (d : Scene τ) (response? : Option Shell.Response) :
      d.Lapses (d.noteLine line response?) := by
    unfold noteLine
    split
    · exact .refl d
    · exact (lapses_emit d _ _).trans (lapses_measure _ _)
  rw [execute_eq]
  exact hcounted.trans ((lapses_giveToShell _ line).trans (hnoted _ _))

theorem lapses_runAtTerminal (c : Scene τ) (line : String) :
    c.Lapses (c.runAtTerminal line).2 := by
  refine (lapses_execute c line).trans ?_
  rw [runAtTerminal_eq]
  split
  · exact .refl _
  · split
    · exact (lapses_send _ _).trans (lapses_ended _ _)
    · exact (lapses_send _ _).trans (lapses_sendPrompt _)

theorem lapses_press (c : Scene τ) (key : Terminal.Key) : c.Lapses (c.press key).2 := by
  refine (lapses_send c key.echo).trans ?_
  unfold press
  dsimp only
  split
  · exact lapses_ended _ _
  · exact lapses_runAtTerminal _ _
  · split
    · exact lapses_sendPrompt _
    · exact .refl _

/-- **The input of a chunk leaves the deadline alone**, however long its lines take. -/
theorem lapses_feedBytes (c : Scene τ) (bytes : List UInt8) : c.Lapses (c.feedBytes bytes).2 := by
  induction bytes generalizing c with
  | nil => exact .refl c
  | cons byte rest ih =>
    cases hw : c.session.workspace? with
    | none =>
      rw [feedBytes_of_none hw]
      exact .refl c
    | some w =>
      have htyping : c.Lapses (c.typing w (w.terminal.step byte).1) := ⟨rfl, rfl, le_rfl⟩
      refine htyping.trans ?_
      rw [feedBytes_cons hw]
      split
      · exact ih _
      · next key _ =>
        split
        · exact (lapses_press _ key).trans (ih _)
        · exact lapses_press _ key

end Forward

/-! ## Deadlines -/

/-- Whether the deadline of a session is that of an activity at a time that has passed. -/
structure Due (c : Scene τ) (idle last : τ) : Prop where
  idleTimeout : c.session.idleTimeout = idle
  deadline : c.session.deadline? = some (last + idle)
  passed : ExactClock.value last ≤ ExactClock.value c.station.now

theorem Due.lapses {idle last : τ} (h : c.Due idle last) (hlapses : c.Lapses d) :
    d.Due idle last where
  idleTimeout := hlapses.idleTimeout.trans h.idleTimeout
  deadline := hlapses.deadline.trans h.deadline
  passed := h.passed.trans hlapses.forward

theorem due_touch {idle : τ} (positive : Clock.span 0 < idle)
    (hidle : c.session.idleTimeout = idle) : c.touch.Due idle c.station.now := by
  subst hidle
  unfold touch
  rw [if_pos positive]
  exact ⟨rfl, rfl, le_rfl⟩

/-- Whether a session that is asked to do something puts its deadline off. -/
def Deed.stirs (c : Scene τ) : Deed → Bool
  | .authenticate _ _ _ => true
  | .runOnce _ => true
  | .feed _ => !c.session.closed && c.session.workspace?.isSome
  | _ => false

/-- **Deeds put the deadline off** if they are activities, and leave it alone if not. -/
theorem due_after [OrderedClock τ] {idle last : τ} (positive : Clock.span 0 < idle)
    (h : c.Due idle last) (deed : Deed) :
    (c.after deed).Due idle (if deed.stirs c then c.station.now else last) := by
  cases deed with
  | authenticate method user password? =>
    have hnamed : c.touch.Lapses (c.touch.named method user) := by
      unfold named
      split
      · exact ⟨rfl, rfl, le_rfl⟩
      · exact .refl _
    show (c.authenticate method user password?).2.Due idle c.station.now
    rw [authenticate_eq]
    exact (due_touch positive h.idleTimeout).lapses
      (hnamed.trans ((lapses_measure _ _).trans (lapses_emit _ _ _)))
  | logIn user => exact h.lapses (lapses_logIn c user)
  | attach => exact h.lapses (lapses_attach c)
  | feed bytes =>
    have hstirs : (Deed.feed bytes).stirs c =
        !(c.session.closed || c.session.workspace?.isNone) := by
      rw [Bool.not_or, Option.not_isNone]
      rfl
    show (c.feed bytes).2.Due idle _
    unfold feed
    rw [hstirs]
    cases hidle : c.session.closed || c.session.workspace?.isNone with
    | true => exact h
    | false => exact (due_touch positive h.idleTimeout).lapses (lapses_feedBytes _ bytes)
  | execute line => exact h.lapses (lapses_execute c line)
  | runOnce line =>
    have haddressed : c.addressed.Due idle c.station.now :=
      due_touch (c := { c with session.attached := true }) positive h.idleTimeout
    show (c.runOnce line).2.Due idle c.station.now
    rw [runOnce_eq]
    exact haddressed.lapses ((lapses_execute _ line).trans (lapses_deliver _ _))
  | watch rounds => exact h.lapses (lapses_watch c rounds)
  | close reason => exact h.lapses (lapses_ended c reason)

omit [ExactClock τ] in
theorem submit_lookUp_keeps (c : Scene τ) :
    (c.submit .lookUp).session.idleTimeout = c.session.idleTimeout ∧
      (c.submit .lookUp).station.now = c.station.now := by
  have hlookUp (s : Station τ) (ip : String) : (s.lookUp ip).1.now = s.now := by
    unfold Station.lookUp
    split <;> rfl
  have hperform (d : Scene τ) : (d.perform .lookUp).1.session.idleTimeout = d.session.idleTimeout ∧
      (d.perform .lookUp).1.station.now = d.station.now := by
    unfold perform
    dsimp only
    split
    · exact ⟨rfl, hlookUp _ _⟩
    · exact ⟨rfl, hlookUp _ _⟩
    · exact ⟨rfl, hlookUp _ _⟩
  unfold submit
  cases c.station.pool with
  | shut => exact ⟨rfl, rfl⟩
  | later => exact ⟨rfl, rfl⟩
  | atOnce =>
    unfold carryOut
    dsimp only
    split
    · exact hperform _
    · exact hperform _

theorem due_settleIn {idle : τ} (positive : Clock.span 0 < idle)
    (hidle : c.session.idleTimeout = idle) : c.settleIn.Due idle c.station.now := by
  have hasked : (if c.station.lookups?.isSome then c.submit .lookUp else c).session.idleTimeout =
      idle ∧ (if c.station.lookups?.isSome then c.submit .lookUp else c).station.now =
        c.station.now := by
    split
    · exact ⟨(submit_lookUp_keeps c).1.trans hidle, (submit_lookUp_keeps c).2⟩
    · exact ⟨hidle, rfl⟩
  unfold settleIn
  dsimp only
  generalize (if c.station.lookups?.isSome then c.submit .lookUp else c) = d at hasked
  rw [← hasked.2]
  have htouched := due_touch positive hasked.1
  split
  · exact htouched.lapses ⟨rfl, rfl, le_rfl⟩
  · exact htouched

/-- Whoever is let in has a deadline from then on. -/
theorem due_arrive {idle : τ} (positive : Clock.span 0 < idle)
    (hidle : c.session.idleTimeout = idle) (h : c.arrive.1 = true) :
    c.arrive.2.Due idle c.station.now := by
  obtain ⟨registry, hserved⟩ : ∃ registry, c.arrive.2 = c.serve registry :=
    exists_of_arrive (Prod.ext h rfl)
  have hplaced : c.Lapses ((c.placed registry).emit .connection []) := by
    have hplaced : c.Lapses (c.placed registry) := ⟨rfl, rfl, le_rfl⟩
    exact hplaced.trans (lapses_emit _ _ _)
  have hnow : ((c.placed registry).emit .connection []).station.now = c.station.now :=
    now_emit _ _ _
  rw [hserved, serve_eq, ← hnow]
  exact due_settleIn positive (hplaced.idleTimeout.trans hidle)

theorem lapses_arrive (h : c.arrive.1 = false) : c.Lapses c.arrive.2 := by
  have hrejected (verdict : String) : c.Lapses (c.reject verdict) := ⟨rfl, rfl, le_rfl⟩
  unfold arrive at h ⊢
  dsimp only at h ⊢
  split
  · exact hrejected _
  · next hfar =>
    rw [if_neg hfar] at h
    split
    · exact hrejected _
    · next hok =>
      rw [hok] at h
      cases h

/-! ## Watching -/

/-- What whoever watches for the deadline is doing. -/
inductive Watcher (τ : Type) where
  | looking
  /-- Sleeps until a time, or until the session is closed. -/
  | asleep (alarm : τ)
  | gone

section Look

omit [ExactClock τ]

/-- Looks once whether the deadline has come. -/
def look (c : Scene τ) : Scene τ × Watcher τ :=
  if c.session.closed then (c, .gone)
  else if c.timeLeft ≤ Clock.span 0 then (c.ended "idle-timeout", .gone)
  else (c, .asleep (c.station.now + c.timeLeft))

/-- A watch that is not interrupted by anything looks, sleeps, and looks again. -/
theorem watch_eq_look (c : Scene τ) (rounds : Nat) :
    c.watch (rounds + 1) =
      match c.look.2 with
      | .asleep _ =>
        if (c.wait c.timeLeft).1 then (c.wait c.timeLeft).2
        else (c.wait c.timeLeft).2.watch rounds
      | _ => c.look.1 := by
  rw [watch_succ]
  unfold look
  split
  · rfl
  · split
    · rfl
    · rcases c.wait c.timeLeft with ⟨cut, d⟩
      cases cut <;> rfl

theorem look_of_closed (h : c.session.closed = true) : c.look = (c, .gone) := if_pos h

theorem look_cases (c : Scene τ) : c.look.1 = c ∨ c.look.1 = c.ended "idle-timeout" := by
  unfold look
  split
  · exact .inl rfl
  · split
    · exact .inr rfl
    · exact .inl rfl

end Look

/-- What may become of a session that was let in, of the time of its latest activity and of whoever
watches for its deadline. Whatever happens around the session, and also between two steps of a
deed, takes time and leaves the deadline alone. -/
inductive Vigil (c₀ : Scene τ) : Scene τ → τ → Watcher τ → Prop
  | opened {c : Scene τ} (admitted : c₀.arrive = (true, c)) : Vigil c₀ c c₀.station.now .looking
  | deed {c : Scene τ} {last : τ} {w : Watcher τ} (before : Vigil c₀ c last w) (deed : Deed) :
    Vigil c₀ (c.after deed) (if deed.stirs c then c.station.now else last) w
  | arrival {c : Scene τ} {last : τ} {w : Watcher τ} (before : Vigil c₀ c last w) :
    Vigil c₀ c.arrive.2 (if c.arrive.1 then c.station.now else last) w
  | elsewhere {c d : Scene τ} {last : τ} {w : Watcher τ} (before : Vigil c₀ c last w)
    (kept : c.Lapses d) (admitted : d.session.admitted = c.session.admitted)
    (closing : d.session.closing = c.session.closing)
    (closed : d.session.closed = c.session.closed) : Vigil c₀ d last w
  | looks {c : Scene τ} {last : τ} (before : Vigil c₀ c last .looking) :
    Vigil c₀ c.look.1 last c.look.2
  | wakes {c : Scene τ} {last alarm : τ} (before : Vigil c₀ c last (.asleep alarm))
    (woken : alarm ≤ c.station.now ∨ c.session.closed = true) :
    Vigil c₀ c last (if c.session.closed then .gone else .looking)

variable {c₀ : Scene τ} {idle last : τ} {w : Watcher τ}

theorem Vigil.later (h : c₀.Vigil c last w) : ∃ c₁, c₀.arrive = (true, c₁) ∧ c₁.Later c := by
  induction h with
  | opened admitted => exact ⟨_, admitted, .now⟩
  | deed _ deed ih =>
    obtain ⟨c₁, hadmitted, hlater⟩ := ih
    exact ⟨c₁, hadmitted, hlater.deed deed⟩
  | arrival _ ih =>
    obtain ⟨c₁, hadmitted, hlater⟩ := ih
    exact ⟨c₁, hadmitted, hlater.arrival⟩
  | elsewhere _ _ admitted closing closed ih =>
    obtain ⟨c₁, hadmitted, hlater⟩ := ih
    exact ⟨c₁, hadmitted, hlater.elsewhere admitted closing closed⟩
  | @looks c _ _ ih =>
    obtain ⟨c₁, hadmitted, hlater⟩ := ih
    refine ⟨c₁, hadmitted, ?_⟩
    obtain hsame | hended := look_cases c
    · rw [hsame]
      exact hlater
    · rw [hended]
      exact hlater.deed (.close "idle-timeout")
  | wakes _ _ ih => exact ih

/-- The time that is left until a deadline that is not zero. -/
theorem value_timeLeft (h : c.Due idle last)
    (positive : 0 < ExactClock.value last + ExactClock.value idle) :
    ExactClock.value c.timeLeft =
      ExactClock.value last + ExactClock.value idle - ExactClock.value c.station.now := by
  have hnever : ¬ (last + idle ≤ Clock.span 0 ∧ Clock.span 0 ≤ last + idle) := by
    rw [le_zero_iff, ExactClock.value_add]
    exact fun hzero => absurd hzero.1 positive.not_ge
  unfold timeLeft
  rw [h.deadline, ExactClock.value_sub]
  dsimp only [Option.getD_some]
  rw [if_neg hnever, ExactClock.value_add]

theorem timeLeft_le_iff (h : c.Due idle last)
    (positive : 0 < ExactClock.value last + ExactClock.value idle) :
    c.timeLeft ≤ Clock.span 0 ↔
      ExactClock.value last + ExactClock.value idle ≤ ExactClock.value c.station.now := by
  rw [le_zero_iff, value_timeLeft h positive, sub_nonpos]

/-- Whoever sleeps wakes at the deadline that was read. -/
theorem value_alarm (h : c.Due idle last)
    (positive : 0 < ExactClock.value last + ExactClock.value idle) {alarm : τ}
    (hlook : c.look.2 = .asleep alarm) :
    ExactClock.value alarm = ExactClock.value last + ExactClock.value idle := by
  unfold look at hlook
  split at hlook
  · cases hlook
  · split at hlook
    · cases hlook
    · cases hlook
      rw [ExactClock.value_add, value_timeLeft h positive, add_sub_cancel]

/-- A session that is watched: its deadline is that of its latest activity and is not zero, and
whoever sleeps wakes no later than that. -/
structure Watched (c : Scene τ) (idle last : τ) (w : Watcher τ) : Prop where
  due : c.Due idle last
  positive : 0 < ExactClock.value last + ExactClock.value idle
  alarm : ∀ alarm, w = .asleep alarm →
    ExactClock.value alarm ≤ ExactClock.value last + ExactClock.value idle

theorem Watched.stir (h : c.Watched idle last w) {stirs : Bool}
    (due : d.Due idle (if stirs then c.station.now else last)) :
    d.Watched idle (if stirs then c.station.now else last) w := by
  have hlater : ExactClock.value last + ExactClock.value idle ≤
      ExactClock.value (if stirs then c.station.now else last) + ExactClock.value idle := by
    cases stirs with
    | true => exact add_le_add_left h.due.passed _
    | false => exact le_rfl
  exact ⟨due, h.positive.trans_le hlater,
    fun alarm hasleep => (h.alarm alarm hasleep).trans hlater⟩

/-- **Whatever happens, the deadline is that of the latest activity**, and whoever sleeps is not
late for it. -/
theorem Vigil.watched [OrderedClock τ] (positive : Clock.span 0 < c₀.session.idleTimeout)
    (clock : Clock.span 0 ≤ c₀.station.now) (h : c₀.Vigil c last w) :
    c.Watched c₀.session.idleTimeout last w := by
  induction h with
  | opened admitted =>
    have hdue := due_arrive positive (c := c₀) rfl (congrArg Prod.fst admitted)
    rw [admitted] at hdue
    exact ⟨hdue, add_pos_of_nonneg_of_pos (zero_le_iff.mp clock) (zero_lt_iff.mp positive), nofun⟩
  | deed _ deed ih => exact ih.stir (due_after positive ih.due deed)
  | @arrival c _ _ _ ih =>
    refine ih.stir ?_
    cases hadmitted : c.arrive.1 with
    | true => exact due_arrive positive ih.due.idleTimeout hadmitted
    | false => exact ih.due.lapses (lapses_arrive hadmitted)
  | elsewhere _ kept _ _ _ ih => exact ⟨ih.due.lapses kept, ih.positive, ih.alarm⟩
  | @looks c _ _ ih =>
    refine ⟨?_, ih.positive, fun alarm hasleep => (value_alarm ih.due ih.positive hasleep).le⟩
    obtain hsame | hended := look_cases c
    · rw [hsame]
      exact ih.due
    · rw [hended]
      exact ih.due.lapses (lapses_ended c _)
  | @wakes c _ _ _ _ ih =>
    refine ⟨ih.due, ih.positive, fun alarm hasleep => ?_⟩
    cases hclosed : c.session.closed with
    | true =>
      rw [hclosed] at hasleep
      cases hasleep
    | false =>
      rw [hclosed] at hasleep
      cases hasleep

/-! ## The end of a watch -/

/-- The watch of an open session that nothing interrupts ends the session when its time is up. -/
theorem watch_of_due (h : c.Watched idle last w) (hclosed : c.session.closed = false)
    (hcalm : c.session.interruption? = none) (rounds : Nat) :
    ∃ now, ExactClock.value now = max (ExactClock.value c.station.now)
        (ExactClock.value last + ExactClock.value idle) ∧
      c.watch (rounds + 2) = ({ c with station.now := now } : Scene τ).ended "idle-timeout" := by
  have hopen : ¬c.session.closed = true := Bool.eq_false_iff.mp hclosed
  by_cases hleft : c.timeLeft ≤ Clock.span 0
  · refine ⟨c.station.now, ?_, ?_⟩
    · exact (max_eq_left ((timeLeft_le_iff h.due h.positive).mp hleft)).symm
    · rw [watch_succ, if_neg hopen, if_pos hleft]
  · have hlater := hleft
    rw [timeLeft_le_iff h.due h.positive, not_le] at hlater
    have hnow : ExactClock.value (c.station.now + c.timeLeft) =
        ExactClock.value last + ExactClock.value idle := by
      rw [ExactClock.value_add, value_timeLeft h.due h.positive, add_sub_cancel]
    have hwait : c.wait c.timeLeft =
        (false, { c with station.now := c.station.now + c.timeLeft }) := by
      unfold wait
      rw [if_neg hopen, hcalm]
    -- the second look finds the deadline that the first one read, and that time is up
    have hdue' : ({ c with station.now := c.station.now + c.timeLeft } : Scene τ).Due idle last :=
      ⟨h.due.idleTimeout, h.due.deadline, h.due.passed.trans (hlater.le.trans hnow.ge)⟩
    refine ⟨c.station.now + c.timeLeft, ?_, ?_⟩
    · rw [hnow, max_eq_right hlater.le]
    · rw [watch_succ, if_neg hopen, if_neg hleft, hwait]
      dsimp only
      rw [watch_succ, if_neg hopen, if_pos]
      exact (timeLeft_le_iff hdue' h.positive).mpr hnow.ge

/-- A session that was let in before it was closed is closed only in being ended. -/
theorem Vigil.closing_of_open (h : c₀.Vigil c last w) (begun : c₀.session.closing = false)
    (hopen : c.session.closed = false) : c.session.closing = false := by
  obtain ⟨c₁, hadmitted, hlater⟩ := h.later
  have hbegun : c₁.session.closing = true → c₁.session.closed = true := by
    obtain ⟨_, _, _, haccount⟩ | ⟨_, _, _, haccount⟩ := arrive_cases c₀
    · rw [hadmitted] at haccount
      intro _
      exact congrArg (fun a => a.standing.closed) haccount
    · rw [hadmitted] at haccount
      have hsame : c₁.session.closing = c₀.session.closing :=
        congrArg (fun a => a.standing.closing) haccount
      rw [hsame, begun]
      nofun
  by_contra hnever
  have hclosed := hlater.closed_of_closing hbegun (Bool.of_not_eq_false hnever)
  cases hopen.symm.trans hclosed

/-- A look ends an open session exactly if its time is up. -/
theorem closed_look_iff (h : c.Watched idle last w) (hopen : c.session.closed = false)
    (hclosing : c.session.closing = false) : c.look.1.session.closed = true ↔
      ExactClock.value last + ExactClock.value idle ≤ ExactClock.value c.station.now := by
  have hopen' := Bool.eq_false_iff.mp hopen
  rw [← timeLeft_le_iff h.due h.positive]
  unfold look
  rw [if_neg hopen']
  split
  · next hleft => exact ⟨fun _ => hleft, fun _ => (shut_ended hclosing _).closed⟩
  · next hleft => exact ⟨fun hnever => absurd hnever hopen', fun hnever => absurd hnever hleft⟩

/-- A watch that is interrupted before the time is up does nothing but what interrupts it. -/
theorem watch_of_cut (h : c.Watched idle last w) (hopen : c.session.closed = false)
    (hearly : ExactClock.value c.station.now < ExactClock.value last + ExactClock.value idle)
    {reason : String} (hcut : c.session.interruption? = some reason) (rounds : Nat) :
    c.watch (rounds + 1) =
      ({ c with session.interruption? := none } : Scene τ).ended reason := by
  have hleft : ¬c.timeLeft ≤ Clock.span 0 := by
    rw [timeLeft_le_iff h.due h.positive, not_le]
    exact hearly
  rw [watch_succ, if_neg (Bool.eq_false_iff.mp hopen), if_neg hleft, wait_of_cut hopen hcut]

omit [ExactClock τ] in
theorem watch_of_closed (h : c.session.closed = true) (rounds : Nat) : c.watch rounds = c := by
  cases rounds with
  | zero => rfl
  | succ rounds => rw [watch_eq_look, look_of_closed h]

/-- **The watch over the idle time of a session**, on a clock that does not read below zero. A look
closes an open session exactly if its idle time has passed since its latest activity; whoever sleeps
does so no longer than until then. A watch that nothing interrupts closes the session at its
deadline, or at once if that has passed, with all that the end of a session is and one event of it.
If the session is closed while somebody sleeps, that is all that happens. -/
theorem watch_closes_at_deadline [OrderedClock τ] (positive : Clock.span 0 < c₀.session.idleTimeout)
    (clock : Clock.span 0 ≤ c₀.station.now) (begun : c₀.session.closing = false)
    (vigil : c₀.Vigil c last w) :
    let now := ExactClock.value c.station.now
    let due := ExactClock.value last + ExactClock.value c₀.session.idleTimeout
    (c.session.closed = false → (c.look.1.session.closed = true ↔ due ≤ now)) ∧
    (∀ alarm, w = .asleep alarm → ExactClock.value alarm ≤ due) ∧
    (c.session.closed = false → c.session.interruption? = none → ∀ rounds, ∃ time,
      ExactClock.value time = max now due ∧
      let d : Scene τ := { c with station.now := time }
      c.watch (rounds + 2) = d.ended "idle-timeout" ∧
      d.TornDown "idle-timeout" (d.ended "idle-timeout") ∧
      (c.station.Listening → ∃ last, last.IsEnd "idle-timeout" ∧
        (d.ended "idle-timeout").station.handed = c.station.handed ++ [last])) ∧
    (c.session.closed = false → now < due → ∀ reason,
      c.session.interruption? = some reason → ∀ rounds, c.watch (rounds + 1) =
        ({ c with session.interruption? := none } : Scene τ).ended reason) ∧
    (c.session.closed = true → c.look = (c, .gone) ∧ ∀ rounds, c.watch rounds = c) := by
  intro now due
  have hwatched := vigil.watched positive clock
  obtain ⟨c₁, hadmitted, hlater⟩ := vigil.later
  refine ⟨fun hopen => ?_, hwatched.alarm, fun hopen hcalm rounds => ?_, ?_, ?_⟩
  · exact closed_look_iff hwatched hopen (vigil.closing_of_open begun hopen)
  · obtain ⟨time, htime, hwatch⟩ := watch_of_due hwatched hopen hcalm rounds
    have hclosing := vigil.closing_of_open begun hopen
    have hadmitted' := hlater.admitted (admitted_of_arrive hadmitted)
    have htorn := tornDown_ended (c := { c with station.now := time }) hclosing hadmitted'
      "idle-timeout"
    refine ⟨time, htime, hwatch, htorn, fun hlistening => ?_⟩
    obtain ⟨_, last, hlast, _, hhanded⟩ := handed_ended (c := { c with station.now := time })
      (hlistening.congr rfl rfl rfl) hclosing hadmitted' "idle-timeout"
    exact ⟨last, hlast, hhanded⟩
  · exact fun hopen hearly _ hcut rounds => watch_of_cut hwatched hopen hearly hcut rounds
  · exact fun hclosed => ⟨look_of_closed hclosed, watch_of_closed hclosed⟩

theorem watch_closes_at_deadline_example :
    Clock.span 0 < exampleArrival.session.idleTimeout ∧
    Clock.span 0 ≤ exampleArrival.station.now ∧
    exampleArrival.session.closing = false ∧
    exampleArrival.Vigil exampleArrival.arrive.2 0 .looking ∧
    ∃ d : Scene Int, exampleArrival.arrive.2.watch 8 = d.ended "idle-timeout" ∧
      d.station.now = 300 := by
  have hvigil : exampleArrival.Vigil exampleArrival.arrive.2 0 .looking := .opened rfl
  obtain ⟨_, _, hends, _⟩ := watch_closes_at_deadline (by decide) (by decide) rfl hvigil
  obtain ⟨time, htime, hwatch, _⟩ := hends rfl rfl 6
  refine ⟨by decide, by decide, rfl, hvigil, _, hwatch, ?_⟩
  have htime' : ((time : Int) : ℝ) = 300 := by
    refine htime.trans ?_
    show max ((0 : Int) : ℝ) (((0 : Int) : ℝ) + ((300 : Int) : ℝ)) = 300
    norm_num
  exact_mod_cast htime'

end Honeypot.Scene
