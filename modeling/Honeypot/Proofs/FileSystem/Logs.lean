import Honeypot.FileSystem.Reading
import Honeypot.Persona.Catalogue
import Honeypot.Proofs.Runs
import Honeypot.Proofs.Stamps

/-!
# The order of log lines

The lines of a log are drawn with moments in a window of at most two days and put in the order of
their texts. A text begins with the stamp of its moment, so that the lines are in the order of time
unless two of them lie on two sides of the beginning of a month whose name comes before that of the
month before it (`chronological_iff`).
-/

namespace Honeypot.Logs

open Calendar

/-! ## Drawn lines -/

/-- Whether a line was drawn with a moment in a window and begins with the stamp of the moment. -/
structure IsDrawn (base : Instant) (minutes : Int) (line : Line) : Prop where
  moment : ∃ k, 0 ≤ k ∧ k ≤ minutes ∧ line.moment = base.laterMinutes k
  text : ∃ rest, line.text = line.moment.moment.logStamp ++ rest

theorem gives_moment (base : Instant) {minutes : Int} (h : 0 ≤ minutes) :
    Gives (fun t => ∃ k, 0 ≤ k ∧ k ≤ minutes ∧ t = base.laterMinutes k) (moment base minutes) :=
  .bind (gives_between h) fun k ⟨hlow, hhigh⟩ => .pure ⟨k, hlow, hhigh, rfl⟩

theorem gives_loginLine (p : Persona) (base : Instant) :
    Gives (IsDrawn base 2880) (loginLine p base) := by
  have hoctet : Gives (fun n => 1 ≤ n ∧ n ≤ 254) (Draws.between 1 254) := gives_between (by decide)
  have hport : Gives (fun n => 40000 ≤ n ∧ n ≤ 60000) (Draws.between 40000 60000) :=
    gives_between (by decide)
  refine .bind (gives_moment base (by decide)) fun t ht => ?_
  refine .bind (gives_between (by decide)) fun process _ => .bind gives_unit fun chance _ => ?_
  refine .ite ?_ ?_
  · refine .bind (gives_pick _ _) fun user _ => .bind (gives_pick _ _) fun address _ => ?_
    refine .bind hport fun port _ => .pure ⟨ht, ?_⟩
    simp only [String.append_assoc]
    exact ⟨_, rfl⟩
  · refine .bind (gives_pick _ _) fun user _ => .bind hoctet fun a _ => .bind hoctet fun b _ => ?_
    refine .bind hoctet fun c _ => .bind hoctet fun d _ => .bind hport fun port _ => ?_
    refine .pure ⟨ht, ?_⟩
    simp only [String.append_assoc]
    exact ⟨_, rfl⟩

theorem gives_systemLine (p : Persona) (base : Instant) :
    Gives (IsDrawn base 720) (systemLine p base) := by
  refine .bind (gives_moment base (by decide)) fun t ht => ?_
  refine .bind (gives_pick _ _) fun message _ => ?_
  refine .bind (gives_between (by decide)) fun process _ => ?_
  have hline (number : Int) : Gives (IsDrawn base 720) (pure (Line.mk t
      (t.moment.logStamp ++ " " ++ p.hostname ++ " " ++ message.speaker process ++ ": " ++
        message.words number)) : Draws Line) := by
    refine .pure ⟨ht, ?_⟩
    simp only [String.append_assoc]
    exact ⟨_, rfl⟩
  dsimp only
  split
  · exact .bind (gives_between (by decide)) fun number _ => hline number
  · exact hline 0

/-- Lines that are drawn one after the other are all drawn in the same way. -/
theorem gives_repeated {P : Line → Prop} {draw : Draws Line} (h : Gives P draw) (n : Nat) :
    Gives (fun lines => lines.length = n ∧ ∀ line ∈ lines, P line) (repeated draw n) := by
  induction n with
  | zero => exact .pure ⟨rfl, nofun⟩
  | succ n ih =>
    refine .bind h fun line hline => .bind ih fun rest ⟨hlength, hrest⟩ => .pure ⟨?_, ?_⟩
    · rw [List.length_cons, hlength]
    · exact List.forall_mem_cons.mpr ⟨hline, hrest⟩

/-! ## The order of lines -/

variable {start : Instant} {minutes : Int} {lines : List Line} {a b : Line}

/-- Lines in the order in which they stand in a file. -/
def inOrder (lines : List Line) : List Line := Text.sortBy (·.text) lines

/-- Whether the moments of lines are in the order of time. -/
def Chronological (lines : List Line) : Prop :=
  lines.Pairwise fun a b => a.moment.micros ≤ b.moment.micros

/-- Whether two of the lines lie on two sides of the beginning of a month whose name comes before
that of the month before it. -/
def Straddles (lines : List Line) : Prop :=
  ∃ a ∈ lines, ∃ b ∈ lines, a.moment.micros < b.moment.micros ∧ ChangesBack a.moment b.moment

theorem sort_texts (lines : List Line) :
    Text.sort (lines.map (·.text)) = (inOrder lines).map (·.text) :=
  (List.map_mergeSort (s := fun a b => !Text.before b a) fun _ _ _ _ => rfl).symm

theorem inOrder_perm (lines : List Line) : (inOrder lines).Perm lines := List.mergeSort_perm _ _

theorem pairwise_inOrder (lines : List Line) :
    (inOrder lines).Pairwise fun a b => a.text.toList ≤ b.text.toList := by
  have hsorted := Text.pairwise_sort (lines.map (·.text))
  rw [sort_texts, List.pairwise_map] at hsorted
  exact hsorted

/-- Two lines of a window of two days stand in the order of their stamps. -/
theorem IsDrawn.text_cases (hminutes : minutes ≤ 2880) (ha : IsDrawn start minutes a)
    (hb : IsDrawn start minutes b) (h : a.moment.micros < b.moment.micros) :
    if ChangesBack a.moment b.moment then b.text.toList < a.text.toList
    else a.text.toList < b.text.toList := by
  obtain ⟨⟨k, hk, hk', hmoment⟩, rest, htext⟩ := ha
  obtain ⟨⟨l, hl, hl', hmoment'⟩, rest', htext'⟩ := hb
  have hmicros : a.moment.micros = start.micros + k * 60000000 := by rw [hmoment]; rfl
  have hmicros' : b.moment.micros = start.micros + l * 60000000 := by rw [hmoment']; rfl
  have hstamps := logStamp_cases (s := a.moment) (t := b.moment) (by omega) (by omega)
  have hlength : a.moment.moment.logStamp.toList.length =
      b.moment.moment.logStamp.toList.length := by
    rw [length_logStamp, length_logStamp]
  rw [htext, htext', String.toList_append, String.toList_append,
    Text.append_lt_append_iff hlength, Text.append_lt_append_iff hlength.symm]
  split at hstamps
  · next hback =>
    rw [if_pos hback]
    exact .inl hstamps
  · next hback =>
    rw [if_neg hback]
    exact .inl hstamps

/-- **Lines that were drawn in a window of two days** stand in the order of time exactly if no two
of them lie on two sides of the beginning of a month whose name comes before that of the month
before it. -/
theorem chronological_iff (hminutes : minutes ≤ 2880)
    (hdrawn : ∀ line ∈ lines, IsDrawn start minutes line) :
    Chronological (inOrder lines) ↔ ¬Straddles lines := by
  have hmem {line : Line} : line ∈ inOrder lines ↔ line ∈ lines := (inOrder_perm lines).mem_iff
  constructor
  · rintro hchronological ⟨a, ha, b, hb, hlt, hback⟩
    have htext := (hdrawn a ha).text_cases hminutes (hdrawn b hb) hlt
    rw [if_pos hback] at htext
    -- One of the two lines stands before the other in texts and in time.
    have hboth := (pairwise_inOrder lines).and hchronological
    have hcases := List.Pairwise.forall_of_forall_of_flip (R := fun x y =>
        (x.text.toList ≤ y.text.toList ∧ x.moment.micros ≤ y.moment.micros) ∨
          (y.text.toList ≤ x.text.toList ∧ y.moment.micros ≤ x.moment.micros))
      (fun _ _ => .inl ⟨le_rfl, le_rfl⟩) (hboth.imp .inl) (hboth.imp .inr)
      (hmem.mpr ha) (hmem.mpr hb)
    obtain ⟨hle, _⟩ | ⟨_, hle⟩ := hcases
    · exact absurd htext hle.not_gt
    · omega
  · intro hnone
    refine (pairwise_inOrder lines).imp_of_mem fun {x y} hx hy hle => ?_
    by_contra hlt
    have hback : ¬ChangesBack y.moment x.moment := fun hback =>
      hnone ⟨y, hmem.mp hy, x, hmem.mp hx, not_le.mp hlt, hback⟩
    have htext := (hdrawn y (hmem.mp hy)).text_cases hminutes (hdrawn x (hmem.mp hx))
      (not_le.mp hlt)
    rw [if_neg hback] at htext
    exact absurd htext hle.not_gt

/-! ## The logs of a device -/

/-- What the reading of a log comes to that has so many lines from so many minutes before a clock: a
fault if there is no date for them, or else the lines that were drawn in the order of their texts,
which is the order of time unless two of them lie on two sides of the beginning of a month whose
name comes before that of the month before it. -/
def IsLog (now : Float) (minutes : Int) (count : Nat) (result : Except Fault String) : Prop :=
  (∃ e, base now minutes = .error e ∧ result = .error e) ∨
    ∃ start lines, base now minutes = .ok start ∧ lines.length = count ∧
      (∀ line ∈ lines, IsDrawn start minutes line) ∧
      result = .ok (Text.block ((inOrder lines).map (·.text))) ∧
      (Chronological (inOrder lines) ↔ ¬Straddles lines)

section Reading

variable {now : Float} {draw : Instant → Draws Line} {count : Nat} {g g' : Random}

/-- The log whose lines are drawn in so many minutes before a clock. -/
def log (now : Float) (minutes : Int) (draw : Instant → Draws Line) (count : Nat) :
    Draws String := do
  pure (file (← repeated (draw (← base now minutes)) count))

theorem run_log (hbase : base now minutes = .ok start)
    (hrun : (repeated (draw start) count).run g = (.ok lines, g')) :
    ((log now minutes draw count).run g).1 =
      .ok (Text.block ((inOrder lines).map (·.text))) := by
  unfold log
  rw [hbase, run_bind_of_ok (run_lift _ _), run_bind_of_ok hrun, run_pure]
  unfold file
  rw [sort_texts]

theorem isLog_of_gives (hminutes : minutes ≤ 2880)
    (hdraw : ∀ start, Gives (IsDrawn start minutes) (draw start)) (now : Float) (count : Nat)
    (g : Random) : IsLog now minutes count ((log now minutes draw count).run g).1 := by
  cases hbase : base now minutes with
  | error e =>
    refine .inl ⟨e, hbase, ?_⟩
    unfold log
    rw [hbase, run_bind_of_error (run_lift _ _)]
  | ok start =>
    obtain ⟨lines, g', hrun, hlength, hdrawn⟩ := gives_repeated (hdraw start) count g
    exact .inr ⟨start, lines, hbase, hlength, hdrawn, run_log hbase hrun,
      chronological_iff hminutes hdrawn⟩

end Reading

/-- **The logs of a device** show their lines in the order of time, at every clock and for every
generator, unless two of them lie on two sides of the beginning of a month whose name comes before
that of the month before it. -/
theorem logs_chronological_iff (p : Persona) (now : Float) (g : Random) :
    IsLog now 2880 24 ((Source.read p now .logins).run g).1 ∧
    IsLog now 720 20 ((Source.read p now .systemLog).run g).1 :=
  ⟨isLog_of_gives le_rfl (gives_loginLine p) now 24 g,
    isLog_of_gives (by decide) (gives_systemLine p) now 20 g⟩

instance (lines : List Line) : Decidable (Straddles lines) :=
  inferInstanceAs (Decidable (∃ a ∈ lines, ∃ b ∈ lines, _ ∧ _))

/-- In the morning of the first of April 2024 the lines of the day stand before those of the evening
of the 31st of March. -/
theorem system_not_chronological :
    ∃ start lines, base 1711951200.0 720 = .ok start ∧
      ((Source.read Persona.raspberryPi 1711951200.0 .systemLog).run (.ofSeed 0)).1 =
        .ok (Text.block ((inOrder lines).map (·.text))) ∧
      (∀ line ∈ lines, IsDrawn start 720 line) ∧ ¬Chronological (inOrder lines) := by
  have hcomputed : ((base 1711951200.0 720).toOption.bind fun start =>
      ((repeated (systemLine Persona.raspberryPi start) 20).run (.ofSeed 0)).1.toOption.map
        fun lines => decide (Straddles lines)) = some true := by
    decide +kernel
  cases hbase : base 1711951200.0 720 with
  | error e =>
    rw [hbase] at hcomputed
    cases hcomputed
  | ok start =>
    obtain ⟨lines, g', hrun, _, hdrawn⟩ :=
      gives_repeated (gives_systemLine Persona.raspberryPi start) 20 (.ofSeed 0)
    rw [hbase] at hcomputed
    dsimp only [Except.toOption, Option.bind_some] at hcomputed
    rw [hrun] at hcomputed
    have hback : Straddles lines := of_decide_eq_true (Option.some.inj hcomputed)
    refine ⟨start, lines, rfl, run_log hbase hrun, hdrawn, fun hchronological => ?_⟩
    exact (chronological_iff (by decide) hdrawn).mp hchronological hback

end Honeypot.Logs
