import Mathlib.Data.List.TakeWhile
import Mathlib.Data.Set.Operations
import Mathlib.Order.Interval.Set.Defs
import Mathlib.Tactic.Linarith
import Honeypot.Intel.Window
import Honeypot.Proofs.Clock

/-!
# What a rolling window keeps

A window only remembers the last calls. As time does not go back, what it forgot never counts again
(`Limited.pass`), so that the number of the calls it remembers is that of the calls in the span of
time that ends now (`Limited.length_recent`). A call that is made at such a number below the limit
leaves no span of time with more calls than the limit (`Limited.grown`).
-/

namespace Honeypot.Intel

open ExactClock

variable {τ : Type} [Clock τ] [ExactClock τ]

open Classical in
/-- The number of times that lie in a set. -/
noncomputable def inside (I : Set ℝ) (times : List τ) : Nat := times.countP fun t => value t ∈ I

/-- The span of time that is as long as a window and ends now, without its beginning. -/
def spanTo (window now : τ) : Set ℝ := Set.Ioc (value now - value window) (value now)

theorem inside_append (I : Set ℝ) (s t : List τ) :
    inside I (s ++ t) = inside I s + inside I t := List.countP_append

theorem inside_mono {I J : Set ℝ} {times : List τ}
    (h : ∀ t ∈ times, value t ∈ I → value t ∈ J) : inside I times ≤ inside J times := by
  refine List.countP_mono_left fun t ht hmem => ?_
  simpa using h t ht (by simpa using hmem)

theorem inside_eq_countP {I : Set ℝ} {times : List τ} {p : τ → Bool}
    (h : ∀ t ∈ times, value t ∈ I ↔ p t = true) : inside I times = times.countP p := by
  refine List.countP_congr fun t ht => ?_
  simpa using h t ht

theorem inside_perm {s t : List τ} (h : s.Perm t) (I : Set ℝ) : inside I s = inside I t :=
  h.countP_eq _

/-- All calls that were made, by their times, and the calls that a window with a limit remembers. -/
structure Limited (limit : Int) (window now : τ) (made calls : List τ) : Prop where
  ordered : made.Pairwise fun s t => value s ≤ value t
  past : ∀ t ∈ made, value t ≤ value now
  /-- What is forgotten is as old as the window. -/
  forgotten : ∃ old, made = old ++ calls ∧ ∀ t ∈ old, value window ≤ value now - value t
  /-- Where no two times are as far apart as the window there are no more calls than the limit. -/
  sparse : ∀ I : Set ℝ, (∀ x ∈ I, ∀ y ∈ I, x - y < value window) → inside I made ≤ max 0 limit

theorem old_iff (window now t : τ) : window ≤ now - t ↔ value window ≤ value now - value t := by
  rw [le_iff, value_sub]

theorem recent_eq_filter {calls : List τ} (h : calls.Pairwise fun s t => value s ≤ value t)
    (window now : τ) :
    recent window now calls = calls.filter fun t => !decide (window ≤ now - t) := by
  unfold recent
  induction calls with
  | nil => rfl
  | cons t calls ih =>
    obtain ⟨hfirst, hrest⟩ := List.pairwise_cons.mp h
    by_cases hold : window ≤ now - t
    · rw [List.dropWhile_cons_of_pos (by simpa using hold),
        List.filter_cons_of_neg (by simpa using hold), ih hrest]
    · have hyoung : ∀ s ∈ t :: calls, (!decide (window ≤ now - s)) = true := by
        intro s hs
        have hts : value t ≤ value s := by
          obtain rfl | hs := List.mem_cons.mp hs
          · exact le_refl _
          · exact hfirst s hs
        rw [old_iff] at hold
        simp only [old_iff, Bool.not_eq_true', decide_eq_false_iff_not, not_le] at hold ⊢
        linarith
      rw [List.dropWhile_cons_of_neg (by simpa using hold), List.filter_eq_self.mpr hyoung]

namespace Limited

variable {limit : Int} {window now : τ} {made calls : List τ}

theorem fresh (limit : Int) (window now : τ) : Limited limit window now [] [] where
  ordered := .nil
  past := nofun
  forgotten := ⟨[], rfl, nofun⟩
  sparse _ _ := le_max_left 0 limit

theorem pass (h : Limited limit window now made calls) {later : τ} (hle : value now ≤ value later) :
    Limited limit window later made calls := by
  obtain ⟨old, hmade, hold⟩ := h.forgotten
  refine { h with past := fun t ht => (h.past t ht).trans hle, forgotten := ⟨old, hmade, ?_⟩ }
  intro t ht
  have := hold t ht
  linarith

theorem recent (h : Limited limit window now made calls) :
    Limited limit window now made (Intel.recent window now calls) := by
  obtain ⟨old, hmade, hold⟩ := h.forgotten
  refine { h with forgotten := ⟨old ++ calls.takeWhile fun t => window ≤ now - t, ?_, ?_⟩ }
  · rw [List.append_assoc, Intel.recent, List.takeWhile_append_dropWhile, hmade]
  · intro t ht
    obtain ht | ht := List.mem_append.mp ht
    · exact hold t ht
    · exact (old_iff window now t).mp (by simpa using List.mem_takeWhile_imp ht)

/-- **The calls that count are those in the span of time that ends now.** -/
theorem length_recent (h : Limited limit window now made calls) :
    (Intel.recent window now calls).length = inside (spanTo window now) made := by
  obtain ⟨old, hmade, hold⟩ := h.forgotten
  have hcalls : calls.Pairwise fun s t => value s ≤ value t := by
    have hordered := h.ordered
    rw [hmade] at hordered
    exact (List.pairwise_append.mp hordered).2.1
  have hinside (t : τ) (ht : t ∈ made) :
      value t ∈ spanTo window now ↔ ¬value window ≤ value now - value t := by
    have hpast := h.past t ht
    rw [spanTo, Set.mem_Ioc, not_le]
    constructor
    · intro hmem
      linarith [hmem.1]
    · intro hyoung
      exact ⟨by linarith, hpast⟩
  have hnone : inside (spanTo window now) old = 0 := by
    rw [inside_eq_countP (p := fun _ => false), List.countP_false]
    · rfl
    · intro t ht
      rw [hinside t (hmade ▸ List.mem_append_left _ ht)]
      simp [hold t ht]
  have hyoung : inside (spanTo window now) calls =
      calls.countP fun t => !decide (window ≤ now - t) := by
    refine inside_eq_countP fun t ht => ?_
    rw [hinside t (hmade ▸ List.mem_append_right _ ht)]
    simp [old_iff]
  rw [hmade, inside_append, hnone, Nat.zero_add, hyoung, recent_eq_filter hcalls,
    List.countP_eq_length_filter]

/-- **A call below the limit leaves no span of time with more calls than the limit.** -/
theorem grown (h : Limited limit window now made calls)
    (room : (inside (spanTo window now) made : Int) < limit) :
    Limited limit window now (made ++ [now]) (calls ++ [now]) := by
  obtain ⟨old, hmade, hold⟩ := h.forgotten
  refine ⟨?_, ?_, ⟨old, by rw [hmade, List.append_assoc], hold⟩, fun I narrow => ?_⟩
  · refine List.pairwise_append.mpr ⟨h.ordered, List.pairwise_singleton _ _, fun t ht s hs => ?_⟩
    rw [List.mem_singleton.mp hs]
    exact h.past t ht
  · intro t ht
    obtain ht | ht := List.mem_append.mp ht
    · exact h.past t ht
    · rw [List.mem_singleton.mp ht]
  · rw [inside_append]
    by_cases hnow : value now ∈ I
    · -- whatever lies in `I` besides the new call is less than a window older, so that it counts
      have hle : inside I made ≤ inside (spanTo window now) made := by
        refine inside_mono fun t ht hmem => ?_
        have hclose := narrow _ hnow _ hmem
        exact ⟨by linarith, h.past t ht⟩
      have hone : inside I [now] = 1 := by simp [inside, hnow]
      rw [hone]
      omega
    · have hnone : inside I [now] = 0 := by simp [inside, hnow]
      rw [hnone]
      exact h.sparse I narrow

/-- Making a call, which is done exactly if the span of time that ends now has room for it. -/
theorem take (h : Limited limit window now made calls) :
    ((Intel.take limit window now calls).1 = true ↔
      (inside (spanTo window now) made : Int) < limit) ∧
    Limited limit window now
      (made ++ if (Intel.take limit window now calls).1 then [now] else [])
      (Intel.take limit window now calls).2 := by
  have hsize := h.length_recent
  unfold Intel.take
  dsimp only
  by_cases hfull : limit ≤ (Intel.recent window now calls).length
  · rw [if_pos hfull]
    refine ⟨by simpa [← hsize] using hfull, ?_⟩
    rw [if_neg Bool.false_ne_true, List.append_nil]
    exact h.recent
  · rw [if_neg hfull]
    have hroom : (inside (spanTo window now) made : Int) < limit := by omega
    exact ⟨by simpa using hroom, h.recent.grown hroom⟩

/-- **In no span of time as long as the window, with one of its ends, there are more calls than the
limit.** -/
theorem inside_le (h : Limited limit window now made calls) (a : ℝ) :
    inside (Set.Ico a (a + value window)) made ≤ max 0 limit ∧
      inside (Set.Ioc a (a + value window)) made ≤ max 0 limit := by
  constructor
  · refine h.sparse _ fun x hx y hy => ?_
    linarith [hx.2, hy.1]
  · refine h.sparse _ fun x hx y hy => ?_
    linarith [hx.2, hy.1]

end Limited

end Honeypot.Intel
