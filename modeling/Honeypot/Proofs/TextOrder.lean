import Mathlib.Data.Char
import Mathlib.Data.List.Lex
import Mathlib.Data.List.Nodup
import Mathlib.Tactic.Positivity
import Honeypot.Text.Basic

/-!
# The order of texts

Texts are ordered by their characters, so that sorting puts them in a linear order. Numbers with
equally many digits are ordered by their numerals (`numeral_lt_iff`).
-/

namespace Honeypot.Text

/-! ## Sorting -/

theorem charsBefore_iff {as bs : List Char} : charsBefore as bs = true ↔ as < bs := by
  induction as generalizing bs with
  | nil => cases bs <;> simp [charsBefore]
  | cons a as ih =>
    cases bs with
    | nil => simp [charsBefore]
    | cons b bs =>
      have hchar : a.toNat < b.toNat ↔ a < b := Iff.rfl
      rw [charsBefore, Bool.or_eq_true, Bool.and_eq_true, beq_iff_eq, ih, List.cons_lt_cons_iff,
        decide_eq_true_iff, hchar]

theorem before_iff {a b : String} : before a b = true ↔ a.toList < b.toList := charsBefore_iff

theorem sort_perm (texts : List String) : (sort texts).Perm texts := List.mergeSort_perm _ _

theorem pairwise_sort (texts : List String) :
    (sort texts).Pairwise fun a b => a.toList ≤ b.toList := by
  have hle (a b : String) : (!before b a) = true ↔ a.toList ≤ b.toList := by
    rw [Bool.not_eq_true', ← Bool.not_eq_true, before_iff, not_lt]
  refine (List.pairwise_mergeSort (fun a b c hab hbc => ?_) (fun a b => ?_) texts).imp fun h => ?_
  · rw [hle] at hab hbc ⊢
    exact hab.trans hbc
  · rw [Bool.or_eq_true, hle, hle]
    exact le_total _ _
  · exact (hle _ _).mp h

theorem nodup_of_pairwise {texts : List String}
    (ordered : texts.Pairwise fun a b => a.toList < b.toList) : texts.Nodup :=
  ordered.imp (by rintro a b hab rfl; exact lt_irrefl _ hab)

theorem sort_eq_of_perm {texts texts' : List String} (hperm : texts.Perm texts')
    (ordered : texts'.Pairwise fun a b => a.toList < b.toList) : sort texts = texts' := by
  refine List.Perm.eq_of_pairwise (fun a b _ _ hab hba => ?_) (pairwise_sort texts)
    (ordered.imp le_of_lt) ((sort_perm texts).trans hperm)
  exact String.toList_inj.mp (le_antisymm hab hba)

/-! ## Numerals -/

/-- The last digits of a number. -/
def numeral : Nat → Nat → List Char
  | 0, _ => []
  | width + 1, n => numeral width (n / 10) ++ [Nat.digitChar (n % 10)]

theorem length_numeral (width n : Nat) : (numeral width n).length = width := by
  induction width generalizing n with
  | zero => rfl
  | succ width ih => rw [numeral, List.length_append, ih, List.length_singleton]

theorem append_lt_append_iff {as bs cs ds : List Char} (h : as.length = bs.length) :
    as ++ cs < bs ++ ds ↔ as < bs ∨ as = bs ∧ cs < ds := by
  induction as generalizing bs with
  | nil =>
    obtain rfl := List.length_eq_zero_iff.mp h.symm
    simp
  | cons a as ih =>
    obtain ⟨b, bs, rfl⟩ := List.exists_cons_of_length_eq_add_one h.symm
    rw [List.cons_append, List.cons_append, List.cons_lt_cons_iff, List.cons_lt_cons_iff,
      ih (Nat.succ.inj h), List.cons.injEq]
    tauto

theorem digitChar_lt_iff : ∀ m < 10, ∀ n < 10,
    (Nat.digitChar m < Nat.digitChar n ↔ m < n) := by
  decide

theorem digitChar_inj : ∀ m < 10, ∀ n < 10,
    (Nat.digitChar m = Nat.digitChar n ↔ m = n) := by
  decide

theorem div_lt_of_lt_pow {width n : Nat} (h : n < 10 ^ (width + 1)) : n / 10 < 10 ^ width := by
  rwa [Nat.div_lt_iff_lt_mul (by decide), ← pow_succ]

theorem numeral_inj {width m n : Nat} (hm : m < 10 ^ width) (hn : n < 10 ^ width) :
    numeral width m = numeral width n ↔ m = n := by
  induction width generalizing m n with
  | zero =>
    rw [Nat.lt_one_iff.mp hm, Nat.lt_one_iff.mp hn]
    exact ⟨fun _ => rfl, fun _ => rfl⟩
  | succ width ih =>
    have hdigit := digitChar_inj (m % 10) (Nat.mod_lt m (by decide)) (n % 10)
      (Nat.mod_lt n (by decide))
    have hfirst := ih (div_lt_of_lt_pow hm) (div_lt_of_lt_pow hn)
    constructor
    · intro h
      obtain ⟨hinit, hlast⟩ := List.append_inj' h rfl
      have hdiv := hfirst.mp hinit
      have hmod := hdigit.mp (List.cons.inj hlast).1
      omega
    · exact congrArg _

/-- **Numbers with equally many digits are in the order of their numerals.** -/
theorem numeral_lt_iff {width m n : Nat} (hm : m < 10 ^ width) (hn : n < 10 ^ width) :
    numeral width m < numeral width n ↔ m < n := by
  induction width generalizing m n with
  | zero =>
    rw [Nat.lt_one_iff.mp hm, Nat.lt_one_iff.mp hn]
    simp
  | succ width ih =>
    have hm' := div_lt_of_lt_pow hm
    have hn' := div_lt_of_lt_pow hn
    have hlength : (numeral width (m / 10)).length = (numeral width (n / 10)).length := by
      rw [length_numeral, length_numeral]
    have hdigit := digitChar_lt_iff (m % 10) (Nat.mod_lt m (by decide)) (n % 10)
      (Nat.mod_lt n (by decide))
    rw [numeral, numeral, append_lt_append_iff hlength, ih hm' hn', numeral_inj hm' hn',
      List.cons_lt_cons_iff, hdigit]
    simp only [List.not_lt_nil, and_false, or_false]
    omega

/-- Three numbers one behind the other are in the order of the first that differs. -/
theorem numerals_lt_iff {sep : Char} {width k m n k' m' n' : Nat} (hk : k < 10 ^ width)
    (hk' : k' < 10 ^ width) (hm : m < 100) (hm' : m' < 100) (hn : n < 100) (hn' : n' < 100) :
    numeral width k ++ sep :: (numeral 2 m ++ sep :: numeral 2 n) <
        numeral width k' ++ sep :: (numeral 2 m' ++ sep :: numeral 2 n') ↔
      k < k' ∨ k = k' ∧ (m < m' ∨ m = m' ∧ n < n') := by
  rw [append_lt_append_iff (by rw [length_numeral, length_numeral]), List.cons_lt_cons_iff,
    append_lt_append_iff (by rw [length_numeral, length_numeral]), List.cons_lt_cons_iff,
    numeral_lt_iff hk hk', numeral_inj hk hk', numeral_lt_iff hm hm', numeral_inj hm hm',
    numeral_lt_iff hn hn']
  simp only [lt_irrefl, true_and, false_or]

theorem toList_ofNat {width n : Nat} (hlow : 10 ^ width ≤ n) (hhigh : n < 10 ^ (width + 1)) :
    (ofNat n).toList = numeral (width + 1) n := by
  show (String.ofList (Nat.toDigits 10 n)).toList = _
  rw [String.toList_ofList]
  induction width generalizing n with
  | zero =>
    have hsmall : n < 10 := hhigh
    rw [Nat.toDigits_of_lt_base hsmall, numeral, Nat.mod_eq_of_lt hsmall]
    rfl
  | succ width ih =>
    have hlow' : 10 ^ width ≤ n / 10 := by
      rwa [Nat.le_div_iff_mul_le (by decide), ← pow_succ]
    have hfirst : 0 < n / 10 := lt_of_lt_of_le (by positivity) hlow'
    have hlast : n % 10 < 10 := Nat.mod_lt n (by decide)
    rw [numeral, ← ih hlow' (div_lt_of_lt_pow hhigh), ← Nat.toDigits_of_lt_base hlast,
      Nat.toDigits_append_toDigits (by decide) hfirst hlast, Nat.div_add_mod]

theorem isDigit_of_mem_numeral {width n : Nat} {c : Char} (h : c ∈ numeral width n) :
    c.isDigit = true := by
  have hdigit : ∀ m < 10, (Nat.digitChar m).isDigit = true := by decide
  induction width generalizing n with
  | zero => cases h
  | succ width ih =>
    obtain h | h := List.mem_append.mp h
    · exact ih h
    · rw [List.mem_singleton.mp h]
      exact hdigit _ (Nat.mod_lt n (by decide))

end Honeypot.Text
