import Mathlib.Data.List.Induction
import Mathlib.Data.List.Nodup
import Mathlib.Data.List.TakeDrop
import Honeypot.Address.V6
import Honeypot.Proofs.Digits
import Honeypot.Proofs.Words

/-!
# Addresses of eight groups in text

The written form of an address is canonical: of its longest runs of two or more zero groups the
first is left out, and every other group stands in its shortest digits (`isCanonical_compressed`).
Reading the written form gives the address back (`parse?_text`). More generally groups with a gap
between them are read as the groups with as many zeros as are missing (`parse?_gap`).
-/

namespace Honeypot.Address

/-! ## Groups in digits -/

def digitsOf (g : UInt16) : List Char := Nat.toDigits 16 g.toNat

theorem digitsOf_ne_nil (g : UInt16) : digitsOf g ≠ [] := Nat.toDigits_ne_nil

theorem group?_digitsOf (g : UInt16) : group? (digitsOf g) = some g := by
  have hlength : (digitsOf g).length ≤ 4 :=
    (Nat.length_toDigits_le_iff (by decide) (by decide)).mpr g.toNat_lt
  have hwhole : ¬((digitsOf g).isEmpty || decide (4 < (digitsOf g).length)) = true := by
    simp [digitsOf_ne_nil, hlength]
  obtain ⟨values, hvalues, hfold⟩ := Text.exists_values_toDigits g.toNat
  unfold group?
  rw [if_neg hwhole, digitsOf, hvalues, Option.map_some, hfold, UInt16.ofNat_toNat]

theorem mapM_group? (groups : List UInt16) : (groups.map digitsOf).mapM group? = some groups := by
  induction groups with
  | nil => rfl
  | cons g groups ih =>
    rw [List.map_cons, List.mapM_cons, group?_digitsOf, ih]
    rfl

namespace V6

/-! ## Plain text -/

/-- Whether all characters are digits and colons. -/
def IsPlain (cs : List Char) : Prop := ∀ c ∈ cs, c = ':' ∨ ∃ d < 16, c = d.digitChar

theorem IsPlain.not_mem {cs : List Char} (h : IsPlain cs) {c : Char} (hc : c ∈ ['/', '%', '.']) :
    c ∉ cs := by
  intro hmem
  have hcolon : ':' ∉ ['/', '%', '.'] := by decide
  have hdigit : ∀ d < 16, d.digitChar ∉ ['/', '%', '.'] := by decide
  obtain rfl | ⟨d, hd, rfl⟩ := h c hmem
  · exact hcolon hc
  · exact hdigit d hd hc

theorem colon_not_mem_digitsOf (g : UInt16) : ':' ∉ digitsOf g := by
  intro hmem
  have hdigit : ∀ d < 16, ':' ≠ d.digitChar := by decide
  obtain ⟨d, hd, heq⟩ := Text.exists_digit_of_mem hmem
  exact hdigit d hd heq

theorem toList_groupsText (groups : List UInt16) :
    (groupsText groups).toList = [':'].intercalate (groups.map digitsOf) := by
  unfold groupsText Text.join groupText Text.inBase
  rw [String.toList_intercalate, List.map_map]
  congr 1
  refine List.map_congr_left fun g _ => ?_
  exact String.toList_ofList

theorem isPlain_groupsText (groups : List UInt16) : IsPlain (groupsText groups).toList := by
  intro c hc
  rw [toList_groupsText] at hc
  induction groups with
  | nil => cases hc
  | cons g rest ih =>
    cases rest with
    | nil =>
      rw [List.map_singleton, List.intercalate_singleton] at hc
      exact .inr (Text.exists_digit_of_mem hc)
    | cons g' rest =>
      rw [List.map_cons, List.map_cons, List.intercalate_cons_cons, List.append_assoc,
        List.mem_append, List.singleton_append, List.mem_cons] at hc
      obtain hc | hc | hc := hc
      · exact .inr (Text.exists_digit_of_mem hc)
      · exact .inl hc
      · exact ih hc

/-- The parts that groups are read as: nothing between no colons is one empty part. -/
def side (groups : List UInt16) : List (List Char) :=
  if groups = [] then [[]] else groups.map digitsOf

theorem splitOn_groupsText (groups : List UInt16) :
    (groupsText groups).toList.splitOn ':' = side groups := by
  have hcolon : ∀ piece ∈ groups.map digitsOf, ':' ∉ piece := by
    intro piece hpiece
    obtain ⟨g, -, rfl⟩ := List.mem_map.mp hpiece
    exact colon_not_mem_digitsOf g
  rw [toList_groupsText]
  unfold side
  split
  · next hnone =>
    rw [hnone]
    rfl
  · next hsome => exact List.splitOn_intercalate ':' hcolon (mt List.map_eq_nil_iff.mp hsome)

theorem length_side_pos (groups : List UInt16) : 0 < (side groups).length := by
  unfold side
  split
  · exact Nat.one_pos
  · next hsome => exact List.length_pos_iff.mpr (mt List.map_eq_nil_iff.mp hsome)

theorem eq_nil_of_side {groups : List UInt16} {i : Nat} (h : (side groups)[i]? = some []) :
    i = 0 ∧ (side groups).length = 1 := by
  unfold side at h ⊢
  split
  · next hnone =>
    rw [if_pos hnone] at h
    obtain ⟨hi, -⟩ := List.getElem?_eq_some_iff.mp h
    exact ⟨Nat.lt_one_iff.mp hi, rfl⟩
  · next hsome =>
    rw [if_neg hsome] at h
    obtain ⟨g, -, hg⟩ := List.mem_map.mp (List.mem_of_getElem? h)
    exact absurd hg (digitsOf_ne_nil g)

/-! ## Reading -/

theorem parse?_of_isPlain {cs : List Char} (h : IsPlain cs) {parts : List (List Char)}
    (hparts : cs.splitOn ':' = parts) (hlength : 3 ≤ parts.length) :
    parse? cs = (ofParts? parts).bind fun groups => ofGroups? groups none := by
  have hslash : cs.contains '/' = false := by
    simpa using h.not_mem (c := '/') (by decide)
  have hscope : splitScope? cs = some (cs, none) := by
    have hpercent : ∀ c ∈ cs, (c == '%') = false := fun c hc =>
      beq_eq_false_iff_ne.mpr fun heq => h.not_mem (c := '%') (by decide) (heq ▸ hc)
    unfold splitScope?
    rw [show cs.splitOn '%' = [cs] from List.splitOnP_eq_singleton hpercent]
  have hwhole : parts? cs = some parts := by
    unfold parts?
    dsimp only
    rw [hparts, if_neg (Nat.not_lt.mpr hlength)]
    split
    · next last hlast =>
      have hpiece : last ∈ cs.splitOn ':' := hparts ▸ List.mem_of_getLast? hlast
      have hdot : last.contains '.' = false := by
        simpa using fun hmem => h.not_mem (c := '.') (by decide)
          (Text.mem_of_mem_splitOn hpiece hmem)
      rw [hdot]
      rfl
    · next hnone =>
      rw [List.getLast?_eq_none_iff.mp hnone] at hlength
      cases hlength
  unfold parse?
  rw [if_neg (by rw [hslash]; exact Bool.false_ne_true), hscope]
  show (parts? cs).bind _ = _
  rw [hwhole]
  rfl

theorem mem_gaps {parts : List (List Char)} {i : Nat} :
    i ∈ gaps parts ↔ 0 < i ∧ i + 1 < parts.length ∧ parts[i]? = some [] := by
  unfold gaps
  rw [List.mem_filter, List.mem_range, Bool.and_eq_true, Bool.and_eq_true, decide_eq_true_iff,
    decide_eq_true_iff, Option.any_eq_true]
  constructor
  · rintro ⟨-, ⟨hi, hlast⟩, piece, hpiece, hempty⟩
    rw [List.isEmpty_iff.mp hempty] at hpiece
    exact ⟨hi, hlast, hpiece⟩
  · rintro ⟨hi, hlast, hpiece⟩
    exact ⟨by omega, ⟨hi, hlast⟩, [], hpiece, rfl⟩

theorem ofParts?_whole {groups : List UInt16} (h : groups.length = 8) :
    ofParts? (side groups) = some groups := by
  have hlength : (side groups).length = 8 := by
    unfold side
    rw [if_neg (by rintro rfl; cases h), List.length_map, h]
  have hgaps : gaps (side groups) = [] := by
    refine List.eq_nil_iff_forall_not_mem.mpr fun i hi => ?_
    have hone := (eq_nil_of_side (mem_gaps.mp hi).2.2).2
    omega
  unfold ofParts?
  rw [if_neg (by omega), hgaps]
  dsimp only
  rw [if_pos hlength]
  unfold side
  rw [if_neg (by rintro rfl; cases h), mapM_group?]

theorem gaps_side (high low : List UInt16) :
    gaps (side high ++ [] :: side low) = [(side high).length] := by
  have hhigh := length_side_pos high
  have hlow := length_side_pos low
  have hmem (i : Nat) : i ∈ gaps (side high ++ [] :: side low) ↔ i = (side high).length := by
    rw [mem_gaps, List.length_append, List.length_cons]
    constructor
    · rintro ⟨hi, hlast, hempty⟩
      rcases Nat.lt_trichotomy i (side high).length with hlt | heq | hgt
      · rw [List.getElem?_append_left hlt] at hempty
        have hstart := (eq_nil_of_side hempty).1
        omega
      · exact heq
      · obtain ⟨k, rfl⟩ := Nat.exists_eq_add_of_lt hgt
        rw [List.getElem?_append_right (by omega),
          show (side high).length + k + 1 - (side high).length = k + 1 by omega,
          List.getElem?_cons_succ] at hempty
        have hend := eq_nil_of_side hempty
        omega
    · rintro rfl
      refine ⟨hhigh, by omega, ?_⟩
      rw [List.getElem?_append_right (Nat.le_refl _), Nat.sub_self]
      rfl
  have hnodup : (gaps (side high ++ [] :: side low)).Nodup := List.nodup_range.filter _
  exact List.perm_singleton.mp ((List.perm_ext_iff_of_nodup hnodup (List.nodup_singleton _)).mpr
    fun i => (hmem i).trans List.mem_singleton.symm)

theorem length_side (groups : List UInt16) : (side groups).length = max 1 groups.length := by
  unfold side
  split
  · next hnone =>
    rw [hnone]
    rfl
  · next hsome =>
    have hpos : 0 < groups.length := List.length_pos_iff.mpr hsome
    rw [List.length_map]
    omega

/-- Before a gap an empty part stands for no groups. -/
theorem before_gap (high : List UInt16) :
    (if (side high).head? == some [] then
        (if (side high).length = 1 then some [] else none)
      else some (side high)) = some (high.map digitsOf) := by
  cases high with
  | nil => rfl
  | cons g high =>
    have hne : ((side (g :: high)).head? == some []) = false :=
      beq_eq_false_iff_ne.mpr fun h => digitsOf_ne_nil g (Option.some.inj h)
    rw [hne]
    rfl

/-- Behind a gap an empty part stands for no groups. -/
theorem behind_gap (low : List UInt16) :
    (if (side low).getLast? == some [] then
        (if (side low).length = 1 then some [] else none)
      else some (side low)) = some (low.map digitsOf) := by
  cases low using List.reverseRecOn with
  | nil => rfl
  | append_singleton low g =>
    have hside : side (low ++ [g]) = low.map digitsOf ++ [digitsOf g] := by
      unfold side
      rw [if_neg (List.append_ne_nil_of_right_ne_nil low (List.cons_ne_nil g [])), List.map_append,
        List.map_singleton]
    have hne : ((side (low ++ [g])).getLast? == some []) = false := by
      rw [hside, List.getLast?_concat]
      exact beq_eq_false_iff_ne.mpr fun h => digitsOf_ne_nil g (Option.some.inj h)
    rw [hne, hside, List.map_append, List.map_singleton]
    rfl

/-- **Groups around a gap** are read as the groups with zeros between them. -/
theorem ofParts?_gap {high low : List UInt16} (h : high.length + low.length < 8) :
    ofParts? (side high ++ [] :: side low) =
      some (high ++ List.replicate (8 - high.length - low.length) 0 ++ low) := by
  have hfew : ¬9 < (side high ++ [] :: side low).length := by
    rw [List.length_append, List.length_cons, length_side, length_side]
    omega
  have hroom : ¬8 ≤ (high.map digitsOf).length + (low.map digitsOf).length := by
    rw [List.length_map, List.length_map]
    omega
  have hright : (side high ++ [] :: side low).drop ((side high).length + 1) = side low :=
    List.drop_length_add_append 1
  unfold ofParts?
  rw [if_neg hfew, gaps_side]
  dsimp only
  rw [List.take_left, hright, before_gap, behind_gap]
  dsimp only
  rw [if_neg hroom, mapM_group?, mapM_group?]

/-! ## Text with a gap, and text without -/

/-- **Text with a gap** is read as the groups with as many zeros in the gap as are missing. -/
theorem parse?_gap {high low : List UInt16} (h : high.length + low.length < 8)
    {groups : List UInt16}
    (hgroups : groups = high ++ List.replicate (8 - high.length - low.length) 0 ++ low) :
    parse? (groupsText high ++ "::" ++ groupsText low).toList = ofGroups? groups none := by
  have hplain : IsPlain (groupsText high ++ "::" ++ groupsText low).toList := by
    intro c hc
    rw [String.toList_append, String.toList_append, List.mem_append, List.mem_append] at hc
    obtain (hc | hc) | hc := hc
    · exact isPlain_groupsText high c hc
    · obtain rfl | rfl : c = ':' ∨ c = ':' := by simpa using hc
      · exact .inl rfl
      · exact .inl rfl
    · exact isPlain_groupsText low c hc
  have hparts : (groupsText high ++ "::" ++ groupsText low).toList.splitOn ':' =
      side high ++ [] :: side low := by
    have htext : (groupsText high ++ "::" ++ groupsText low).toList =
        (groupsText high).toList ++ ':' :: ([] ++ ':' :: (groupsText low).toList) := by
      rw [String.toList_append, String.toList_append, List.append_assoc]
      rfl
    have hcut (xs ys : List Char) : (xs ++ ':' :: ys).splitOn ':' =
        xs.splitOn ':' ++ ys.splitOn ':' := List.splitOnP_append_cons xs ys rfl
    rw [htext, hcut, hcut, splitOn_groupsText, splitOn_groupsText]
    rfl
  have hlength : 3 ≤ (side high ++ [] :: side low).length := by
    have hhigh := length_side_pos high
    have hlow := length_side_pos low
    rw [List.length_append, List.length_cons]
    omega
  rw [parse?_of_isPlain hplain hparts hlength, ofParts?_gap h, hgroups]
  rfl

theorem parse?_whole {groups : List UInt16} (h : groups.length = 8) :
    parse? (groupsText groups).toList = ofGroups? groups none := by
  have hlength : 3 ≤ (side groups).length := by
    rw [length_side]
    omega
  rw [parse?_of_isPlain (isPlain_groupsText groups) (splitOn_groupsText groups) hlength,
    ofParts?_whole h]
  rfl

/-! ## Runs of zeros -/

/-- Whether groups are zero from a position on for some length. -/
def IsZeroRun (groups : List UInt16) (start length : Nat) : Prop :=
  (groups.drop start).take length = List.replicate length 0

/-- Whether a run of zeros is the first of the longest ones. -/
structure IsFirstLongest (groups : List UInt16) (start length : Nat) : Prop where
  run : IsZeroRun groups start length
  longest : ∀ s l, IsZeroRun groups s l → l ≤ length
  first : ∀ s, IsZeroRun groups s length → start ≤ s

/-- The canonical form of groups: the first of the longest runs of two or more zeros is left out,
and nothing is left out if there is no such run. -/
inductive IsCanonical (groups : List UInt16) : String → Prop
  | whole (h : ∀ s l, IsZeroRun groups s l → l < 2) : IsCanonical groups (groupsText groups)
  | cut {start length : Nat} (h : IsFirstLongest groups start length) (hlong : 2 ≤ length) :
      IsCanonical groups
        (groupsText (groups.take start) ++ "::" ++ groupsText (groups.drop (start + length)))

theorem isZeroRun_iff {groups : List UInt16} {start length : Nat} :
    IsZeroRun groups start length ↔ length ≤ zeros (groups.drop start) := by
  unfold IsZeroRun zeros
  induction groups.drop start generalizing length with
  | nil => cases length <;> simp [List.replicate_succ]
  | cons g rest ih =>
    cases length with
    | zero => simp
    | succ length =>
      by_cases hg : g = 0
      · simp [hg, List.replicate_succ, ih]
      · simp [hg, List.replicate_succ]

theorem zeros_drop_of_le {groups : List UInt16} {s : Nat} (h : groups.length ≤ s) :
    zeros (groups.drop s) = 0 := by
  rw [List.drop_eq_nil_of_le h]
  rfl

/-- Whether a run of zeros is the first of the longest ones that start before a position. -/
structure IsBest (groups : List UInt16) (pos : Nat) (best : Nat × Nat) : Prop where
  before : best.1 ≤ pos
  run : best.2 ≤ zeros (groups.drop best.1)
  longest : ∀ s < pos, zeros (groups.drop s) ≤ best.2
  first : ∀ s < pos, 0 < best.2 → zeros (groups.drop s) = best.2 → best.1 ≤ s

theorem IsBest.step {groups : List UInt16} {pos : Nat} {best : Nat × Nat}
    (h : IsBest groups pos best) :
    IsBest groups (pos + 1) (if best.2 < zeros (groups.drop pos)
      then (pos, zeros (groups.drop pos)) else best) := by
  have hbefore := h.before
  split
  · next hlonger =>
    refine ⟨Nat.le_succ pos, Nat.le_refl _, fun s hs => ?_, fun s hs _ hsame => ?_⟩
    · obtain hs | rfl := Nat.lt_succ_iff_lt_or_eq.mp hs
      · exact (h.longest s hs).trans hlonger.le
      · exact Nat.le_refl _
    · obtain hs | rfl := Nat.lt_succ_iff_lt_or_eq.mp hs
      · exact absurd (hsame.ge.trans (h.longest s hs)) (Nat.not_le.mpr hlonger)
      · exact Nat.le_refl _
  · next hshorter =>
    refine ⟨by omega, h.run, fun s hs => ?_, fun s hs hpos hsame => ?_⟩
    · obtain hs | rfl := Nat.lt_succ_iff_lt_or_eq.mp hs
      · exact h.longest s hs
      · exact Nat.not_lt.mp hshorter
    · obtain hs | rfl := Nat.lt_succ_iff_lt_or_eq.mp hs
      · exact h.first s hs hpos hsame
      · exact hbefore

theorem isBest_longestRun {groups rest : List UInt16} {pos : Nat} {best : Nat × Nat}
    (h : IsBest groups pos best) (hrest : groups.drop pos = rest) :
    IsBest groups (pos + rest.length) (longestRun pos best rest) := by
  induction rest generalizing pos best with
  | nil => exact h
  | cons g rest ih =>
    have hnext : groups.drop (pos + 1) = rest := by
      rw [← List.drop_drop, hrest]
      rfl
    have hstep := ih h.step hnext
    rw [hrest] at hstep
    rw [List.length_cons, show pos + (rest.length + 1) = pos + 1 + rest.length by omega]
    exact hstep

/-- **The run that is found** is the first of the longest ones, if there is any. -/
theorem isFirstLongest_longestRun {groups : List UInt16} {start length : Nat}
    (h : longestRun 0 (0, 0) groups = (start, length)) :
    (0 < length → IsFirstLongest groups start length) ∧
      ∀ s l, IsZeroRun groups s l → l ≤ length := by
  have hnone : IsBest groups 0 (0, 0) := ⟨Nat.le_refl 0, Nat.zero_le _, nofun, nofun⟩
  have hbest := isBest_longestRun hnone (List.drop_zero)
  rw [h, Nat.zero_add] at hbest
  have hlongest (s l : Nat) (hrun : IsZeroRun groups s l) : l ≤ length := by
    rw [isZeroRun_iff] at hrun
    by_cases hs : s < groups.length
    · exact hrun.trans (hbest.longest s hs)
    · rw [zeros_drop_of_le (Nat.not_lt.mp hs)] at hrun
      omega
  refine ⟨fun hpos => ⟨isZeroRun_iff.mpr hbest.run, hlongest, fun s hrun => ?_⟩, hlongest⟩
  have hle := isZeroRun_iff.mp hrun
  by_cases hs : s < groups.length
  · exact hbest.first s hs hpos (Nat.le_antisymm (hbest.longest s hs) hle)
  · rw [zeros_drop_of_le (Nat.not_lt.mp hs)] at hle
    omega

theorem isCanonical_compressed (groups : List UInt16) : IsCanonical groups (compressed groups) := by
  unfold compressed
  rcases hrun : longestRun 0 (0, 0) groups with ⟨start, length⟩
  obtain ⟨hfirst, hlongest⟩ := isFirstLongest_longestRun hrun
  dsimp only
  split
  · next hshort => exact .whole fun s l h => (hlongest s l h).trans_lt hshort
  · next hlong => exact .cut (hfirst (by omega)) (Nat.not_lt.mp hlong)

theorem IsZeroRun.le {groups : List UInt16} {start length : Nat} (h : IsZeroRun groups start length)
    (hpos : 0 < length) : start + length ≤ groups.length := by
  have hlength := congrArg List.length h
  rw [List.length_take, List.length_drop, List.length_replicate] at hlength
  omega

/-- The groups around a run of zeros, with the zeros put back. -/
theorem IsZeroRun.eq {groups : List UInt16} {start length : Nat}
    (h : IsZeroRun groups start length) :
    groups = groups.take start ++ List.replicate length 0 ++ groups.drop (start + length) := by
  rw [← h, ← List.drop_drop, List.append_assoc, List.take_append_drop, List.take_append_drop]

/-- **A canonical form is read** as the groups that it stands for. -/
theorem parse?_of_isCanonical {groups : List UInt16} {text : String} (hlength : groups.length = 8)
    (h : IsCanonical groups text) : parse? text.toList = ofGroups? groups none := by
  cases h with
  | whole _ => exact parse?_whole hlength
  | @cut start length hrun hlong =>
    have hwithin := hrun.run.le (by omega)
    refine parse?_gap ?_ ?_
    · rw [List.length_take, List.length_drop]
      omega
    · have hmissing :
          8 - (groups.take start).length - (groups.drop (start + length)).length = length := by
        rw [List.length_take, List.length_drop]
        omega
      rw [hmissing]
      exact hrun.run.eq

theorem text_of_no_scope {x : V6} (h : x.scope = none) : x.text = compressed x.groups := by
  unfold text
  rw [h]
  exact String.append_empty

/-- **Reading undoes writing** for every address that names no scope. -/
theorem parse?_text {x : V6} (h : x.scope = none) : parse? x.text.toList = some x := by
  rw [text_of_no_scope h, parse?_of_isCanonical x.eight (isCanonical_compressed x.groups)]
  obtain ⟨groups, scope, height⟩ := x
  obtain rfl : scope = none := h
  exact dif_pos height

end V6

end Honeypot.Address
