import Honeypot.Path
import Honeypot.Proofs.Words

/-!
# Canonical paths

A path is canonical if each of its names stands for itself. Resolving leads to canonical paths only
(`isCanonical_resolve`), and the text of a canonical path leads back to the path wherever it is
resolved (`resolve_text`).
-/

namespace Honeypot

/-! ## Pieces of texts -/

theorem not_mem_of_mem_splitOn {sep : Char} {cs piece : List Char}
    (h : piece ∈ cs.splitOn sep) : sep ∉ piece := fun hmem =>
  beq_eq_false_iff_ne.mp (Text.of_mem_splitOnP h hmem) rfl

theorem cutLast_of_not_mem {sep : Char} {cs : List Char} (h : sep ∉ cs) :
    Text.cutLast sep cs = none := by
  induction cs with
  | nil => rfl
  | cons c cs ih =>
    obtain ⟨hc, hcs⟩ := List.ne_and_not_mem_of_not_mem_cons h
    unfold Text.cutLast
    rw [ih hcs]
    exact if_neg (Ne.symm hc)

theorem cutLast_append {sep : Char} {right : List Char} (h : sep ∉ right) (left : List Char) :
    Text.cutLast sep (left ++ sep :: right) = some (left, right) := by
  induction left with
  | nil =>
    show Text.cutLast sep (sep :: right) = _
    unfold Text.cutLast
    rw [cutLast_of_not_mem h]
    exact if_pos rfl
  | cons c left ih =>
    show Text.cutLast sep (c :: (left ++ sep :: right)) = _
    unfold Text.cutLast
    rw [ih]

theorem not_mem_of_cutLast {sep : Char} {cs : List Char} :
    (Text.cutLast sep cs = none → sep ∉ cs) ∧
      ∀ left right, Text.cutLast sep cs = some (left, right) → sep ∉ right := by
  induction cs with
  | nil => exact ⟨fun _ => List.not_mem_nil, fun left right h => nomatch h⟩
  | cons c cs ih =>
    rw [Text.cutLast]
    cases hcut : Text.cutLast sep cs with
    | some parts =>
      refine ⟨nofun, fun left right h => ?_⟩
      obtain ⟨-, rfl⟩ := Prod.mk.inj (Option.some.inj h)
      exact ih.2 _ _ hcut
    | none =>
      dsimp only
      split
      · refine ⟨nofun, fun left right h => ?_⟩
        obtain ⟨-, rfl⟩ := Prod.mk.inj (Option.some.inj h)
        exact ih.1 hcut
      · next hc =>
        exact ⟨fun _ => List.not_mem_cons_of_ne_of_not_mem (Ne.symm hc) (ih.1 hcut), nofun⟩

theorem not_mem_afterLast (sep : Char) (s : String) : sep ∉ (Text.afterLast sep s).toList := by
  unfold Text.afterLast
  split
  · next left right hcut =>
    rw [String.toList_ofList]
    exact not_mem_of_cutLast.2 left right hcut
  · next hcut => exact not_mem_of_cutLast.1 hcut

namespace Path

/-! ## Names and canonical paths -/

/-- A text that stands for itself as a part of a path. -/
def IsName (name : String) : Prop :=
  name ≠ "" ∧ name ≠ "." ∧ name ≠ ".." ∧ '/' ∉ name.toList

instance : DecidablePred IsName := fun _ => inferInstanceAs (Decidable (_ ∧ _))

/-- A path all of whose names stand for themselves. -/
def IsCanonical (p : Path) : Prop := ∀ name ∈ p, IsName name

instance : DecidablePred IsCanonical :=
  fun p => inferInstanceAs (Decidable (∀ name ∈ p, IsName name))

theorem isCanonical_nil : IsCanonical [] := fun _ h => nomatch h

theorem isCanonical_append {p q : Path} : IsCanonical (p ++ q) ↔ IsCanonical p ∧ IsCanonical q :=
  List.forall_mem_append

theorem isCanonical_parent {p : Path} (h : IsCanonical p) : IsCanonical p.parent :=
  fun name hname => h name (List.dropLast_subset p hname)

theorem parent_append_name {p : Path} (h : p ≠ []) : p.parent ++ [p.name] = p := by
  unfold parent name
  rw [List.getLast?_eq_some_getLast h, Option.getD_some]
  exact List.dropLast_concat_getLast h

theorem parent_append (p : Path) (name : String) : Path.parent (p ++ [name]) = p :=
  List.dropLast_concat

theorem name_append (p : Path) (name : String) : Path.name (p ++ [name]) = name := by
  unfold Path.name
  rw [List.getLast?_concat, Option.getD_some]

/-! ## Resolution -/

theorem step_of_isName {name : String} (h : IsName name) (p : Path) :
    step p name = p ++ [name] := by
  obtain ⟨hempty, hdot, hup, _⟩ := h
  unfold step
  rw [if_neg, if_neg hup]
  simpa only [Bool.or_eq_true, decide_eq_true_eq, not_or] using ⟨hempty, hdot⟩

theorem foldl_step_of_isCanonical {names : List String} (h : IsCanonical names) (p : Path) :
    names.foldl step p = p ++ names := by
  induction names generalizing p with
  | nil => exact (List.append_nil p).symm
  | cons name names ih =>
    obtain ⟨hname, hnames⟩ := List.forall_mem_cons.mp h
    rw [List.foldl_cons, step_of_isName hname, ih hnames, List.append_assoc]
    rfl

theorem isCanonical_step {p : Path} (hp : IsCanonical p) {part : String}
    (hpart : '/' ∉ part.toList) : IsCanonical (step p part) := by
  unfold step
  split
  · exact hp
  · next hstay =>
    split
    · exact isCanonical_parent hp
    · next hup =>
      simp only [Bool.or_eq_true, decide_eq_true_eq, not_or] at hstay
      refine isCanonical_append.mpr ⟨hp, List.forall_mem_singleton.mpr ?_⟩
      exact ⟨hstay.1, hstay.2, hup, hpart⟩

theorem isCanonical_foldl_step {parts : List String} (hparts : ∀ part ∈ parts, '/' ∉ part.toList)
    {p : Path} (hp : IsCanonical p) : IsCanonical (parts.foldl step p) := by
  induction parts generalizing p with
  | nil => exact hp
  | cons part parts ih =>
    obtain ⟨hpart, hrest⟩ := List.forall_mem_cons.mp hparts
    exact ih hrest (isCanonical_step hp hpart)

theorem isCanonical_resolve (cwd home path : String) : IsCanonical (resolve cwd home path) := by
  refine isCanonical_foldl_step (fun part hpart => ?_) isCanonical_nil
  obtain ⟨piece, hpiece, rfl⟩ := List.mem_map.mp hpart
  rw [String.toList_ofList]
  exact not_mem_of_mem_splitOn hpiece

/-! ## Texts -/

/-- The names of a path, a slash before each. -/
def chars (p : Path) : List Char := p.flatMap fun name => '/' :: name.toList

theorem chars_append (p : Path) (name : String) :
    chars (p ++ [name]) = chars p ++ '/' :: name.toList := by
  unfold chars
  rw [List.flatMap_append]
  exact congrArg _ (List.append_nil _)

theorem toList_text {p : Path} (h : p ≠ []) : p.text.toList = p.chars := by
  cases p with
  | nil => exact absurd rfl h
  | cons name names =>
    unfold text chars
    rw [String.toList_join, List.flatMap_map]
    exact congrArg (List.flatMap · _) (funext fun name => String.toList_append)

theorem splitOn_chars {p : Path} (hp : IsCanonical p) {head : List Char} (hhead : '/' ∉ head) :
    (head ++ p.chars).splitOn '/' = head :: p.map String.toList := by
  induction p generalizing head with
  | nil =>
    show (head ++ []).splitOn '/' = [head]
    rw [List.append_nil, List.splitOn_eq_singleton hhead]
  | cons name p ih =>
    obtain ⟨hname, hrest⟩ := List.forall_mem_cons.mp hp
    show (head ++ '/' :: (name.toList ++ chars p)).splitOn '/' = _
    rw [List.splitOn_append_cons_self_of_not_mem hhead, ih hrest hname.2.2.2]
    rfl

theorem expanded_of_slash (cwd home cs : List Char) :
    expanded cwd home ('/' :: cs) = '/' :: cs := by
  have htilde : (decide ('/' :: cs = ['~']) || ['~', '/'].isPrefixOf ('/' :: cs)) = false := by
    rw [Bool.or_eq_false_iff]
    refine ⟨decide_eq_false fun h => ?_, rfl⟩
    cases h
  unfold expanded
  rw [List.isEmpty_cons, if_neg Bool.false_ne_true]
  dsimp only
  rw [htilde, if_neg Bool.false_ne_true]
  exact if_pos rfl

theorem resolve_text {p : Path} (hp : IsCanonical p) (cwd home : String) :
    resolve cwd home p.text = p := by
  unfold resolve
  cases p with
  | nil =>
    have htext : (text []).toList = '/' :: [] := rfl
    rw [htext, expanded_of_slash]
    rfl
  | cons name names =>
    have htext : (text (name :: names)).toList = '/' :: (name.toList ++ chars names) :=
      toList_text (List.cons_ne_nil _ _)
    have hparts : ('/' :: (name.toList ++ chars names)).splitOn '/' =
        [] :: (name :: names).map String.toList := splitOn_chars hp List.not_mem_nil
    have hnames : ((name :: names).map String.toList).map String.ofList = name :: names := by
      rw [List.map_map]
      exact List.map_id'' (fun s => String.ofList_toList) _
    rw [htext, expanded_of_slash, hparts, List.map_cons, hnames, List.foldl_cons]
    exact foldl_step_of_isCanonical hp root

theorem isName_name {p : Path} (hp : IsCanonical p) (h : p ≠ []) : IsName p.name := by
  rw [← parent_append_name h] at hp
  exact List.forall_mem_singleton.mp (isCanonical_append.mp hp).2

theorem cutLast_text {p : Path} (hp : IsCanonical p) (h : p ≠ []) :
    Text.cutLast '/' p.text.toList = some (p.parent.chars, p.name.toList) := by
  rw [toList_text h, ← parent_append_name h, chars_append,
    cutLast_append (isName_name hp h).2.2.2, parent_append, name_append]

theorem text_ne_slash {p : Path} (hp : IsCanonical p) (h : p ≠ []) : p.text ≠ "/" := by
  intro hroot
  have hcut := cutLast_text hp h
  rw [hroot] at hcut
  have hname : p.name.toList = [] := (Prod.mk.inj (Option.some.inj hcut)).2.symm
  exact (isName_name hp h).1 (String.toList_eq_nil_iff.mp hname)

theorem nameText_text {p : Path} (hp : IsCanonical p) (h : p ≠ []) : nameText p.text = p.name := by
  unfold nameText Text.afterLast
  rw [if_neg (text_ne_slash hp h), cutLast_text hp h]
  exact String.ofList_toList

theorem parentText_text {p : Path} (hp : IsCanonical p) (h : p ≠ []) :
    parentText p.text = p.parent.text := by
  unfold parentText
  rw [cutLast_text hp h]
  cases hparent : p.parent with
  | nil => rfl
  | cons name names =>
    show String.ofList ('/' :: (name.toList ++ chars names)) = _
    rw [← String.ofList_toList (s := text _), toList_text (List.cons_ne_nil _ _)]
    rfl

end Path
end Honeypot
