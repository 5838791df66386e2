import Honeypot.Proofs.Resolution
import Honeypot.Shell.Search

/-!
# How found places are shown

A search shows what it finds behind the text at which it began. Two things hold of a place that is
shown in that way if the text leads to another place than the root: the names below the beginning
stand behind the text as it was typed, and the whole is resolved to the place. From the root places
are shown by their own texts, however the root was typed (`displayPath_below`).
-/

namespace Honeypot

/-! ## Slashes at the end of a text -/

namespace Text

variable {drops : Char → Bool} {cs : List Char}

theorem exists_append_dropEnd (drops : Char → Bool) (cs : List Char) :
    ∃ more, cs = dropEnd drops cs ++ more ∧ ∀ c ∈ more, drops c = true := by
  refine ⟨(cs.reverse.takeWhile drops).reverse, ?_, fun c hc => ?_⟩
  · unfold dropEnd
    rw [← List.reverse_append, List.takeWhile_append_dropWhile, List.reverse_reverse]
  · exact List.mem_takeWhile_imp (List.mem_reverse.mp hc)

end Text

namespace Shell

open Honeypot.Path

variable {cwd home start : String} {below : Path}

/-- A typed text without the slashes at its end. -/
def stem (start : String) : String := Text.trimEnd (· == '/') start

/-- The names below a place behind the text that was typed for it. Slashes at the end of the text do
not count, and a text of nothing else stands for the root. -/
def shownBelow (start : String) (below : Path) : String :=
  if below = [] then if stem start = "" then "/" else stem start
  else stem start ++ below.text

theorem exists_stem_append (start : String) :
    ∃ slashes : String, start = stem start ++ slashes ∧ ∀ c ∈ slashes.toList, c = '/' := by
  obtain ⟨slashes, hall, hslashes⟩ := Text.exists_append_dropEnd (· == '/') start.toList
  refine ⟨String.ofList slashes, ?_, fun c hc => ?_⟩
  · refine String.toList_inj.mp (hall.trans ?_)
    unfold stem Text.trimEnd
    rw [String.toList_append, String.toList_ofList, String.toList_ofList]
  · rw [String.toList_ofList] at hc
    exact beq_iff_eq.mp (hslashes c hc)

theorem head?_of_slashes {slashes : String} (hne : slashes ≠ "")
    (h : ∀ c ∈ slashes.toList, c = '/') : slashes.toList.head? = some '/' := by
  cases hall : slashes.toList with
  | nil => exact absurd (String.toList_eq_nil_iff.mp hall) hne
  | cons c rest =>
    rw [h c (hall ▸ List.mem_cons_self)]
    rfl

theorem resolve_of_stem_eq (hstart : start ≠ "") (hstem : stem start = "") :
    resolve cwd home start = [] := by
  obtain ⟨slashes, hall, hslashes⟩ := exists_stem_append start
  rw [hstem, String.empty_append] at hall
  subst hall
  obtain ⟨rest, hrest⟩ := List.head?_eq_some_iff.mp (head?_of_slashes hstart hslashes)
  rw [resolve_eq_walk, hrest, expanded_of_slash, ← hrest]
  exact walk_slashes root hslashes

theorem eq_tilde_of_stem_eq (hstem : stem start = "~") (hbase : resolve cwd "" start ≠ []) :
    start = "~" := by
  obtain ⟨slashes, hall, hslashes⟩ := exists_stem_append start
  rw [hstem] at hall
  by_cases hne : slashes = ""
  · rw [hall, hne, String.append_empty]
  · refine absurd ?_ hbase
    rw [hall, resolve_append_homeless cwd (head?_of_slashes hne hslashes)]
    exact walk_slashes root hslashes

/-- Slashes at the end of a text make no difference to where it leads, unless they make it lead to
the root. -/
theorem resolve_stem (hbase : resolve cwd home start ≠ []) :
    resolve cwd home (stem start) = resolve cwd home start := by
  obtain ⟨slashes, hall, hslashes⟩ := exists_stem_append start
  by_cases hne : slashes = ""
  · rw [hne, String.append_empty] at hall
    exact congrArg (resolve cwd home) hall.symm
  · have hstem : stem start ≠ "" := fun hstem => by
      have hstart : start ≠ "" := fun hstart => by
        rw [hstem, String.empty_append] at hall
        exact hne (hall.symm.trans hstart)
      exact hbase (resolve_of_stem_eq hstart hstem)
    have hhome : stem start = "~" → home ≠ "" := by
      rintro htilde rfl
      rw [htilde, eq_tilde_of_stem_eq htilde hbase] at hall
      exact hne ((String.append_right_inj "~").mp (hall.symm.trans String.append_empty.symm))
    have happend := resolve_append_walk cwd hstem (head?_of_slashes hne hslashes) hhome
    rw [← hall, walk_slashes _ hslashes] at happend
    exact happend.symm

/-! ## Shown places -/

theorem ofList_chars (h : below ≠ []) : String.ofList below.chars = below.text := by
  rw [← toList_text h, String.ofList_toList]

theorem displayPath_root (start : String) (p : Path) :
    displayPath start (text []) p.text = p.text := by
  obtain ⟨rest, hrest⟩ := List.head?_eq_some_iff.mp (head?_text p)
  have hwhole : p.text = String.ofList ('/' :: rest) := by rw [← hrest, String.ofList_toList]
  have hdrop : Text.drop p.text 1 = String.ofList rest := by
    unfold Text.drop
    rw [hrest]
    rfl
  have hroot : text [] = "/" := rfl
  unfold displayPath
  rw [if_pos hroot]
  dsimp only
  rw [hdrop, hwhole]
  cases rest with
  | nil => rfl
  | cons c rest =>
    rw [if_neg (by simp)]
    refine String.toList_inj.mp ?_
    rw [String.toList_append, String.toList_ofList, String.toList_ofList, String.toList_ofList]
    rfl

/-- From elsewhere a place is shown by the names below the beginning, behind what was typed. -/
theorem displayPath_below {base : Path} (hbase : base.IsCanonical) (hne : base ≠ [])
    (hstart : start ≠ "/") (below : Path) :
    displayPath start base.text (base ++ below).text =
      stem start ++ String.ofList below.chars := by
  have hdrop : Text.drop (base ++ below).text base.text.length = String.ofList below.chars := by
    have hchars : (base ++ below).chars = base.chars ++ below.chars := List.flatMap_append
    unfold Text.drop
    rw [← String.length_toList, toList_text hne,
      toList_text (List.append_ne_nil_of_left_ne_nil hne below), hchars, List.drop_left]
  unfold displayPath
  rw [if_neg (text_ne_slash hbase hne), if_neg hstart, hdrop]
  rfl

theorem stem_ne_slash (start : String) : stem start ≠ "/" := by
  intro hslash
  have hlast : (Text.dropEnd (· == '/') start.toList).getLast? = some '/' := by
    have hall : Text.dropEnd (· == '/') start.toList = "/".toList := by
      rw [← hslash]
      exact (String.toList_ofList ..).symm
    rw [hall]
    rfl
  have hnot := List.head?_dropWhile_not (· == '/') start.toList.reverse
  unfold Text.dropEnd at hlast
  rw [List.getLast?_reverse] at hlast
  rw [hlast] at hnot
  cases hnot

theorem shownBelow_root (start : String) (below : Path) :
    below.text = shownBelow start below ↔ stem start = "" := by
  unfold shownBelow
  by_cases hbelow : below = []
  · rw [if_pos hbelow, hbelow]
    show "/" = _ ↔ _
    split
    · next hstem => exact iff_of_true rfl hstem
    · next hstem => exact iff_of_false (stem_ne_slash start).symm hstem
  · rw [if_neg hbelow]
    constructor
    · intro h
      have hchars := congrArg String.toList h
      rw [String.toList_append, List.self_eq_append_left] at hchars
      exact String.toList_eq_nil_iff.mp hchars
    · intro h
      rw [h, String.empty_append]

/-- Names behind no text at all, or behind a tilde that stands for nothing, lead down from the
root. -/
theorem resolve_stem_append_root (cwd : String) (h : start = "" ∨ start = "~" ∧ home = "")
    (hbelow : below.IsCanonical) :
    resolve cwd home (stem start ++ below.text) = below := by
  obtain rfl | ⟨rfl, rfl⟩ := h
  · show resolve cwd home ("" ++ below.text) = below
    rw [String.empty_append, resolve_text hbelow]
  · have hstem : stem "~" = "~" := by decide
    rw [hstem, resolve_append_homeless cwd (head?_text below), walk_text hbelow]

section Below

variable {base : Path} (hbase : resolve cwd home start = base) (hne : base ≠ [])
include hbase hne

theorem stem_eq_iff : stem start = "" ↔ start = "" := by
  constructor
  · intro hstem
    by_contra hstart
    exact hne (hbase.symm.trans (resolve_of_stem_eq hstart hstem))
  · rintro rfl
    rfl

theorem shownBelow_iff (below : Path) :
    stem start ++ String.ofList below.chars = shownBelow start below ↔
      (start = "" → below ≠ []) := by
  unfold shownBelow
  by_cases hbelow : below = []
  · rw [if_pos hbelow, hbelow]
    show stem start ++ "" = _ ↔ _
    rw [String.append_empty]
    split
    · next hstem =>
      have hstart := (stem_eq_iff hbase hne).mp hstem
      rw [hstem]
      exact iff_of_false (by decide) fun h => h hstart rfl
    · next hstem => exact iff_of_true rfl fun h _ => hstem ((stem_eq_iff hbase hne).mpr h)
  · rw [if_neg hbelow, ofList_chars hbelow]
    exact iff_of_true rfl fun _ => hbelow

theorem resolve_stem_append (hstart : start ≠ "") (hhome : start = "~" → home ≠ "")
    (hbelow : below.IsCanonical) (hnil : below ≠ []) :
    resolve cwd home (stem start ++ below.text) = base ++ below := by
  subst hbase
  have hstem : stem start ≠ "" := mt (stem_eq_iff rfl hne).mp hstart
  have htilde : stem start = "~" → home ≠ "" := by
    rintro htilde rfl
    exact hhome (eq_tilde_of_stem_eq htilde hne) rfl
  rw [resolve_append_walk cwd hstem (head?_text below) htilde, resolve_stem hne, toList_text hnil,
    walk_chars _ hbelow]

theorem resolve_shown_iff (hbelow : below.IsCanonical) :
    resolve cwd home (stem start ++ String.ofList below.chars) = base ++ below ↔
      (below ≠ [] → start ≠ "" ∧ (start = "~" → home ≠ "")) := by
  by_cases hnil : below = []
  · subst hnil
    refine iff_of_true ?_ fun h => absurd rfl h
    show resolve cwd home (stem start ++ "") = _
    subst hbase
    rw [String.append_empty, List.append_nil, resolve_stem hne]
  · rw [ofList_chars hnil]
    by_cases htyped : start ≠ "" ∧ (start = "~" → home ≠ "")
    · exact iff_of_true (resolve_stem_append hbase hne htyped.1 htyped.2 hbelow hnil)
        fun _ => htyped
    · refine iff_of_false ?_ fun h => htyped (h hnil)
      have hodd : start = "" ∨ start = "~" ∧ home = "" := by
        rwa [not_and_or, not_not, Classical.not_imp, not_not] at htyped
      rw [resolve_stem_append_root cwd hodd hbelow, List.self_eq_append_left]
      exact hne

end Below

/-- **A search shows places as its beginning was typed**, with the names below the beginning behind
the typed text, except from the root if that was typed otherwise than with slashes. What it shows
leads back to the place, except below another place than the root if its beginning was typed as a
tilde that stands for nothing. (A beginning that was typed with no text at all is an exception to
both.) -/
theorem displayPath_faithful_iff (cwd home start : String) {below : Path}
    (hbelow : below.IsCanonical) :
    let base := resolve cwd home start
    (displayPath start base.text (base ++ below).text = shownBelow start below ↔
      if base = [] then stem start = "" else start = "" → below ≠ []) ∧
    (resolve cwd home (displayPath start base.text (base ++ below).text) = base ++ below ↔
      (base ≠ [] → below ≠ [] → start ≠ "" ∧ (start = "~" → home ≠ ""))) := by
  intro base
  have hbase : resolve cwd home start = base := rfl
  by_cases hne : base = []
  · rw [hne, List.nil_append, displayPath_root, if_pos rfl]
    exact ⟨shownBelow_root start below, iff_of_true (resolve_text hbelow cwd home)
      fun h => absurd rfl h⟩
  · have hstart : start ≠ "/" := by
      rintro rfl
      exact hne (resolve_text isCanonical_nil cwd home)
    rw [displayPath_below (isCanonical_resolve cwd home start) hne hstart, if_neg hne]
    exact ⟨shownBelow_iff hbase hne below,
      (resolve_shown_iff hbase hne hbelow).trans (imp_iff_right hne).symm⟩

theorem displayPath_faithful_iff_example :
    IsCanonical ["apt", "term.log"] ∧
    displayPath "../log//" "/var/log" "/var/log/apt/term.log" = "../log/apt/term.log" ∧
    (resolve "/var/www" "/root" "../log/apt/term.log").text = "/var/log/apt/term.log" := by
  have hbelow : IsCanonical ["apt", "term.log"] := by decide
  have hbase : resolve "/var/www" "/root" "../log//" = ["var", "log"] := by decide
  obtain ⟨hform, hback⟩ := displayPath_faithful_iff "/var/www" "/root" "../log//" hbelow
  rw [hbase] at hform hback
  have hne : ¬["var", "log"] = ([] : Path) := by decide
  rw [if_neg hne] at hform
  have hshown := hform.mpr (by decide)
  have hplace := hback.mpr (by decide)
  have htyped : shownBelow "../log//" ["apt", "term.log"] = "../log/apt/term.log" := by decide
  rw [hshown, htyped] at hplace
  exact ⟨hbelow, hshown.trans htyped, congrArg Path.text hplace⟩

/-- From the root a search that began at a dot does not show the dot. -/
theorem displayPath_forgets_dot :
    resolve "/" "/root" "." = [] ∧
    displayPath "." (resolve "/" "/root" ".").text (Path.text ["etc", "hostname"]) =
      "/etc/hostname" ∧
    shownBelow "." ["etc", "hostname"] = "./etc/hostname" := by
  decide

end Shell
end Honeypot
