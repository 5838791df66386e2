import Honeypot.Proofs.Path

/-!
# Resolution

Resolving a text walks along its parts. A walk along a text that has a slash in it is a walk along
what is before the slash and then one along what is behind it (`walk_append`), so a text is
resolved piece by piece (`resolve_append`): what is behind the slash is resolved in the directory
that is before it.

Pieces differ from the whole in one case only. A tilde stands for nothing if there is no home
directory, and then the slash behind the tilde is the first character of the whole.
-/

namespace Honeypot.Path

/-! ## Texts of places -/

/-- Whether a text is that of a place: a single slash for the root, or names that stand for
themselves with a slash before each. -/
def IsPlaceText (t : String) : Prop :=
  t = "/" ∨ ∃ names : List String, names ≠ [] ∧ (∀ name ∈ names, IsName name) ∧
    t = String.join (names.map ("/" ++ ·))

theorem isPlaceText_text {p : Path} (hp : IsCanonical p) : IsPlaceText p.text := by
  cases p with
  | nil => exact .inl rfl
  | cons name names => exact .inr ⟨name :: names, List.cons_ne_nil _ _, hp, rfl⟩

theorem head?_text (p : Path) : p.text.toList.head? = some '/' := by
  cases p with
  | nil => rfl
  | cons name names =>
    rw [toList_text (List.cons_ne_nil name names)]
    rfl

/-! ## Walks -/

/-- Where a walk along the parts of a text leads. -/
def walk (p : Path) (cs : List Char) : Path :=
  ((cs.splitOn '/').map String.ofList).foldl step p

theorem resolve_eq_walk (cwd home path : String) :
    resolve cwd home path = walk root (expanded cwd.toList home.toList path.toList) := rfl

/-- **A walk goes on behind a slash** from where it is. -/
theorem walk_append (p : Path) (front back : List Char) :
    walk p (front ++ '/' :: back) = walk (walk p front) back := by
  have hparts : (front ++ '/' :: back).splitOn '/' = front.splitOn '/' ++ back.splitOn '/' :=
    List.splitOnP_append_cons front back (beq_self_eq_true '/')
  unfold walk
  rw [hparts, List.map_append, List.foldl_append]

theorem walk_nil (p : Path) : walk p [] = p := rfl

/-! ## What a text leaves out -/

section Expanded

variable {cwd home a b : List Char}

theorem expanded_nil (cwd home : List Char) : expanded cwd home [] = expanded cwd home cwd := by
  have hcwd : (if cwd.isEmpty then cwd else cwd) = cwd := ite_self cwd
  unfold expanded
  rw [hcwd]
  rfl

/-- Whether a text begins with a tilde as a part of its own. -/
def startsAtHome (cs : List Char) : Bool := decide (cs = ['~']) || ['~', '/'].isPrefixOf cs

/-- A text in a directory, which makes no difference to a text with a leading slash. -/
def within (dir cs : List Char) : List Char :=
  if cs.head? = some '/' then cs else dir ++ '/' :: cs

theorem expanded_of_ne_nil (ha : a ≠ []) :
    expanded cwd home a = within cwd (if startsAtHome a then home ++ a.drop 1 else a) := by
  have hempty : a.isEmpty = false := Bool.eq_false_iff.mpr (mt List.isEmpty_iff.mp ha)
  unfold expanded
  rw [hempty, if_neg Bool.false_ne_true]
  rfl

theorem startsAtHome_append (ha : a ≠ []) (b : List Char) :
    startsAtHome (a ++ '/' :: b) = startsAtHome a := by
  unfold startsAtHome
  match a with
  | [] => exact absurd rfl ha
  | [c] => simp [List.isPrefixOf, Bool.beq_eq_decide_eq, eq_comm]
  | c :: d :: rest => simp [List.isPrefixOf]

theorem eq_tilde_of_startsAtHome (h : startsAtHome a = true) (hdrop : a.drop 1 = []) :
    a = ['~'] := by
  match a with
  | [] => cases h
  | [c] => simpa [startsAtHome] using h

theorem within_append {dir front : List Char} (hfront : front ≠ []) (b : List Char) :
    within dir (front ++ '/' :: b) = within dir front ++ '/' :: b := by
  unfold within
  rw [List.head?_append, Option.or_of_isSome (List.isSome_head?.mpr hfront)]
  split
  · rfl
  · rw [List.append_assoc, List.cons_append]

/-- **What a text leaves out is left out by its first piece**, unless that is a tilde which stands
for nothing. -/
theorem expanded_append (ha : a ≠ []) (hhome : a = ['~'] → home ≠ []) (b : List Char) :
    expanded cwd home (a ++ '/' :: b) = expanded cwd home a ++ '/' :: b := by
  have hwhole : a ++ '/' :: b ≠ [] := List.append_ne_nil_of_right_ne_nil a (List.cons_ne_nil _ b)
  rw [expanded_of_ne_nil ha, expanded_of_ne_nil hwhole, startsAtHome_append ha]
  split
  · next htilde =>
    have hdrop : (a ++ '/' :: b).drop 1 = a.drop 1 ++ '/' :: b :=
      List.drop_append_of_le_length (List.length_pos_iff.mpr ha)
    rw [hdrop, ← List.append_assoc]
    refine within_append (fun hnil => ?_) b
    obtain ⟨hnone, hrest⟩ := List.append_eq_nil_iff.mp hnil
    exact hhome (eq_tilde_of_startsAtHome htilde hrest) hnone
  · exact within_append ha b

/-- What starts neither at the root nor at home starts in the working directory. -/
theorem expanded_of_relative (hroot : b.head? ≠ some '/') (hhome : startsAtHome b = false)
    (hb : b ≠ []) : expanded cwd home b = cwd ++ '/' :: b := by
  rw [expanded_of_ne_nil hb, hhome, if_neg Bool.false_ne_true]
  exact if_neg hroot

end Expanded

/-! ## Resolving again, and piece by piece -/

/-- A text that starts neither at the root nor at home. -/
def IsRelative (t : String) : Prop :=
  Text.startsWith t "/" = false ∧ t ≠ "~" ∧ Text.startsWith t "~/" = false

instance : DecidablePred IsRelative := fun _ => inferInstanceAs (Decidable (_ ∧ _))

theorem IsRelative.head?_ne {t : String} (h : IsRelative t) : t.toList.head? ≠ some '/' := by
  intro hhead
  obtain ⟨rest, hrest⟩ := List.head?_eq_some_iff.mp hhead
  have hnot := h.1
  unfold Text.startsWith at hnot
  rw [hrest] at hnot
  cases hnot

theorem IsRelative.not_startsAtHome {t : String} (h : IsRelative t) :
    startsAtHome t.toList = false := by
  refine Bool.or_eq_false_iff.mpr ⟨decide_eq_false fun htilde => h.2.1 ?_, h.2.2⟩
  exact String.toList_injective htilde

theorem walk_text {p : Path} (hp : IsCanonical p) : walk root p.text.toList = p := by
  obtain ⟨rest, hrest⟩ := List.head?_eq_some_iff.mp (head?_text p)
  have hback := resolve_text hp "" ""
  rwa [resolve_eq_walk, hrest, expanded_of_slash, ← hrest] at hback

theorem resolve_of_relative {p : Path} (hp : IsCanonical p) (home : String) {b : String}
    (hb : IsRelative b) : resolve p.text home b = walk p b.toList := by
  by_cases hnil : b.toList = []
  · have hsame : resolve p.text home b = resolve p.text home p.text := by
      rw [resolve_eq_walk, hnil, expanded_nil, ← resolve_eq_walk]
    rw [hsame, resolve_text hp, hnil, walk_nil]
  · rw [resolve_eq_walk, expanded_of_relative hb.head?_ne hb.not_startsAtHome hnil, walk_append,
      walk_text hp]

/-- **What is behind a slash is resolved in the directory before it**, unless that is a tilde
which stands for nothing. -/
theorem resolve_append (cwd : String) {home a b : String} (ha : a ≠ "") (hb : IsRelative b)
    (hhome : a = "~" → home ≠ "") :
    resolve cwd home (a ++ "/" ++ b) = resolve (resolve cwd home a).text home b := by
  have hwhole : (a ++ "/" ++ b).toList = a.toList ++ '/' :: b.toList := by
    rw [String.toList_append, String.toList_append, List.append_assoc]
    rfl
  have hne : a.toList ≠ [] := mt String.toList_eq_nil_iff.mp ha
  have htilde (h : a.toList = ['~']) : home.toList ≠ [] :=
    mt String.toList_eq_nil_iff.mp (hhome (String.toList_injective h))
  rw [resolve_of_relative (isCanonical_resolve cwd home a) home hb, resolve_eq_walk cwd home a,
    resolve_eq_walk, hwhole, expanded_append hne htilde, walk_append]

theorem resolve_homeless (cwd : String) {b : String} (hb : IsRelative b) :
    resolve cwd "" ("~" ++ "/" ++ b) = resolve "/" "" b := by
  have hwhole : ("~" ++ "/" ++ b).toList = '~' :: '/' :: b.toList := by
    rw [String.toList_append, String.toList_append]
    rfl
  have hroot : resolve "/" "" b = walk root b.toList := resolve_of_relative isCanonical_nil "" hb
  rw [hroot, resolve_eq_walk, hwhole]
  exact walk_append root [] b.toList

/-! ## Names and slashes behind a text -/

theorem walk_chars (p : Path) {below : Path} (h : IsCanonical below) :
    walk p below.chars = p ++ below := by
  have hnames : (below.map String.toList).map String.ofList = below := by
    rw [List.map_map]
    exact List.map_id'' (fun s => String.ofList_toList) _
  have hparts : ([] ++ below.chars).splitOn '/' = [] :: below.map String.toList :=
    splitOn_chars h List.not_mem_nil
  rw [List.nil_append] at hparts
  unfold walk
  rw [hparts, List.map_cons, hnames, List.foldl_cons]
  exact foldl_step_of_isCanonical h p

theorem resolve_of_isName {name : String} (h : IsName name) (htilde : name ≠ "~")
    (cwd home : String) : resolve cwd home name = walk root cwd.toList ++ [name] := by
  have hslash : '/' ∉ name.toList := h.2.2.2
  have hnotRoot : name.toList.head? ≠ some '/' := fun hhead => hslash (List.mem_of_head? hhead)
  have hnotHome : startsAtHome name.toList = false := by
    refine Bool.or_eq_false_iff.mpr ⟨decide_eq_false fun hsame => htilde ?_, ?_⟩
    · exact String.toList_injective hsame
    · refine Bool.eq_false_iff.mpr fun hpre => hslash ?_
      exact (List.isPrefixOf_iff_prefix.mp hpre).subset (by decide)
  have hdown := walk_chars (walk root cwd.toList) (List.forall_mem_singleton.mpr h)
  have hchars : chars [name] = '/' :: name.toList := List.append_nil _
  rw [resolve_eq_walk, expanded_of_relative hnotRoot hnotHome (mt String.toList_eq_nil_iff.mp h.1),
    walk_append, ← hdown, hchars]
  exact (walk_append _ [] _).symm

theorem walk_slashes (p : Path) {slashes : List Char} (h : ∀ c ∈ slashes, c = '/') :
    walk p slashes = p := by
  induction slashes with
  | nil => rfl
  | cons c slashes ih =>
    obtain ⟨rfl, hrest⟩ := List.forall_mem_cons.mp h
    exact (walk_append p [] slashes).trans (ih hrest)

/-- What is behind a text and begins with a slash is walked along from where the text leads,
unless that is a tilde which stands for nothing. -/
theorem resolve_append_walk (cwd : String) {home a b : String} (ha : a ≠ "")
    (hb : b.toList.head? = some '/') (hhome : a = "~" → home ≠ "") :
    resolve cwd home (a ++ b) = walk (resolve cwd home a) b.toList := by
  obtain ⟨rest, hrest⟩ := List.head?_eq_some_iff.mp hb
  have hne : a.toList ≠ [] := mt String.toList_eq_nil_iff.mp ha
  have htilde (h : a.toList = ['~']) : home.toList ≠ [] :=
    mt String.toList_eq_nil_iff.mp (hhome (String.toList_injective h))
  rw [resolve_eq_walk cwd home a, resolve_eq_walk, String.toList_append, hrest,
    expanded_append hne htilde, walk_append]
  exact (walk_append _ [] rest).symm

/-- What is behind a tilde that stands for nothing is walked along from the root. -/
theorem resolve_append_homeless (cwd : String) {b : String} (hb : b.toList.head? = some '/') :
    resolve cwd "" ("~" ++ b) = walk root b.toList := by
  obtain ⟨rest, hrest⟩ := List.head?_eq_some_iff.mp hb
  rw [resolve_eq_walk, String.toList_append, hrest]
  rfl

/-- **Resolution leads to places**: what it writes is the text of a place, which is resolved to
itself wherever that is done, and a text with a slash in it is resolved piece by piece, but for a
tilde that stands for nothing. -/
theorem resolve_laws (cwd home path : String) :
    IsPlaceText (resolve cwd home path).text ∧
      (∀ cwd' home' : String, (resolve cwd' home' (resolve cwd home path).text).text =
        (resolve cwd home path).text) ∧
      ∀ a b : String, a ≠ "" → IsRelative b →
        (¬(a = "~" ∧ home = "") → (resolve cwd home (a ++ "/" ++ b)).text =
          (resolve (resolve cwd home a).text home b).text) ∧
        (a = "~" ∧ home = "" → (resolve cwd home (a ++ "/" ++ b)).text =
          (resolve "/" home b).text) := by
  have hplace := isCanonical_resolve cwd home path
  refine ⟨isPlaceText_text hplace, fun cwd' home' => ?_, fun a b ha hb => ⟨fun hnot => ?_, ?_⟩⟩
  · rw [resolve_text hplace]
  · rw [resolve_append cwd ha hb (not_and.mp hnot)]
  · rintro ⟨rfl, rfl⟩
    rw [resolve_homeless cwd hb]

theorem resolve_laws_example :
    ((resolve "/tmp" "/home/pi" ("~" ++ "/" ++ "..//x/")).text =
        (resolve (resolve "/tmp" "/home/pi" "~").text "/home/pi" "..//x/").text ∧
      (resolve "/tmp" "/home/pi" ("~" ++ "/" ++ "..//x/")).text = "/home/x") ∧
    (resolve "/tmp" "" ("~" ++ "/" ++ "x")).text = (resolve "/" "" "x").text :=
  ⟨⟨((resolve_laws "/tmp" "/home/pi" "").2.2 "~" "..//x/" (by decide) (by decide)).1 (by decide),
      by decide⟩,
    ((resolve_laws "/tmp" "" "").2.2 "~" "x" (by decide) (by decide)).2 (by decide)⟩

/-- Without a home directory, what is behind a tilde is not resolved in the directory that the tilde
stands for by itself. -/
theorem resolve_append_without_home :
    "~" ≠ "" ∧ IsRelative "x" ∧ (resolve "/tmp" "" ("~" ++ "/" ++ "x")).text = "/x" ∧
      (resolve (resolve "/tmp" "" "~").text "" "x").text = "/tmp/x" := by
  decide

end Honeypot.Path
