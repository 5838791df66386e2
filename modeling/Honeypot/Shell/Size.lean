import Honeypot.Number.Sum
import Honeypot.Shell.Expansion
import Honeypot.Shell.Identity
import Honeypot.Shell.Invocation

/-!
# The size of what is run

Words, commands and lines have a size. What is cut out of a line or taken from the words of a
command is smaller than the whole, which is why running a line ends.
-/

namespace Honeypot.Shell

/-- The number of characters of some words, with one more for each. -/
def tokensSize (tokens : List String) : Nat := Number.sum (tokens.map fun t => t.length + 1)

/-- The number of characters of the commands of a line, with one more for each. -/
def segmentsSize (segments : List Segment) : Nat :=
  Number.sum (segments.map fun g => g.text.length + 1)

/-! ## Words -/

theorem sum_splitOnP (p : Char → Bool) (cs : List Char) :
    Number.sum ((cs.splitOnP p).map fun w => w.length + 1) = cs.length + 1 := by
  induction cs with
  | nil => simp [List.splitOnP_nil]
  | cons c rest ih =>
    rw [List.splitOnP_cons_eq_if_modifyHead]
    split
    · simp [ih]; omega
    · cases h : rest.splitOnP p with
      | nil => simp [h] at ih
      | cons head tail =>
        simp only [h, List.map_cons, Number.sum_cons] at ih
        simp only [List.modifyHead_cons, List.map_cons, Number.sum_cons, List.length_cons]
        omega

theorem tokensSize_words (s : String) : tokensSize (Text.words s) ≤ s.length + 1 := by
  have h := Number.sum_map_filter_le (fun w : List Char => w.length + 1) (fun w => !w.isEmpty)
    (s.toList.splitOnP Text.isBlank)
  rw [sum_splitOnP, String.length_toList] at h
  simpa [tokensSize, Text.words, Text.wordsOf, List.map_map, Function.comp_def] using h

theorem length_pos_of_mem_words {s word : String} (h : word ∈ Text.words s) : 0 < word.length := by
  simp only [Text.words, Text.wordsOf, List.mem_map, List.mem_filter] at h
  obtain ⟨cs, ⟨_, hne⟩, rfl⟩ := h
  rw [String.length_ofList]
  cases cs with
  | nil => simp at hne
  | cons c rest => simp

/-- The words after the name are shorter than the line by more than two characters less one. -/
theorem tokensSize_of_parse? {line : String} {inv : Invocation}
    (h : Invocation.parse? line = some inv) : tokensSize inv.tokens + 1 ≤ line.length := by
  have hw := tokensSize_words line
  unfold Invocation.parse? at h
  split at h
  · simp at h
  · next name tokens heq =>
    have hpos : 0 < name.length := length_pos_of_mem_words (s := line) (by simp [heq])
    simp only [Option.some.injEq] at h
    subst h
    rw [heq] at hw
    simp only [tokensSize, List.map_cons, Number.sum_cons] at hw ⊢
    omega

theorem length_join_le (tokens : List String) :
    (Text.join " " tokens).length ≤ tokensSize tokens := by
  rw [← String.length_toList, Text.join, String.toList_intercalate]
  induction tokens with
  | nil => simp [tokensSize, List.intercalate]
  | cons t rest ih =>
    cases rest with
    | nil => simp [tokensSize, List.intercalate, String.length_toList]
    | cons u more =>
      simp only [tokensSize, List.map_cons, Number.sum_cons] at ih ⊢
      simp only [List.intercalate, List.intersperse, List.flatten_cons, List.length_append,
        String.length_toList] at ih ⊢
      have hblank : (" " : String).length = 1 := rfl
      omega

theorem tokensSize_afterSudoOptions (tokens : List String) :
    tokensSize (afterSudoOptions tokens) ≤ tokensSize tokens := by
  induction tokens using afterSudoOptions.induct <;>
    unfold afterSudoOptions <;> simp_all [tokensSize] <;> omega

/-- The words after the first occurrence of a word. -/
def afterWord (word : String) : List String → List String
  | [] => []
  | token :: rest => if token = word then rest else afterWord word rest

theorem tokensSize_afterWord {word : String} {tokens : List String} (h : word ∈ tokens) :
    tokensSize (afterWord word tokens) + word.length + 1 ≤ tokensSize tokens := by
  induction tokens with
  | nil => simp at h
  | cons token rest ih =>
    unfold afterWord
    by_cases hw : token = word
    · subst hw
      simp [tokensSize]
      omega
    · have := ih ((List.mem_cons.mp h).resolve_left fun e => hw e.symm)
      simp only [hw, if_false]
      simp only [tokensSize, List.map_cons, Number.sum_cons] at this ⊢
      omega

theorem length_unquote_le (text : String) : (unquote text).length ≤ text.length := by
  unfold unquote
  split
  · next first second rest heq =>
    split
    · rw [String.length_ofList, ← String.length_toList (s := text), heq]
      simp
      omega
    · exact Nat.le_refl _
  · exact Nat.le_refl _

/-! ## Lines -/

theorem sum_cut_le (quote : Option Char) (joint : Joint) (done cs : List Char) :
    Number.sum ((cut quote joint done cs).map fun piece => piece.2.length + 1) ≤
      done.length + cs.length + 1 := by
  induction quote, joint, done, cs using cut.induct <;>
    unfold cut <;> simp_all <;> omega

theorem length_dropEnds_le (drops : Char → Bool) (cs : List Char) :
    (Text.dropEnds drops cs).length ≤ cs.length := by
  have h := (List.dropWhile_suffix drops (l := (cs.dropWhile drops).reverse)).length_le
  have h' := (List.dropWhile_suffix drops (l := cs)).length_le
  simp only [Text.dropEnds, Text.dropEnd, List.length_reverse] at h ⊢
  omega

theorem length_of_segment? {piece : Joint × List Char} {segment : Segment}
    (h : segment? piece = some segment) : segment.text.length ≤ piece.2.length := by
  simp only [segment?] at h
  split at h
  · simp at h
  · simp only [Option.some.injEq] at h
    subst h
    simpa [String.length_ofList] using length_dropEnds_le Text.isBlank piece.2

theorem segmentsSize_filterMap (pieces : List (Joint × List Char)) :
    segmentsSize (pieces.filterMap segment?) ≤
      Number.sum (pieces.map fun piece => piece.2.length + 1) := by
  induction pieces with
  | nil => simp [segmentsSize]
  | cons piece rest ih =>
    simp only [segmentsSize, List.filterMap_cons, List.map_cons, Number.sum_cons] at ih ⊢
    split
    · omega
    · next segment heq =>
      have := length_of_segment? heq
      simp only [List.map_cons, Number.sum_cons]
      omega

theorem segmentsSize_split (line : String) : segmentsSize (split line) ≤ line.length + 1 := by
  have h := sum_cut_le none .start [] line.toList
  rw [String.length_toList] at h
  exact Nat.le_trans (segmentsSize_filterMap _) (by simpa using h)

end Honeypot.Shell
