import Mathlib.Data.List.TakeWhile
import Honeypot.Text.Blank

/-!
# Words and blanks

Words that are joined by blanks are the words of the text that they make (`words_join`), and there
are no blanks around that text (`strip_join`). What is left of a text that is not blank has words,
and its words joined again are the text with its runs of blanks squeezed (`intercalate_wordsOf`).
-/

namespace Honeypot.Text

/-! ## Words of a text -/

theorem exists_mem_splitOnP {p : Char → Bool} {c : Char} {cs : List Char} (hc : p c = false)
    (hmem : c ∈ cs) : ∃ piece ∈ cs.splitOnP p, c ∈ piece := by
  induction cs with
  | nil => cases hmem
  | cons d cs ih =>
    rw [List.splitOnP_cons_eq_if_modifyHead]
    split
    · next hd =>
      have hne : c ≠ d := by
        rintro rfl
        rw [hc] at hd
        cases hd
      obtain ⟨piece, hpiece, hin⟩ := ih ((List.mem_cons.mp hmem).resolve_left hne)
      exact ⟨piece, List.mem_cons_of_mem _ hpiece, hin⟩
    · obtain ⟨first, more, hpieces⟩ := List.exists_cons_of_ne_nil (List.splitOnP_ne_nil p cs)
      rw [hpieces] at ih ⊢
      rw [List.modifyHead_cons]
      obtain rfl | hmem := List.mem_cons.mp hmem
      · exact ⟨_, List.mem_cons_self, List.mem_cons_self⟩
      · obtain ⟨piece, hpiece, hin⟩ := ih hmem
        obtain rfl | hpiece := List.mem_cons.mp hpiece
        · exact ⟨_, List.mem_cons_self, List.mem_cons_of_mem _ hin⟩
        · exact ⟨piece, List.mem_cons_of_mem _ hpiece, hin⟩

theorem of_mem_splitOnP {p : Char → Bool} {cs piece : List Char} (h : piece ∈ cs.splitOnP p)
    {c : Char} (hc : c ∈ piece) : p c = false := by
  induction cs generalizing piece with
  | nil =>
    rw [List.splitOnP_nil, List.mem_singleton] at h
    rw [h] at hc
    cases hc
  | cons d cs ih =>
    rw [List.splitOnP_cons_eq_if_modifyHead] at h
    split at h
    · obtain rfl | h := List.mem_cons.mp h
      · cases hc
      · exact ih h hc
    · next hd =>
      obtain ⟨first, more, hpieces⟩ := List.exists_cons_of_ne_nil (List.splitOnP_ne_nil p cs)
      rw [hpieces] at ih h
      rw [List.modifyHead_cons] at h
      obtain rfl | h := List.mem_cons.mp h
      · obtain rfl | hc := List.mem_cons.mp hc
        · exact Bool.eq_false_iff.mpr hd
        · exact ih List.mem_cons_self hc
      · exact ih (List.mem_cons_of_mem _ h) hc

theorem mem_intercalate_of_mem {c : Char} {sep piece : List Char} {pieces : List (List Char)}
    (hpiece : piece ∈ pieces) (hc : c ∈ piece) : c ∈ sep.intercalate pieces := by
  induction pieces with
  | nil => cases hpiece
  | cons first rest ih =>
    cases rest with
    | nil =>
      obtain rfl := List.mem_singleton.mp hpiece
      simpa [List.intercalate] using hc
    | cons second rest =>
      rw [List.intercalate_cons_cons, List.append_assoc, List.mem_append, List.mem_append]
      obtain rfl | hpiece := List.mem_cons.mp hpiece
      · exact .inl hc
      · exact .inr (.inr (ih hpiece))

theorem mem_of_mem_splitOn {sep c : Char} {cs piece : List Char} (h : piece ∈ cs.splitOn sep)
    (hc : c ∈ piece) : c ∈ cs := by
  have hjoin : [sep].intercalate (cs.splitOn sep) = cs := List.intercalate_splitOn sep
  rw [← hjoin]
  exact mem_intercalate_of_mem h hc

theorem words_ne_nil {cs : List Char} {c : Char} (hc : isBlank c = false) (hmem : c ∈ cs) :
    words (String.ofList cs) ≠ [] := by
  obtain ⟨piece, hpiece, hin⟩ := exists_mem_splitOnP hc hmem
  unfold words wordsOf
  rw [String.toList_ofList, ne_eq, List.map_eq_nil_iff]
  refine List.ne_nil_of_mem (a := piece) (List.mem_filter.mpr ⟨hpiece, ?_⟩)
  cases piece with
  | nil => cases hin
  | cons d piece => rfl

theorem exists_mem_dropEnds {drops : Char → Bool} {cs : List Char} (h : dropEnds drops cs ≠ []) :
    ∃ c ∈ dropEnds drops cs, drops c = false := by
  unfold dropEnds dropEnd at h ⊢
  have hne : (cs.dropWhile drops).reverse.dropWhile drops ≠ [] := fun hnil => by
    rw [hnil] at h
    exact h rfl
  have hlast := List.head_dropWhile_not drops hne
  exact ⟨_, List.mem_reverse.mpr (List.head_mem hne), hlast⟩

/-! ## Ends -/

section Ends

variable {drops : Char → Bool} {cs : List Char} {c : Char}

theorem dropEnd_prefix (drops : Char → Bool) (cs : List Char) : dropEnd drops cs <+: cs := by
  rw [← List.reverse_suffix]
  unfold dropEnd
  rw [List.reverse_reverse]
  exact List.dropWhile_suffix drops

theorem head?_dropEnds (hc : c ∈ (dropEnds drops cs).head?) : drops c = false := by
  obtain ⟨more, hmore⟩ := dropEnd_prefix drops (cs.dropWhile drops)
  have hhead : (cs.dropWhile drops).head? = some c := by
    have hc : (dropEnd drops (cs.dropWhile drops)).head? = some c := hc
    rw [← hmore, List.head?_append, hc]
    rfl
  have hnot := List.head?_dropWhile_not drops cs
  rwa [hhead] at hnot

theorem getLast?_dropEnds (hc : c ∈ (dropEnds drops cs).getLast?) : drops c = false := by
  unfold dropEnds dropEnd at hc
  rw [List.getLast?_reverse] at hc
  have hnot := List.head?_dropWhile_not drops (cs.dropWhile drops).reverse
  rwa [hc] at hnot

theorem dropEnds_append {more : List Char} (h : ∀ b ∈ more, drops b = true) (cs : List Char) :
    dropEnds drops (cs ++ more) = dropEnds drops cs := by
  have hmore : ∀ b ∈ more.reverse, drops b = true := fun b hb => h b (List.mem_reverse.mp hb)
  unfold dropEnds dropEnd
  rw [List.dropWhile_append]
  split
  · next hempty =>
    rw [List.isEmpty_iff.mp hempty, List.dropWhile_eq_nil_iff.mpr h]
  · rw [List.reverse_append, List.dropWhile_append_of_pos hmore]

theorem dropEnds_eq_nil_iff : dropEnds drops cs = [] ↔ ∀ c ∈ cs, drops c = true := by
  unfold dropEnds dropEnd
  rw [List.reverse_eq_nil_iff, List.dropWhile_eq_nil_iff]
  refine ⟨fun h => ?_, fun h c hc => ?_⟩
  · rw [← List.dropWhile_eq_nil_iff]
    by_contra hne
    have hfirst := List.head_dropWhile_not drops hne
    rw [h _ (List.mem_reverse.mpr (List.head_mem hne))] at hfirst
    cases hfirst
  · exact h c ((List.dropWhile_sublist drops).subset (List.mem_reverse.mp hc))

theorem toList_strip_ofList (cs : List Char) :
    (strip (String.ofList cs)).toList = dropEnds isBlank cs := by
  unfold strip trim
  rw [String.toList_ofList, String.toList_ofList]

end Ends

/-! ## Words around blanks -/

theorem wordsOf_append_blank {b : Char} (hb : isBlank b = true) (cs rest : List Char) :
    wordsOf (cs ++ b :: rest) = wordsOf cs ++ wordsOf rest := by
  unfold wordsOf
  rw [List.splitOnP_append_cons cs rest hb, List.filter_append]

theorem wordsOf_dropWhile (cs : List Char) : wordsOf (cs.dropWhile isBlank) = wordsOf cs := by
  induction cs with
  | nil => rfl
  | cons c cs ih =>
    rw [List.dropWhile_cons]
    split
    · next hc => exact ih.trans (wordsOf_append_blank hc [] cs).symm
    · rfl

theorem wordsOf_dropEnds (cs : List Char) : wordsOf (dropEnds isBlank cs) = wordsOf cs := by
  have hend (cs : List Char) : wordsOf (cs.dropWhile isBlank).reverse = wordsOf cs.reverse := by
    induction cs with
    | nil => rfl
    | cons c cs ih =>
      rw [List.dropWhile_cons, List.reverse_cons]
      split
      · next hc =>
        rw [ih, wordsOf_append_blank hc]
        exact (List.append_nil _).symm
      · rw [List.reverse_cons]
  unfold dropEnds dropEnd
  rw [hend, List.reverse_reverse, wordsOf_dropWhile]

theorem wordsOf_blank {b : Char} (hb : isBlank b = true) (rest : List Char) :
    wordsOf (b :: rest) = wordsOf rest := wordsOf_append_blank hb [] rest

theorem wordsOf_singleton {c : Char} (hc : isBlank c = false) : wordsOf [c] = [[c]] := by
  unfold wordsOf
  rw [List.splitOnP_eq_singleton (List.forall_mem_singleton.mpr hc)]
  rfl

/-- A character in front of a word belongs to the word. -/
theorem wordsOf_cons_cons {c d : Char} (hc : isBlank c = false) (hd : isBlank d = false)
    (rest : List Char) :
    ∃ word more, wordsOf (d :: rest) = word :: more ∧
      wordsOf (c :: d :: rest) = (c :: word) :: more := by
  obtain ⟨piece, pieces, hpieces⟩ :=
    List.exists_cons_of_ne_nil (List.splitOnP_ne_nil isBlank rest)
  have hrest : (d :: rest).splitOnP isBlank = (d :: piece) :: pieces := by
    rw [List.splitOnP_cons_eq_if_modifyHead, if_neg (Bool.eq_false_iff.mp hd), hpieces]
    rfl
  refine ⟨d :: piece, pieces.filter fun w => !w.isEmpty, ?_, ?_⟩
  · unfold wordsOf
    rw [hrest, List.filter_cons_of_pos]
    rfl
  · unfold wordsOf
    rw [List.splitOnP_cons_eq_if_modifyHead, if_neg (Bool.eq_false_iff.mp hc), hrest,
      List.modifyHead_cons, List.filter_cons_of_pos]
    rfl

theorem wordsOf_ne_nil {c : Char} {cs : List Char} (hc : isBlank c = false) (hmem : c ∈ cs) :
    wordsOf cs ≠ [] := by
  intro hnil
  refine words_ne_nil hc hmem ?_
  unfold words
  rw [String.toList_ofList, hnil]
  rfl

theorem exists_wordsOf {cs : List Char} (hne : cs ≠ [])
    (h : ∀ c ∈ cs.getLast?, isBlank c = false) : ∃ word more, wordsOf cs = word :: more := by
  have hlast := h _ (List.getLast?_eq_some_getLast hne)
  exact List.exists_cons_of_ne_nil (wordsOf_ne_nil hlast (List.getLast_mem hne))

/-! ## Single words -/

/-- A text that is one word. -/
def IsWord (t : String) : Prop := t.toList ≠ [] ∧ ∀ c ∈ t.toList, isBlank c = false

-- Over the list: there may be another way to decide what holds of all characters, by all of them.
instance (t : String) : Decidable (IsWord t) :=
  decidable_of_iff (t.toList ≠ [] ∧ (t.toList.all fun c => !isBlank c) = true)
    (and_congr_right fun _ => by simp only [List.all_eq_true, Bool.not_eq_true'])

theorem IsWord.not_mem_feed {t : String} (h : IsWord t) : '\n' ∉ t.toList :=
  fun hmem => absurd (h.2 _ hmem) (by decide)

/-! ## Joined words -/

theorem not_mem_append {c : Char} {s t : String} (hs : c ∉ s.toList) (ht : c ∉ t.toList) :
    c ∉ (s ++ t).toList := by
  rw [String.toList_append, List.mem_append, not_or]
  exact ⟨hs, ht⟩

theorem join_cons_cons (sep t u : String) (rest : List String) :
    join sep (t :: u :: rest) = t ++ sep ++ join sep (u :: rest) := by
  apply String.toList_injective
  unfold join
  rw [String.toList_append, String.toList_append, String.toList_intercalate,
    String.toList_intercalate, List.append_assoc]
  rfl

theorem toList_join_cons_cons (t u : String) (rest : List String) :
    (join " " (t :: u :: rest)).toList = t.toList ++ ' ' :: (join " " (u :: rest)).toList := by
  rw [join_cons_cons, String.toList_append, String.toList_append, List.append_assoc]
  rfl

theorem join_singleton (sep t : String) : join sep [t] = t := by
  apply String.toList_injective
  unfold join
  rw [String.toList_intercalate]
  exact List.append_nil _

theorem block_cons (line : String) (lines : List String) :
    block (line :: lines) = line ++ "\n" ++ block lines := by
  unfold block
  rw [List.map_cons, String.join_cons]

theorem block_eq_empty_iff {lines : List String} : block lines = "" ↔ lines = [] := by
  cases lines with
  | nil => exact iff_of_true rfl rfl
  | cons line lines =>
    refine iff_of_false (fun h => ?_) (List.cons_ne_nil _ _)
    have hlist := congrArg String.toList h
    rw [block_cons, String.toList_append, String.toList_append] at hlist
    exact List.append_ne_nil_of_left_ne_nil
      (List.append_ne_nil_of_right_ne_nil _ (List.cons_ne_nil _ _)) _ hlist

theorem IsWord.isEmpty_eq {t : String} (h : IsWord t) : t.toList.isEmpty = false :=
  Bool.eq_false_iff.mpr fun hempty => h.1 (List.isEmpty_iff.mp hempty)

theorem wordsOf_word {t : String} (h : IsWord t) : wordsOf t.toList = [t.toList] := by
  unfold wordsOf
  rw [List.splitOnP_eq_singleton h.2, List.filter_cons_of_pos]
  · rfl
  · rw [h.isEmpty_eq]
    rfl

theorem wordsOf_word_append {t : String} (h : IsWord t) {b : Char} (hb : isBlank b = true)
    (rest : List Char) : wordsOf (t.toList ++ b :: rest) = t.toList :: wordsOf rest := by
  rw [wordsOf_append_blank hb, wordsOf_word h, List.singleton_append]

theorem isWord_of_mem_words {s t : String} (h : t ∈ words s) : IsWord t := by
  obtain ⟨cs, hmem, rfl⟩ := List.mem_map.mp h
  obtain ⟨hpiece, hne⟩ := List.mem_filter.mp hmem
  unfold IsWord
  rw [String.toList_ofList]
  refine ⟨fun hnil => ?_, fun c hc => of_mem_splitOnP hpiece hc⟩
  rw [hnil] at hne
  cases hne

theorem words_join {ts : List String} (h : ∀ t ∈ ts, IsWord t) : words (join " " ts) = ts := by
  induction ts with
  | nil => rfl
  | cons t ts ih =>
    have hword := h t List.mem_cons_self
    cases ts with
    | nil =>
      rw [join_singleton]
      unfold words
      rw [wordsOf_word hword]
      exact congrArg (fun u => [u]) String.ofList_toList
    | cons u rest =>
      have hrest := ih fun v hv => h v (List.mem_cons_of_mem _ hv)
      unfold words at hrest ⊢
      rw [toList_join_cons_cons, wordsOf_word_append hword (by decide), List.map_cons, hrest,
        String.ofList_toList]

theorem dropWhile_of_head {cs : List Char} (h : ∀ c ∈ cs.head?, isBlank c = false) :
    cs.dropWhile isBlank = cs := by
  cases cs with
  | nil => rfl
  | cons c cs =>
    rw [List.dropWhile_cons_of_neg]
    rw [h c rfl]
    decide

theorem head?_join {ts : List String} (h : ∀ t ∈ ts, IsWord t) :
    ∀ c ∈ (join " " ts).toList.head?, isBlank c = false := by
  intro c hc
  cases ts with
  | nil => cases hc
  | cons t ts =>
    have hword := h t List.mem_cons_self
    refine hword.2 c (List.mem_of_mem_head? ?_)
    cases ts with
    | nil =>
      rw [join_singleton] at hc
      exact hc
    | cons u rest =>
      rw [toList_join_cons_cons, List.head?_append,
        Option.or_of_isSome (List.isSome_head?.mpr hword.1)] at hc
      exact hc

theorem getLast?_join {ts : List String} (h : ∀ t ∈ ts, IsWord t) :
    ∀ c ∈ (join " " ts).toList.getLast?, isBlank c = false := by
  induction ts with
  | nil => exact nofun
  | cons t ts ih =>
    cases ts with
    | nil =>
      rw [join_singleton]
      exact fun c hc => (h t List.mem_cons_self).2 c (List.mem_of_mem_getLast? hc)
    | cons u rest =>
      have htail : ∀ v ∈ u :: rest, IsWord v := fun v hv => h v (List.mem_cons_of_mem _ hv)
      have hne : (join " " (u :: rest)).toList ≠ [] := by
        intro hnil
        have hwords := words_join htail
        unfold words at hwords
        rw [hnil] at hwords
        cases hwords
      rw [toList_join_cons_cons, List.getLast?_append, List.getLast?_cons_of_ne_nil hne,
        Option.or_of_isSome (List.getLast?_isSome.mpr hne)]
      exact ih htail

theorem strip_join {ts : List String} (h : ∀ t ∈ ts, IsWord t) :
    strip (join " " ts) = join " " ts := by
  have hlast : (join " " ts).toList.reverse.dropWhile isBlank = (join " " ts).toList.reverse :=
    dropWhile_of_head fun c hc => getLast?_join h c (by rwa [List.head?_reverse] at hc)
  unfold strip trim dropEnds dropEnd
  rw [dropWhile_of_head (head?_join h), hlast, List.reverse_reverse, String.ofList_toList]

/-! ## Runs of blanks -/

/-- A text in which every run of blanks is one space, without the first run if a blank is in front
of the text. -/
def squeezed : Bool → List Char → List Char
  | _, [] => []
  | blankBefore, c :: rest =>
    if isBlank c then
      if blankBefore then squeezed true rest else ' ' :: squeezed true rest
    else c :: squeezed false rest

section Squeezed

variable {b c : Char} {rest : List Char}

theorem squeezed_blank (hb : isBlank b = true) :
    squeezed false (b :: rest) = ' ' :: squeezed true rest := by
  rw [squeezed, if_pos hb]
  rfl

theorem squeezed_blank_again (hb : isBlank b = true) :
    squeezed true (b :: rest) = squeezed true rest := by
  rw [squeezed, if_pos hb]
  rfl

theorem squeezed_of_not_isBlank (hc : isBlank c = false) (blankBefore : Bool) :
    squeezed blankBefore (c :: rest) = c :: squeezed false rest := by
  rw [squeezed, if_neg (Bool.eq_false_iff.mp hc)]

theorem squeezed_concat (hc : isBlank c = false) (blankBefore : Bool) (cs : List Char) :
    squeezed blankBefore (cs ++ [c]) = squeezed blankBefore cs ++ [c] := by
  induction cs generalizing blankBefore with
  | nil => exact squeezed_of_not_isBlank hc blankBefore
  | cons d cs ih =>
    rw [List.cons_append, squeezed, squeezed]
    split
    · split
      · exact ih true
      · exact congrArg _ (ih true)
    · exact congrArg _ (ih false)

end Squeezed

/-- **Words that are joined again** are the text with its runs of blanks squeezed, but for blanks
in front of it; there are none behind it. -/
theorem intercalate_wordsOf {cs : List Char} (h : ∀ c ∈ cs.getLast?, isBlank c = false) :
    [' '].intercalate (wordsOf cs) = squeezed true cs := by
  induction cs with
  | nil => rfl
  | cons c cs ih =>
    cases cs with
    | nil =>
      have hc : isBlank c = false := h c rfl
      rw [squeezed_of_not_isBlank hc, wordsOf_singleton hc]
      rfl
    | cons d rest =>
      have hrest := ih fun e he => h e (by rwa [List.getLast?_cons_cons])
      cases hc : isBlank c with
      | true => rw [wordsOf_blank hc, squeezed_blank_again hc, hrest]
      | false =>
        rw [squeezed_of_not_isBlank hc]
        cases hd : isBlank d with
        | true =>
          have hwords : wordsOf (c :: d :: rest) = [c] :: wordsOf rest := by
            rw [← List.singleton_append, wordsOf_append_blank hd, wordsOf_singleton hc]
            rfl
          -- Behind the blank there is another word, since the text does not end in a blank.
          have hne : rest ≠ [] := by
            rintro rfl
            exact Bool.false_ne_true ((h d rfl).symm.trans hd)
          obtain ⟨word, more, hmore⟩ := exists_wordsOf hne fun e he => h e (by
            rwa [List.getLast?_cons_cons, List.getLast?_cons_of_ne_nil hne])
          rw [wordsOf_blank hd, squeezed_blank_again hd, hmore] at hrest
          rw [hwords, squeezed_blank hd, ← hrest, hmore]
          rfl
        | false =>
          obtain ⟨word, more, hword, hboth⟩ := wordsOf_cons_cons hc hd rest
          rw [hword, squeezed_of_not_isBlank hd] at hrest
          rw [hboth, squeezed_of_not_isBlank hd, ← hrest]
          cases more <;> rfl

end Honeypot.Text
