import Mathlib.Data.List.Forall2
import Honeypot.Proofs.Shell.Room
import Honeypot.Proofs.Shell.Tails

/-!
# Scripts in quotes

A shell that is given a script in double quotes runs it as a line. On the way the line around it is
cut into words and these are joined again, which squeezes the runs of blanks of the script;
`runLine_squeezed` says that this makes no difference. A script in quotes is run three calls deeper
than by itself (`runLine_inQuotes`).
-/

namespace Honeypot.Shell

open Text (squeezed)

variable {c : Context} {joint : Joint} {done cs : List Char} {room : Nat} {name script : String}

/-! ## Lines with the same words -/

/-- Whether two commands stand behind the same joint and have the same words. -/
def Segment.SameWords (g h : Segment) : Prop :=
  g.joint = h.joint ∧ Text.words g.text = Text.words h.text

theorem runSegments_congr {xs ys : List Segment} (h : List.Forall₂ Segment.SameWords xs ys)
    (outputs : List String) (failed : Bool) :
    runSegments c outputs failed xs = runSegments c outputs failed ys := by
  induction h generalizing outputs failed with
  | nil => rfl
  | @cons g g' xs ys hsame _ ih =>
    obtain ⟨hjoint, hwords⟩ := hsame
    have hpassed : g'.isPassedOver failed = g.isPassedOver failed := by
      unfold Segment.isPassedOver
      rw [hjoint]
    cases hruns : g.isPassedOver failed with
    | true =>
      rw [runSegments_of_passedOver hruns, runSegments_of_passedOver (hpassed.trans hruns)]
      exact ih outputs failed
    | false =>
      cases hcase : Text.words g.text with
      | nil =>
        have hnone (text : String) (h : Text.words text = []) : Invocation.parse? text = none := by
          unfold Invocation.parse?
          rw [h]
        rw [runSegments_of_nameless (hnone _ hcase),
          runSegments_of_nameless (hnone _ (hwords ▸ hcase))]
        exact ih outputs failed
      | cons name tokens =>
        have hsome (text : String) (h : Text.words text = name :: tokens) :
            Invocation.parse? text = some ⟨Text.strip text, name, tokens⟩ := by
          unfold Invocation.parse?
          rw [h]
        rw [runSegments_of_runs hruns (hsome _ hcase),
          runSegments_of_runs (hpassed.trans hruns) (hsome _ (hwords ▸ hcase))]
        unfold Segment.takes? Segment.leaves
        rw [hjoint, dispatch_raw _ (Text.strip g.text) (Text.strip g'.text)]
        refine congrArg _ (funext fun response => ?_)
        cases response with
        | exit => rfl
        | text output => exact ih _ _

/-- Whether two pieces of a line stand behind the same joint and have the same words. -/
def SamePiece (p q : Joint × List Char) : Prop :=
  p.1 = q.1 ∧ Text.wordsOf p.2 = Text.wordsOf q.2

theorem segment?_eq_none_iff {piece : Joint × List Char} :
    segment? piece = none ↔ Text.wordsOf piece.2 = [] := by
  have hwords := Text.wordsOf_dropEnds piece.2
  unfold segment?
  dsimp only
  constructor
  · intro h
    split at h
    · next hempty =>
      rw [← hwords, List.isEmpty_iff.mp hempty]
      rfl
    · cases h
  · intro h
    by_contra hbody
    have hne : Text.dropEnds Text.isBlank piece.2 ≠ [] := fun hnil => hbody (by rw [hnil]; rfl)
    obtain ⟨c, hmem, hc⟩ := Text.exists_mem_dropEnds hne
    exact Text.wordsOf_ne_nil hc hmem (hwords.trans h)

theorem words_of_segment? {piece : Joint × List Char} {g : Segment}
    (h : segment? piece = some g) :
    Text.words g.text = (Text.wordsOf piece.2).map String.ofList := by
  unfold segment? at h
  dsimp only at h
  split at h
  · cases h
  · cases h
    unfold Text.words
    rw [String.toList_ofList, Text.wordsOf_dropEnds]

theorem segment?_of_samePiece {p q : Joint × List Char} (h : SamePiece p q) :
    segment? p = none ∧ segment? q = none ∨
      ∃ g g', segment? p = some g ∧ segment? q = some g' ∧ g.SameWords g' := by
  obtain ⟨hjoint, hwords⟩ := h
  cases hp : segment? p with
  | none => exact .inl ⟨rfl, segment?_eq_none_iff.mpr (hwords ▸ segment?_eq_none_iff.mp hp)⟩
  | some g =>
    cases hq : segment? q with
    | none =>
      have hnone := segment?_eq_none_iff.mpr (hwords.trans (segment?_eq_none_iff.mp hq))
      rw [hp] at hnone
      cases hnone
    | some g' =>
      refine .inr ⟨g, g', rfl, rfl, ?_, ?_⟩
      · rw [joint_of_segment? hp, joint_of_segment? hq, hjoint]
      · rw [words_of_segment? hp, words_of_segment? hq, hwords]

theorem sameWords_filterMap {ps qs : List (Joint × List Char)} (h : List.Forall₂ SamePiece ps qs) :
    List.Forall₂ Segment.SameWords (ps.filterMap segment?) (qs.filterMap segment?) := by
  induction h with
  | nil => exact .nil
  | cons hsame _ ih =>
    obtain ⟨hp, hq⟩ | ⟨g, g', hp, hq, hwords⟩ := segment?_of_samePiece hsame
    · rw [List.filterMap_cons_none hp, List.filterMap_cons_none hq]
      exact ih
    · rw [List.filterMap_cons_some hp, List.filterMap_cons_some hq]
      exact .cons hwords ih

/-! ## Squeezing a line -/

theorem cut_blank {quote? : Option Char} (hquote : ∀ q ∈ quote?, Text.isBlank q = false) {b : Char}
    (hb : Text.isBlank b = true) (rest : List Char) :
    cut quote? joint done (b :: rest) = cut quote? joint (b :: done) rest := by
  cases quote? with
  | none =>
    have hinner : ∀ c ∈ [b], isInner c = true :=
      List.forall_mem_singleton.mpr (isInner_of_isBlank hb)
    exact cut_inner hinner joint done rest
  | some q =>
    have hne : b ≠ q := by
      rintro rfl
      exact Bool.false_ne_true ((hquote b rfl).symm.trans hb)
    rw [cut, if_neg hne]

/-- Whether what was read of a command and what was read of it with its blanks squeezed have the
same words, whatever is read next. -/
structure ReadAlike (blankBefore : Bool) (done done' : List Char) : Prop where
  words : ∀ more, Text.wordsOf (done.reverse ++ more) = Text.wordsOf (done'.reverse ++ more)
  blank : blankBefore = true → ∃ b before, Text.isBlank b = true ∧ done' = b :: before

namespace ReadAlike

variable {blankBefore : Bool} {done' : List Char} {b : Char}

theorem nil : ReadAlike false [] [] := ⟨fun _ => rfl, nofun⟩

theorem words_read (h : ReadAlike blankBefore done done') :
    Text.wordsOf done.reverse = Text.wordsOf done'.reverse := by
  have hwords := h.words []
  rwa [List.append_nil, List.append_nil] at hwords

theorem cons (h : ReadAlike blankBefore done done') (c : Char) :
    ReadAlike false (c :: done) (c :: done') := by
  refine ⟨fun more => ?_, nofun⟩
  rw [List.reverse_cons, List.reverse_cons, List.append_assoc, List.append_assoc]
  exact h.words _

theorem space (h : ReadAlike blankBefore done done') (hb : Text.isBlank b = true) :
    ReadAlike true (b :: done) (' ' :: done') := by
  refine ⟨fun more => ?_, fun _ => ⟨' ', done', by decide, rfl⟩⟩
  have hspace : Text.isBlank ' ' = true := by decide
  rw [List.reverse_cons, List.reverse_cons, List.append_assoc, List.append_assoc,
    List.singleton_append, List.singleton_append, Text.wordsOf_append_blank hb,
    Text.wordsOf_append_blank hspace, h.words_read]

theorem again (h : ReadAlike true done done') (hb : Text.isBlank b = true) :
    ReadAlike true (b :: done) done' := by
  refine ⟨fun more => ?_, h.blank⟩
  have hread := h.words_read
  obtain ⟨d, before, hd, rfl⟩ := h.blank rfl
  rw [List.reverse_cons, Text.wordsOf_append_blank hd] at hread
  rw [List.reverse_cons, List.reverse_cons, List.append_assoc, List.append_assoc,
    List.singleton_append, List.singleton_append, Text.wordsOf_append_blank hb,
    Text.wordsOf_append_blank hd, hread]
  exact congrArg (· ++ _) (List.append_nil _)

end ReadAlike

theorem exists_of_squeezed_eq_cons {d : Char} {tail : List Char}
    (h : squeezed false cs = d :: tail) (hd : Text.isBlank d = false) :
    ∃ tail', cs = d :: tail' := by
  cases cs with
  | nil => cases h
  | cons c cs =>
    cases hc : Text.isBlank c with
    | true =>
      rw [Text.squeezed_blank hc] at h
      cases h
      exact absurd hd (by decide)
    | false =>
      rw [Text.squeezed_of_not_isBlank hc] at h
      cases h
      exact ⟨cs, rfl⟩

/-- **Squeezing the blanks of a line** leaves the words of its pieces. -/
theorem cut_squeezed {quote? : Option Char} (hquote : ∀ q ∈ quote?, Text.isBlank q = false)
    {blankBefore : Bool} {done' : List Char} (h : ReadAlike blankBefore done done') :
    List.Forall₂ SamePiece (cut quote? joint done cs)
      (cut quote? joint done' (squeezed blankBefore cs)) := by
  have hnone : ∀ q ∈ (none : Option Char), Text.isBlank q = false := fun q hq =>
    absurd hq (Option.not_mem_none q)
  have hspace : Text.isBlank ' ' = true := by decide
  have hsign (d : Char) (hd : Text.isBlank d = false) (blankBefore : Bool) (rest : List Char) :
      squeezed blankBefore (d :: rest) = d :: squeezed false rest :=
    Text.squeezed_of_not_isBlank hd blankBefore
  -- Both lines are cut alike: a sign of a joint is no blank, so that none is moved or lost, and a
  -- run of blanks is read as one or is left out behind one.
  induction quote?, joint, done, cs using cut.induct generalizing blankBefore done' with
  | case1 quote? joint done =>
    rw [squeezed, cut, cut]
    exact .cons ⟨rfl, h.words_read⟩ .nil
  | case2 quote joint done c rest ih =>
    cases hc : Text.isBlank c with
    | false =>
      rw [Text.squeezed_of_not_isBlank hc, cut, cut]
      refine ih ?_ (h.cons c)
      split
      · exact hnone
      · exact hquote
    | true =>
      have hne : c ≠ quote := by
        rintro rfl
        exact Bool.false_ne_true ((hquote c rfl).symm.trans hc)
      rw [if_neg hne] at ih
      rw [cut_blank hquote hc]
      cases blankBefore with
      | false =>
        rw [Text.squeezed_blank hc, cut_blank hquote hspace]
        exact ih hquote (h.space hc)
      | true =>
        rw [Text.squeezed_blank_again hc]
        exact ih hquote (h.again hc)
  | case3 joint done rest ih =>
    rw [hsign '&' (by decide), hsign '&' (by decide), cut, cut]
    exact .cons ⟨rfl, h.words_read⟩ (ih hnone .nil)
  | case4 joint done rest ih =>
    rw [hsign '|' (by decide), hsign '|' (by decide), cut, cut]
    exact .cons ⟨rfl, h.words_read⟩ (ih hnone .nil)
  | case5 joint done rest ih =>
    rw [hsign ';' (by decide), cut, cut]
    exact .cons ⟨rfl, h.words_read⟩ (ih hnone .nil)
  | case6 joint done rest hrest ih =>
    have hsqueezed : ∀ tail, squeezed false rest = '|' :: tail → False := by
      intro tail htail
      obtain ⟨tail', hrest'⟩ := exists_of_squeezed_eq_cons htail (by decide)
      exact hrest tail' hrest'
    rw [hsign '|' (by decide), cut_bar hrest, cut_bar hsqueezed]
    exact .cons ⟨rfl, h.words_read⟩ (ih hnone .nil)
  | case7 joint done c rest hand hor hsemicolon hbar ih =>
    cases hc : Text.isBlank c with
    | false =>
      have hpair (d : Char) (hd : Text.isBlank d = false)
          (hpair : ∀ tail, c = d → rest = d :: tail → False) :
          ∀ tail, c = d → squeezed false rest = d :: tail → False := by
        intro tail hcd htail
        obtain ⟨tail', hrest⟩ := exists_of_squeezed_eq_cons htail hd
        exact hpair tail' hcd hrest
      rw [Text.squeezed_of_not_isBlank hc, cut_plain hand hor hsemicolon hbar,
        cut_plain (hpair '&' (by decide) hand) (hpair '|' (by decide) hor) hsemicolon hbar]
      refine ih ?_ (h.cons c)
      split
      · exact fun q hq => Option.some.inj hq ▸ hc
      · exact hnone
    | true =>
      have hplain : ¬isQuote c = true := by
        have hinner := isInner_of_isBlank hc
        simp only [isInner, Bool.and_eq_true, Bool.not_eq_true'] at hinner
        simp [hinner.1.1.1]
      rw [if_neg hplain] at ih
      rw [cut_blank hquote hc]
      cases blankBefore with
      | false =>
        rw [Text.squeezed_blank hc, cut_blank hquote hspace]
        exact ih hquote (h.space hc)
      | true =>
        rw [Text.squeezed_blank_again hc]
        exact ih hquote (h.again hc)

/-- **A line with its blanks squeezed** does the same. -/
theorem runLine_squeezed (c : Context) (line : String) :
    runLine c (String.ofList (squeezed false line.toList)) = runLine c line := by
  have hsame : List.Forall₂ Segment.SameWords (split line)
      (split (String.ofList (squeezed false line.toList))) := by
    have hnone : ∀ q ∈ (none : Option Char), Text.isBlank q = false := nofun
    unfold split
    rw [String.toList_ofList]
    exact sameWords_filterMap (cut_squeezed hnone .nil)
  rw [runLine, runLine]
  exact congrArg _ (funext fun c => (runSegments_congr hsame [] false).symm)

/-! ## Quotes -/

theorem cut_quoted {quote : Char} (h : quote ∉ cs) (more : List Char) :
    cut (some quote) joint done (cs ++ quote :: more) =
      cut none joint (quote :: (cs.reverse ++ done)) more := by
  induction cs generalizing done with
  | nil =>
    rw [List.nil_append, cut, if_pos rfl]
    rfl
  | cons c cs ih =>
    obtain ⟨hc, hcs⟩ := List.ne_and_not_mem_of_not_mem_cons h
    rw [List.cons_append, cut, if_neg (Ne.symm hc), ih hcs, List.reverse_cons, List.append_assoc,
      List.singleton_append]

theorem unquote_of_quoted {text : String} (h : text.toList = '"' :: (cs ++ ['"'])) :
    unquote text = String.ofList cs := by
  obtain ⟨second, rest, hrest⟩ := List.exists_cons_of_ne_nil (List.concat_ne_nil '"' cs)
  have hends : ('"' = '\'' ∨ '"' = '"') ∧ (second :: rest).getLast? = some '"' := by
    rw [← hrest]
    exact ⟨.inr rfl, List.getLast?_concat⟩
  unfold unquote
  rw [h, hrest]
  dsimp only
  rw [if_pos hends, ← hrest, List.dropLast_concat]

/-- The words of a text in quotes, joined again and without the quotes, are the text with its blanks
squeezed. -/
theorem unquote_join_wordsOf (cs : List Char) :
    unquote (Text.join " " ((Text.wordsOf ('"' :: (cs ++ ['"']))).map String.ofList)) =
      String.ofList (squeezed false cs) := by
  have hquote : Text.isBlank '"' = false := by decide
  refine unquote_of_quoted ?_
  have hlast : ∀ c ∈ ('"' :: (cs ++ ['"'])).getLast?, Text.isBlank c = false := by
    rw [← List.cons_append, List.getLast?_concat]
    exact fun c hc => Option.some.inj hc ▸ hquote
  unfold Text.join
  rw [String.toList_intercalate, List.map_map]
  have hid : String.toList ∘ String.ofList = id := funext fun _ => String.toList_ofList
  rw [hid, List.map_id]
  refine (Text.intercalate_wordsOf hlast).trans ?_
  rw [Text.squeezed_of_not_isBlank hquote, Text.squeezed_concat hquote]

/-! ## Shells -/

/-- A line that gives a script in double quotes to a shell. -/
def inQuotes (name script : String) : String := name ++ " -c \"" ++ script ++ "\""

/-- A line that gives a script in quotes to a command is one command. -/
theorem cut_inQuotes (hname : IsPlain name) (hscript : '"' ∉ script.toList) :
    cut none .start [] (inQuotes name script).toList =
      [(.start, (inQuotes name script).toList)] := by
  have hinner : ∀ c ∈ name.toList ++ " -c ".toList, isInner c = true := by
    intro c hc
    obtain hc | hc := List.mem_append.mp hc
    · exact List.all_eq_true.mp hname.2 c hc
    · exact List.all_eq_true.mp (by decide : " -c ".toList.all isInner = true) c hc
  have hline : (inQuotes name script).toList =
      (name.toList ++ " -c ".toList) ++ '"' :: (script.toList ++ ['"']) := by
    simp [inQuotes]
  have hopen : cut none .start (name.toList ++ " -c ".toList).reverse
        ('"' :: (script.toList ++ ['"'])) =
      cut (some '"') .start ('"' :: (name.toList ++ " -c ".toList).reverse)
        (script.toList ++ ['"']) :=
    cut_plain (by simp) (by simp) (by simp) (by simp)
  rw [hline, cut_inner hinner, List.append_nil, hopen, cut_quoted hscript, cut]
  simp

/-- The words of a line that gives a script in quotes to a command are those of the text in
quotes, behind the command and the flag. -/
theorem wordsOf_inQuotes (hname : IsPlain name) :
    Text.wordsOf (inQuotes name script).toList =
      name.toList :: "-c".toList :: Text.wordsOf ('"' :: (script.toList ++ ['"'])) := by
  have hline : (inQuotes name script).toList =
      name.toList ++ ' ' :: ("-c".toList ++ ' ' :: '"' :: (script.toList ++ ['"'])) := by
    simp [inQuotes]
  have hflag : Text.IsWord "-c" := by decide
  rw [hline, Text.wordsOf_word_append hname.1 (by decide),
    Text.wordsOf_word_append hflag (by decide)]

theorem exists_split_inQuotes (hname : IsPlain name) (hscript : '"' ∉ script.toList) :
    ∃ text raw, split (inQuotes name script) = [⟨.start, text⟩] ∧
      Invocation.parse? text = some ⟨raw, name,
        "-c" :: (Text.wordsOf ('"' :: (script.toList ++ ['"']))).map String.ofList⟩ := by
  have hwords : Text.wordsOf (inQuotes name script).toList = _ := wordsOf_inQuotes hname
  cases hsegment : segment? (.start, (inQuotes name script).toList) with
  | none =>
    have hnil := segment?_eq_none_iff.mp hsegment
    rw [hwords] at hnil
    cases hnil
  | some g =>
    have hjoint := joint_of_segment? hsegment
    have htext := words_of_segment? hsegment
    dsimp only at hjoint htext
    refine ⟨g.text, Text.strip g.text, ?_, ?_⟩
    · unfold split
      rw [cut_inQuotes hname hscript, List.filterMap_cons_some hsegment, List.filterMap_nil,
        ← hjoint]
    · unfold Invocation.parse?
      rw [htext, hwords, List.map_cons, List.map_cons, String.ofList_toList, String.ofList_toList]

/-- Where there is no room for three calls, a line of one command of the table fails before anything
is done. -/
theorem run_runLine_of_room_lt {line text : String} {inv : Invocation} {command : Command}
    (hsplit : split line = [⟨.start, text⟩]) (hinv : Invocation.parse? text = some inv)
    (hslash : Text.hasChar inv.name '/' = false)
    (hcommand : Command.ofName? inv.command = some command) (hroom : c.room < 3) (s : State) :
    (runLine c line).run s = (.error .tooDeep, s) := by
  cases hc : c.room with
  | zero =>
    rw [runLine, Context.call_of_no_room hc]
    rfl
  | succ room =>
    have hlt : room < 2 := by omega
    rw [runLine_single hc hsplit hinv]
    exact run_dispatch_of_room_lt hslash hcommand hlt s

/-- Whether a name is that of a shell. -/
def IsShell (name : String) : Prop := name = "sh" ∨ name = "bash"

instance (name : String) : Decidable (IsShell name) :=
  inferInstanceAs (Decidable (name = "sh" ∨ name = "bash"))

namespace IsShell

theorem isPlain (h : IsShell name) : IsPlain name := by
  obtain rfl | rfl := h <;> decide

theorem no_slash (h : IsShell name) : Text.hasChar name '/' = false := by
  obtain rfl | rfl := h <;> decide

theorem ofName?_eq (h : IsShell name) : Command.ofName? (Text.lower name) = some .shell := by
  obtain rfl | rfl := h <;> decide

end IsShell

theorem runCommand_shell {inv : Invocation} {words : List String}
    (htokens : inv.tokens = "-c" :: words) (hroom : c.room = room + 1) :
    runCommand c inv .shell =
      runLine { c with room, input? := none } (unquote (Text.join " " words)) := by
  have hscript : "-c" ∈ inv.tokens := htokens ▸ List.mem_cons_self
  have hafter : afterWord "-c" inv.tokens = words := by
    rw [htokens]
    rfl
  unfold runCommand
  rw [call_bind hroom]
  dsimp only
  rw [dif_pos hscript, hafter]

section Shells

variable {line text raw : String} {words : List String} (hshell : IsShell name)
  (hsplit : split line = [⟨.start, text⟩])
  (hinv : Invocation.parse? text = some ⟨raw, name, "-c" :: words⟩)

include hshell hsplit hinv

/-- A shell runs the words behind its flag as a line, three calls deeper. -/
theorem runLine_shell (hroom : c.room = room + 3) :
    runLine c line = runLine { c with room, input? := none } (unquote (Text.join " " words)) := by
  let inv : Invocation := ⟨raw, name, "-c" :: words⟩
  have htokens : inv.tokens = "-c" :: words := rfl
  have hdispatch : dispatch { c with room := room + 2 } inv =
      liftM ({ c with room := room + 2 } : Context).call >>= fun c => runCommand c inv .shell :=
    dispatch_of_command hshell.no_slash hshell.ofName?_eq
  have hroom₂ : ({ c with room := room + 2 } : Context).room = room + 1 + 1 := rfl
  have hroom₁ : ({ c with room := room + 1 } : Context).room = room + 1 := rfl
  rw [runLine_single hroom hsplit hinv, hdispatch, call_bind hroom₂]
  exact runCommand_shell htokens hroom₁

theorem run_runLine_shell_of_room_lt (hroom : c.room < 3) (s : State) :
    (runLine c line).run s = (.error .tooDeep, s) :=
  run_runLine_of_room_lt hsplit hinv hshell.no_slash hshell.ofName?_eq hroom s

end Shells

/-! ## Shells within shells -/

theorem split_join {words : List String} (h : ∀ t ∈ name :: words, IsPlain t) :
    split (Text.join " " (name :: words)) = [⟨.start, Text.join " " (name :: words)⟩] := by
  let line := Text.join " " (name :: words)
  have hwords : ∀ t ∈ name :: words, Text.IsWord t := fun t ht => (h t ht).1
  have hcut : cut none .start [] line.toList = [(.start, line.toList)] := by
    rw [← List.append_nil line.toList, cut_inner (fun c => isInner_of_mem_join h), cut,
      List.append_nil, List.append_nil, List.reverse_reverse]
  have hline : String.ofList (Text.dropEnds Text.isBlank line.toList) = line :=
    Text.strip_join hwords
  have hsome : ¬(Text.dropEnds Text.isBlank line.toList).isEmpty = true := by
    intro hempty
    have hnil := Text.words_join hwords
    rw [List.isEmpty_iff.mp hempty] at hline
    rw [show Text.join " " (name :: words) = _ from hline.symm] at hnil
    cases hnil
  have hsegment : segment? (.start, line.toList) = some ⟨.start, line⟩ := by
    unfold segment?
    dsimp only
    rw [if_neg hsome, hline]
  unfold split
  rw [hcut, List.filterMap_cons_some hsegment, List.filterMap_nil]

/-- The words of a command within shells that are given one another as their scripts. -/
def nestedWords : Nat → List String
  | 0 => ["whoami"]
  | depth + 1 => "sh" :: "-c" :: nestedWords depth

/-- A line with a given number of shells within one another. -/
def nested (depth : Nat) : String := Text.join " " (nestedWords depth)

theorem isPlain_of_mem_nestedWords {depth : Nat} {t : String} (h : t ∈ nestedWords depth) :
    IsPlain t := by
  induction depth with
  | zero =>
    rw [List.mem_singleton.mp h]
    decide
  | succ depth ih =>
    obtain rfl | rfl | h : t = "sh" ∨ t = "-c" ∨ t ∈ nestedWords depth := by
      simpa [nestedWords] using h
    · decide
    · decide
    · exact ih h

theorem split_nested (depth : Nat) : split (nested depth) = [⟨.start, nested depth⟩] := by
  have hplain : ∀ t ∈ nestedWords depth, IsPlain t := fun _ => isPlain_of_mem_nestedWords
  cases depth with
  | zero => exact split_join hplain
  | succ depth => exact split_join hplain

theorem parse?_nested_zero : Invocation.parse? (nested 0) = some (.ofWords "whoami" []) := by
  have hplain : ∀ t ∈ nestedWords 0, IsPlain t := fun _ => isPlain_of_mem_nestedWords
  exact parse?_join fun t ht => (hplain t ht).1

theorem parse?_nested_succ (depth : Nat) :
    Invocation.parse? (nested (depth + 1)) =
      some (.ofWords "sh" ("-c" :: nestedWords depth)) := by
  have hplain : ∀ t ∈ nestedWords (depth + 1), IsPlain t := fun _ => isPlain_of_mem_nestedWords
  exact parse?_join fun t ht => (hplain t ht).1

theorem unquote_of_inner {text : String} (h : ∀ c ∈ text.toList, isInner c = true) :
    unquote text = text := by
  unfold unquote
  split
  · next first second rest hchars =>
    have hinner := h first (hchars ▸ List.mem_cons_self)
    refine if_neg fun hends => ?_
    obtain ⟨rfl | rfl, -⟩ := hends
    · exact absurd hinner (by decide)
    · exact absurd hinner (by decide)
  · rfl

theorem unquote_nested (depth : Nat) : unquote (nested depth) = nested depth :=
  unquote_of_inner fun _ => isInner_of_mem_join fun _ => isPlain_of_mem_nestedWords

theorem runLine_nested_succ (depth : Nat) (hroom : c.room = room + 3) :
    runLine c (nested (depth + 1)) = runLine { c with room, input? := none } (nested depth) := by
  have hshell : IsShell "sh" := .inl rfl
  rw [runLine_shell hshell (split_nested _) (parse?_nested_succ depth) hroom]
  exact congrArg _ (unquote_nested depth)

/-- Shells within one another come to their command, where there is room for all of them. -/
theorem run_nested {depth : Nat} (hroom : 3 * depth + 3 ≤ c.room) (s : State) :
    (runLine c (nested depth)).run s = (.ok (.text (c.user ++ "\n")), s) := by
  induction depth generalizing c with
  | zero =>
    obtain ⟨room, hc⟩ : ∃ room, c.room = room + 3 := ⟨c.room - 3, by omega⟩
    rw [runLine_single hc (split_nested 0) parse?_nested_zero]
    exact run_dispatch_whoami (by decide) (by decide) rfl s
  | succ depth ih =>
    obtain ⟨room, hc⟩ : ∃ room, c.room = room + 3 := ⟨c.room - 3, by omega⟩
    have hrest : 3 * depth + 3 ≤ room := by omega
    rw [runLine_nested_succ depth hc]
    exact ih hrest

/-- Where there is no room for all of them they fail, and nothing is changed. -/
theorem run_nested_of_room_lt {depth : Nat} (hroom : c.room < 3 * depth + 3) (s : State) :
    (runLine c (nested depth)).run s = (.error .tooDeep, s) := by
  induction depth generalizing c with
  | zero =>
    have hcommand : Command.ofName? (Invocation.ofWords "whoami" []).command = some .whoami := by
      decide
    exact run_runLine_of_room_lt (split_nested 0) parse?_nested_zero (by decide) hcommand hroom s
  | succ depth ih =>
    by_cases hfew : c.room < 3
    · have hshell : IsShell "sh" := .inl rfl
      exact run_runLine_shell_of_room_lt hshell (split_nested _) (parse?_nested_succ depth) hfew s
    · obtain ⟨room, hc⟩ : ∃ room, c.room = room + 3 := ⟨c.room - 3, by omega⟩
      have hrest : room < 3 * depth + 3 := by omega
      rw [runLine_nested_succ depth hc]
      exact ih hrest

/-! ## Scripts in quotes -/

/-- A shell runs a script in quotes as a line, three calls deeper. -/
theorem runLine_inQuotes (hshell : IsShell name) (hscript : '"' ∉ script.toList)
    (hroom : c.room = room + 3) :
    runLine c (inQuotes name script) = runLine { c with room, input? := none } script := by
  obtain ⟨text, raw, hsplit, hinv⟩ := exists_split_inQuotes hshell.isPlain hscript
  rw [runLine_shell hshell hsplit hinv hroom, unquote_join_wordsOf, runLine_squeezed]

/-- Where the line around a script does not end for want of room, it does what the script does. -/
theorem agrees_inQuotes (hshell : IsShell name) (hscript : '"' ∉ script.toList)
    (hinput : c.input? = none) :
    AgreesUnless .tooDeep (runLine c (inQuotes name script)) (runLine c script) := by
  by_cases hroom : c.room < 3
  · obtain ⟨text, raw, hsplit, hinv⟩ := exists_split_inQuotes hshell.isPlain hscript
    intro s
    rw [run_runLine_shell_of_room_lt hshell hsplit hinv hroom]
    exact .inl rfl
  · obtain ⟨room, hroom⟩ : ∃ room, c.room = room + 3 := ⟨c.room - 3, by omega⟩
    -- By itself the script has more room, in which it does the same unless the lesser one ran out.
    have hroomier : ({ c with room, input? := none } : Context).roomier 3 = c := by
      unfold Context.roomier
      rw [← hroom, ← hinput]
    have hagrees := (agrees_runs 3).1 { c with room, input? := none } script
    rwa [hroomier, ← runLine_inQuotes hshell hscript hroom] at hagrees

/-- **A script in quotes** that is given to a shell does what it does as a line, with the same
result and the same state after it: exactly so where there is room for the three calls that the
shell takes, and otherwise unless the shell ends for want of room. -/
theorem script_runs_as_line (c : Context) (hshell : IsShell name) (hscript : '"' ∉ script.toList)
    (hinput : c.input? = none) (s : State) :
    (runLine (c.roomier 3) (inQuotes name script)).run s = (runLine c script).run s ∧
      (((runLine c (inQuotes name script)).run s).1 = .error .tooDeep ∨
        (runLine c (inQuotes name script)).run s = (runLine c script).run s) := by
  refine ⟨?_, (agrees_inQuotes hshell hscript hinput s).imp id Eq.symm⟩
  have hsame : ({ c.roomier 3 with room := c.room, input? := none } : Context) = c := by
    unfold Context.roomier
    rw [← hinput]
  have hroom : (c.roomier 3).room = c.room + 3 := rfl
  rw [runLine_inQuotes hshell hscript hroom, hsame]

theorem script_runs_as_line_example :
    (IsShell "bash" ∧ '"' ∉ "cd /tmp  && echo 'a;b' |  cat; sh -c exit".toList ∧
      guest.input? = none) ∧
      (runLine (guest.roomier 3)
          (inQuotes "bash" "cd /tmp  && echo 'a;b' |  cat; sh -c exit")).run bare =
        (runLine guest "cd /tmp  && echo 'a;b' |  cat; sh -c exit").run bare ∧
      (((runLine guest
          (inQuotes "bash" "cd /tmp  && echo 'a;b' |  cat; sh -c exit")).run bare).1 =
          .error .tooDeep ∨
        (runLine guest (inQuotes "bash" "cd /tmp  && echo 'a;b' |  cat; sh -c exit")).run bare =
          (runLine guest "cd /tmp  && echo 'a;b' |  cat; sh -c exit").run bare) :=
  ⟨⟨by decide, by decide, rfl⟩, script_runs_as_line guest (by decide) (by decide) rfl bare⟩

/-- A script that just has room by itself fails in quotes. -/
theorem nested_fails_in_quotes :
    guest.input? = none ∧ '"' ∉ (nested 327).toList ∧
      (runLine guest (nested 327)).run bare = (.ok (.text "pi\n"), bare) ∧
      (runLine guest (inQuotes "bash" (nested 327))).run bare = (.error .tooDeep, bare) := by
  have hinner : ∀ c ∈ (nested 327).toList, isInner c = true := fun _ =>
    isInner_of_mem_join fun _ => isPlain_of_mem_nestedWords
  have hscript : '"' ∉ (nested 327).toList := fun hmem => absurd (hinner _ hmem) (by decide)
  have hroom : guest.room = 983 + 3 := rfl
  refine ⟨rfl, hscript, run_nested (by decide) bare, ?_⟩
  rw [runLine_inQuotes (.inr rfl) hscript hroom]
  exact run_nested_of_room_lt (by decide) bare

end Honeypot.Shell
