import Honeypot.Proofs.Shell.Sequence

/-!
# What stands behind the first words of a line

A line that begins with plain words has a first command of these words and of the words behind
them. What stands behind them, in the command and in the commands after it, is the same whatever
words the line begins with (`exists_split_join`).
-/

namespace Honeypot.Shell

/-! ## Commands by their words -/

section Raw

variable (c : Context) (raw raw' name : String) (words : List String)

theorem runCommand_raw (command : Command) :
    runCommand c ⟨raw, name, words⟩ command = runCommand c ⟨raw', name, words⟩ command := by
  unfold runCommand
  cases command <;> rfl

theorem dispatch_raw : dispatch c ⟨raw, name, words⟩ = dispatch c ⟨raw', name, words⟩ := by
  unfold dispatch
  simp only [runCommand_raw _ raw raw']
  rfl

end Raw

/-! ## Plain words -/

/-- Whether a character is no quote and does not occur in joints. -/
def isInner (c : Char) : Bool := !isQuote c && c != ';' && c != '|' && c != '&'

/-- A word without quotes and joints. -/
def IsPlain (t : String) : Prop := Text.IsWord t ∧ t.toList.all isInner = true

instance (t : String) : Decidable (IsPlain t) :=
  inferInstanceAs (Decidable (Text.IsWord t ∧ t.toList.all isInner = true))

/-- What may stand behind a word: nothing, or something that begins with a blank. -/
def Trails (t : String) : Prop := ∀ c ∈ t.toList.head?, Text.isBlank c = true

instance (t : String) : Decidable (Trails t) :=
  decidable_of_iff (t.toList.head?.all Text.isBlank = true)
    (Option.all_eq_true Text.isBlank t.toList.head?)

theorem isInner_of_isBlank {c : Char} (h : Text.isBlank c = true) : isInner c = true := by
  have hne (d : Char) (hd : Text.isBlank d = false) : c ≠ d := by
    rintro rfl
    rw [h] at hd
    cases hd
  simp [isInner, isQuote, hne '\'' (by decide), hne '"' (by decide), hne ';' (by decide),
    hne '|' (by decide), hne '&' (by decide)]

theorem isInner_of_mem_join {ts : List String} (h : ∀ t ∈ ts, IsPlain t) {c : Char}
    (hc : c ∈ (Text.join " " ts).toList) : isInner c = true := by
  induction ts with
  | nil => cases hc
  | cons t ts ih =>
    have hplain : ∀ c ∈ t.toList, isInner c = true :=
      List.all_eq_true.mp (h t List.mem_cons_self).2
    cases ts with
    | nil =>
      rw [Text.join_singleton] at hc
      exact hplain c hc
    | cons u rest =>
      rw [Text.toList_join_cons_cons, List.mem_append, List.mem_cons] at hc
      obtain hc | rfl | hc := hc
      · exact hplain c hc
      · exact isInner_of_isBlank (by decide)
      · exact ih (fun v hv => h v (List.mem_cons_of_mem _ hv)) hc

/-! ## Cutting behind plain words -/

/-- Characters that are no quotes and do not occur in joints belong to the command. -/
theorem cut_inner {cs : List Char} (h : ∀ c ∈ cs, isInner c = true) (joint : Joint)
    (done rest : List Char) :
    cut none joint done (cs ++ rest) = cut none joint (cs.reverse ++ done) rest := by
  induction cs generalizing done with
  | nil => rfl
  | cons c cs ih =>
    have hinner : ((isQuote c = false ∧ c ≠ ';') ∧ c ≠ '|') ∧ c ≠ '&' := by
      simpa [isInner] using h c List.mem_cons_self
    obtain ⟨⟨⟨hquote, hsemicolon⟩, hbar⟩, hand⟩ := hinner
    rw [List.cons_append, cut_plain (fun _ hc => absurd hc hand) (fun _ hc => absurd hc hbar)
      hsemicolon hbar, hquote, List.reverse_cons, List.append_assoc, List.singleton_append]
    exact ih (fun d hd => h d (List.mem_cons_of_mem _ hd)) (c :: done)

/-- The rest of a command begins as what stands behind its words. -/
theorem cut_trail {t : String} (ht : Trails t) :
    ∃ piece later,
      (∀ joint done, cut none joint done t.toList = (joint, done.reverse ++ piece) :: later) ∧
      ∀ c ∈ piece.head?, Text.isBlank c = true := by
  unfold Trails at ht
  cases hcs : t.toList with
  | nil => exact ⟨[], [], fun _ done => by rw [cut, List.append_nil], nofun⟩
  | cons b rest =>
    rw [hcs] at ht
    have hb : Text.isBlank b = true := ht b rfl
    obtain ⟨piece, later, hcut, -⟩ := cut_eq none rest
    refine ⟨b :: piece, later, fun joint done => ?_, ht⟩
    have hinner : ∀ c ∈ [b], isInner c = true := by
      intro c hc
      rw [List.mem_singleton.mp hc]
      exact isInner_of_isBlank hb
    rw [← List.singleton_append, cut_inner hinner, hcut, List.reverse_append, List.append_assoc,
      List.reverse_reverse, List.singleton_append]

theorem words_append {piece : List Char} (hpiece : ∀ c ∈ piece.head?, Text.isBlank c = true)
    (s : String) :
    Text.words (String.ofList (Text.dropEnds Text.isBlank (s.toList ++ piece))) =
      Text.words s ++ Text.words (String.ofList piece) := by
  unfold Text.words
  rw [String.toList_ofList, String.toList_ofList, Text.wordsOf_dropEnds, ← List.map_append]
  cases piece with
  | nil =>
    rw [List.append_nil]
    exact congrArg _ (List.append_nil _).symm
  | cons b piece =>
    have hb : Text.isBlank b = true := hpiece b rfl
    have hrest : Text.wordsOf (b :: piece) = Text.wordsOf piece :=
      Text.wordsOf_append_blank hb [] piece
    rw [Text.wordsOf_append_blank hb, hrest]

/-- **What stands behind plain words**: some more words of the same command, and the commands
after it. None of them depends on what the plain words are. -/
theorem exists_split_join {t : String} (ht : Trails t) :
    ∃ words later, (∀ word ∈ words, Text.IsWord word) ∧
      ∀ name front, (∀ word ∈ name :: front, IsPlain word) →
        ∃ text raw, split (Text.join " " (name :: front) ++ t) = ⟨.start, text⟩ :: later ∧
          Invocation.parse? text = some ⟨raw, name, front ++ words⟩ := by
  obtain ⟨piece, later, hcut, hpiece⟩ := cut_trail ht
  refine ⟨Text.words (String.ofList piece), later.filterMap segment?,
    fun _ => Text.isWord_of_mem_words, fun name front hplain => ?_⟩
  let first := Text.join " " (name :: front)
  let body := Text.dropEnds Text.isBlank (first.toList ++ piece)
  have hwords : Text.words (String.ofList body) =
      name :: (front ++ Text.words (String.ofList piece)) := by
    rw [words_append hpiece, Text.words_join fun word hword => (hplain word hword).1]
    rfl
  have hbody : ¬body.isEmpty = true := by
    intro hempty
    rw [List.isEmpty_iff.mp hempty] at hwords
    cases hwords
  refine ⟨String.ofList body, Text.strip (String.ofList body), ?_, ?_⟩
  · have hsegment : segment? (.start, first.toList ++ piece) =
        some ⟨.start, String.ofList body⟩ := if_neg hbody
    unfold split
    rw [String.toList_append, cut_inner (fun c => isInner_of_mem_join hplain), hcut,
      List.append_nil, List.reverse_reverse, List.filterMap_cons_some hsegment]
  · unfold Invocation.parse?
    rw [hwords]

/-! ## First commands -/

section First

variable {c : Context} {line text : String} {later : List Segment} {inv : Invocation} {room : Nat}
  (hroom : c.room = room + 1)

include hroom

/-- The first command of a line is dispatched, and what is behind it goes on. -/
theorem runLine_first (hsplit : split line = ⟨.start, text⟩ :: later)
    (hinv : Invocation.parse? text = some inv) :
    runLine c line = dispatch { c with room } inv >>= fun
      | .exit => pure .exit
      | .text output => runSegments { c with room } [output] (inv.failed output) later := by
  have hfirst : (⟨.start, text⟩ : Segment).isPassedOver false = false := rfl
  rw [runLine, call_bind hroom, hsplit, runSegments_of_runs hfirst hinv]
  rfl

theorem runLine_single (hsplit : split line = [⟨.start, text⟩])
    (hinv : Invocation.parse? text = some inv) : runLine c line = dispatch { c with room } inv := by
  have hend (response : Response) : (match response with
      | .exit => pure .exit
      | .text output => runSegments { c with room } [output] (inv.failed output) []) =
        (pure response : Action Response) := by
    cases response with
    | exit => rfl
    | text output =>
      dsimp only
      rw [runSegments_nil]
      exact congrArg (fun s => pure (Response.text s)) String.empty_append
  rw [runLine_first hroom hsplit hinv]
  simp only [hend, bind_pure]

end First

end Honeypot.Shell
