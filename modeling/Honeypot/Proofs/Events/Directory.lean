import Mathlib.Data.List.DropRight
import Mathlib.Data.List.Nodup
import Honeypot.Events.Log
import Honeypot.Proofs.TextOrder

/-!
# What becomes of the files of a directory

Every change of a directory is a change of some of its files by name. Of files in the order of their
names the latest ones outlive the removal of a surplus (`mem_surplus_iff`). The journal keeps to its
own files and those that it puts aside (`lookup_journal_write`), and a transcript to the one file of
its session (`transcript_write_cases`), which always ends alike (`endsWith_of_fileOf?`).
-/

namespace Honeypot

/-! ## Ends of texts -/

namespace Text

theorem startsWith_iff {s head : String} :
    startsWith s head = true ↔ head.toList <+: s.toList := List.isPrefixOf_iff_prefix

theorem endsWith_iff {s tail : String} :
    endsWith s tail = true ↔ tail.toList <:+ s.toList := List.isSuffixOf_iff_suffix

theorem startsWith_append (head rest : String) : startsWith (head ++ rest) head = true := by
  rw [startsWith_iff, String.toList_append]
  exact List.prefix_append _ _

theorem endsWith_append {s tail : String} (h : endsWith s tail = true) (head : String) :
    endsWith (head ++ s) tail = true := by
  rw [endsWith_iff] at h ⊢
  rw [String.toList_append]
  exact h.trans (List.suffix_append _ _)

theorem suffix_getLast_splitOn {sep : Char} {tail : List Char} (h : sep ∉ tail) (cs : List Char) :
    ∃ last, ((cs ++ tail).splitOn sep).getLast? = some last ∧ tail <:+ last := by
  have hsplit (x : Char) (xs : List Char) : (x :: xs).splitOn sep =
      if x == sep then [] :: xs.splitOn sep else (xs.splitOn sep).modifyHead (List.cons x) :=
    List.splitOnP_cons_eq_if_modifyHead x xs
  induction cs with
  | nil =>
    refine ⟨tail, ?_, List.suffix_refl tail⟩
    have hwhole : tail.splitOn sep = [tail] :=
      List.splitOnP_eq_singleton fun c hc => beq_eq_false_iff_ne.mpr fun e => h (e ▸ hc)
    rw [List.nil_append, hwhole]
    rfl
  | cons c cs ih =>
    obtain ⟨last, hlast, htail⟩ := ih
    obtain ⟨first, more, hpieces⟩ :=
      List.exists_cons_of_ne_nil (List.splitOnP_ne_nil (· == sep) (cs ++ tail))
    change (cs ++ tail).splitOn sep = first :: more at hpieces
    rw [List.cons_append, hsplit, hpieces]
    rw [hpieces] at hlast
    split
    · exact ⟨last, by rwa [List.getLast?_cons_cons], htail⟩
    · cases more with
      | nil =>
        cases hlast
        exact ⟨c :: first, rfl, htail.trans (List.suffix_cons c first)⟩
      | cons second more =>
        rw [List.getLast?_cons_cons] at hlast
        exact ⟨last, by rwa [List.modifyHead_cons, List.getLast?_cons_cons], htail⟩

end Text

namespace Events

namespace Directory

variable {d : Directory} {name newName x : String}

/-! ## Changes by name -/

theorem lookup_append (d : Directory) (now : Calendar.Reading) (name text x : String) :
    (d.append now name text).lookup x =
      if x = name then some ⟨((d.lookup name).map File.text).getD "" ++ text, now⟩
      else d.lookup x := by
  unfold append
  rw [Assoc.lookup_put]
  cases d.lookup name <;> rfl

/-- The text of a file; one that is not there has none. -/
def textOf (d : Directory) (file : String) : String := ((d.lookup file).map File.text).getD ""

theorem lookup_touch_of_ne (h : x ≠ name) (now : Calendar.Reading) :
    (d.touch now name).lookup x = d.lookup x := by
  unfold touch
  split
  · rfl
  · rw [Assoc.lookup_put, if_neg h]

theorem lookup_rename_of_ne (h : x ≠ name) (hnew : x ≠ newName) :
    (d.rename name newName).lookup x = d.lookup x := by
  unfold rename
  split
  · rw [Assoc.lookup_put, if_neg hnew, Assoc.lookup_erase, if_neg h]
  · rfl

theorem lookup_rename {file : File} (h : d.lookup name = some file) (x : String) :
    (d.rename name newName).lookup x =
      if x = newName then some file else if x = name then none else d.lookup x := by
  unfold rename
  rw [h, Assoc.lookup_put, Assoc.lookup_erase]

theorem lookup_removeAll (d : Directory) (names : List String) (x : String) :
    (d.removeAll names).lookup x = if x ∈ names then none else d.lookup x := by
  unfold removeAll
  induction names generalizing d with
  | nil => rfl
  | cons name names ih =>
    rw [List.foldl_cons, ih, Assoc.lookup_erase]
    by_cases hname : x = name
    · have hmem : x ∈ name :: names := by
        rw [hname]
        exact List.mem_cons_self ..
      rw [if_pos hname, if_pos hmem, ite_self]
    · rw [if_neg hname]
      exact if_congr (by rw [List.mem_cons, or_iff_right hname]) rfl rfl

theorem mem_topNames_iff : x ∈ d.topNames ↔
    (d.lookup x).isSome = true ∧ Text.hasChar x '/' = false := by
  unfold topNames
  rw [List.mem_filter, Assoc.isSome_lookup_iff, Bool.not_eq_true']

theorem mem_of_mem_surplus {keep : Int} {names : List String} (h : x ∈ surplus keep names) :
    x ∈ names :=
  (List.mergeSort_perm _ _).subset (List.mem_of_mem_take h)

/-- **Of names in order the last ones outlive the removal of a surplus**, as many as are to be
kept. -/
theorem mem_surplus_iff {names late : List String} {keep : Int} (hkeep : 0 ≤ keep)
    (distinct : names.Nodup) (ordered : late.Pairwise fun a b => a.toList < b.toList)
    (hmem : ∀ x, x ∈ names ↔ x ∈ late) :
    x ∈ surplus keep names ↔ x ∈ late ∧ x ∉ late.rtake keep.toNat := by
  have hnodup : late.Nodup := Text.nodup_of_pairwise ordered
  have hperm : names.Perm late := (List.perm_ext_iff_of_nodup distinct hnodup).mpr hmem
  have hgone : ((names.length : Int) - keep).toNat = late.length - keep.toNat := by
    rw [hperm.length_eq]
    omega
  rw [surplus, Text.sort_eq_of_perm hperm ordered, hgone, List.rtake]
  constructor
  · exact fun htaken => ⟨List.mem_of_mem_take htaken,
      List.disjoint_take_drop hnodup (le_refl _) htaken⟩
  · rintro ⟨hlate, hdropped⟩
    rw [← List.take_append_drop (late.length - keep.toNat) late] at hlate
    exact (List.mem_append.mp hlate).resolve_right hdropped

/-! ## Names that occur once -/

/-- Whether every name of a directory is that of one file. -/
def Distinct (d : Directory) : Prop := (d.map (·.1)).Nodup

theorem Distinct.append (h : d.Distinct) (now : Calendar.Reading) (name text : String) :
    (d.append now name text).Distinct := Assoc.nodup_keys_put h _

theorem Distinct.touch (h : d.Distinct) (now : Calendar.Reading) (name : String) :
    (d.touch now name).Distinct := by
  unfold Directory.touch
  split
  · exact h
  · exact Assoc.nodup_keys_put h _

theorem Distinct.rename (h : d.Distinct) (name newName : String) :
    (d.rename name newName).Distinct := by
  unfold Directory.rename
  split
  · exact Assoc.nodup_keys_put (Assoc.nodup_keys_erase h _) _
  · exact h

theorem Distinct.removeAll (h : d.Distinct) (names : List String) :
    (d.removeAll names).Distinct := by
  unfold Directory.removeAll
  induction names generalizing d with
  | nil => exact h
  | cons name names ih => exact ih (Assoc.nodup_keys_erase h name)

theorem Distinct.topNames (h : d.Distinct) : d.topNames.Nodup := h.filter _

end Directory

/-! ## The journal -/

section Journal

variable {d : Directory} {x : String}

theorem journal_turn_keeps (hx : Text.startsWith x Journal.name = false) (keep midnight : Int)
    (now : Calendar.Reading) (d : Directory) :
    (Journal.turn keep midnight now d).lookup x = d.lookup x := by
  have hne : x ≠ Journal.name := by
    rintro rfl
    exact absurd hx (by decide)
  have hnew (day : String) : x ≠ Journal.name ++ "." ++ day := by
    rintro rfl
    rw [String.append_assoc, Text.startsWith_append] at hx
    cases hx
  have hsurplus (names : List String) :
      x ∉ Directory.surplus keep (names.filter Journal.isBackup) := fun hmem => by
    have hbackup := (List.mem_filter.mp (Directory.mem_of_mem_surplus hmem)).2
    rw [Journal.isBackup, hx, Bool.false_and] at hbackup
    cases hbackup
  unfold Journal.turn
  dsimp only
  rw [Directory.lookup_touch_of_ne hne]
  split
  · rw [Directory.lookup_removeAll, if_neg (hsurplus _),
      Directory.lookup_rename_of_ne hne (hnew _)]
  · exact Directory.lookup_rename_of_ne hne (hnew _)

/-- **The journal leaves all files alone that are not named after it.** -/
theorem lookup_journal_write (hx : Text.startsWith x Journal.name = false) (room : Nat)
    (keep midnight : Int) (now : Calendar.Reading) (d : Directory) (r : Record) :
    (Journal.write room keep midnight now d r).1.lookup x = d.lookup x := by
  have hne : x ≠ Journal.name := by
    rintro rfl
    exact absurd hx (by decide)
  unfold Journal.write
  split
  · rfl
  · dsimp only
    rw [Directory.lookup_append, if_neg hne]
    split
    · exact journal_turn_keeps hx keep midnight now d
    · rfl

theorem distinct_journal_write (h : d.Distinct) (room : Nat) (keep midnight : Int)
    (now : Calendar.Reading) (r : Record) :
    (Journal.write room keep midnight now d r).1.Distinct := by
  have hturn : (Journal.turn keep midnight now d).Distinct := by
    unfold Journal.turn
    dsimp only
    split
    · exact ((h.rename _ _).removeAll _).touch _ _
    · exact (h.rename _ _).touch _ _
  unfold Journal.write
  split
  · exact h
  · dsimp only
    split
    · exact hturn.append _ _ _
    · exact h.append _ _ _

end Journal

/-! ## Transcripts -/

/-- The file of the transcript that an event goes to. -/
def Record.transcript? (p : Place) (r : Record) : Option String :=
  if Transcript.isName (r.get "session_id") then
    Transcript.fileOf? p (r.get "session_id").shown
  else none

variable {p : Place} {session file : String} {r : Record}

theorem endsWith_of_fileOf? (h : Transcript.fileOf? p session = some file) :
    Text.endsWith file ".log" = true := by
  have hsep : '/' ∉ ".log".toList := by decide
  obtain ⟨cs, hcs, htail⟩ := Text.suffix_getLast_splitOn hsep session.toList
  have hlast : (Text.fields '/' (session ++ ".log")).getLast? = some (String.ofList cs) := by
    unfold Text.fields
    rw [String.toList_append, List.getLast?_map, hcs]
    rfl
  have hback : (String.ofList cs).toList = cs := String.toList_ofList
  have hends : Text.endsWith (String.ofList cs) ".log" = true := by
    rwa [Text.endsWith_iff, hback]
  unfold Transcript.fileOf? at h
  dsimp only at h
  rw [hlast, Option.getD_some] at h
  split at h
  · cases h
  · obtain ⟨way, -, hway⟩ := Option.bind_eq_some_iff.mp h
    split at hway
    · cases hway
      exact Text.endsWith_append hends _
    · split at hway
      · cases hway
        exact hends
      · cases hway

/-- A session whose name is that of one file has its transcript among those of the sessions. -/
theorem startsWith_of_fileOf? (hname : Text.hasChar session '/' = false)
    (h : Transcript.fileOf? p session = some file) :
    Text.startsWith file "sessions/" = true := by
  have hslash : '/' ∉ (session ++ ".log").toList := by
    rw [← Bool.not_eq_true, Text.hasChar, List.contains_iff_mem] at hname
    rw [String.toList_append, List.mem_append, not_or]
    exact ⟨hname, by decide⟩
  have hparts : Text.fields '/' (session ++ ".log") = [session ++ ".log"] := by
    unfold Text.fields
    rw [List.splitOn_eq_singleton hslash, List.map_singleton, String.ofList_toList]
  have hstart : Text.startsWith session "/" = false := by
    rw [← Bool.not_eq_true, Text.startsWith_iff]
    intro habsolute
    refine hslash ?_
    rw [String.toList_append]
    exact List.mem_append_left _ (habsolute.subset (by decide))
  unfold Transcript.fileOf? at h
  dsimp only at h
  rw [hparts, hstart] at h
  split at h
  · cases h
  · rw [if_neg Bool.false_ne_true, List.dropLast_singleton, Place.walk, Option.bind_some,
      if_pos rfl] at h
    cases h
    exact Text.startsWith_append _ _

theorem endsWith_transcript (h : r.transcript? p = some file) :
    Text.endsWith file ".log" = true := by
  unfold Record.transcript? at h
  split at h
  · exact endsWith_of_fileOf? h
  · cases h

theorem transcript_write_cases (p : Place) (room : Nat) (now : Calendar.Reading)
    (begun : List Json) (d : Directory) (r : Record) :
    (Transcript.write p room now begun d r).1 = d ∨
      ∃ file text, r.transcript? p = some file ∧
        (Transcript.write p room now begun d r).1 = d.append now file text := by
  unfold Transcript.write Record.transcript?
  dsimp only
  split
  · exact .inl rfl
  · next session hsession =>
    split at hsession
    · next hname =>
      have hshown : session = (r.get "session_id").shown := by
        unfold Json.shown? at hsession
        split at hsession
        · exact (Option.some.inj hsession).symm
        · cases hsession
      rw [if_pos hname, ← hshown]
      split
      · exact .inl rfl
      · exact .inl rfl
      · split
        · exact .inl rfl
        · next file hfile =>
          dsimp only
          split
          · exact .inl rfl
          · exact .inr ⟨file, _, hfile, rfl⟩
    · cases hsession

theorem transcript_write_of_none (h : r.transcript? p = none) (room : Nat)
    (now : Calendar.Reading) (begun : List Json) (d : Directory) :
    (Transcript.write p room now begun d r).1 = d := by
  refine (transcript_write_cases p room now begun d r).resolve_right ?_
  rintro ⟨file, text, hfile, -⟩
  rw [h] at hfile
  cases hfile

end Events

end Honeypot
