import Honeypot.Proofs.Events.Transcripts
import Honeypot.Proofs.Shell.Redirections

/-!
# Counting processors

Three places tell how many processor cores a device has, and somebody who suspects a trap compares
them. They agree on every device whose texts have no line feed: the table of processors has a row
for each core, numbered from zero on, and `nproc` and `lscpu` print their number (`cores_agree`).
-/

namespace Honeypot

namespace Text

/-! ## Numbers -/

theorem isBlank_of_isDigit {c : Char} (h : c.isDigit = true) : isBlank c = false := by
  obtain ⟨hlow, hhigh⟩ : 48 ≤ c.toNat ∧ c.toNat ≤ 57 := Char.isDigit_iff_toNat.mp h
  unfold isBlank
  simp
  omega

theorem isWord_ofNat (n : Nat) : IsWord (ofNat n) := by
  have htext : (ofNat n).toList = Nat.toDigits 10 n := String.toList_ofList
  unfold IsWord
  rw [htext]
  exact ⟨Nat.toDigits_ne_nil, fun c hc =>
    isBlank_of_isDigit (Nat.isDigit_of_mem_toDigits (by decide) (by decide) hc)⟩

theorem not_mem_feed_ofInt (n : Int) : '\n' ∉ (ofInt n).toList := by
  cases n with
  | ofNat n => exact (isWord_ofNat n).not_mem_feed
  | negSucc n =>
    have hsign : '\n' ∉ "-".toList := by decide
    exact not_mem_append hsign (isWord_ofNat (n + 1)).not_mem_feed

theorem strip_blanks_word {t : String} (h : IsWord t) {blanks : List Char}
    (hblanks : ∀ b ∈ blanks, isBlank b = true) :
    strip (String.ofList (blanks ++ t.toList)) = t := by
  have hword := strip_join (List.forall_mem_singleton.mpr h)
  rw [join_singleton] at hword
  have hfront : (blanks ++ t.toList).dropWhile isBlank = t.toList.dropWhile isBlank := by
    induction blanks with
    | nil => rfl
    | cons b blanks ih =>
      obtain ⟨hb, hblanks⟩ := List.forall_mem_cons.mp hblanks
      rw [List.cons_append, List.dropWhile_cons_of_pos hb, ih hblanks]
  unfold strip trim dropEnds at hword ⊢
  rw [String.toList_ofList, hfront]
  exact hword

/-! ## Rows of a key and a value -/

/-- What stands behind the first colon of a row, if a given key stands before it. Blanks around the
two do not count. -/
def valueFor? (key line : String) : Option String :=
  (cutFirst ':' line.toList).bind fun (left, right) =>
    if strip (String.ofList left) = key then some (strip (String.ofList right)) else none

/-- The values that the rows of a text have for a key, in order. -/
def valuesFor (key s : String) : List String := (endedLines s).filterMap (valueFor? key)

theorem cutFirst_append {sep : Char} {cs left right : List Char}
    (h : cutFirst sep cs = some (left, right)) (rest : List Char) :
    cutFirst sep (cs ++ rest) = some (left, right ++ rest) := by
  induction cs generalizing left with
  | nil => cases h
  | cons c cs ih =>
    rw [List.cons_append]
    unfold cutFirst at h ⊢
    split
    · next hc =>
      rw [if_pos hc] at h
      cases h
      rfl
    · next hc =>
      rw [if_neg hc] at h
      obtain ⟨⟨left, right⟩, hcut, hpair⟩ := Option.map_eq_some_iff.mp h
      cases hpair
      rw [ih hcut]
      rfl

/-- Whether a text begins a row and is followed by the value: what stands before its first colon,
and that only blanks stand behind it. -/
structure Leads (key label : String) : Prop where
  line : '\n' ∉ label.toList
  cut : ∃ left right, cutFirst ':' label.toList = some (left, right) ∧
    strip (String.ofList left) = key ∧ ∀ b ∈ right, isBlank b = true

/-- Whether a text begins a row of another key, or is all of one. -/
structure IsOther (key label : String) : Prop where
  line : '\n' ∉ label.toList
  cut : ∃ left right, cutFirst ':' label.toList = some (left, right) ∧
    strip (String.ofList left) ≠ key

variable {key label rest : String}

theorem Leads.valueFor?_eq (h : Leads key label) (hrest : IsWord rest) :
    valueFor? key (label ++ rest) = some rest := by
  obtain ⟨left, right, hcut, hkey, hblanks⟩ := h.cut
  unfold valueFor?
  rw [String.toList_append, cutFirst_append hcut, Option.bind_some]
  dsimp only
  rw [if_pos hkey, strip_blanks_word hrest hblanks]

theorem IsOther.valueFor?_eq (h : IsOther key label) : valueFor? key label = none := by
  obtain ⟨left, right, hcut, hkey⟩ := h.cut
  unfold valueFor?
  rw [hcut, Option.bind_some]
  exact if_neg hkey

theorem IsOther.append (h : IsOther key label) (hrest : '\n' ∉ rest.toList) :
    IsOther key (label ++ rest) where
  line := not_mem_append h.line hrest
  cut := by
    obtain ⟨left, right, hcut, hkey⟩ := h.cut
    rw [String.toList_append]
    exact ⟨left, right ++ rest.toList, cutFirst_append hcut rest.toList, hkey⟩

/-! Which of the two a text is, is decided over its characters: that of the text itself has to take
them out of its bytes first. -/

def leadsChars (key label : List Char) : Bool :=
  !label.contains '\n' && (cutFirst ':' label).any fun (left, right) =>
    dropEnds isBlank left == key && right.all isBlank

def isOtherChars (key label : List Char) : Bool :=
  !label.contains '\n' && (cutFirst ':' label).any fun (left, _) => dropEnds isBlank left != key

theorem strip_ofList_eq_iff {cs key : List Char} :
    strip (String.ofList cs) = String.ofList key ↔ dropEnds isBlank cs = key := by
  unfold strip trim
  rw [String.toList_ofList, String.ofList_inj]

theorem not_mem_ofList {c : Char} {cs : List Char} (h : cs.contains c = false) :
    c ∉ (String.ofList cs).toList := by
  rw [String.toList_ofList]
  simpa using h

theorem Leads.of_chars {key label : List Char} (h : leadsChars key label = true) :
    Leads (String.ofList key) (String.ofList label) := by
  unfold leadsChars at h
  obtain ⟨hline, hcut⟩ := Bool.and_eq_true_iff.mp h
  obtain ⟨⟨left, right⟩, hcut, hboth⟩ := (Option.any_eq_true _ _).mp hcut
  obtain ⟨hkey, hblanks⟩ := Bool.and_eq_true_iff.mp hboth
  refine ⟨not_mem_ofList (by simpa using hline), left, right, ?_, ?_, List.all_eq_true.mp hblanks⟩
  · rw [String.toList_ofList, hcut]
  · exact strip_ofList_eq_iff.mpr (beq_iff_eq.mp hkey)

theorem IsOther.of_chars {key label : List Char} (h : isOtherChars key label = true) :
    IsOther (String.ofList key) (String.ofList label) := by
  unfold isOtherChars at h
  obtain ⟨hline, hcut⟩ := Bool.and_eq_true_iff.mp h
  obtain ⟨⟨left, right⟩, hcut, hkey⟩ := (Option.any_eq_true _ _).mp hcut
  refine ⟨not_mem_ofList (by simpa using hline), left, right, ?_, ?_⟩
  · rw [String.toList_ofList, hcut]
  · exact mt strip_ofList_eq_iff.mp (bne_iff_ne.mp hkey)

theorem cutFirst_name {sep : Char} {cs : List Char} (h : cs.contains sep = false)
    (rest : List Char) : cutFirst sep (cs ++ sep :: rest) = some (cs, rest) := by
  induction cs with
  | nil => exact if_pos rfl
  | cons c cs ih =>
    rw [List.contains_cons, Bool.or_eq_false_iff] at h
    rw [List.cons_append, cutFirst, if_neg fun heq => by simp [heq] at h, ih h.2]
    rfl

/-- Whether characters are the name of a fact, without a colon and without blanks around them. -/
def isNameChars (name : List Char) : Bool :=
  !name.contains '\n' && !name.contains ':' && dropEnds isBlank name == name

/-- The name of a fact with a colon behind it, set flush left in a column. -/
theorem cut_name {name : List Char} (h : isNameChars name = true) (width : Nat) :
    '\n' ∉ (padRight width (String.ofList name ++ ":")).toList ∧
    ∃ blanks, cutFirst ':' (padRight width (String.ofList name ++ ":")).toList =
      some (name, blanks) ∧ ∀ b ∈ blanks, isBlank b = true := by
  unfold isNameChars at h
  simp only [Bool.and_eq_true, Bool.not_eq_true'] at h
  have htext : (padRight width (String.ofList name ++ ":")).toList = name ++ ':' ::
      List.replicate (width - (String.ofList name ++ ":").length) ' ' := by
    unfold padRight copies
    simp only [String.toList_append, String.toList_ofList, List.append_assoc]
    rfl
  rw [htext]
  refine ⟨?_, _, cutFirst_name h.1.2 _, fun b hb => ?_⟩
  · rw [List.mem_append, List.mem_cons, not_or, not_or]
    exact ⟨by simpa using h.1.1, by decide, fun hmem =>
      absurd (List.eq_of_mem_replicate hmem) (by decide)⟩
  · rw [List.eq_of_mem_replicate hb]
    decide

theorem Leads.of_name {key : List Char} {width : Nat} (h : isNameChars key = true) :
    Leads (String.ofList key) (padRight width (String.ofList key ++ ":")) := by
  obtain ⟨hline, blanks, hcut, hblanks⟩ := cut_name h width
  refine ⟨hline, key, blanks, hcut, strip_ofList_eq_iff.mpr ?_, hblanks⟩
  exact beq_iff_eq.mp (Bool.and_eq_true_iff.mp h).2

theorem IsOther.of_name {key name : List Char} {width : Nat}
    (h : (isNameChars name && name != key) = true) (hrest : '\n' ∉ rest.toList) :
    IsOther (String.ofList key) (padRight width (String.ofList name ++ ":") ++ rest) := by
  obtain ⟨hname, hne⟩ := Bool.and_eq_true_iff.mp h
  obtain ⟨hline, blanks, hcut, -⟩ := cut_name hname width
  refine IsOther.append ⟨hline, name, blanks, hcut, mt strip_ofList_eq_iff.mp ?_⟩ hrest
  rw [beq_iff_eq.mp (Bool.and_eq_true_iff.mp hname).2]
  exact bne_iff_ne.mp hne

theorem IsOther.of_fact {key name value : List Char} {width : Nat}
    (h : (isNameChars name && name != key && !value.contains '\n') = true) :
    IsOther (String.ofList key)
      (padRight width (String.ofList name ++ ":") ++ String.ofList value) := by
  obtain ⟨hname, hvalue⟩ := Bool.and_eq_true_iff.mp h
  exact .of_name hname (not_mem_ofList (by simpa using hvalue))

/-! ## Tables of rows -/

/-- Whether a text is made of lines that have some values for a key, in order. -/
def IsTable (key : String) (values : List String) (s : String) : Prop :=
  ∃ lines, s = block lines ∧ (∀ line ∈ lines, '\n' ∉ line.toList) ∧
    lines.filterMap (valueFor? key) = values

namespace IsTable

variable {values more lines : List String} {s t line value : String}

theorem valuesFor_eq (h : IsTable key values s) : valuesFor key s = values := by
  obtain ⟨lines, rfl, hlines, hvalues⟩ := h
  unfold valuesFor
  rw [(endedLines_block lines).1 hlines]
  exact hvalues

theorem append (hs : IsTable key values s) (ht : IsTable key more t) :
    IsTable key (values ++ more) (s ++ t) := by
  obtain ⟨lines, rfl, hlines, rfl⟩ := hs
  obtain ⟨others, rfl, hothers, rfl⟩ := ht
  exact ⟨lines ++ others, (block_append lines others).symm,
    List.forall_mem_append.mpr ⟨hlines, hothers⟩, List.filterMap_append⟩

theorem nil : IsTable key [] (block []) := ⟨[], rfl, nofun, rfl⟩

theorem gap : IsTable key [] (block [""]) :=
  ⟨[""], rfl, List.forall_mem_singleton.mpr List.not_mem_nil, rfl⟩

theorem other (hline : IsOther key line) (h : IsTable key values (block lines)) :
    IsTable key values (block (line :: lines)) := by
  have hfirst : IsTable key [] (block [line]) := by
    refine ⟨[line], rfl, List.forall_mem_singleton.mpr hline.line, ?_⟩
    rw [List.filterMap_cons, hline.valueFor?_eq]
    rfl
  have hall := hfirst.append h
  rwa [← block_append] at hall

theorem row (hlabel : Leads key label) (hvalue : IsWord value)
    (h : IsTable key values (block lines)) :
    IsTable key (value :: values) (block ((label ++ value) :: lines)) := by
  have hfirst : IsTable key [value] (block [label ++ value]) := by
    refine ⟨_, rfl, List.forall_mem_singleton.mpr
      (not_mem_append hlabel.line hvalue.not_mem_feed), ?_⟩
    rw [List.filterMap_cons, hlabel.valueFor?_eq hvalue]
    rfl
  have hall := hfirst.append h
  rwa [← block_append] at hall

theorem others (h : ∀ line ∈ lines, IsOther key line) : IsTable key [] (block lines) := by
  induction lines with
  | nil => exact .nil
  | cons line lines ih =>
    obtain ⟨hline, hlines⟩ := List.forall_mem_cons.mp h
    exact other hline (ih hlines)

theorem join {α : Type} {value : α → List String} {table : α → String} {xs : List α}
    (h : ∀ x ∈ xs, IsTable key (value x) (table x)) :
    IsTable key (xs.flatMap value) (Text.join "\n" (xs.map table)) := by
  induction xs with
  | nil => exact .nil
  | cons x xs ih =>
    obtain ⟨hfirst, hrest⟩ := List.forall_mem_cons.mp h
    cases xs with
    | nil =>
      rw [List.map_singleton, join_singleton, List.flatMap_singleton]
      exact hfirst
    | cons y ys =>
      have hall := (hfirst.append gap).append (ih hrest)
      rw [List.append_nil] at hall
      rw [List.map_cons, List.map_cons, join_cons_cons]
      exact hall

end IsTable

end Text

/-! ## The table of processors -/

namespace Hardware

open Text

variable {p : Persona}

theorem isTable_pciCore (hmodel : '\n' ∉ p.cpuModel.toList) (core : Nat) :
    IsTable "processor" [ofNat core] (pciCore p core) := by
  have hcores := not_mem_feed_ofInt p.cpuCores
  refine .row (.of_chars (by decide)) (isWord_ofNat core) (.others ?_)
  simp only [List.forall_mem_cons]
  refine ⟨.of_chars (by decide), .of_chars (by decide), .of_chars (by decide),
    .append (.of_chars (by decide)) hmodel, .of_chars (by decide), .of_chars (by decide),
    .of_chars (by decide), .of_chars (by decide), .of_chars (by decide),
    .append (.of_chars (by decide)) hcores,
    .append (.of_chars (by decide)) (isWord_ofNat core).not_mem_feed,
    .append (.of_chars (by decide)) hcores, .of_chars (by decide), ?_, .of_chars (by decide),
    .of_chars (by decide), .of_chars (by decide), nofun⟩
  -- the row of the flags is put together from many texts
  repeat' refine IsOther.append ?_ (not_mem_ofList (by decide))
  exact .of_chars (by decide)

theorem isTable_mipsCore (hmodel : '\n' ∉ p.cpuModel.toList) (core : Nat) :
    IsTable "processor" [ofNat core] (mipsCore p core) := by
  refine .row (.of_chars (by decide)) (isWord_ofNat core) (.others ?_)
  simp only [List.forall_mem_cons]
  exact ⟨.append (.of_chars (by decide)) hmodel, .of_chars (by decide), .of_chars (by decide),
    .of_chars (by decide), .of_chars (by decide), .of_chars (by decide), .of_chars (by decide),
    nofun⟩

theorem isTable_armCore (hmodel : '\n' ∉ p.cpuModel.toList) (core : Nat) :
    IsTable "processor" [ofNat core] (armCore p core) := by
  refine .row (.of_chars (by decide)) (isWord_ofNat core) (.others ?_)
  simp only [List.forall_mem_cons]
  exact ⟨.append (.of_chars (by decide)) hmodel, .of_chars (by decide),
    .append (.of_chars (by decide)) (not_mem_ofList (by decide)), .of_chars (by decide),
    .of_chars (by decide), .of_chars (by decide), .of_chars (by decide), .of_chars (by decide),
    nofun⟩

theorem isTable_mipsHead (hhardware : '\n' ∉ p.hardware.toList) (hmodel : '\n' ∉ p.model.toList) :
    IsTable "processor" [] (mipsHead p) :=
  .other (.append (.append (.of_chars (by decide)) hhardware) (not_mem_ofList (by decide)))
    (.other (.append (.of_chars (by decide)) hmodel) .nil)

theorem isTable_armTail (hhardware : '\n' ∉ p.hardware.toList) (hmodel : '\n' ∉ p.model.toList) :
    IsTable "processor" [] (armTail p) := by
  have hrows : IsTable "processor" [] (block ["Hardware\t: " ++ p.hardware, "Revision\t: a02082",
      "Serial\t\t: 00000000a1b2c3d4", "Model\t\t: " ++ p.model]) :=
    .other (.append (.of_chars (by decide)) hhardware) (.other (.of_chars (by decide))
      (.other (.of_chars (by decide)) (.other (.append (.of_chars (by decide)) hmodel) .nil)))
  have hall := IsTable.gap.append hrows
  rwa [← block_append] at hall

/-- Paragraphs that number the cores make a table that numbers them all. -/
theorem isTable_cores {paragraph : Nat → String}
    (h : ∀ core, IsTable "processor" [ofNat core] (paragraph core)) :
    IsTable "processor" ((List.range p.cpuCores.toNat).map ofNat) (cores p paragraph) := by
  rw [List.map_eq_flatMap]
  exact .join fun core _ => h core

/-- **The table of processors** numbers the cores from zero on, each once and in order. -/
theorem isTable_processors (hcpu : '\n' ∉ p.cpuModel.toList) (hhardware : '\n' ∉ p.hardware.toList)
    (hmodel : '\n' ∉ p.model.toList) :
    IsTable "processor" ((List.range p.cpuCores.toNat).map ofNat) (processors p) := by
  unfold processors
  split
  · exact isTable_cores (isTable_pciCore hcpu)
  · split
    · exact (isTable_mipsHead hhardware hmodel).append (isTable_cores (isTable_mipsCore hcpu))
    · have hcores := isTable_cores (p := p) (isTable_armCore hcpu)
      have hall := hcores.append (isTable_armTail hhardware hmodel)
      rwa [List.append_nil] at hall

end Hardware

/-! ## The file of the table -/

namespace Tree

variable {entries : List Entry} {p : Path} {e : Entry}

/-- What is found after every entry at the place of another was replaced by that. -/
theorem find?_replace (entries : List Entry) (e : Entry) (p : Path) :
    (entries.map fun old => if old.path == e.path then e else old).find? (·.path == p) =
      if e.path = p then (entries.find? (·.path == p)).map fun _ => e
      else entries.find? (·.path == p) := by
  induction entries with
  | nil => split <;> rfl
  | cons old rest ih =>
    rw [List.map_cons, List.find?_cons, List.find?_cons, ih]
    by_cases hold : old.path = e.path
    · rw [if_pos (beq_iff_eq.mpr hold), hold]
      by_cases hpath : e.path = p
      · rw [if_pos hpath, if_pos hpath, beq_iff_eq.mpr hpath]
        rfl
      · rw [if_neg hpath, if_neg hpath, beq_false_of_ne hpath]
    · rw [if_neg (mt beq_iff_eq.mp hold)]
      by_cases hpath : e.path = p
      · rw [if_pos hpath, if_pos hpath, beq_false_of_ne (hpath ▸ hold)]
      · rw [if_neg hpath, if_neg hpath]

theorem find?_put (entries : List Entry) (e : Entry) (p : Path) :
    (put entries e).find? (·.path == p) =
      if e.path = p then some e else entries.find? (·.path == p) := by
  unfold put
  by_cases hthere : entries.any (·.path == e.path) = true
  · rw [if_pos hthere, find?_replace]
    by_cases hpath : e.path = p
    · obtain ⟨old, hold⟩ := Option.isSome_iff_exists.mp
        (List.find?_isSome.mpr (List.any_eq_true.mp (hpath ▸ hthere)))
      rw [if_pos hpath, if_pos hpath, hold]
      rfl
    · rw [if_neg hpath, if_neg hpath]
  · rw [if_neg hthere, List.find?_append, List.find?_singleton]
    by_cases hpath : e.path = p
    · have hnone : entries.find? (·.path == p) = none :=
        List.find?_eq_none.mpr fun old hold hsame =>
          hthere (List.any_eq_true.mpr ⟨old, hold, hpath ▸ hsame⟩)
      rw [if_pos hpath, hnone, if_pos (beq_iff_eq.mpr hpath)]
      rfl
    · rw [if_neg hpath, if_neg (mt beq_iff_eq.mp hpath)]
      exact Option.or_none

theorem find?_addParents (h : entries.find? (·.path == p) = some e) (q : Path) :
    (addParents entries q).find? (·.path == p) = some e := by
  induction q using List.reverseRecOn with
  | nil => exact h
  | append_singleton q name ih =>
    rw [addParents_append]
    split
    · exact ih
    · rw [List.find?_append, ih]
      rfl

/-- The last entry that was added at a place is the one that is found there. -/
theorem find?_foldl_add {more : List Entry} (honly : ∀ other ∈ more, other.path = p → other = e)
    (h : entries.find? (·.path == p) = some e ∨ e ∈ more ∧ e.path = p) :
    (more.foldl add entries).find? (·.path == p) = some e := by
  induction more generalizing entries with
  | nil => exact h.resolve_right fun h => nomatch h.1
  | cons other more ih =>
    obtain ⟨hother, hmore⟩ := List.forall_mem_cons.mp honly
    refine ih hmore ?_
    unfold add
    rw [find?_put]
    by_cases hpath : other.path = p
    · rw [if_pos hpath, hother hpath]
      exact .inl rfl
    · rw [if_neg hpath]
      obtain h | ⟨hmem, he⟩ := h
      · exact .inl (find?_addParents h _)
      · obtain rfl | hmem := List.mem_cons.mp hmem
        · exact absurd he hpath
        · exact .inr ⟨hmem, he⟩

theorem lookup_ofEntries {added : List Entry} (he : e ∈ added)
    (honly : ∀ other ∈ added, other.path = e.path → other = e) (changed : Float) :
    ∃ entries, (ofEntries changed added).lookup e.path = some (node entries changed e) := by
  unfold ofEntries
  dsimp only
  rw [lookup_map_path, find?_foldl_add honly (.inr ⟨he, rfl⟩)]
  exact ⟨_, rfl⟩

end Tree

namespace Layout

def processorTable : Entry := file ["proc", "cpuinfo"] (.madeUp .processors) 0o444

/-- Whatever the user of a device is called, nothing else is added where its table of processors
belongs. -/
theorem eq_processorTable (p : Persona) :
    ∀ e ∈ entries p, e.path = processorTable.path → e = processorTable := by
  have hbefore : ∀ e ∈ top ++ settings p ++ homes p ++ growing, e.path ≠ processorTable.path := by
    simp [top, settings, homes, growing, directory, file, owned, shared, userHome, processorTable]
  have hkernel : ∀ e ∈ (kernel p).tail, e.path ≠ processorTable.path := by
    unfold kernel
    cases p.isArm <;> cases p.hasPciBus <;> simp [file, processorTable]
  have hdevices : ∀ e ∈ devices, e.path ≠ processorTable.path := by
    simp [devices, file, processorTable]
  have hprograms {first : String} {above : Path} (names : List String) (hfirst : first ≠ "proc") :
      ∀ e ∈ programs (first :: above) names, e.path ≠ processorTable.path := by
    rintro e he hpath
    obtain ⟨name, -, rfl⟩ := List.mem_map.mp he
    exact hfirst (List.cons.inj hpath).1
  intro e he hpath
  rw [entries, List.mem_append, List.mem_append, List.mem_append, List.mem_append, List.mem_append,
    List.mem_append, List.mem_append] at he
  obtain ((((((he | he) | he) | he) | he) | he) | he) | he := he
  · exact absurd hpath (hbefore e he)
  · obtain rfl | he := List.mem_cons.mp (show e ∈ processorTable :: (kernel p).tail from he)
    · rfl
    · exact absurd hpath (hkernel e he)
  · exact absurd hpath (hdevices e he)
  · exact absurd hpath (hprograms _ (by decide) e he)
  · exact absurd hpath (hprograms _ (by decide) e he)
  · exact absurd hpath (hprograms _ (by decide) e he)
  · exact absurd hpath (hprograms _ (by decide) e he)
  · simp only [List.mem_cons, List.not_mem_nil, or_false] at he
    obtain rfl | rfl | rfl := he <;> exact absurd hpath (by decide)

/-- **Every device has a table of processors**, which is made up on reading. -/
theorem lookup_processorTable (p : Persona) :
    ∃ entries, (tree p).lookup ["proc", "cpuinfo"] =
      some (Tree.node entries changed processorTable) := by
  have hmem : processorTable ∈ entries p := by
    simp [entries, kernel, processorTable]
  exact Tree.lookup_ofEntries hmem (eq_processorTable p) changed

end Layout

/-! ## What `lscpu` prints -/

namespace Shell

open Text

variable {p : Persona}

def factRows (facts : List (String × String)) : String :=
  block (facts.map fun (name, value) => padRight 24 (name ++ ":") ++ value)

section Facts

variable (harchitecture : '\n' ∉ p.architecture.toList) (hcpu : '\n' ∉ p.cpuModel.toList)
  (hcores : 0 ≤ p.cpuCores)

include hcores in
theorem ofInt_cores : ofInt p.cpuCores = ofNat p.cpuCores.toNat := by
  obtain ⟨n, hn⟩ := Int.eq_ofNat_of_zero_le hcores
  rw [hn]
  rfl

theorem not_mem_range (n : Int) : '\n' ∉ ("0-" ++ ofInt n).toList :=
  not_mem_append (not_mem_ofList (by decide)) (not_mem_feed_ofInt n)

include harchitecture hcpu hcores in
theorem isTable_pciProcessor :
    IsTable "CPU(s)" [ofNat p.cpuCores.toNat] (factRows (pciProcessor p)) := by
  have hint := not_mem_feed_ofInt
  have hsize (n : Int) : '\n' ∉ (ofInt n ++ " KiB").toList :=
    not_mem_append (hint n) (not_mem_ofList (by decide))
  unfold factRows pciProcessor
  simp only [List.map_cons, List.map_nil, ofInt_cores hcores]
  refine .other (.of_name (by decide) harchitecture) (.other (.of_fact (by decide))
    (.other (.of_fact (by decide)) (.other (.of_fact (by decide))
      (.row (.of_name (by decide)) (isWord_ofNat _) (.others ?_)))))
  simp only [List.forall_mem_cons]
  refine ⟨.of_name (by decide) (not_mem_range _), .of_fact (by decide),
    .of_name (by decide) (isWord_ofNat _).not_mem_feed, .of_fact (by decide), .of_fact (by decide),
    .of_fact (by decide), .of_fact (by decide), .of_fact (by decide),
    .of_name (by decide) hcpu, .of_fact (by decide), .of_fact (by decide), .of_fact (by decide),
    .of_fact (by decide), .of_fact (by decide), .of_fact (by decide),
    .of_name (by decide) (hsize _), .of_name (by decide) (hsize _), .of_name (by decide) ?_,
    .of_fact (by decide), .of_name (by decide) (not_mem_range _), nofun⟩
  split
  · exact not_mem_append (hint _) (not_mem_ofList (by decide))
  · exact hsize _

include harchitecture hcpu hcores in
theorem isTable_mipsProcessor :
    IsTable "CPU(s)" [ofNat p.cpuCores.toNat] (factRows (mipsProcessor p)) := by
  unfold factRows mipsProcessor
  simp only [List.map_cons, List.map_nil, ofInt_cores hcores]
  refine .other (.of_name (by decide) harchitecture) (.other (.of_fact (by decide))
    (.row (.of_name (by decide)) (isWord_ofNat _) (.others ?_)))
  simp only [List.forall_mem_cons]
  exact ⟨.of_name (by decide) (not_mem_range _), .of_fact (by decide),
    .of_name (by decide) (not_mem_feed_ofInt _), .of_fact (by decide), .of_name (by decide) hcpu,
    .of_fact (by decide), nofun⟩

include harchitecture hcores in
theorem isTable_armProcessor :
    IsTable "CPU(s)" [ofNat p.cpuCores.toNat] (factRows (armProcessor p)) := by
  unfold factRows armProcessor
  simp only [List.map_cons, List.map_nil, ofInt_cores hcores]
  refine .other (.of_name (by decide) harchitecture) (.other (.of_fact (by decide))
    (.row (.of_name (by decide)) (isWord_ofNat _) (.others ?_)))
  simp only [List.forall_mem_cons]
  exact ⟨.of_name (by decide) (not_mem_range _), .of_fact (by decide),
    .of_name (by decide) (isWord_ofNat _).not_mem_feed, .of_fact (by decide), .of_fact (by decide),
    .of_fact (by decide), .of_fact (by decide), .of_fact (by decide), .of_fact (by decide),
    .of_fact (by decide), .of_fact (by decide), .of_fact (by decide), nofun⟩

include harchitecture hcpu hcores in
/-- **The facts about the processor** have one row with the number of cores. -/
theorem isTable_lscpu {c : Context} (hdevice : c.device = p) :
    IsTable "CPU(s)" [ofNat p.cpuCores.toNat] (lscpu c) := by
  subst hdevice
  unfold lscpu
  dsimp only
  split
  · exact isTable_pciProcessor harchitecture hcpu hcores
  · split
    · exact isTable_mipsProcessor harchitecture hcpu hcores
    · exact isTable_armProcessor harchitecture hcores

end Facts

/-! ## The three accounts -/

variable {c : Context} {s : State}

/-- A line of plain words prints what the command of its first word does, if that runs no others. -/
theorem runLine_of_runAlone {name : String} {words : List String} {command : Command} {room : Nat}
    {text : String} (hplain : ∀ word ∈ name :: words, IsPlain word)
    (hslash : Text.hasChar name '/' = false)
    (hcommand : Command.ofName? (Text.lower name) = some command)
    (halone : command ≠ .exit ∧ command ≠ .sudo ∧ command ≠ .shell) (hroom : c.room = room + 3)
    (hrun : (runAlone { c with room } (.ofWords name words) command).run s = (.ok text, s)) :
    (runLine c (Text.join " " (name :: words))).run s = (.ok (.text text), s) := by
  rw [runLine_of_alone hplain hslash hcommand halone hroom]
  exact run_bind_of_ok hrun _

/-- Everybody may read the table of processors, and reading it draws nothing. -/
theorem catTarget_processorTable
    (hfile : s.files.lookup ["proc", "cpuinfo"] =
      (Layout.tree c.device).lookup ["proc", "cpuinfo"]) :
    catTarget c s.files "/proc/cpuinfo" = pure (Hardware.processors c.device) := by
  obtain ⟨entries, htable⟩ := Layout.lookup_processorTable c.device
  have hplace : s.files.resolve "/proc/cpuinfo" = ["proc", "cpuinfo"] :=
    FileSystem.resolve_text (show Path.IsCanonical ["proc", "cpuinfo"] by decide)
  have hget : s.files.get "/proc/cpuinfo" =
      .ok (Tree.node entries Layout.changed Layout.processorTable) := by
    rw [FileSystem.get_eq_ok_iff, hplace, hfile, htable]
  have hmay : c.mayRead (Tree.node entries Layout.changed Layout.processorTable) = true := by
    -- the bits of the owner and of all others are both set
    have hbit (bit : Nat) (hbit : bit = 8 ∨ bit = 2) :
        (modeBits Layout.processorTable.mode).testBit bit = true := by
      obtain rfl | rfl := hbit <;> decide
    unfold Context.mayRead Context.may
    refine Bool.or_eq_true_iff.mpr (.inr (hbit _ ?_))
    split
    · exact .inl rfl
    · exact .inr rfl
  unfold catTarget
  rw [hget]
  exact (if_neg Bool.false_ne_true).trans (if_pos hmay)

/-- **The three accounts of the cores.** On a device with any number of cores, whose texts have no
line feed, the table of processors has one row for each core, numbered from zero on in order;
`nproc` prints the number of cores; and `lscpu` has one row for it, with the same number. -/
theorem cores_agree (harchitecture : '\n' ∉ c.device.architecture.toList)
    (hcpu : '\n' ∉ c.device.cpuModel.toList) (hhardware : '\n' ∉ c.device.hardware.toList)
    (hmodel : '\n' ∉ c.device.model.toList) (hcores : 0 ≤ c.device.cpuCores) (hroom : 3 ≤ c.room)
    (hfile : s.files.lookup ["proc", "cpuinfo"] =
      (Layout.tree c.device).lookup ["proc", "cpuinfo"]) :
    let n := c.device.cpuCores.toNat
    ∃ table facts,
      (runLine c "cat /proc/cpuinfo").run s = (.ok (.text table), s) ∧
        valuesFor "processor" table = (List.range n).map ofNat ∧
      (runLine c "nproc").run s = (.ok (.text (ofNat n ++ "\n")), s) ∧
      (runLine c "lscpu").run s = (.ok (.text facts), s) ∧
        valuesFor "CPU(s)" facts = [ofNat n] := by
  intro n
  obtain ⟨room, hroom⟩ : ∃ room, c.room = room + 3 := ⟨c.room - 3, by omega⟩
  have hcat : (runAlone { c with room } (.ofWords "cat" ["/proc/cpuinfo"]) .cat).run s =
      (.ok (Hardware.processors c.device), s) := by
    have htarget := catTarget_processorTable (c := { c with room }) hfile
    have hargs : (Invocation.ofWords "cat" ["/proc/cpuinfo"]).args = ["/proc/cpuinfo"] := by decide
    have htext : cat { c with room } s (.ofWords "cat" ["/proc/cpuinfo"]) =
        pure (Hardware.processors c.device) := by
      unfold cat
      rw [hargs, List.mapM_cons, htarget]
      rfl
    show (Action.look fun _ => cat { c with room } s (.ofWords "cat" ["/proc/cpuinfo"])).run s = _
    rw [htext]
    rfl
  have hnproc : (runAlone { c with room } (.ofWords "nproc" []) .nproc).run s =
      (.ok (ofNat n ++ "\n"), s) := by
    rw [← ofInt_cores hcores]
    rfl
  have hlscpu : (runAlone { c with room } (.ofWords "lscpu" []) .lscpu).run s =
      (.ok (lscpu { c with room }), s) := rfl
  have hcatLine : Text.join " " ["cat", "/proc/cpuinfo"] = "cat /proc/cpuinfo" := by decide
  refine ⟨Hardware.processors c.device, lscpu { c with room }, ?_, ?_, ?_, ?_, ?_⟩
  · rw [← hcatLine]
    exact runLine_of_runAlone (by decide) (by decide) (by decide) (by decide) hroom hcat
  · exact (Hardware.isTable_processors hcpu hhardware hmodel).valuesFor_eq
  · rw [← Text.join_singleton " " "nproc"]
    exact runLine_of_runAlone (by decide) (by decide) (by decide) (by decide) hroom hnproc
  · rw [← Text.join_singleton " " "lscpu"]
    exact runLine_of_runAlone (by decide) (by decide) (by decide) (by decide) hroom hlscpu
  · exact (isTable_lscpu harchitecture hcpu hcores rfl).valuesFor_eq

/-- A user of a MIPS device with two cores. -/
def routerGuest : Context :=
  { guest with device := { Persona.standard with architecture := "mips", cpuCores := 2 } }

/-- What the user of a new device with two cores is told. -/
theorem cores_agree_example :
    let s : State := { bare with files := .fresh (Layout.tree routerGuest.device) "/root" "" }
    ∃ table facts,
      (runLine routerGuest "cat /proc/cpuinfo").run s = (.ok (.text table), s) ∧
        valuesFor "processor" table = ["0", "1"] ∧
      (runLine routerGuest "nproc").run s = (.ok (.text "2\n"), s) ∧
      (runLine routerGuest "lscpu").run s = (.ok (.text facts), s) ∧
        valuesFor "CPU(s)" facts = ["2"] := by
  intro s
  exact cores_agree (by decide) (by decide) (by decide) (by decide) (by decide) (by decide)
    (lookup_fresh _ _ _ _)

end Shell

end Honeypot
