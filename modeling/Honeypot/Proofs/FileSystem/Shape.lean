import Mathlib.Data.List.Induction
import Mathlib.Data.List.Nodup
import Honeypot.FileSystem.Layout
import Honeypot.Persona.Catalogue
import Honeypot.Proofs.Path

/-!
# The shape of the shared tree

A tree that is built by adding entries hangs together (`shaped_ofEntries`) if the entries can be
planted: the directories that hold something are known beforehand, and no file is among them. The
entries of every shipped device can be planted (`plantable_entries`).
-/

namespace Honeypot

namespace Tree

/-- **The shape of a tree**: the root is a directory, everything else lies in a directory that lists
it, no directory lists a name twice, and all paths are canonical. -/
structure Shaped (t : Tree) : Prop where
  root : ∃ node, t.lookup [] = some node ∧ node.isDirectory
  hangs : ∀ p name, (t.lookup (p ++ [name])).isSome →
    ∃ node, t.lookup p = some node ∧ node.isDirectory ∧ name ∈ node.children
  once : ∀ p node, t.lookup p = some node → node.children.Nodup
  canonical : ∀ p, (t.lookup p).isSome → p.IsCanonical

theorem Shaped.isSome_of_append {t : Tree} (ht : t.Shaped) {p q : Path}
    (h : (t.lookup (p ++ q)).isSome) : (t.lookup p).isSome := by
  induction q using List.reverseRecOn with
  | nil => rwa [List.append_nil] at h
  | append_singleton q name ih =>
    rw [← List.append_assoc] at h
    obtain ⟨node, hnode, _⟩ := ht.hangs _ _ h
    exact ih (Option.isSome_of_eq_some hnode)

/-! ## Entries that can be planted -/

/-- Whether an entry can be planted where `dirs` are the directories that hold something. -/
structure Fits (dirs : List Path) (e : Entry) : Prop where
  named : ∀ name ∈ e.path.getLast?, Path.IsName name
  held : e.path.parent ∈ dirs
  leaf : e.content? = none ∨ e.path ∉ dirs

/-- Entries that can be added one after the other: the directories that hold something are known
beforehand, and none of the entries is a file in the place of one of them. -/
structure Plantable (dirs : List Path) (added : List Entry) : Prop where
  root : [] ∈ dirs
  up : ∀ d ∈ dirs, d.parent ∈ dirs
  canonical : ∀ d ∈ dirs, d.IsCanonical
  fits : ∀ e ∈ added, Fits dirs e

instance (dirs : List Path) : DecidablePred (Fits dirs) := fun e =>
  decidable_of_iff ((∀ name ∈ e.path.getLast?, Path.IsName name) ∧ e.path.parent ∈ dirs ∧
    (e.content? = none ∨ e.path ∉ dirs))
    ⟨fun ⟨named, held, leaf⟩ => ⟨named, held, leaf⟩, fun h => ⟨h.named, h.held, h.leaf⟩⟩

/-- What holds of the entries of a tree while more of them are added. -/
structure Grown (dirs : List Path) (entries : List Entry) : Prop where
  nodup : (entries.map (·.path)).Nodup
  root : [] ∈ entries.map (·.path)
  up : ∀ p ∈ entries.map (·.path), p.parent ∈ entries.map (·.path)
  fits : ∀ e ∈ entries, Fits dirs e

section Growing

variable {dirs : List Path} {entries : List Entry}

theorem any_path_eq_iff (entries : List Entry) (p : Path) :
    (entries.any (·.path == p)) = true ↔ p ∈ entries.map (·.path) := by
  rw [List.any_eq_true, List.mem_map]
  simp only [beq_iff_eq]

theorem fits_plainDirectory {added : List Entry} (h : Plantable dirs added) {p : Path}
    (hp : p ∈ dirs) : Fits dirs (plainDirectory p) :=
  ⟨fun name hname => h.canonical p hp name (List.mem_of_getLast? hname), h.up p hp, .inl rfl⟩

theorem Grown.append (h : Grown dirs entries) {e : Entry} (hnew : e.path ∉ entries.map (·.path))
    (hup : e.path.parent ∈ entries.map (·.path)) (he : Fits dirs e) :
    Grown dirs (entries ++ [e]) := by
  have hpaths : (entries ++ [e]).map (·.path) = entries.map (·.path) ++ [e.path] :=
    List.map_append
  constructor
  · rw [hpaths]
    exact List.nodup_append.mpr ⟨h.nodup, List.nodup_singleton _, fun p hp q hq hpq =>
      hnew (by rwa [← List.mem_singleton.mp hq, ← hpq])⟩
  · rw [hpaths]
    exact List.mem_append_left _ h.root
  · intro p hp
    rw [hpaths] at hp ⊢
    refine List.mem_append_left _ ?_
    obtain hp | hp := List.mem_append.mp hp
    · exact h.up p hp
    · rwa [List.mem_singleton.mp hp]
  · exact List.forall_mem_append.mpr ⟨h.fits, List.forall_mem_singleton.mpr he⟩

/-- An entry that takes the place of another leaves the places as they are. -/
theorem paths_put (entries : List Entry) (e : Entry) :
    (put entries e).map (·.path) =
      if entries.any (·.path == e.path) then entries.map (·.path)
      else entries.map (·.path) ++ [e.path] := by
  unfold put
  split
  · rw [List.map_map]
    refine List.map_congr_left fun old _ => ?_
    show (if old.path == e.path then e else old).path = old.path
    split
    · next heq => exact (beq_iff_eq.mp heq).symm
    · rfl
  · exact List.map_append

theorem Grown.put (h : Grown dirs entries) {e : Entry}
    (hup : e.path.parent ∈ entries.map (·.path)) (he : Fits dirs e) :
    Grown dirs (put entries e) := by
  have hpaths := paths_put entries e
  unfold Tree.put at hpaths ⊢
  split
  · next hthere =>
    rw [if_pos hthere, if_pos hthere] at hpaths
    constructor
    · rw [hpaths]
      exact h.nodup
    · rw [hpaths]
      exact h.root
    · rw [hpaths]
      exact h.up
    · intro new hnew
      obtain ⟨old, hold, rfl⟩ := List.mem_map.mp hnew
      split
      · exact he
      · exact h.fits old hold
  · next hnew => exact h.append (fun hmem => hnew ((any_path_eq_iff _ _).mpr hmem)) hup he

/-- The directories above a place are those above its parent and the parent. -/
theorem addParents_append (entries : List Entry) (p : Path) (name : String) :
    addParents entries (p ++ [name]) =
      if (addParents entries p).any (·.path == p) then addParents entries p
      else addParents entries p ++ [plainDirectory p] := by
  have habove : (List.range (p ++ [name]).length).map (p ++ [name]).take =
      (List.range p.length).map p.take ++ [p] := by
    rw [List.length_append, List.length_singleton, List.range_succ, List.map_append]
    congr 1
    · refine List.map_congr_left fun i hi => ?_
      exact List.take_append_of_le_length (Nat.le_of_lt (List.mem_range.mp hi))
    · rw [List.map_singleton, List.take_left]
  unfold addParents
  rw [habove, List.foldl_append]
  rfl

theorem Grown.addParents {added : List Entry} (hadded : Plantable dirs added)
    (h : Grown dirs entries) {p : Path} (hp : p.parent ∈ dirs) :
    Grown dirs (addParents entries p) ∧ p.parent ∈ (addParents entries p).map (·.path) := by
  induction p using List.reverseRecOn with
  | nil => exact ⟨h, h.root⟩
  | append_singleton p name ih =>
    rw [Path.parent_append] at hp ⊢
    obtain ⟨hgrown, hparent⟩ := ih (hadded.up p hp)
    rw [addParents_append]
    split
    · next hthere => exact ⟨hgrown, (any_path_eq_iff _ _).mp hthere⟩
    · next hnew =>
      refine ⟨hgrown.append (fun hmem => hnew ((any_path_eq_iff _ _).mpr hmem)) hparent
        (fits_plainDirectory hadded hp), ?_⟩
      rw [List.map_append]
      exact List.mem_append_right _ (List.mem_singleton_self p)

theorem Grown.add {added : List Entry} (hadded : Plantable dirs added) (h : Grown dirs entries)
    {e : Entry} (he : Fits dirs e) : Grown dirs (add entries e) := by
  obtain ⟨hgrown, hparent⟩ := h.addParents hadded he.held
  exact hgrown.put hparent he

theorem Grown.foldl_add {added : List Entry} (hadded : Plantable dirs added)
    (h : Grown dirs entries) {more : List Entry} (hmore : ∀ e ∈ more, Fits dirs e) :
    Grown dirs (more.foldl Tree.add entries) := by
  induction more generalizing entries with
  | nil => exact h
  | cons e more ih =>
    obtain ⟨he, hmore⟩ := List.forall_mem_cons.mp hmore
    exact ih (h.add hadded he) hmore

theorem grown_root {added : List Entry} (hadded : Plantable dirs added) :
    Grown dirs [plainDirectory []] where
  nodup := List.nodup_singleton _
  root := List.mem_singleton_self _
  up p hp := by
    rw [List.mem_singleton.mp hp]
    exact List.mem_singleton_self _
  fits := List.forall_mem_singleton.mpr (fits_plainDirectory hadded hadded.root)

/-! ## The tree of the entries -/

theorem lookup_map_path (f : Entry → Node) (entries : List Entry) (p : Path) :
    (entries.map fun e => (e.path, f e)).lookup p =
      (entries.find? (·.path == p)).map f := by
  induction entries with
  | nil => rfl
  | cons e entries ih =>
    rw [List.map_cons, List.lookup_cons, List.find?_cons, ih, Bool.beq_comm]
    cases e.path == p <;> rfl

theorem mem_childNames_iff {p : Path} {name : String} :
    name ∈ childNames entries p ↔ p ++ [name] ∈ entries.map (·.path) := by
  unfold childNames
  simp only [List.mem_map, List.mem_filter, Bool.and_eq_true, bne_iff_ne, beq_iff_eq]
  constructor
  · rintro ⟨e, ⟨he, hroot, hparent⟩, hname⟩
    refine ⟨e, he, ?_⟩
    rw [← hparent, ← hname, Path.parent_append_name hroot]
  · rintro ⟨e, he, hpath⟩
    refine ⟨e, ⟨he, ?_, ?_⟩, ?_⟩
    · rw [hpath]
      exact List.concat_ne_nil _ _
    · rw [hpath, Path.parent_append]
    · rw [hpath, Path.name_append]

theorem nodup_childNames (h : (entries.map (·.path)).Nodup) (p : Path) :
    (childNames entries p).Nodup := by
  have hpaths : ((entries.filter fun e => e.path != [] && e.path.parent == p).map
      (·.path)).Nodup := h.sublist (List.filter_sublist.map _)
  have hnames : childNames entries p =
      ((entries.filter fun e => e.path != [] && e.path.parent == p).map (·.path)).map
        Path.name := by
    rw [List.map_map]
    rfl
  rw [hnames]
  -- Two places in one directory are the same if they have the same name.
  refine hpaths.map_on fun q hq r hr hname => ?_
  obtain ⟨e, he, rfl⟩ := List.mem_map.mp hq
  obtain ⟨e', he', rfl⟩ := List.mem_map.mp hr
  simp only [List.mem_filter, Bool.and_eq_true, bne_iff_ne, beq_iff_eq] at he he'
  rw [← Path.parent_append_name he.2.1, ← Path.parent_append_name he'.2.1, he.2.2, he'.2.2, hname]

theorem Grown.isCanonical {added : List Entry} (hadded : Plantable dirs added)
    (h : Grown dirs entries) {e : Entry} (he : e ∈ entries) : e.path.IsCanonical := by
  obtain ⟨hnamed, hheld, _⟩ := h.fits e he
  rcases List.eq_nil_or_concat e.path with hpath | ⟨p, name, hpath⟩
  · rw [hpath]
    exact Path.isCanonical_nil
  · rw [List.concat_eq_append] at hpath
    rw [hpath, Path.parent_append] at hheld
    rw [hpath, List.getLast?_concat] at hnamed
    rw [hpath]
    exact Path.isCanonical_append.mpr
      ⟨hadded.canonical p hheld, List.forall_mem_singleton.mpr (hnamed name rfl)⟩

/-- What is found at a place of a tree. -/
theorem lookup_nodes (changed : Float) (entries : List Entry) {p : Path} {found : Node}
    (h : (entries.map fun e => (e.path, node entries changed e)).lookup p = some found) :
    ∃ e ∈ entries, e.path = p ∧ found = node entries changed e := by
  rw [lookup_map_path] at h
  obtain ⟨e, he, rfl⟩ := Option.map_eq_some_iff.mp h
  have hpath := List.find?_some he
  exact ⟨e, List.mem_of_find?_eq_some he, beq_iff_eq.mp hpath, rfl⟩

theorem path_of_lookup_ofEntries {changed : Float} {added : List Entry} {p : Path} {found : Node}
    (h : (ofEntries changed added).lookup p = some found) : found.path = p := by
  obtain ⟨e, _, rfl, rfl⟩ := lookup_nodes changed _ h
  rfl

theorem path_mem_put {p : Path} {e : Entry} (h : p ∈ entries.map (·.path) ∨ p = e.path) :
    p ∈ (put entries e).map (·.path) := by
  rw [paths_put]
  split
  · next hthere => exact h.elim id fun heq => heq ▸ (any_path_eq_iff _ _).mp hthere
  · exact List.mem_append.mpr (h.imp_right List.mem_singleton.mpr)

theorem subset_addParents (entries : List Entry) (p : Path) : entries ⊆ addParents entries p := by
  induction p using List.reverseRecOn with
  | nil => exact List.Subset.refl entries
  | append_singleton p name ih =>
    rw [addParents_append]
    split
    · exact ih
    · exact List.subset_append_of_subset_left _ ih

theorem path_mem_foldl_add {p : Path} {more : List Entry}
    (h : p ∈ entries.map (·.path) ∨ ∃ e ∈ more, p = e.path) :
    p ∈ (more.foldl add entries).map (·.path) := by
  induction more generalizing entries with
  | nil => exact h.resolve_right fun ⟨_, he, _⟩ => nomatch he
  | cons e more ih =>
    refine ih ?_
    obtain hp | ⟨e', he', hp⟩ := h
    · exact .inl (path_mem_put (.inl (List.map_subset _ (subset_addParents entries e.path) hp)))
    · obtain rfl | he' := List.mem_cons.mp he'
      · exact .inl (path_mem_put (.inr hp))
      · exact .inr ⟨e', he', hp⟩

theorem isSome_lookup_ofEntries {added : List Entry} {e : Entry} (he : e ∈ added)
    (changed : Float) : ((ofEntries changed added).lookup e.path).isSome = true := by
  unfold ofEntries
  dsimp only
  rw [lookup_map_path, Option.isSome_map, List.find?_isSome]
  exact List.any_eq_true.mp ((any_path_eq_iff _ _).mpr (path_mem_foldl_add (.inr ⟨e, he, rfl⟩)))

theorem mem_put {e new : Entry} (h : new ∈ put entries e) : new ∈ entries ∨ new = e := by
  unfold put at h
  split at h
  · obtain ⟨old, hold, rfl⟩ := List.mem_map.mp h
    split
    · exact .inr rfl
    · exact .inl hold
  · rwa [List.mem_append, List.mem_singleton] at h

theorem mem_addParents {added : List Entry} (hadded : Plantable dirs added) {p : Path}
    (hp : p.parent ∈ dirs) {new : Entry} (h : new ∈ addParents entries p) :
    new ∈ entries ∨ ∃ d ∈ dirs, new = plainDirectory d := by
  induction p using List.reverseRecOn with
  | nil => exact .inl h
  | append_singleton p name ih =>
    rw [Path.parent_append] at hp
    rw [addParents_append] at h
    split at h
    · exact ih (hadded.up p hp) h
    · obtain h | h := List.mem_append.mp h
      · exact ih (hadded.up p hp) h
      · exact .inr ⟨p, hp, List.mem_singleton.mp h⟩

theorem mem_foldl_add {added : List Entry} (hadded : Plantable dirs added) {more : List Entry}
    (hmore : ∀ e ∈ more, Fits dirs e) {new : Entry} (h : new ∈ more.foldl add entries) :
    new ∈ entries ∨ new ∈ more ∨ ∃ d ∈ dirs, new = plainDirectory d := by
  induction more generalizing entries with
  | nil => exact .inl h
  | cons e more ih =>
    obtain ⟨he, hmore⟩ := List.forall_mem_cons.mp hmore
    obtain h | h | h := ih hmore h
    · obtain h | rfl := mem_put h
      · exact (mem_addParents hadded he.held h).imp_right .inr
      · exact .inr (.inl List.mem_cons_self)
    · exact .inr (.inl (List.mem_cons_of_mem _ h))
    · exact .inr (.inr h)

/-- What is found was added there, or is a directory that holds something that was. -/
theorem entry_of_lookup {added : List Entry} (hadded : Plantable dirs added) {changed : Float}
    {p : Path} {found : Node} (h : (ofEntries changed added).lookup p = some found) :
    ∃ e entries, (e ∈ added ∨ p ∈ dirs ∧ e = plainDirectory p) ∧ e.path = p ∧
      found = node entries changed e := by
  obtain ⟨e, he, rfl, hfound⟩ := lookup_nodes changed _ h
  refine ⟨e, _, ?_, rfl, hfound⟩
  obtain he | he | ⟨d, hd, rfl⟩ := mem_foldl_add hadded hadded.fits he
  · rw [List.mem_singleton.mp he]
    exact .inr ⟨hadded.root, rfl⟩
  · exact .inl he
  · exact .inr ⟨hd, rfl⟩

/-- What is found where nothing is held was added there. -/
theorem exists_entry_of_lookup {added : List Entry} (hadded : Plantable dirs added)
    {changed : Float} {p : Path} {found : Node} (hp : p ∉ dirs)
    (h : (ofEntries changed added).lookup p = some found) :
    ∃ e ∈ added, e.path = p ∧ ∃ entries, found = node entries changed e := by
  obtain ⟨e, entries, he | ⟨hd, _⟩, hpath, hfound⟩ := entry_of_lookup hadded h
  · exact ⟨e, he, hpath, entries, hfound⟩
  · exact absurd hd hp

theorem parent_mem_of_lookup {added : List Entry} (hadded : Plantable dirs added) {changed : Float}
    {p : Path} {found : Node} (h : (ofEntries changed added).lookup p = some found) :
    p.parent ∈ dirs := by
  obtain ⟨e, he, rfl, _⟩ := lookup_nodes changed _ h
  exact (((grown_root hadded).foldl_add hadded hadded.fits).fits e he).held

theorem isDirectory_of_lookup {added : List Entry} (hadded : Plantable dirs added)
    {changed : Float} {p : Path} {found : Node} (hp : ∀ e ∈ added, e.path = p → e.content? = none)
    (h : (ofEntries changed added).lookup p = some found) : found.isDirectory = true := by
  obtain ⟨e, _, hadd, hpath, rfl⟩ := entry_of_lookup hadded h
  have hnone : e.content? = none := by
    obtain he | ⟨_, rfl⟩ := hadd
    · exact hp e he hpath
    · rfl
  unfold Node.isDirectory node
  rw [hnone]

/-- What is found where nothing is held and only files were added is a file. -/
theorem isFile_of_lookup {added : List Entry} (hadded : Plantable dirs added) {changed : Float}
    {p : Path} {found : Node} (hleaf : p ∉ dirs)
    (hp : ∀ e ∈ added, e.path = p → e.content?.isSome = true)
    (h : (ofEntries changed added).lookup p = some found) : found.isDirectory = false := by
  obtain ⟨e, he, hpath, _, rfl⟩ := exists_entry_of_lookup hadded hleaf h
  obtain ⟨content, hcontent⟩ := Option.isSome_iff_exists.mp (hp e he hpath)
  unfold Node.isDirectory node
  rw [hcontent]

/-- A directory that holds something is found, and as a directory. -/
theorem Grown.lookup_held (h : Grown dirs entries) (changed : Float) {p : Path} (hp : p ∈ dirs)
    (hmem : p ∈ entries.map (·.path)) :
    ∃ found, (entries.map fun e => (e.path, node entries changed e)).lookup p = some found ∧
      found.body = .directory (childNames entries p) := by
  obtain ⟨e, he⟩ := Option.isSome_iff_exists.mp (List.find?_isSome.mpr
    (List.any_eq_true.mp ((any_path_eq_iff entries p).mpr hmem)))
  have hmatch := List.find?_some he
  have hpath : e.path = p := beq_iff_eq.mp hmatch
  have hnone : e.content? = none := by
    obtain hnone | hleaf := (h.fits e (List.mem_of_find?_eq_some he)).leaf
    · exact hnone
    · exact absurd (hpath ▸ hp) hleaf
  refine ⟨node entries changed e, ?_, ?_⟩
  · rw [lookup_map_path, he]
    rfl
  · unfold node
    rw [hnone, hpath]

/-- **A tree that is built from entries that can be planted hangs together.** -/
theorem shaped_ofEntries {added : List Entry} (hadded : Plantable dirs added) (changed : Float) :
    (ofEntries changed added).Shaped := by
  have hgrown : Grown dirs (added.foldl add [plainDirectory []]) :=
    (grown_root hadded).foldl_add hadded hadded.fits
  unfold ofEntries
  generalize added.foldl add [plainDirectory []] = entries at hgrown
  constructor
  · obtain ⟨found, hfound, hbody⟩ := hgrown.lookup_held changed hadded.root hgrown.root
    refine ⟨found, hfound, ?_⟩
    unfold Node.isDirectory
    rw [hbody]
  · intro p name h
    obtain ⟨_, hlookup⟩ := Option.isSome_iff_exists.mp h
    obtain ⟨e, he, hpath, _⟩ := lookup_nodes changed entries hlookup
    have hmem : p ++ [name] ∈ entries.map (·.path) := List.mem_map.mpr ⟨e, he, hpath⟩
    have hheld : p ∈ dirs := by
      have hheld := (hgrown.fits e he).held
      rwa [hpath, Path.parent_append] at hheld
    have hparent : p ∈ entries.map (·.path) := by
      have hparent := hgrown.up _ hmem
      rwa [Path.parent_append] at hparent
    obtain ⟨found, hfound, hbody⟩ := hgrown.lookup_held changed hheld hparent
    refine ⟨found, hfound, ?_, ?_⟩
    · unfold Node.isDirectory
      rw [hbody]
    · unfold Node.children
      rw [hbody]
      exact mem_childNames_iff.mpr hmem
  · intro p found h
    obtain ⟨e, _, _, rfl⟩ := lookup_nodes changed entries h
    unfold Node.children node
    cases e.content? with
    | none => exact nodup_childNames hgrown.nodup e.path
    | some _ => exact List.nodup_nil
  · intro p h
    obtain ⟨_, hlookup⟩ := Option.isSome_iff_exists.mp h
    obtain ⟨e, he, rfl, _⟩ := lookup_nodes changed entries hlookup
    exact hgrown.isCanonical hadded he

end Growing

end Tree

/-! ## The trees of the shipped devices -/

namespace Layout

/-- The directories of a device in which something lies. -/
def holders (p : Persona) : List Path :=
  [[], ["bin"], ["dev"], ["etc"], ["etc", "ssh"], ["home"], userHome p, ["proc"],
    ["proc", "device-tree"], ["root"], ["root", ".ssh"], ["sbin"], ["sys"], ["sys", "class"],
    ["sys", "class", "net"], ["sys", "class", "net", "eth0"], ["sys", "class", "net", "lo"],
    ["sys", "class", "dmi"], ["sys", "class", "dmi", "id"], ["usr"], ["usr", "bin"],
    ["usr", "sbin"], ["usr", "local"], ["var"], ["var", "log"]]

theorem mem_programs_sort {directory : Path} {names : List String} {e : Entry} :
    e ∈ programs directory (Text.sort names) ↔ e ∈ programs directory names := by
  unfold programs Text.sort Text.sortBy
  rw [List.mem_map, List.mem_map]
  simp only [List.mem_mergeSort]

theorem plantable_entries : ∀ p ∈ Persona.catalogue, Tree.Plantable (holders p) (entries p) := by
  have hdirs : ∀ p ∈ Persona.catalogue, [] ∈ holders p ∧ (∀ d ∈ holders p, d.parent ∈ holders p) ∧
      ∀ d ∈ holders p, d.IsCanonical := by
    decide +kernel
  have hfits : ∀ p ∈ Persona.catalogue, ∀ e ∈ entries p, Tree.Fits (holders p) e := by
    -- The order of the programs does not matter, and the names in order cannot be computed here.
    simp only [entries, userBinNames, userSbinNames, List.mem_append, mem_programs_sort]
    simp only [← List.mem_append]
    decide +kernel
  intro p hp
  obtain ⟨root, up, canonical⟩ := hdirs p hp
  exact ⟨root, up, canonical, hfits p hp⟩

theorem isSome_lookup_tree {p : Persona} {e : Entry} (he : e ∈ entries p) :
    ((tree p).lookup e.path).isSome = true := Tree.isSome_lookup_ofEntries he changed

theorem path_of_lookup_tree {p : Persona} {q : Path} {node : Node}
    (h : (tree p).lookup q = some node) : node.path = q := by
  unfold tree at h
  exact Tree.path_of_lookup_ofEntries h

def programFiles (p : Persona) : List Entry :=
  programs ["bin"] binNames ++ programs ["sbin"] sbinNames ++
    programs ["usr", "bin"] (userBinNames p) ++ programs ["usr", "sbin"] (userSbinNames p)

theorem mem_entries_of_mem_programFiles {p : Persona} {e : Entry} (he : e ∈ programFiles p) :
    e ∈ entries p := by
  simp only [programFiles, entries, List.mem_append] at he ⊢
  tauto

/-- **Every program of a shipped device** is found in its tree, and everybody may run it. -/
theorem lookup_program {p : Persona} (hp : p ∈ Persona.catalogue) {e : Entry}
    (he : e ∈ programFiles p) : ∃ node, (tree p).lookup e.path = some node ∧
      node.isProgram = true ∧ node.mode = 0o755 := by
  have hplaces : ∀ p ∈ Persona.catalogue, ∀ e ∈ programFiles p, e.path ∉ holders p ∧
      ∀ other ∈ entries p, other.path = e.path →
        other.content? = some (.fixed Node.programStub) ∧ other.mode = 0o755 := by
    simp only [programFiles, entries, userBinNames, userSbinNames, List.mem_append,
      mem_programs_sort]
    simp only [← List.mem_append]
    decide +kernel
  obtain ⟨hholds, honly⟩ := hplaces p hp e he
  obtain ⟨node, hnode⟩ := Option.isSome_iff_exists.mp
    (isSome_lookup_tree (mem_entries_of_mem_programFiles he))
  refine ⟨node, hnode, ?_⟩
  unfold tree at hnode
  obtain ⟨other, hother, hpath, entries, rfl⟩ :=
    Tree.exists_entry_of_lookup (plantable_entries p hp) hholds hnode
  obtain ⟨hcontent, hmode⟩ := honly other hother hpath
  constructor
  · unfold Node.isProgram Node.content? Tree.node
    rw [hcontent]
    exact beq_self_eq_true _
  · exact congrArg _ hmode

theorem shaped_tree {p : Persona} (hp : p ∈ Persona.catalogue) : (tree p).Shaped :=
  Tree.shaped_ofEntries (plantable_entries p hp) changed

end Layout

end Honeypot
