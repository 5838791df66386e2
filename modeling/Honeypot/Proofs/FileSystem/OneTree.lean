import Honeypot.Proofs.FileSystem.Coherence

/-!
# One tree, seen through the texts of paths

Whether something is there and whether its directory lists it are two questions to a view, which it
answers by different rules. They agree on every view of a session of a shipped device up to the
first change that revives something (`isTree_throughout_iff`), and no longer than that.
-/

namespace Honeypot

namespace FileSystem

variable {fs : FileSystem}

/-! ## Answers to texts -/

/-- Whether the parent of a path is a directory that lists its name, asked by texts. -/
def ListsText (fs : FileSystem) (p : Path) : Prop :=
  (∃ dir, fs.get (Path.parentText p.text) = .ok dir ∧ dir.isDirectory = true) ∧
    ∃ names, fs.list (Path.parentText p.text) = .ok names ∧ Path.nameText p.text ∈ names

/-- A view that lists nothing but what is there, and no name twice. -/
structure IsHonest (fs : FileSystem) : Prop where
  there : ∀ p : Path, p.IsCanonical → p ≠ [] → fs.ListsText p → fs.has p.text = true
  once : ∀ path names, fs.list path = .ok names → names.Nodup

/-- **One coherent tree**: what is there is what its directory lists, and no name is listed
twice. -/
structure IsTree (fs : FileSystem) : Prop where
  listed : ∀ p : Path, p.IsCanonical → p ≠ [] → (fs.has p.text = true ↔ fs.ListsText p)
  once : ∀ path names, fs.list path = .ok names → names.Nodup

theorem resolve_text {p : Path} (hp : p.IsCanonical) : fs.resolve p.text = p :=
  Path.resolve_text hp _ _

theorem has_text {p : Path} (hp : p.IsCanonical) : fs.has p.text = (fs.lookup p).isSome := by
  unfold has
  rw [resolve_text hp]

theorem get_eq_ok_iff {path : String} {node : Node} :
    fs.get path = .ok node ↔ fs.lookup (fs.resolve path) = some node := by
  unfold get
  cases fs.lookup (fs.resolve path) with
  | none => simp only [reduceCtorEq]
  | some upper => simp only [Except.ok.injEq, Option.some.injEq]

theorem list_eq_ok_iff {path : String} {names : List String} :
    fs.list path = .ok names ↔ ∃ dir, fs.lookup (fs.resolve path) = some dir ∧
      dir.isDirectory = true ∧ fs.entryNames (fs.resolve path) dir = names := by
  unfold list
  dsimp only
  cases fs.lookup (fs.resolve path) with
  | none => simp only [reduceCtorEq, false_and, exists_false]
  | some dir =>
    cases hdirectory : dir.isDirectory with
    | true => simp [hdirectory]
    | false => simp [hdirectory]

theorem listsText_iff {p : Path} (hp : p.IsCanonical) (hroot : p ≠ []) :
    fs.ListsText p ↔ fs.Lists p.parent p.name := by
  unfold ListsText
  rw [Path.parentText_text hp hroot, Path.nameText_text hp hroot]
  simp only [get_eq_ok_iff, list_eq_ok_iff, resolve_text (Path.isCanonical_parent hp)]
  constructor
  · rintro ⟨_, _, ⟨dir, hdir, hdirectory, rfl⟩, hname⟩
    exact ⟨dir, hdir, hdirectory, hname⟩
  · rintro ⟨dir, hdir, hdirectory, hname⟩
    exact ⟨⟨dir, hdir, hdirectory⟩, _, ⟨dir, hdir, hdirectory, rfl⟩, hname⟩

theorem Kept.isHonest (hk : fs.Kept) : fs.IsHonest where
  there p hp hroot hlists := by
    obtain ⟨_, _, _, hname⟩ := (listsText_iff hp hroot).mp hlists
    have hfound := (mem_entryNames_iff.mp hname).1
    rwa [has_text hp, ← Path.parent_append_name hroot]
  once path names hlist := by
    obtain ⟨dir, hdir, _, rfl⟩ := list_eq_ok_iff.mp hlist
    exact nodup_entryNames (hk.sound_of_lookup hdir).1 _

theorem Kept.isTree_iff (hk : fs.Kept) : fs.IsTree ↔ fs.Coherent := by
  constructor
  · intro h p name hfound
    obtain ⟨node, hnode⟩ := Option.isSome_iff_exists.mp hfound
    have hp : (p ++ [name]).IsCanonical := (hk.sound_of_lookup hnode).2
    have hroot : p ++ [name] ≠ [] := List.concat_ne_nil _ _
    have hlists := (h.listed _ hp hroot).mp (by rwa [has_text hp])
    rwa [listsText_iff hp hroot, Path.parent_append, Path.name_append] at hlists
  · intro h
    refine ⟨fun p hp hroot => ⟨?_, hk.isHonest.there p hp hroot⟩, hk.isHonest.once⟩
    intro hfound
    rw [has_text hp, ← Path.parent_append_name hroot] at hfound
    exact (listsText_iff hp hroot).mpr (h _ _ hfound)

/-! ## Runs of changes -/

theorem Kept.run (hk : fs.Kept) (changes : List Change) :
    (changes.foldl FileSystem.after fs).Kept := by
  induction changes generalizing fs with
  | nil => exact hk
  | cons change changes ih => exact ih (hk.after change)

/-- A coherent view is coherent throughout a run exactly if no change of the run revives
anything. -/
theorem Coherent.throughout_iff (hk : fs.Kept) (h : fs.Coherent) (changes : List Change) :
    (∀ done, done <+: changes → (done.foldl after fs).Coherent) ↔
      ∀ done change, done ++ [change] <+: changes → ¬(done.foldl after fs).Revives change :=
  holds_throughout_iff (P := Coherent) h fun done change _ hdone =>
    hdone.after_iff (hk.run done) change

/-- **The view of a session of a shipped device** is honest after every run of changes. It is one
tree throughout a run exactly if no change of the run puts something in at a removed place of which
the device has more below. -/
theorem isTree_throughout_iff {device : Persona} (hdevice : device ∈ Persona.catalogue)
    (home cwd : String) (changes : List Change) :
    (changes.foldl after (fresh (Layout.tree device) home cwd)).IsHonest ∧
    ((∀ done, done <+: changes →
        (done.foldl after (fresh (Layout.tree device) home cwd)).IsTree) ↔
      ∀ done change, done ++ [change] <+: changes →
        ¬(done.foldl after (fresh (Layout.tree device) home cwd)).Revives change) := by
  have hshaped := Layout.shaped_tree hdevice
  have hkept := kept_fresh hshaped home cwd
  refine ⟨(hkept.run changes).isHonest, ?_⟩
  rw [← (coherent_fresh hshaped home cwd).throughout_iff hkept changes]
  exact forall₂_congr fun done _ => (hkept.run done).isTree_iff

/-- Without a removal nothing can be revived. -/
theorem isTree_throughout_iff_example :
    Persona.raspberryPi ∈ Persona.catalogue ∧
      ∀ done, done <+: [Change.makeDirectory "/tmp/work" "root" 0.0] →
        (done.foldl after (fresh (Layout.tree Persona.raspberryPi) "/root" "")).IsTree := by
  refine ⟨List.mem_cons_self, (isTree_throughout_iff List.mem_cons_self "/root" "" _).2.mpr ?_⟩
  intro done change hpre
  have hdone : done = [] := by
    have hlength := hpre.length_le
    rw [List.length_append] at hlength
    exact List.length_eq_zero_iff.mp (Nat.le_zero.mp (Nat.le_of_succ_le_succ hlength))
  rw [hdone]
  rintro ⟨_, _, _, hremoved, _⟩
  cases hremoved

/-! ## What comes back -/

theorem remove_eq_ok {path : String} {node : Node} (hroot : fs.resolve path ≠ [])
    (hnode : fs.lookup (fs.resolve path) = some node) :
    fs.remove path true = .ok (fs.clear (fs.resolve path)) := by
  unfold remove
  dsimp only
  rw [if_neg hroot, hnode]
  simp only [Bool.not_true, Bool.and_false, Bool.false_eq_true, if_false]

theorem after_remove {path : String} {node : Node} (hroot : fs.resolve path ≠ [])
    (hnode : fs.lookup (fs.resolve path) = some node) :
    fs.after (.remove path true) = fs.clear (fs.resolve path) := by
  show fs.settled (fs.remove path true) = _
  rw [remove_eq_ok hroot hnode]
  rfl

/-- **A directory of the tree that is removed and made again revives what lies in it.** -/
theorem revives_makeDirectory {tree : Tree} (htree : tree.Shaped) {p : Path} {name : String}
    (hname : (tree.lookup (p ++ [name])).isSome = true) (hroot : p ≠ []) (home cwd owner : String)
    (now : Float) :
    ((fresh tree home cwd).after (.remove p.text true)).Revives
      (.makeDirectory p.text owner now) := by
  have hlookup : ∀ q, (fresh tree home cwd).lookup q = tree.lookup q := fun _ => rfl
  have hkept : (fresh tree home cwd).Kept := kept_fresh htree home cwd
  obtain ⟨dir, hdir, _⟩ := htree.hangs p name hname
  have hp : p.IsCanonical := htree.canonical p (Option.isSome_of_eq_some hdir)
  have hresolve : (fresh tree home cwd).resolve p.text = p := resolve_text hp
  have hfound : (fresh tree home cwd).lookup ((fresh tree home cwd).resolve p.text) = some dir := by
    rw [hresolve, hlookup, hdir]
  rw [after_remove (hresolve.symm ▸ hroot) hfound, hresolve]
  refine ⟨p, ?_, ?_, mem_removed_clear_iff.mpr (.inr ⟨rfl, Option.isSome_of_eq_some hdir⟩),
    name, hname, ?_⟩
  · show some (((fresh tree home cwd).clear p).resolve p.text) = some p
    rw [resolve_text hp]
  · exact hkept.hasRoom_clear hroot ((coherent_fresh htree home cwd).hasRoom hroot
      (Option.isSome_of_eq_some hdir))
  · rw [mem_removed_clear_iff]
    rintro (hgone | ⟨heq, _⟩)
    · cases hgone
    · exact Path.append_name_ne p name heq

/-- After `rm -r /etc/ssh` and `mkdir /etc/ssh` the settings in it are there, but not listed. -/
theorem not_isTree_of_remake :
    ¬([Change.remove "/etc/ssh" true, .makeDirectory "/etc/ssh" "root" 0.0].foldl after
      (fresh (Layout.tree Persona.raspberryPi) "/root" "")).IsTree := by
  have hshaped : (Layout.tree Persona.raspberryPi).Shaped :=
    Layout.shaped_tree List.mem_cons_self
  have hentry : Layout.file (["etc", "ssh"] ++ ["sshd_config"])
      (.fixed ConfigText.sshDaemon) 0o644 ∈ Layout.entries Persona.raspberryPi := by
    simp [Layout.entries, Layout.settings]
  have hsettings : ((Layout.tree Persona.raspberryPi).lookup
      (["etc", "ssh"] ++ ["sshd_config"])).isSome = true := by
    have hfound := Layout.isSome_lookup_tree hentry
    exact hfound
  have htext : Path.text ["etc", "ssh"] = "/etc/ssh" := by decide +kernel
  have hkept := kept_fresh hshaped "/root" ""
  have hcoherent := coherent_fresh hshaped "/root" ""
  have hkept' := hkept.after (.remove "/etc/ssh" true)
  have hharmless : ¬(fresh (Layout.tree Persona.raspberryPi) "/root" "").Revives
      (.remove "/etc/ssh" true) := by
    rintro ⟨_, hplace, _⟩
    cases hplace
  have hcoherent' := (hcoherent.after_iff hkept (.remove "/etc/ssh" true)).mpr hharmless
  have hrevives := revives_makeDirectory hshaped hsettings (List.cons_ne_nil _ _) "/root" ""
    "root" 0.0
  rw [htext] at hrevives
  rw [List.foldl_cons, List.foldl_cons, List.foldl_nil]
  intro htree
  have hlast := hkept'.after (.makeDirectory "/etc/ssh" "root" 0.0)
  have hstep := hcoherent'.after_iff hkept' (.makeDirectory "/etc/ssh" "root" 0.0)
  exact hstep.mp (hlast.isTree_iff.mp htree) hrevives

end FileSystem

end Honeypot
