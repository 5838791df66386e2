import Honeypot.Proofs.FileSystem.Changes

/-!
# Putting something in

What writing, appending and making a directory come to where there is room for it. Everything else
that was found is found as it was (`lookup_store_of_some`), so a view to which things were only
added extends the one before (`Extends`).
-/

namespace Honeypot.FileSystem

variable {fs fs' : FileSystem} {p q : Path} {node old : Node}

/-! ## What is found afterwards -/

theorem lookup_store_self (fs : FileSystem) (p : Path) (node : Node) :
    (fs.store p node).lookup p = some node :=
  lookup_store_of_cover ((lookup_cover p p node).trans (if_pos rfl))

theorem lookup_store_of_some (h : fs.lookup q = some old) (hne : q ≠ p) :
    (fs.store p node).lookup q = some old :=
  lookup_store_of_cover (by rw [lookup_cover, if_neg hne, h])

/-- Whether a view has everything that another one has, as it is there. -/
def Extends (fs' fs : FileSystem) : Prop :=
  ∀ q node, fs.lookup q = some node → fs'.lookup q = some node

namespace Extends

theorem refl (fs : FileSystem) : fs.Extends fs := fun _ _ h => h

theorem trans {fs'' : FileSystem} (h' : fs''.Extends fs') (h : fs'.Extends fs) :
    fs''.Extends fs := fun q node hnode => h' q node (h q node hnode)

theorem store (hvacant : fs.lookup p = none) (node : Node) : (fs.store p node).Extends fs := by
  intro q old hold
  refine lookup_store_of_some hold ?_
  rintro rfl
  cases hvacant.symm.trans hold

end Extends

/-! ## Room -/

theorem HasRoom.ne_root (h : fs.HasRoom p)
    (hfile : ∀ node ∈ fs.lookup p, node.isDirectory = false) : p ≠ [] := by
  rintro rfl
  obtain ⟨dir, hdir, hdirectory⟩ := h
  exact Bool.false_ne_true ((hfile dir hdir).symm.trans hdirectory)

theorem HasRoom.store (h : fs.HasRoom p) (hp : p ≠ []) (node : Node) :
    (fs.store p node).HasRoom p := by
  obtain ⟨dir, hdir, hdirectory⟩ := h
  have hne : p.parent ≠ p := fun hparent =>
    Path.not_prefix_parent hp (hparent.symm ▸ List.prefix_refl p)
  exact ⟨dir, lookup_store_of_some hdir hne, hdirectory⟩

/-! ## Directories -/

section Directories

variable {path : String}

/-- The node of a directory that is made. -/
def newDirectory (owner : String) (now : Float) (p : Path) : Node :=
  ⟨p, .directory [], 0o755, owner, owner, now⟩

/-- A directory may be made where there is room and nothing else. -/
theorem makeDirectory_of_hasRoom (hroom : fs.HasRoom (fs.resolve path))
    (hvacant : fs.lookup (fs.resolve path) = none) (owner : String) (now : Float) :
    fs.makeDirectory path owner now =
      .ok (fs.store (fs.resolve path) (newDirectory owner now (fs.resolve path))) := by
  unfold makeDirectory
  dsimp only
  rw [hvacant, checkParent_of_hasRoom hroom]
  rfl

theorem makeDirectory_of_found (h : (fs.lookup (fs.resolve path)).isSome = true) (owner : String)
    (now : Float) : fs.makeDirectory path owner now = .error ⟨.alreadyThere, path⟩ := by
  unfold makeDirectory
  dsimp only
  rw [if_pos h]
  rfl

theorem makeDirectory_of_not_hasRoom (hroom : ¬fs.HasRoom (fs.resolve path)) (owner : String)
    (now : Float) : ∃ e, fs.makeDirectory path owner now = .error e := by
  unfold makeDirectory
  dsimp only
  split
  · exact ⟨_, rfl⟩
  · obtain ⟨e, he⟩ := checkParent_of_not_hasRoom hroom path
    rw [he]
    exact ⟨e, rfl⟩

end Directories

/-! ## Files -/

section Files

variable {path : String}

theorem target_of_hasRoom (hroom : fs.HasRoom (fs.resolve path))
    (hfile : ∀ node ∈ fs.lookup (fs.resolve path), node.isDirectory = false) :
    fs.target path = .ok (fs.resolve path, fs.lookup (fs.resolve path)) := by
  unfold target
  dsimp only
  rw [checkParent_of_hasRoom hroom]
  cases hlookup : fs.lookup (fs.resolve path) with
  | none => rfl
  | some node => exact if_neg (Bool.eq_false_iff.mp (hfile node hlookup))

theorem write_of_hasRoom (hroom : fs.HasRoom (fs.resolve path))
    (hfile : ∀ node ∈ fs.lookup (fs.resolve path), node.isDirectory = false) (text : String)
    (mode : Int) (owner : String) (now : Float) :
    fs.write path text mode owner now =
      .ok (fs.store (fs.resolve path) (fileNode (fs.resolve path) text mode owner now)) := by
  unfold write
  rw [target_of_hasRoom hroom hfile]
  rfl

/-- Writing puts one file in or does nothing. -/
theorem settled_write (fs : FileSystem) (path text : String) (mode : Int) (owner : String)
    (now : Float) : fs.settled (fs.write path text mode owner now) = fs ∨
      fs.settled (fs.write path text mode owner now) =
        fs.store (fs.resolve path) (fileNode (fs.resolve path) text mode owner now) := by
  unfold write
  obtain ⟨old, htarget, -⟩ | ⟨e, htarget, -⟩ := target_cases fs path
  · rw [htarget]
    exact .inr rfl
  · rw [htarget]
    exact .inl rfl

/-- A fixed text is read without a draw. -/
theorem run_append_of_fixed (hroom : fs.HasRoom (fs.resolve path))
    (hold : fs.lookup (fs.resolve path) = some old) {before : String}
    (hbody : old.body = .file (.fixed before)) (device : Persona) (text : String) (mode : Int)
    (owner : String) (now : Float) (chances : Random) :
    (fs.append device path text mode owner now).run chances =
      (.ok (.ok (fs.store (fs.resolve path)
        (fileNode (fs.resolve path) (before ++ text) mode owner now))), chances) := by
  have hfile : ∀ node ∈ fs.lookup (fs.resolve path), node.isDirectory = false := by
    intro node hnode
    cases hold.symm.trans hnode
    unfold Node.isDirectory
    rw [hbody]
  have hread : old.read device now = pure before := by
    unfold Node.read Node.content?
    rw [hbody]
    rfl
  unfold append
  rw [target_of_hasRoom hroom hfile, hold]
  dsimp only
  rw [hread]
  rfl

end Files

end Honeypot.FileSystem
