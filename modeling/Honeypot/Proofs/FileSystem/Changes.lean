import Mathlib.Data.List.Induction
import Mathlib.Data.List.Nodup
import Honeypot.FileSystem.View
import Honeypot.Proofs.Path
import Honeypot.Proofs.Runs

/-!
# Changes of a view

A change of a view either fails and leaves the view as it is, or it moves the working directory,
puts a node over a place, clears a place or discards everything. What is found at each place
afterwards is said here, one lemma for each of these.
-/

namespace Honeypot

namespace Path

theorem isAtOrBelow_iff {p top : Path} : p.isAtOrBelow top = true ↔ top <+: p :=
  List.isPrefixOf_iff_prefix

theorem isBelow_iff {p top : Path} : p.isBelow top = true ↔ top <+: p ∧ p ≠ top := by
  unfold isBelow
  rw [Bool.and_eq_true, isAtOrBelow_iff, bne_iff_ne]

theorem prefix_append_name_iff {top p : Path} {name : String} :
    top <+: p ++ [name] ↔ top = p ++ [name] ∨ top <+: p :=
  List.prefix_concat_iff

theorem append_name_ne (p : Path) (name : String) : p ++ [name] ≠ p := fun h =>
  List.cons_ne_nil name [] (List.append_right_eq_self.mp h)

theorem not_append_name_prefix (p : Path) (name : String) : ¬p ++ [name] <+: p := fun hpre =>
  append_name_ne p name (hpre.eq_of_length_le (by rw [List.length_append]; omega))

theorem not_prefix_parent {p : Path} (h : p ≠ []) : ¬p <+: p.parent := by
  have hnot := not_append_name_prefix p.parent p.name
  rwa [parent_append_name h] at hnot

end Path

namespace FileSystem

variable {fs : FileSystem}

/-! ## Removed places -/

theorem isRemoved_iff {p : Path} : fs.isRemoved p = true ↔ ∃ gone ∈ fs.removed, gone <+: p := by
  unfold isRemoved
  rw [List.any_eq_true]
  simp only [Path.isAtOrBelow_iff]

theorem isRemoved_of_mem {p : Path} (h : p ∈ fs.removed) : fs.isRemoved p = true :=
  isRemoved_iff.mpr ⟨p, h, List.prefix_refl p⟩

/-! ## What is found -/

theorem lookup_of_overlay {p : Path} {node : Node} (h : fs.overlay.lookup p = some node) :
    fs.lookup p = some node := by
  unfold lookup
  rw [h]

theorem lookup_of_tree {p : Path} (h : fs.overlay.lookup p = none) :
    fs.lookup p = if fs.isRemoved p then none else fs.tree.lookup p := by
  unfold lookup
  rw [h]

/-- A node that is found lies in the overlay, or in the tree where nothing is removed. -/
theorem lookup_eq_some_iff {p : Path} {node : Node} :
    fs.lookup p = some node ↔ fs.overlay.lookup p = some node ∨
      fs.overlay.lookup p = none ∧ fs.isRemoved p = false ∧ fs.tree.lookup p = some node := by
  cases hover : fs.overlay.lookup p with
  | some upper =>
    rw [lookup_of_overlay hover]
    simp only [reduceCtorEq, false_and, or_false]
  | none =>
    rw [lookup_of_tree hover]
    cases fs.isRemoved p with
    | true => simp only [if_true, reduceCtorEq, false_and, and_false, or_false]
    | false => simp only [Bool.false_eq_true, if_false, reduceCtorEq, true_and, false_or]

/-! ## What is listed -/

theorem mem_addedNames_iff {p : Path} {name : String} :
    name ∈ fs.addedNames p ↔ (fs.overlay.lookup (p ++ [name])).isSome = true := by
  unfold addedNames
  rw [List.lookup_isSome_iff, List.mem_map]
  simp only [List.mem_filter, Bool.and_eq_true, bne_iff_ne, beq_iff_eq]
  constructor
  · rintro ⟨pair, ⟨hmem, hroot, hparent⟩, hname⟩
    exact ⟨pair, hmem, by rw [← hparent, ← hname, Path.parent_append_name hroot]⟩
  · rintro ⟨pair, hmem, hpath⟩
    refine ⟨pair, ⟨hmem, ?_, ?_⟩, ?_⟩
    · rw [← hpath]
      exact List.concat_ne_nil _ _
    · rw [← hpath, Path.parent_append]
    · rw [← hpath, Path.name_append]

theorem mem_withNames_iff {names more : List String} {name : String} :
    name ∈ withNames names more ↔ name ∈ names ∨ name ∈ more := by
  unfold withNames
  induction more generalizing names with
  | nil => simp only [List.foldl_nil, List.not_mem_nil, or_false]
  | cons new more ih =>
    rw [List.foldl_cons, ih]
    split
    · next hthere =>
      have hmem : new ∈ names := List.contains_iff_mem.mp hthere
      simp only [List.mem_cons]
      grind
    · simp only [List.mem_append, List.mem_cons, List.not_mem_nil, or_false, or_assoc]

theorem nodup_withNames {names : List String} (h : names.Nodup) (more : List String) :
    (withNames names more).Nodup := by
  unfold withNames
  induction more generalizing names with
  | nil => exact h
  | cons new more ih =>
    rw [List.foldl_cons]
    refine ih ?_
    split
    · exact h
    · next hnew =>
      refine List.nodup_append.mpr ⟨h, List.nodup_singleton new, fun name hname other hother => ?_⟩
      rw [List.mem_singleton.mp hother]
      rintro rfl
      exact hnew (List.contains_iff_mem.mpr hname)

/-- A name is listed if something is found there and the directory was made with it or the overlay
adds it. -/
theorem mem_entryNames_iff {p : Path} {node : Node} {name : String} :
    name ∈ fs.entryNames p node ↔ (fs.lookup (p ++ [name])).isSome = true ∧
      (name ∈ node.children ∨ (fs.overlay.lookup (p ++ [name])).isSome = true) := by
  unfold entryNames
  rw [List.mem_filter, mem_withNames_iff, mem_addedNames_iff, and_comm]

theorem nodup_entryNames {node : Node} (h : node.children.Nodup) (p : Path) :
    (fs.entryNames p node).Nodup := (nodup_withNames h _).filter _

/-! ## Places after a change -/

theorem overlay_cover (p q : Path) (node : Node) :
    (fs.cover p node).overlay.lookup q = if q = p then some node else fs.overlay.lookup q :=
  Assoc.lookup_put p q node fs.overlay

theorem lookup_cover (p q : Path) (node : Node) :
    (fs.cover p node).lookup q = if q = p then some node else fs.lookup q := by
  have hremoved : (fs.cover p node).isRemoved q = fs.isRemoved q := rfl
  unfold lookup
  rw [overlay_cover, hremoved]
  by_cases h : q = p
  · rw [if_pos h, if_pos h]
  · rw [if_neg h, if_neg h]
    rfl

theorem overlay_clear (p q : Path) :
    (fs.clear p).overlay.lookup q = if p <+: q then none else fs.overlay.lookup q := by
  show (fs.overlay.filter fun pair => !pair.1.isAtOrBelow p).lookup q = _
  induction fs.overlay with
  | nil => split <;> rfl
  | cons pair overlay ih =>
    obtain ⟨r, node⟩ := pair
    rw [List.filter_cons]
    by_cases hq : q = r
    · subst hq
      split
      · next hkeep =>
        have hnot : ¬p <+: q := fun h => by
          rw [Path.isAtOrBelow_iff.mpr h] at hkeep
          cases hkeep
        rw [if_neg hnot, List.lookup_cons_self, List.lookup_cons_self]
      · next hdrop =>
        have hpre : p <+: q := Path.isAtOrBelow_iff.mp (by simpa using hdrop)
        rw [ih, if_pos hpre, if_pos hpre]
    · have hne : (q == r) = false := beq_false_of_ne hq
      split
      · rw [List.lookup_cons, hne, ih, List.lookup_cons, hne]
      · rw [ih, List.lookup_cons, hne]

theorem mem_removed_clear_iff {p gone : Path} :
    gone ∈ (fs.clear p).removed ↔
      gone ∈ fs.removed ∨ gone = p ∧ (fs.tree.lookup p).isSome = true := by
  unfold clear
  dsimp only
  split
  · next h =>
    rw [Bool.and_eq_true] at h
    simp only [List.mem_append, List.mem_singleton, h.1, and_true]
  · next h =>
    rw [Bool.and_eq_true, not_and, Bool.not_eq_true'] at h
    constructor
    · exact .inl
    · rintro (hgone | ⟨rfl, htree⟩)
      · exact hgone
      · exact List.contains_iff_mem.mp (by simpa using h htree)

theorem isRemoved_clear_iff {p q : Path} : (fs.clear p).isRemoved q = true ↔
    fs.isRemoved q = true ∨ p <+: q ∧ (fs.tree.lookup p).isSome = true := by
  simp only [isRemoved_iff, mem_removed_clear_iff]
  constructor
  · rintro ⟨gone, hgone | ⟨rfl, htree⟩, hpre⟩
    · exact .inl ⟨gone, hgone, hpre⟩
    · exact .inr ⟨hpre, htree⟩
  · rintro (⟨gone, hgone, hpre⟩ | ⟨hpre, htree⟩)
    · exact ⟨gone, .inl hgone, hpre⟩
    · exact ⟨p, .inr ⟨rfl, htree⟩, hpre⟩

theorem isRemoved_store_iff {p q : Path} {node : Node} : (fs.store p node).isRemoved q = true ↔
    ∃ gone ∈ fs.removed, gone ≠ p ∧ gone <+: q := by
  rw [isRemoved_iff]
  show (∃ gone ∈ fs.removed.filter (· != p), gone <+: q) ↔ _
  simp only [List.mem_filter, bne_iff_ne, and_assoc]

theorem lookup_store_of_cover {p q : Path} {node found : Node}
    (h : (fs.cover p node).lookup q = some found) : (fs.store p node).lookup q = some found := by
  refine lookup_eq_some_iff.mpr ?_
  obtain hover | ⟨hover, hclear, htree⟩ := lookup_eq_some_iff.mp h
  · exact .inl hover
  · refine .inr ⟨hover, ?_, htree⟩
    rw [Bool.eq_false_iff, ne_eq, isRemoved_store_iff]
    rintro ⟨gone, hgone, _, hpre⟩
    have hremoved : (fs.cover p node).isRemoved q = true := isRemoved_iff.mpr ⟨gone, hgone, hpre⟩
    rw [hclear] at hremoved
    cases hremoved

/-! ## Changes -/

/-- Whether something may be put in at a place: it lies in a directory. -/
def HasRoom (fs : FileSystem) (p : Path) : Prop :=
  ∃ dir, fs.lookup p.parent = some dir ∧ dir.isDirectory = true

theorem checkParent_of_hasRoom {p : Path} (h : fs.HasRoom p) (path : String) :
    fs.checkParent path p = .ok () := by
  obtain ⟨dir, hdir, hdirectory⟩ := h
  unfold checkParent
  rw [hdir]
  exact if_pos hdirectory

theorem checkParent_of_not_hasRoom {p : Path} (h : ¬fs.HasRoom p) (path : String) :
    ∃ e, fs.checkParent path p = .error e := by
  unfold checkParent
  cases hparent : fs.lookup p.parent with
  | none => exact ⟨_, rfl⟩
  | some dir => exact ⟨_, if_neg fun hdirectory => h ⟨dir, hparent, hdirectory⟩⟩

/-- A file may be written where there is room and no directory. -/
theorem target_cases (fs : FileSystem) (path : String) :
    (∃ old, fs.target path = .ok (fs.resolve path, old) ∧ fs.HasRoom (fs.resolve path) ∧
      fs.lookup (fs.resolve path) = old ∧ ∀ node ∈ old, node.isDirectory = false) ∨
    ∃ e, fs.target path = .error e ∧
      (fs.HasRoom (fs.resolve path) → (fs.lookup (fs.resolve path)).isSome = true) := by
  unfold target
  dsimp only
  by_cases hroom : fs.HasRoom (fs.resolve path)
  · rw [checkParent_of_hasRoom hroom]
    cases hlookup : fs.lookup (fs.resolve path) with
    | none => exact .inl ⟨none, rfl, hroom, rfl, fun _ h => nomatch h⟩
    | some node =>
      cases hnode : node.isDirectory with
      | true => exact .inr ⟨_, if_pos hnode, fun _ => rfl⟩
      | false =>
        refine .inl ⟨some node, if_neg (Bool.eq_false_iff.mp hnode), hroom, rfl, ?_⟩
        intro upper hover
        rwa [← Option.some.inj hover]
  · obtain ⟨e, he⟩ := checkParent_of_not_hasRoom hroom path
    rw [he]
    exact .inr ⟨e, rfl, fun h => absurd h hroom⟩

/-- A change of a view, with all that it is asked for. -/
inductive Change where
  | write (path text : String) (mode : Int) (owner : String) (now : Float)
  | append (device : Persona) (path text : String) (mode : Int) (owner : String) (now : Float)
      (chances : Random)
  | makeDirectory (path owner : String) (now : Float)
  | remove (path : String) (recursive : Bool)
  | changeMode (path : String) (mode : Int) (now : Float)
  | changeDirectory (path : String)
  | discard

/-- The place at which a change puts something in. -/
def Change.place? (fs : FileSystem) : Change → Option Path
  | .write path .. => some (fs.resolve path)
  | .append _ path .. => some (fs.resolve path)
  | .makeDirectory path .. => some (fs.resolve path)
  | _ => none

/-- The view after an operation that leaves it as it is if it fails. -/
def settled (fs : FileSystem) : Except PathError FileSystem → FileSystem
  | .ok fs' => fs'
  | .error _ => fs

/-- The view after an operation that draws; a fault leaves the view as it is too. -/
def drawn (fs : FileSystem) : Except Fault (Except PathError FileSystem) × Random → FileSystem
  | (.ok result, _) => fs.settled result
  | (.error _, _) => fs

def after (fs : FileSystem) : Change → FileSystem
  | .write path text mode owner now => fs.settled (fs.write path text mode owner now)
  | .append device path text mode owner now chances =>
    fs.drawn ((fs.append device path text mode owner now).run chances)
  | .makeDirectory path owner now => fs.settled (fs.makeDirectory path owner now)
  | .remove path recursive => fs.settled (fs.remove path recursive)
  | .changeMode path mode now => fs.settled (fs.changeMode path mode now)
  | .changeDirectory path => fs.settled (fs.changeDirectory path)
  | .discard => fs.discard

/-- What a change can do, by the place at which it puts something in. -/
inductive Effect (fs : FileSystem) : Option Path → FileSystem → Prop where
  | new {p : Path} {node : Node} (room : fs.HasRoom p) (vacant : fs.lookup p = none)
      (leaf : node.children = []) (here : node.path = p) : Effect fs (some p) (fs.store p node)
  | rewritten {p : Path} {old node : Node} (room : fs.HasRoom p) (there : fs.lookup p = some old)
      (file : old.isDirectory = false) (leaf : node.children = []) (here : node.path = p) :
      Effect fs (some p) (fs.store p node)
  | refused {p : Path} (taken : fs.HasRoom p → (fs.lookup p).isSome = true) :
      Effect fs (some p) fs
  | failed : Effect fs none fs
  | moved (p : Path) : Effect fs none { fs with cwd := p }
  | cleared {p : Path} (there : (fs.lookup p).isSome = true) : Effect fs none (fs.clear p)
  | marked {p : Path} {old node : Node} (there : fs.lookup p = some old)
      (same : node.body = old.body) (here : node.path = old.path) :
      Effect fs none (fs.cover p node)
  | discarded : Effect fs none fs.discard

/-- Writing puts a file in or over a file. -/
theorem effect_store_of_target {p : Path} {old : Option Node} {node : Node} (hroom : fs.HasRoom p)
    (hold : fs.lookup p = old) (hfile : ∀ upper ∈ old, upper.isDirectory = false)
    (hleaf : node.children = []) (hhere : node.path = p) :
    Effect fs (some p) (fs.store p node) := by
  cases old with
  | none => exact .new hroom hold hleaf hhere
  | some upper => exact .rewritten hroom hold (hfile upper rfl) hleaf hhere

theorem effect_write (path text : String) (mode : Int) (owner : String) (now : Float) :
    Effect fs (some (fs.resolve path)) (fs.settled (fs.write path text mode owner now)) := by
  unfold write
  obtain ⟨old, htarget, hroom, hold, hfile⟩ | ⟨e, htarget, htaken⟩ := target_cases fs path
  · rw [htarget]
    exact effect_store_of_target hroom hold hfile rfl rfl
  · rw [htarget]
    exact .refused htaken

theorem effect_append (device : Persona) (path text : String) (mode : Int) (owner : String)
    (now : Float) (chances : Random) : Effect fs (some (fs.resolve path))
      (fs.drawn ((fs.append device path text mode owner now).run chances)) := by
  unfold append
  obtain ⟨old, htarget, hroom, hold, hfile⟩ | ⟨e, htarget, htaken⟩ := target_cases fs path
  · rw [htarget]
    cases old with
    | none => exact effect_store_of_target hroom hold hfile rfl rfl
    | some node =>
      dsimp only
      rw [run_bind_pure]
      rcases (node.read device now).run chances with ⟨before | _, _⟩
      · exact .refused fun _ => Option.isSome_of_eq_some hold
      · exact effect_store_of_target hroom hold hfile rfl rfl
  · rw [htarget]
    exact .refused htaken

theorem effect_makeDirectory (path owner : String) (now : Float) :
    Effect fs (some (fs.resolve path)) (fs.settled (fs.makeDirectory path owner now)) := by
  unfold makeDirectory
  dsimp only
  cases hlookup : fs.lookup (fs.resolve path) with
  | some node => exact .refused fun _ => Option.isSome_of_eq_some hlookup
  | none =>
    by_cases hroom : fs.HasRoom (fs.resolve path)
    · rw [checkParent_of_hasRoom hroom]
      exact effect_store_of_target hroom hlookup (fun _ h => nomatch h) rfl rfl
    · obtain ⟨e, he⟩ := checkParent_of_not_hasRoom hroom path
      rw [he]
      exact .refused fun h => absurd h hroom

theorem effect_remove (path : String) (recursive : Bool) :
    Effect fs none (fs.settled (fs.remove path recursive)) := by
  unfold remove
  dsimp only
  split
  · exact .failed
  · cases hlookup : fs.lookup (fs.resolve path) with
    | none => exact .failed
    | some node =>
      dsimp only
      split
      · exact .failed
      · exact .cleared (Option.isSome_of_eq_some hlookup)

theorem effect_changeMode (path : String) (mode : Int) (now : Float) :
    Effect fs none (fs.settled (fs.changeMode path mode now)) := by
  unfold changeMode
  dsimp only
  cases hlookup : fs.lookup (fs.resolve path) with
  | none => exact .failed
  | some node => exact .marked hlookup rfl rfl

theorem effect_changeDirectory (path : String) :
    Effect fs none (fs.settled (fs.changeDirectory path)) := by
  unfold changeDirectory
  dsimp only
  cases fs.lookup (fs.resolve path) with
  | none => exact .failed
  | some node =>
    dsimp only
    split
    · exact .moved _
    · exact .failed

theorem effect_after (fs : FileSystem) (change : Change) :
    Effect fs (change.place? fs) (fs.after change) := by
  cases change with
  | write path text mode owner now => exact effect_write path text mode owner now
  | append device path text mode owner now chances =>
    exact effect_append device path text mode owner now chances
  | makeDirectory path owner now => exact effect_makeDirectory path owner now
  | remove path recursive => exact effect_remove path recursive
  | changeMode path mode now => exact effect_changeMode path mode now
  | changeDirectory path => exact effect_changeDirectory path
  | discard => exact .discarded

/-! ## Runs of changes -/

/-- What holds of a view holds throughout a run exactly if no change of the run breaks it. -/
theorem holds_throughout_iff {P : FileSystem → Prop} {B : FileSystem → Change → Prop} (h : P fs)
    {changes : List Change} (hstep : ∀ done change, done ++ [change] <+: changes →
      P (done.foldl after fs) →
      (P ((done.foldl after fs).after change) ↔ ¬B (done.foldl after fs) change)) :
    (∀ done, done <+: changes → P (done.foldl after fs)) ↔
      ∀ done change, done ++ [change] <+: changes → ¬B (done.foldl after fs) change := by
  constructor
  · intro hall done change hpre
    have hdone := hall done ((List.prefix_append done [change]).trans hpre)
    have hnext := hall _ hpre
    rw [List.foldl_append] at hnext
    exact (hstep done change hpre hdone).mp hnext
  · intro hnone done
    -- The last change of a run that has been fine so far decides.
    induction done using List.reverseRecOn with
    | nil => exact fun _ => h
    | append_singleton done change ih =>
      intro hpre
      have hdone := ih ((List.prefix_append done [change]).trans hpre)
      rw [List.foldl_append]
      exact (hstep done change hpre hdone).mpr (hnone done change hpre)

end FileSystem
end Honeypot
