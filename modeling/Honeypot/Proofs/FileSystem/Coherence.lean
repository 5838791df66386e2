import Honeypot.Proofs.FileSystem.Changes
import Honeypot.Proofs.FileSystem.Shape

/-!
# Coherence of a view

In a coherent view everything that is found lies in a directory that lists it. A change keeps a
view coherent unless it revives what was removed (`Coherent.after_iff`): something is put in at a
removed place of the tree while the tree has more below it that was not removed by itself. That
is found again then, but it is not listed.
-/

namespace Honeypot

namespace FileSystem

variable {fs : FileSystem}

/-! ## What every view is like -/

/-- What holds of the view of a session at any time. -/
structure Kept (fs : FileSystem) : Prop where
  shaped : fs.tree.Shaped
  apart : ∀ p node, fs.overlay.lookup p = some node → fs.isRemoved p = false
  sound : ∀ p node, fs.overlay.lookup p = some node → node.children.Nodup ∧ p.IsCanonical

theorem Kept.isRemoved_of_lookup (hk : fs.Kept) {p : Path} {node : Node}
    (h : fs.lookup p = some node) : fs.isRemoved p = false := by
  obtain hover | ⟨_, hgone, _⟩ := lookup_eq_some_iff.mp h
  · exact hk.apart p node hover
  · exact hgone

theorem Kept.sound_of_lookup (hk : fs.Kept) {p : Path} {node : Node}
    (h : fs.lookup p = some node) : node.children.Nodup ∧ p.IsCanonical := by
  obtain hover | ⟨_, _, htree⟩ := lookup_eq_some_iff.mp h
  · exact hk.sound p node hover
  · exact ⟨hk.shaped.once p node htree, hk.shaped.canonical p (Option.isSome_of_eq_some htree)⟩

theorem Kept.eq_of_prefix (hk : fs.Kept) {p gone : Path} (hroom : fs.HasRoom p)
    (hgone : gone ∈ fs.removed) (hpre : gone <+: p) : gone = p := by
  obtain ⟨dir, hdir, _⟩ := hroom
  rcases List.eq_nil_or_concat p with rfl | ⟨q, name, rfl⟩
  · exact List.prefix_nil.mp hpre
  · rw [List.concat_eq_append] at hdir hpre ⊢
    rw [Path.parent_append] at hdir
    obtain heq | habove := Path.prefix_append_name_iff.mp hpre
    · exact heq
    · have hremoved := isRemoved_iff.mpr ⟨gone, hgone, habove⟩
      rw [hk.isRemoved_of_lookup hdir] at hremoved
      cases hremoved

/-- A view is kept if its overlay only has new nodes that are sound, and nothing removed. -/
theorem Kept.of_overlay (hk : fs.Kept) {fs' : FileSystem} (htree : fs'.tree = fs.tree)
    (h : ∀ p node, fs'.overlay.lookup p = some node → fs'.isRemoved p = false ∧
      (fs.overlay.lookup p = some node ∨ node.children.Nodup ∧ p.IsCanonical)) : fs'.Kept where
  shaped := htree ▸ hk.shaped
  apart p node hnode := (h p node hnode).1
  sound p node hnode := (h p node hnode).2.elim (hk.sound p node) id

theorem kept_fresh {tree : Tree} (h : tree.Shaped) (home cwd : String) :
    (fresh tree home cwd).Kept where
  shaped := h
  apart _ _ hnode := nomatch hnode
  sound _ _ hnode := nomatch hnode

theorem Kept.cover (hk : fs.Kept) {p : Path} {old node : Node} (hold : fs.lookup p = some old)
    (hsame : node.children = old.children) : (fs.cover p node).Kept := by
  refine hk.of_overlay rfl fun q upper hover => ?_
  rw [overlay_cover] at hover
  split at hover
  · next hq =>
    obtain ⟨hnodup, hcanonical⟩ := hk.sound_of_lookup hold
    cases hover
    rw [hq, hsame]
    exact ⟨hk.isRemoved_of_lookup hold, .inr ⟨hnodup, hcanonical⟩⟩
  · exact ⟨hk.apart q upper hover, .inl hover⟩

theorem Kept.store (hk : fs.Kept) {p : Path} {node : Node} (hroom : fs.HasRoom p)
    (hleaf : node.children = []) (hcanonical : p.IsCanonical) : (fs.store p node).Kept := by
  refine hk.of_overlay rfl fun q upper hover => ?_
  change (fs.cover p node).overlay.lookup q = some upper at hover
  rw [overlay_cover] at hover
  rw [Bool.eq_false_iff, ne_eq, isRemoved_store_iff]
  split at hover
  · next hq =>
    cases hover
    rw [hq, hleaf]
    refine ⟨?_, .inr ⟨List.nodup_nil, hcanonical⟩⟩
    rintro ⟨gone, hgone, hne, hpre⟩
    exact hne (hk.eq_of_prefix hroom hgone hpre)
  · refine ⟨?_, .inl hover⟩
    rintro ⟨gone, hgone, _, hpre⟩
    have hremoved := isRemoved_iff.mpr ⟨gone, hgone, hpre⟩
    rw [hk.apart q upper hover] at hremoved
    cases hremoved

theorem Kept.clear (hk : fs.Kept) (p : Path) : (fs.clear p).Kept := by
  refine hk.of_overlay rfl fun q upper hover => ?_
  rw [overlay_clear] at hover
  split at hover
  · cases hover
  · next hq =>
    rw [Bool.eq_false_iff, ne_eq, isRemoved_clear_iff, hk.apart q upper hover]
    refine ⟨?_, .inl hover⟩
    rintro (hremoved | ⟨hpre, _⟩)
    · cases hremoved
    · exact hq hpre

theorem Kept.discard (hk : fs.Kept) : fs.discard.Kept where
  shaped := hk.shaped
  apart _ _ hnode := nomatch hnode
  sound _ _ hnode := nomatch hnode

theorem isCanonical_place {change : Change} {p : Path} (h : change.place? fs = some p) :
    p.IsCanonical := by
  unfold Change.place? at h
  split at h
  · rw [← Option.some.inj h]
    exact Path.isCanonical_resolve _ _ _
  · rw [← Option.some.inj h]
    exact Path.isCanonical_resolve _ _ _
  · rw [← Option.some.inj h]
    exact Path.isCanonical_resolve _ _ _
  · cases h

theorem Kept.after (hk : fs.Kept) (change : Change) : (fs.after change).Kept := by
  have hplace : ∀ p, change.place? fs = some p → p.IsCanonical := fun _ => isCanonical_place
  have heffect := effect_after fs change
  generalize change.place? fs = place?, fs.after change = fs' at hplace heffect
  cases heffect with
  | new room vacant leaf => exact hk.store room leaf (hplace _ rfl)
  | rewritten room there file leaf => exact hk.store room leaf (hplace _ rfl)
  | refused taken => exact hk
  | failed => exact hk
  | moved p => exact ⟨hk.shaped, hk.apart, hk.sound⟩
  | cleared there => exact hk.clear _
  | marked there same =>
    refine hk.cover there ?_
    unfold Node.children
    rw [same]
  | discarded => exact hk.discard

/-! ## Coherent views -/

/-- Whether a name is listed in the directory at a place. -/
def Lists (fs : FileSystem) (p : Path) (name : String) : Prop :=
  ∃ dir, fs.lookup p = some dir ∧ dir.isDirectory = true ∧ name ∈ fs.entryNames p dir

/-- A view in which everything that is found is listed. -/
def Coherent (fs : FileSystem) : Prop :=
  ∀ p name, (fs.lookup (p ++ [name])).isSome = true → fs.Lists p name

/-- Whether something of the tree lies below a removed place and was not removed by itself. -/
def Buries (fs : FileSystem) (p : Path) : Prop :=
  p ∈ fs.removed ∧ ∃ name, (fs.tree.lookup (p ++ [name])).isSome = true ∧ p ++ [name] ∉ fs.removed

/-- A change that puts something in at a removed place, with more of the tree below it. -/
def Revives (fs : FileSystem) (change : Change) : Prop :=
  ∃ p, change.place? fs = some p ∧ fs.HasRoom p ∧ fs.Buries p

theorem coherent_fresh {tree : Tree} (h : tree.Shaped) (home cwd : String) :
    (fresh tree home cwd).Coherent := by
  intro p name hfound
  obtain ⟨node, hnode, hdirectory, hname⟩ := h.hangs p name hfound
  exact ⟨node, hnode, hdirectory, mem_entryNames_iff.mpr ⟨hfound, .inl hname⟩⟩

/-- A node may cover a place with room if it lists everything below. -/
theorem Coherent.cover (h : fs.Coherent) {p : Path} {node : Node}
    (hroom : p ≠ [] → fs.HasRoom p)
    (hbelow : ∀ name, (fs.lookup (p ++ [name])).isSome = true → node.isDirectory = true ∧
      (name ∈ node.children ∨ (fs.overlay.lookup (p ++ [name])).isSome = true)) :
    (fs.cover p node).Coherent := by
  intro q name hfound
  by_cases hplace : q ++ [name] = p
  · subst hplace
    obtain ⟨dir, hdir, hdirectory⟩ := hroom (List.concat_ne_nil _ _)
    rw [Path.parent_append] at hdir
    refine ⟨dir, ?_, hdirectory, mem_entryNames_iff.mpr ⟨hfound, .inr ?_⟩⟩
    · rw [lookup_cover, if_neg (Path.append_name_ne q name).symm, hdir]
    · rw [overlay_cover, if_pos rfl]
      rfl
  · rw [lookup_cover, if_neg hplace] at hfound
    have hoverlay : (fs.cover p node).overlay.lookup (q ++ [name]) =
        fs.overlay.lookup (q ++ [name]) := by
      rw [overlay_cover, if_neg hplace]
    unfold Lists
    simp only [mem_entryNames_iff, lookup_cover, if_neg hplace, hoverlay]
    split
    · next hq =>
      subst hq
      obtain ⟨hdirectory, hname⟩ := hbelow name hfound
      exact ⟨node, rfl, hdirectory, hfound, hname⟩
    · obtain ⟨dir, hdir, hdirectory, hname⟩ := h q name hfound
      exact ⟨dir, hdir, hdirectory, mem_entryNames_iff.mp hname⟩

theorem Coherent.clear (h : fs.Coherent) {p : Path}
    (hlookup : ∀ q, (fs.clear p).lookup q = if p <+: q then none else fs.lookup q) :
    (fs.clear p).Coherent := by
  intro q name hfound
  rw [hlookup] at hfound
  split at hfound
  · cases hfound
  · next hnot =>
    have hq : ¬p <+: q := fun hpre => hnot (Path.prefix_append_name_iff.mpr (.inr hpre))
    obtain ⟨dir, hdir, hdirectory, hname⟩ := h q name hfound
    refine ⟨dir, ?_, hdirectory, ?_⟩
    · rw [hlookup, if_neg hq, hdir]
    · rw [mem_entryNames_iff] at hname ⊢
      rw [hlookup, if_neg hnot, overlay_clear, if_neg hnot]
      exact hname

theorem Kept.lookup_clear (hk : fs.Kept) (p q : Path) :
    (fs.clear p).lookup q = if p <+: q then none else fs.lookup q := by
  have htree : (fs.clear p).tree = fs.tree := rfl
  by_cases hpre : p <+: q
  · have hover : (fs.clear p).overlay.lookup q = none := by
      rw [overlay_clear, if_pos hpre]
    rw [if_pos hpre, lookup_of_tree hover, htree]
    split
    · rfl
    · next hgone =>
      -- Only a place outside the tree is not marked as removed, and nothing is below it.
      obtain ⟨rest, rfl⟩ := hpre
      refine Option.not_isSome_iff_eq_none.mp fun hfound => hgone ?_
      exact isRemoved_clear_iff.mpr
        (.inr ⟨List.prefix_append p rest, hk.shaped.isSome_of_append hfound⟩)
  · have hgone : (fs.clear p).isRemoved q = fs.isRemoved q := by
      rw [Bool.eq_iff_iff, isRemoved_clear_iff]
      exact ⟨fun h => h.resolve_right fun hp => hpre hp.1, .inl⟩
    rw [if_neg hpre]
    unfold lookup
    rw [overlay_clear, if_neg hpre, hgone, htree]

theorem Kept.hasRoom_clear (hk : fs.Kept) {p : Path} (hroot : p ≠ []) (hroom : fs.HasRoom p) :
    (fs.clear p).HasRoom p := by
  obtain ⟨above, habove, hdirectory⟩ := hroom
  refine ⟨above, ?_, hdirectory⟩
  rw [hk.lookup_clear, if_neg (Path.not_prefix_parent hroot), habove]

theorem Kept.lookup_store (hk : fs.Kept) {p : Path} (hburies : ¬fs.Buries p) (node : Node) :
    (fs.store p node).lookup = (fs.cover p node).lookup := by
  funext q
  have hoverlay : (fs.store p node).overlay = (fs.cover p node).overlay := rfl
  cases hover : (fs.cover p node).overlay.lookup q with
  | some upper => rw [lookup_of_overlay hover, lookup_of_overlay (hoverlay ▸ hover)]
  | none =>
    rw [lookup_of_tree hover, lookup_of_tree (hoverlay ▸ hover)]
    show (if (fs.store p node).isRemoved q then none else fs.tree.lookup q) =
      if fs.isRemoved q then none else fs.tree.lookup q
    have hne : q ≠ p := by
      rintro rfl
      rw [overlay_cover, if_pos rfl] at hover
      cases hover
    by_cases hstill : (fs.store p node).isRemoved q = true
    · obtain ⟨gone, hgone, _, hpre⟩ := isRemoved_store_iff.mp hstill
      rw [if_pos hstill, if_pos (isRemoved_iff.mpr ⟨gone, hgone, hpre⟩)]
    · rw [if_neg hstill]
      split
      · next hremoved =>
        obtain ⟨gone, hgone, hpre⟩ := isRemoved_iff.mp hremoved
        -- The place itself is the only mark that went away.
        have hp : gone = p := Classical.byContradiction fun hne =>
          hstill (isRemoved_store_iff.mpr ⟨gone, hgone, hne, hpre⟩)
        subst hp
        obtain ⟨rest, rfl⟩ := hpre
        cases rest with
        | nil => exact absurd (List.append_nil gone) hne
        | cons name rest =>
          refine Option.not_isSome_iff_eq_none.mp fun hfound => hburies ⟨hgone, name, ?_, ?_⟩
          · refine hk.shaped.isSome_of_append (q := rest) ?_
            rwa [List.append_assoc]
          · intro hmem
            exact hstill (isRemoved_store_iff.mpr
              ⟨gone ++ [name], hmem, Path.append_name_ne gone name, rest, List.append_assoc _ _ _⟩)
      · rfl

theorem coherent_congr {fs' : FileSystem} (hlookup : fs'.lookup = fs.lookup)
    (hoverlay : fs'.overlay = fs.overlay) : fs'.Coherent ↔ fs.Coherent := by
  unfold Coherent Lists
  simp only [mem_entryNames_iff, hlookup, hoverlay]

/-- **What is buried comes back without being listed** if a node is put in above it. -/
theorem Kept.not_coherent_store (hk : fs.Kept) {p : Path} {node : Node} (hroom : fs.HasRoom p)
    (hleaf : node.children = []) (hburies : fs.Buries p) : ¬(fs.store p node).Coherent := by
  obtain ⟨hmem, name, htree, hkept⟩ := hburies
  have hunder : fs.isRemoved (p ++ [name]) = true :=
    isRemoved_iff.mpr ⟨p, hmem, List.prefix_append p [name]⟩
  have hover : (fs.store p node).overlay.lookup (p ++ [name]) = none := by
    show (fs.cover p node).overlay.lookup (p ++ [name]) = none
    rw [overlay_cover, if_neg (Path.append_name_ne p name), Option.eq_none_iff_forall_ne_some]
    intro upper hover
    rw [hk.apart _ upper hover] at hunder
    cases hunder
  have hback : (fs.store p node).isRemoved (p ++ [name]) = false := by
    rw [Bool.eq_false_iff, ne_eq, isRemoved_store_iff]
    rintro ⟨gone, hgone, hne, hpre⟩
    obtain rfl | habove := Path.prefix_append_name_iff.mp hpre
    · exact hkept hgone
    · exact hne (hk.eq_of_prefix hroom hgone habove)
  intro hcoherent
  have hfound : ((fs.store p node).lookup (p ++ [name])).isSome = true := by
    rw [lookup_of_tree hover, hback]
    exact htree
  obtain ⟨dir, hdir, _, hname⟩ := hcoherent p name hfound
  have hnode : (fs.store p node).lookup p = some node := by
    refine lookup_of_overlay ?_
    show (fs.cover p node).overlay.lookup p = some node
    rw [overlay_cover, if_pos rfl]
  cases hnode.symm.trans hdir
  obtain hchild | hover' := (mem_entryNames_iff.mp hname).2
  · rw [hleaf] at hchild
    cases hchild
  · rw [hover] at hover'
    cases hover'

/-- What is found below a place makes it a directory. -/
theorem Coherent.of_below (h : fs.Coherent) {p : Path} {name : String}
    (hfound : (fs.lookup (p ++ [name])).isSome = true) :
    ∃ dir, fs.lookup p = some dir ∧ dir.isDirectory = true ∧
      (name ∈ dir.children ∨ (fs.overlay.lookup (p ++ [name])).isSome = true) := by
  obtain ⟨dir, hdir, hdirectory, hname⟩ := h p name hfound
  exact ⟨dir, hdir, hdirectory, (mem_entryNames_iff.mp hname).2⟩

theorem Coherent.hasRoom (h : fs.Coherent) {p : Path} (hp : p ≠ [])
    (hfound : (fs.lookup p).isSome = true) : fs.HasRoom p := by
  rw [← Path.parent_append_name hp] at hfound
  obtain ⟨dir, hdir, hdirectory, _⟩ := h.of_below hfound
  exact ⟨dir, hdir, hdirectory⟩

/-- Putting something in where no directory is keeps a view coherent unless something is buried
there. -/
theorem Coherent.store_iff (hk : fs.Kept) (h : fs.Coherent) {p : Path} {node : Node}
    (hroom : fs.HasRoom p) (hleaf : node.children = [])
    (hfile : ∀ old, fs.lookup p = some old → old.isDirectory = false) :
    (fs.store p node).Coherent ↔ ¬fs.Buries p := by
  refine ⟨fun hcoherent hburies => hk.not_coherent_store hroom hleaf hburies hcoherent, ?_⟩
  intro hburies
  have hoverlay : (fs.store p node).overlay = (fs.cover p node).overlay := rfl
  rw [coherent_congr (hk.lookup_store hburies node) hoverlay]
  refine h.cover (fun _ => hroom) fun name hfound => ?_
  obtain ⟨dir, hdir, hdirectory, _⟩ := h.of_below hfound
  rw [hfile dir hdir] at hdirectory
  cases hdirectory

/-- **A change keeps a coherent view coherent exactly if it does not revive anything.** -/
theorem Coherent.after_iff (hk : fs.Kept) (h : fs.Coherent) (change : Change) :
    (fs.after change).Coherent ↔ ¬fs.Revives change := by
  unfold Revives
  have heffect := effect_after fs change
  generalize change.place? fs = place?, fs.after change = fs' at heffect
  cases heffect with
  | @new p node room vacant leaf =>
    have hfile : ∀ old, fs.lookup p = some old → old.isDirectory = false := fun old hold => by
      rw [vacant] at hold
      cases hold
    rw [h.store_iff hk room leaf hfile]
    simp only [Option.some.injEq, exists_eq_left', room, true_and]
  | @rewritten p old node room there file leaf =>
    have hfile : ∀ old, fs.lookup p = some old → old.isDirectory = false := fun upper hover => by
      cases there.symm.trans hover
      exact file
    rw [h.store_iff hk room leaf hfile]
    simp only [Option.some.injEq, exists_eq_left', room, true_and]
  | @refused p taken =>
    refine iff_of_true h ?_
    rintro ⟨_, hp, hroom, hgone, _⟩
    cases hp
    obtain ⟨node, hnode⟩ := Option.isSome_iff_exists.mp (taken hroom)
    have hremoved := hk.isRemoved_of_lookup hnode
    rw [isRemoved_of_mem hgone] at hremoved
    cases hremoved
  | failed => exact iff_of_true h fun ⟨_, hp, _⟩ => nomatch hp
  | moved p => exact iff_of_true h fun ⟨_, hp, _⟩ => nomatch hp
  | @cleared p there =>
    exact iff_of_true (h.clear (hk.lookup_clear p)) fun ⟨_, hp, _⟩ => nomatch hp
  | @marked p old node there same =>
    have hchildren : node.children = old.children := by
      unfold Node.children
      rw [same]
    have hdirectory : node.isDirectory = old.isDirectory := by
      unfold Node.isDirectory
      rw [same]
    refine iff_of_true ?_ fun ⟨_, hp, _⟩ => nomatch hp
    refine h.cover (fun hp => h.hasRoom hp (Option.isSome_of_eq_some there)) fun name hfound => ?_
    obtain ⟨dir, hdir, hbelow⟩ := h.of_below hfound
    cases there.symm.trans hdir
    rwa [hchildren, hdirectory]
  | discarded =>
    exact iff_of_true (coherent_fresh hk.shaped fs.home "") fun ⟨_, hp, _⟩ => nomatch hp

end FileSystem
end Honeypot
