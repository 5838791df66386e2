import Honeypot.Proofs.FileSystem.OneTree

/-!
# What stays away

What was removed is gone with everything below it. It stays away (`away_throughout_iff`) until it is
made again or the tree shows through: a place of the tree that one removed place hides, and no
other, shows through again when something is put in at that removed place.
-/

namespace Honeypot

namespace FileSystem

variable {fs : FileSystem}

/-! ## Changes that succeed -/

/-- The view that a change leads to, unless it fails. -/
def result? (fs : FileSystem) : Change → Option FileSystem
  | .write path text mode owner now => (fs.write path text mode owner now).toOption
  | .append device path text mode owner now chances =>
    ((fs.append device path text mode owner now).run chances).1.toOption.bind (·.toOption)
  | .makeDirectory path owner now => (fs.makeDirectory path owner now).toOption
  | .remove path recursive => (fs.remove path recursive).toOption
  | .changeMode path mode now => (fs.changeMode path mode now).toOption
  | .changeDirectory path => (fs.changeDirectory path).toOption
  | .discard => some fs.discard

theorem after_eq (fs : FileSystem) (change : Change) :
    fs.after change = (fs.result? change).getD fs := by
  have hsettled : ∀ result : Except PathError FileSystem,
      fs.settled result = result.toOption.getD fs := fun result => by
    cases result <;> rfl
  cases change with
  | append device path text mode owner now chances =>
    show fs.drawn ((fs.append device path text mode owner now).run chances) =
      (((fs.append device path text mode owner now).run chances).1.toOption.bind
        (·.toOption)).getD fs
    rcases (fs.append device path text mode owner now).run chances with ⟨e | result, g⟩
    · rfl
    · exact hsettled result
  | discard => rfl
  | _ => exact hsettled _

/-- Whether a change puts something in at a place and succeeds. -/
def Makes (fs : FileSystem) (change : Change) (q : Path) : Prop :=
  change.place? fs = some q ∧ (fs.result? change).isSome = true

theorem after_of_not_makes {change : Change} {q : Path} (hplace : change.place? fs = some q)
    (h : ¬fs.Makes change q) : fs.after change = fs := by
  have hfailed : fs.result? change = none :=
    Option.not_isSome_iff_eq_none.mp fun hsome => h ⟨hplace, hsome⟩
  rw [after_eq, hfailed]
  rfl

theorem eq_clear_of_remove {path : String} {recursive : Bool} {fs' : FileSystem}
    (h : fs.remove path recursive = .ok fs') : fs' = fs.clear (fs.resolve path) := by
  unfold remove at h
  dsimp only at h
  split at h
  · cases h
  · split at h
    · cases h
    · split at h
      · cases h
      · exact (Except.ok.inj h).symm

theorem exists_cover_of_changeMode {path : String} {mode : Int} {now : Float} {fs' : FileSystem}
    (h : fs.changeMode path mode now = .ok fs') :
    (fs.lookup (fs.resolve path)).isSome = true ∧
      ∃ node, fs' = fs.cover (fs.resolve path) node := by
  unfold changeMode at h
  dsimp only at h
  split at h
  · cases h
  · next old hold => exact ⟨Option.isSome_of_eq_some hold, _, (Except.ok.inj h).symm⟩

theorem exists_store_of_makeDirectory {path owner : String} {now : Float} {fs' : FileSystem}
    (h : fs.makeDirectory path owner now = .ok fs') :
    fs.lookup (fs.resolve path) = none ∧
      ∃ node : Node, node.body = .directory [] ∧ fs' = fs.store (fs.resolve path) node := by
  unfold makeDirectory at h
  dsimp only at h
  cases hvacant : fs.lookup (fs.resolve path) with
  | some node =>
    rw [hvacant] at h
    cases h
  | none =>
    rw [hvacant] at h
    cases hparent : fs.checkParent path (fs.resolve path) with
    | error e =>
      rw [hparent] at h
      cases h
    | ok =>
      rw [hparent] at h
      cases h
      exact ⟨rfl, _, rfl, rfl⟩

theorem lookup_of_changeDirectory {path : String} {fs' : FileSystem}
    (h : fs.changeDirectory path = .ok fs') : fs'.lookup = fs.lookup := by
  unfold changeDirectory at h
  dsimp only at h
  split at h
  · cases h
  · split at h
    · rw [← Except.ok.inj h]
      rfl
    · cases h

theorem toOption_eq_some_iff {ε α : Type} {result : Except ε α} {a : α} :
    result.toOption = some a ↔ result = .ok a := by
  cases result with
  | error e => exact ⟨nofun, nofun⟩
  | ok b => exact ⟨fun h => congrArg _ (Option.some.inj h), fun h => congrArg _ (Except.ok.inj h)⟩

/-! ## One change -/

/-- Whether a removed place hides a place of the tree, and no other removed place does. -/
def HidesAlone (fs : FileSystem) (p q : Path) : Prop :=
  p ∈ fs.removed ∧ p <+: q ∧ (fs.tree.lookup q).isSome = true ∧
    ∀ gone ∈ fs.removed, gone <+: q → gone = p

/-- A change that puts something in above a place of the tree, at the one removed place that hides
it. -/
def Uncovers (fs : FileSystem) (change : Change) (q : Path) : Prop :=
  ∃ p, change.place? fs = some p ∧ fs.HasRoom p ∧ p ≠ q ∧ fs.HidesAlone p q

theorem lookup_store_isSome_iff {p q : Path} {node : Node} (hgone : fs.lookup q = none)
    (hne : p ≠ q) : ((fs.store p node).lookup q).isSome = true ↔ fs.HidesAlone p q := by
  have hover : fs.overlay.lookup q = none := Option.eq_none_iff_forall_ne_some.mpr fun upper h => by
    rw [lookup_of_overlay h] at hgone
    cases hgone
  have hover' : (fs.store p node).overlay.lookup q = none := by
    show (fs.cover p node).overlay.lookup q = none
    rw [overlay_cover, if_neg hne.symm, hover]
  have htree : (fs.store p node).tree = fs.tree := rfl
  rw [lookup_of_tree hover] at hgone
  rw [lookup_of_tree hover', htree]
  constructor
  · intro hfound
    split at hfound
    · cases hfound
    · next hclear =>
      -- The place was hidden, and every mark that hid it is the one that went away.
      have honly : ∀ gone ∈ fs.removed, gone <+: q → gone = p := fun gone hmem hpre =>
        Classical.byContradiction fun hother =>
          hclear (isRemoved_store_iff.mpr ⟨gone, hmem, hother, hpre⟩)
      have hremoved : fs.isRemoved q = true := Classical.byContradiction fun hnot => by
        rw [if_neg hnot] at hgone
        rw [hgone] at hfound
        cases hfound
      obtain ⟨gone, hmem, hpre⟩ := isRemoved_iff.mp hremoved
      obtain rfl := honly gone hmem hpre
      exact ⟨hmem, hpre, hfound, honly⟩
  · rintro ⟨_, _, hthere, honly⟩
    rw [if_neg]
    · exact hthere
    · intro hstill
      obtain ⟨gone, hmem, hother, hpre⟩ := isRemoved_store_iff.mp hstill
      exact hother (honly gone hmem hpre)

/-- Putting something in elsewhere lets a missing place show through exactly if it takes away the
only mark that hides it. -/
theorem Kept.reappears_iff_of_effect (hk : fs.Kept) {p q : Path} {fs' : FileSystem}
    (heffect : Effect fs (some p) fs') (hgone : fs.lookup q = none) (hne : p ≠ q) :
    (fs'.lookup q).isSome = true ↔ fs.HasRoom p ∧ fs.HidesAlone p q := by
  cases heffect with
  | new room vacant leaf =>
    rw [lookup_store_isSome_iff hgone hne]
    exact (and_iff_right room).symm
  | rewritten room there file leaf =>
    rw [lookup_store_isSome_iff hgone hne]
    exact (and_iff_right room).symm
  | refused taken =>
    rw [hgone]
    refine iff_of_false nofun ?_
    rintro ⟨room, hmem, _⟩
    obtain ⟨node, hnode⟩ := Option.isSome_iff_exists.mp (taken room)
    have hremoved := hk.isRemoved_of_lookup hnode
    rw [isRemoved_of_mem hmem] at hremoved
    cases hremoved

/-- A change that puts nothing in anywhere brings nothing back, if it does not discard
everything. -/
theorem Kept.lookup_of_quiet (hk : fs.Kept) {change : Change} {q : Path} {fs' : FileSystem}
    (hplace : change.place? fs = none) (hdiscard : change ≠ .discard)
    (hresult : fs.result? change = some fs') (hgone : fs.lookup q = none) : fs'.lookup q = none := by
  cases change with
  | write | append | makeDirectory => cases hplace
  | discard => exact absurd rfl hdiscard
  | remove path recursive =>
    rw [eq_clear_of_remove (toOption_eq_some_iff.mp hresult), hk.lookup_clear, hgone, ite_self]
  | changeMode path mode now =>
    obtain ⟨hthere, node, rfl⟩ := exists_cover_of_changeMode (toOption_eq_some_iff.mp hresult)
    rw [lookup_cover, if_neg, hgone]
    rintro rfl
    rw [hgone] at hthere
    cases hthere
  | changeDirectory path =>
    rw [lookup_of_changeDirectory (toOption_eq_some_iff.mp hresult), hgone]

/-- **A missing place reappears** by a change that does not make it exactly if the change uncovers
it. -/
theorem Kept.reappears_iff (hk : fs.Kept) {change : Change} {q : Path}
    (hgone : fs.lookup q = none) (hdiscard : change ≠ .discard) (hmakes : ¬fs.Makes change q) :
    ((fs.after change).lookup q).isSome = true ↔ fs.Uncovers change q := by
  unfold Uncovers
  cases hplace : change.place? fs with
  | some p =>
    simp only [Option.some.injEq, exists_eq_left']
    by_cases hne : p = q
    · rw [after_of_not_makes (hplace.trans (congrArg some hne)) hmakes, hgone]
      exact iff_of_false nofun fun h => h.2.1 hne
    · have heffect := effect_after fs change
      rw [hplace] at heffect
      rw [hk.reappears_iff_of_effect heffect hgone hne]
      simp only [ne_eq, hne, not_false_eq_true, true_and]
  | none =>
    refine iff_of_false ?_ fun ⟨_, hp, _⟩ => nomatch hp
    rw [after_eq]
    cases hresult : fs.result? change with
    | none => exact Option.not_isSome_iff_eq_none.mpr hgone
    | some fs' =>
      exact Option.not_isSome_iff_eq_none.mpr (hk.lookup_of_quiet hplace hdiscard hresult hgone)

/-! ## Runs of changes -/

/-- A run that neither makes a place nor discards everything. -/
def Spares (fs : FileSystem) (q : Path) (changes : List Change) : Prop :=
  ∀ done change, done ++ [change] <+: changes →
    change ≠ .discard ∧ ¬(done.foldl after fs).Makes change q

/-- A missing place stays away throughout a run that spares it exactly if no change of the run
uncovers it. -/
theorem away_throughout_iff (hk : fs.Kept) {q : Path} (hgone : fs.lookup q = none)
    {changes : List Change} (hspares : fs.Spares q changes) :
    (∀ done, done <+: changes → (done.foldl after fs).lookup q = none) ↔
      ∀ done change, done ++ [change] <+: changes → ¬(done.foldl after fs).Uncovers change q := by
  refine holds_throughout_iff (P := fun fs => fs.lookup q = none)
    (B := fun fs change => fs.Uncovers change q) hgone fun done change hpre haway => ?_
  obtain ⟨hdiscard, hmakes⟩ := hspares done change hpre
  rw [← (hk.run done).reappears_iff haway hdiscard hmakes, Option.not_isSome_iff_eq_none]

/-! ## What a new directory lists -/

/-- A view in which everything of the overlay lies in something that is found. -/
def Rooted (fs : FileSystem) : Prop :=
  ∀ p name, (fs.overlay.lookup (p ++ [name])).isSome = true → (fs.lookup p).isSome = true

theorem lookup_cover_isSome {p q : Path} (node : Node) (h : (fs.lookup q).isSome = true) :
    ((fs.cover p node).lookup q).isSome = true := by
  rw [lookup_cover]
  split
  · rfl
  · exact h

theorem lookup_store_isSome {p q : Path} (node : Node) (h : (fs.lookup q).isSome = true) :
    ((fs.store p node).lookup q).isSome = true := by
  obtain ⟨found, hfound⟩ := Option.isSome_iff_exists.mp (lookup_cover_isSome (p := p) node h)
  exact Option.isSome_of_eq_some (lookup_store_of_cover hfound)

/-- A view stays rooted if its overlay gets one node more, at a place that lies in something. -/
theorem Rooted.of_overlay (h : fs.Rooted) {fs' : FileSystem} {p : Path} {node : Node}
    (hoverlay : fs'.overlay = (fs.cover p node).overlay)
    (hmore : ∀ q, (fs.lookup q).isSome = true → (fs'.lookup q).isSome = true)
    (hp : (fs.lookup p.parent).isSome = true) : fs'.Rooted := by
  intro q name hover
  apply hmore
  rw [hoverlay, overlay_cover] at hover
  split at hover
  · next hplace => rwa [← hplace, Path.parent_append] at hp
  · exact h q name hover

theorem Rooted.clear (hk : fs.Kept) (h : fs.Rooted) (p : Path) : (fs.clear p).Rooted := by
  intro q name hover
  rw [overlay_clear] at hover
  split at hover
  · cases hover
  · next hnot =>
    have hq : ¬p <+: q := fun hpre => hnot (Path.prefix_append_name_iff.mpr (.inr hpre))
    rw [hk.lookup_clear, if_neg hq]
    exact h q name hover

theorem Rooted.lookup_parent (hk : fs.Kept) (h : fs.Rooted) {p : Path}
    (hfound : (fs.lookup p).isSome = true) : (fs.lookup p.parent).isSome = true := by
  rcases List.eq_nil_or_concat p with rfl | ⟨q, name, rfl⟩
  · exact hfound
  · rw [List.concat_eq_append] at hfound ⊢
    rw [Path.parent_append]
    obtain ⟨node, hnode⟩ := Option.isSome_iff_exists.mp hfound
    obtain hover | ⟨_, hclear, htree⟩ := lookup_eq_some_iff.mp hnode
    · exact h q name (Option.isSome_of_eq_some hover)
    · -- Nothing above a place of the tree that is not removed is removed either.
      obtain ⟨dir, hdir, _⟩ := hk.shaped.hangs q name (Option.isSome_of_eq_some htree)
      cases hover : fs.overlay.lookup q with
      | some upper => exact Option.isSome_of_eq_some (lookup_of_overlay hover)
      | none =>
        rw [lookup_of_tree hover, if_neg, hdir]
        · rfl
        · intro hremoved
          obtain ⟨gone, hgone, hpre⟩ := isRemoved_iff.mp hremoved
          rw [isRemoved_iff.mpr ⟨gone, hgone, hpre.trans (List.prefix_append q [name])⟩] at hclear
          cases hclear

theorem Rooted.after (hk : fs.Kept) (h : fs.Rooted) (change : Change) :
    (fs.after change).Rooted := by
  have heffect := effect_after fs change
  generalize change.place? fs = place?, fs.after change = fs' at heffect
  cases heffect with
  | @new p node room vacant leaf =>
    obtain ⟨dir, hdir, _⟩ := room
    exact h.of_overlay rfl (fun _ => lookup_store_isSome node) (Option.isSome_of_eq_some hdir)
  | @rewritten p old node room there file leaf =>
    obtain ⟨dir, hdir, _⟩ := room
    exact h.of_overlay rfl (fun _ => lookup_store_isSome node) (Option.isSome_of_eq_some hdir)
  | refused taken => exact h
  | failed => exact h
  | moved p => exact h
  | cleared there => exact h.clear hk _
  | @marked p old node there same =>
    exact h.of_overlay rfl (fun _ => lookup_cover_isSome node)
      (h.lookup_parent hk (Option.isSome_of_eq_some there))
  | discarded => exact fun _ _ hover => nomatch hover

theorem Rooted.run (hk : fs.Kept) (h : fs.Rooted) (changes : List Change) :
    (changes.foldl FileSystem.after fs).Rooted := by
  induction changes generalizing fs with
  | nil => exact h
  | cons change changes ih => exact ih (hk.after change) (h.after hk change)

theorem Rooted.list_makeDirectory (h : fs.Rooted) {path owner : String} {now : Float}
    {fs' : FileSystem} (hmade : fs.makeDirectory path owner now = .ok fs') :
    fs'.list path = .ok [] := by
  obtain ⟨hvacant, node, hbody, rfl⟩ := exists_store_of_makeDirectory hmade
  have hplace : (fs.store (fs.resolve path) node).resolve path = fs.resolve path := rfl
  have hnode : (fs.store (fs.resolve path) node).lookup (fs.resolve path) = some node := by
    refine lookup_of_overlay ?_
    show (fs.cover (fs.resolve path) node).overlay.lookup (fs.resolve path) = some node
    rw [overlay_cover, if_pos rfl]
  rw [list_eq_ok_iff, hplace]
  refine ⟨node, hnode, ?_, List.eq_nil_iff_forall_not_mem.mpr fun name hname => ?_⟩
  · unfold Node.isDirectory
    rw [hbody]
  · obtain ⟨_, hchild | hover⟩ := mem_entryNames_iff.mp hname
    · unfold Node.children at hchild
      rw [hbody] at hchild
      cases hchild
    · change ((fs.cover (fs.resolve path) node).overlay.lookup _).isSome = true at hover
      rw [overlay_cover, if_neg (Path.append_name_ne _ name)] at hover
      have hfound := h _ name hover
      rw [hvacant] at hfound
      cases hfound

/-! ## Labels -/

/-- Whether every node of a view knows its place. -/
structure Labelled (fs : FileSystem) : Prop where
  tree : ∀ p node, fs.tree.lookup p = some node → node.path = p
  overlay : ∀ p node, fs.overlay.lookup p = some node → node.path = p

theorem labelled_fresh {tree : Tree}
    (h : ∀ p node, tree.lookup p = some node → node.path = p) (home cwd : String) :
    (fresh tree home cwd).Labelled where
  tree := h
  overlay _ _ hnode := nomatch hnode

theorem Labelled.path_eq (h : fs.Labelled) {p : Path} {node : Node}
    (hfound : fs.lookup p = some node) : node.path = p := by
  obtain hover | ⟨_, _, htree⟩ := lookup_eq_some_iff.mp hfound
  · exact h.overlay p node hover
  · exact h.tree p node htree

theorem Labelled.cover (h : fs.Labelled) {p : Path} {node : Node} (hhere : node.path = p) :
    (fs.cover p node).Labelled where
  tree := h.tree
  overlay q found hfound := by
    rw [overlay_cover] at hfound
    split at hfound
    · next hq =>
      cases hfound
      exact hhere.trans hq.symm
    · exact h.overlay q found hfound

theorem Labelled.after (h : fs.Labelled) (change : Change) : (fs.after change).Labelled := by
  have heffect := effect_after fs change
  generalize change.place? fs = place?, fs.after change = fs' at heffect
  cases heffect with
  | new room vacant leaf here => exact ⟨h.tree, (h.cover here).overlay⟩
  | rewritten room there file leaf here => exact ⟨h.tree, (h.cover here).overlay⟩
  | refused taken => exact h
  | failed => exact h
  | moved p => exact ⟨h.tree, h.overlay⟩
  | cleared there =>
    refine ⟨h.tree, fun q found hfound => ?_⟩
    rw [overlay_clear] at hfound
    split at hfound
    · cases hfound
    · exact h.overlay q found hfound
  | marked there same here => exact h.cover (here.trans (h.path_eq there))
  | discarded => exact ⟨h.tree, fun _ _ hfound => nomatch hfound⟩

theorem Labelled.run (h : fs.Labelled) (changes : List Change) :
    (changes.foldl FileSystem.after fs).Labelled := by
  induction changes generalizing fs with
  | nil => exact h
  | cons change changes ih => exact ih (h.after change)

/-! ## Sessions -/

/-- The views that a session of a shipped device can come to. -/
def Reachable (fs : FileSystem) : Prop :=
  ∃ device ∈ Persona.catalogue, ∃ home cwd changes,
    fs = List.foldl after (fresh (Layout.tree device) home cwd) changes

theorem Reachable.kept (h : fs.Reachable) : fs.Kept := by
  obtain ⟨device, hdevice, home, cwd, changes, rfl⟩ := h
  exact (kept_fresh (Layout.shaped_tree hdevice) home cwd).run changes

theorem Reachable.rooted (h : fs.Reachable) : fs.Rooted := by
  obtain ⟨device, hdevice, home, cwd, changes, rfl⟩ := h
  have hrooted : (fresh (Layout.tree device) home cwd).Rooted := fun _ _ hover => nomatch hover
  exact hrooted.run (kept_fresh (Layout.shaped_tree hdevice) home cwd) changes

/-- **Whatever a session finds** at a place is a node of that place. -/
theorem Reachable.labelled (h : fs.Reachable) : fs.Labelled := by
  obtain ⟨device, _, home, cwd, changes, rfl⟩ := h
  exact (labelled_fresh (fun _ _ => Layout.path_of_lookup_tree) home cwd).run changes

/-- **What was removed** is missing with everything below it. A place at or below it stays missing
throughout a run that does not make it, exactly if no change of the run uncovers it. A directory
that is made, again or for the first time, lists nothing. -/
theorem removed_stays_away_iff (hfs : fs.Reachable) {path : String} {recursive : Bool}
    {gone : FileSystem} (hremove : fs.remove path recursive = .ok gone) {q : Path}
    (hq : q.IsCanonical) (hbelow : fs.resolve path <+: q) (changes : List Change)
    (hspares : gone.Spares q changes) :
    ((∀ done, done <+: changes → (done.foldl after gone).has q.text = false) ↔
      ∀ done change, done ++ [change] <+: changes → ¬(done.foldl after gone).Uncovers change q) ∧
    ∀ again owner now made, (changes.foldl after gone).makeDirectory again owner now = .ok made →
      made.list again = .ok [] := by
  obtain rfl := eq_clear_of_remove hremove
  have hkept := hfs.kept.clear (fs.resolve path)
  have hgone : (fs.clear (fs.resolve path)).lookup q = none := by
    rw [hfs.kept.lookup_clear, if_pos hbelow]
  have hhas : ∀ view : FileSystem, view.has q.text = false ↔ view.lookup q = none := fun view => by
    rw [has_text hq, Option.isSome_eq_false_iff, Option.isNone_iff_eq_none]
  constructor
  · simp only [hhas]
    exact away_throughout_iff hkept hgone hspares
  · intro again owner now made hmade
    exact ((hfs.rooted.clear hfs.kept _).run hkept changes).list_makeDirectory hmade

/-! ## What shows through again -/

theorem spares_makeDirectory (fs : FileSystem) {p q : Path} (hp : p.IsCanonical) (hne : p ≠ q)
    (owner : String) (now : Float) : fs.Spares q [.makeDirectory p.text owner now] := by
  intro done change hpre
  obtain ⟨rest, hrest⟩ := hpre
  cases done with
  | cons first done =>
    have hlength := congrArg List.length hrest
    simp only [List.length_append, List.length_cons, List.length_nil] at hlength
    omega
  | nil =>
    obtain ⟨rfl, _⟩ := List.cons.inj hrest
    refine ⟨nofun, ?_⟩
    rintro ⟨hplace, _⟩
    change some (fs.resolve p.text) = some q at hplace
    rw [resolve_text hp] at hplace
    exact hne (Option.some.inj hplace)

section Remaking

variable {tree : Tree} (htree : tree.Shaped) {p q : Path} (hroot : p ≠ [])
include htree hroot

/-- Everything of the tree but its root can be removed from a new view. -/
theorem remove_fresh (hp : (tree.lookup p).isSome = true) (home cwd : String) :
    (fresh tree home cwd).remove p.text true = .ok ((fresh tree home cwd).clear p) := by
  have hresolve : (fresh tree home cwd).resolve p.text = p := resolve_text (htree.canonical p hp)
  obtain ⟨node, hnode⟩ := Option.isSome_iff_exists.mp hp
  have hfound :
      (fresh tree home cwd).lookup ((fresh tree home cwd).resolve p.text) = some node := by
    rw [hresolve]
    exact hnode
  rw [remove_eq_ok (hresolve.symm ▸ hroot) hfound, hresolve]

/-- A directory of the tree that is removed and made again uncovers what lies below it. -/
theorem uncovers_makeDirectory (hbelow : p <+: q) (hne : p ≠ q)
    (hq : (tree.lookup q).isSome = true) (home cwd owner : String) (now : Float) :
    ((fresh tree home cwd).clear p).Uncovers (.makeDirectory p.text owner now) q := by
  have hkept : (fresh tree home cwd).Kept := kept_fresh htree home cwd
  have hthere : (tree.lookup p).isSome = true := by
    obtain ⟨rest, rfl⟩ := hbelow
    exact htree.isSome_of_append hq
  have hroom := (coherent_fresh htree home cwd).hasRoom hroot hthere
  refine ⟨p, ?_, hkept.hasRoom_clear hroot hroom, hne,
    mem_removed_clear_iff.mpr (.inr ⟨rfl, hthere⟩), hbelow, hq, fun gone hgone _ => ?_⟩
  · show some (((fresh tree home cwd).clear p).resolve p.text) = some p
    rw [resolve_text (htree.canonical p hthere)]
  · obtain hgone | ⟨heq, _⟩ := mem_removed_clear_iff.mp hgone
    · cases hgone
    · exact heq

/-- What lies below a directory of the tree is there again once the directory was removed and made
again. -/
theorem has_after_remake (hbelow : p <+: q) (hne : p ≠ q) (hq : (tree.lookup q).isSome = true)
    (home cwd owner : String) (now : Float) :
    (((fresh tree home cwd).clear p).after (.makeDirectory p.text owner now)).has q.text = true := by
  have hkept := kept_fresh htree home cwd
  have hthere : (tree.lookup p).isSome = true := by
    obtain ⟨rest, rfl⟩ := hbelow
    exact htree.isSome_of_append hq
  have hgone : ((fresh tree home cwd).clear p).lookup q = none := by
    rw [hkept.lookup_clear, if_pos hbelow]
  obtain ⟨hdiscard, hmakes⟩ := spares_makeDirectory ((fresh tree home cwd).clear p)
    (htree.canonical p hthere) hne owner now [] _ (List.prefix_refl _)
  rw [has_text (htree.canonical q hq),
    (hkept.clear p).reappears_iff hgone hdiscard hmakes]
  exact uncovers_makeDirectory htree hroot hbelow hne hq home cwd owner now

end Remaking

/-! ## A directory of logs -/

/-- The view of a new session of a shipped device. -/
def exampleView : FileSystem := fresh (Layout.tree Persona.raspberryPi) "/root" ""

def logDirectory : Path := ["var", "log"]

def loginLog : Path := ["var", "log", "auth.log"]

theorem isSome_lookup_loginLog :
    ((Layout.tree Persona.raspberryPi).lookup loginLog).isSome = true := by
  have hentry : Layout.shared loginLog (.madeUp .logins) "adm" ∈
      Layout.entries Persona.raspberryPi := by
    simp [Layout.entries, Layout.growing, loginLog]
  have hfound := Layout.isSome_lookup_tree hentry
  exact hfound

theorem logDirectory_prefix : logDirectory <+: loginLog := by decide

theorem isSome_lookup_logDirectory :
    ((Layout.tree Persona.raspberryPi).lookup logDirectory).isSome = true :=
  (Layout.shaped_tree List.mem_cons_self).isSome_of_append (q := ["auth.log"])
    isSome_lookup_loginLog

/-- Whether the log of logins stays missing after `rm -r /var/log` is the question whether
`mkdir /var/log` uncovers it. -/
theorem removed_stays_away_iff_example :
    exampleView.Reachable ∧
    exampleView.remove logDirectory.text true = .ok (exampleView.clear logDirectory) ∧
    loginLog.IsCanonical ∧ exampleView.resolve logDirectory.text <+: loginLog ∧
    (exampleView.clear logDirectory).Spares loginLog
      [.makeDirectory logDirectory.text "root" 0.0] ∧
    ((∀ done, done <+: [Change.makeDirectory logDirectory.text "root" 0.0] →
        (done.foldl after (exampleView.clear logDirectory)).has loginLog.text = false) ↔
      ∀ done change, done ++ [change] <+: [Change.makeDirectory logDirectory.text "root" 0.0] →
        ¬(done.foldl after (exampleView.clear logDirectory)).Uncovers change loginLog) := by
  have hshaped : (Layout.tree Persona.raspberryPi).Shaped := Layout.shaped_tree List.mem_cons_self
  have hreachable : exampleView.Reachable :=
    ⟨Persona.raspberryPi, List.mem_cons_self, "/root", "", [], rfl⟩
  have hdirectory := hshaped.canonical _ isSome_lookup_logDirectory
  have hlog := hshaped.canonical _ isSome_lookup_loginLog
  have hremove := remove_fresh hshaped (List.cons_ne_nil _ _) isSome_lookup_logDirectory "/root" ""
  have hbelow : exampleView.resolve logDirectory.text <+: loginLog := by
    rw [resolve_text hdirectory]
    exact logDirectory_prefix
  have hne : logDirectory ≠ loginLog := by decide
  have hspares := spares_makeDirectory (exampleView.clear logDirectory) hdirectory hne "root" 0.0
  exact ⟨hreachable, hremove, hlog, hbelow, hspares,
    (removed_stays_away_iff hreachable hremove hlog hbelow _ hspares).1⟩

/-- After `rm -r /var/log` and `mkdir /var/log` the log of logins is there again, although nothing
was made at its place. -/
theorem removed_log_comes_back :
    exampleView.remove "/var/log" true = .ok (exampleView.clear logDirectory) ∧
    (exampleView.clear logDirectory).Spares loginLog [.makeDirectory "/var/log" "root" 0.0] ∧
    ((exampleView.clear logDirectory).after (.makeDirectory "/var/log" "root" 0.0)).has
      "/var/log/auth.log" = true := by
  have hshaped : (Layout.tree Persona.raspberryPi).Shaped := Layout.shaped_tree List.mem_cons_self
  have hne : logDirectory ≠ loginLog := by decide
  have hdirectory : logDirectory.text = "/var/log" := by decide +kernel
  have hlog : loginLog.text = "/var/log/auth.log" := by decide +kernel
  rw [← hdirectory, ← hlog]
  exact ⟨remove_fresh hshaped (List.cons_ne_nil _ _) isSome_lookup_logDirectory "/root" "",
    spares_makeDirectory _ (hshaped.canonical _ isSome_lookup_logDirectory) hne "root" 0.0,
    has_after_remake hshaped (List.cons_ne_nil _ _) logDirectory_prefix hne isSome_lookup_loginLog
      "/root" "" "root" 0.0⟩

end FileSystem

end Honeypot
