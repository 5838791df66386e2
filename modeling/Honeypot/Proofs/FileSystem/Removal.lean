import Honeypot.Proofs.FileSystem.Absence

/-!
# Removing

A removal is refused for one of three reasons and changes nothing then. One that is not refused
takes a place out of the view with everything below it, and nothing else (`remove_cases`): what is
found elsewhere stays, directories list the same names in the same order but for the one that is
gone, and the root is always there.
-/

namespace Honeypot

namespace FileSystem

variable {fs : FileSystem}

/-! ## What a removal does -/

/-- Why a removal is refused. -/
inductive Refuses (fs : FileSystem) (path : String) (recursive : Bool) : PathFault → Prop where
  | root (h : fs.resolve path = []) : Refuses fs path recursive .protectedRoot
  | missing (hroot : fs.resolve path ≠ []) (h : fs.has path = false) :
      Refuses fs path recursive .notFound
  | full {node : Node} (hroot : fs.resolve path ≠ []) (h : fs.get path = .ok node)
      (hdirectory : node.isDirectory = true) (honly : recursive = false) :
      Refuses fs path recursive .notFile

/-- A removal is refused, or it clears a place that is not the root. -/
theorem remove_eq (fs : FileSystem) (path : String) (recursive : Bool) :
    (∃ cause, fs.Refuses path recursive cause ∧
      fs.remove path recursive = .error ⟨cause, path⟩) ∨
    fs.resolve path ≠ [] ∧ fs.remove path recursive = .ok (fs.clear (fs.resolve path)) ∧
      ∀ cause, ¬fs.Refuses path recursive cause := by
  by_cases hroot : fs.resolve path = []
  · refine .inl ⟨.protectedRoot, .root hroot, ?_⟩
    unfold remove
    exact if_pos hroot
  · cases hlookup : fs.lookup (fs.resolve path) with
    | none =>
      refine .inl ⟨.notFound, .missing hroot ?_, ?_⟩
      · unfold has
        rw [hlookup]
        rfl
      · unfold remove
        dsimp only
        rw [if_neg hroot, hlookup]
    | some node =>
      have hget : fs.get path = .ok node := get_eq_ok_iff.mpr hlookup
      by_cases hrefused : node.isDirectory = true ∧ recursive = false
      · refine .inl ⟨.notFile, .full hroot hget hrefused.1 hrefused.2, ?_⟩
        unfold remove
        dsimp only
        rw [if_neg hroot, hlookup]
        refine if_pos ?_
        rw [hrefused.1, hrefused.2]
        rfl
      · refine .inr ⟨hroot, ?_, ?_⟩
        · unfold remove
          dsimp only
          rw [if_neg hroot, hlookup]
          refine if_neg fun h => hrefused ?_
          rw [Bool.and_eq_true, Bool.not_eq_true'] at h
          exact h
        · intro cause hcause
          cases hcause with
          | root h => exact hroot h
          | missing _ h =>
            unfold has at h
            rw [hlookup] at h
            cases h
          | full _ hother hdirectory honly =>
            cases hget.symm.trans hother
            exact hrefused ⟨hdirectory, honly⟩

/-! ## What is listed after a removal -/

/-- Names can be left out before or after others are added. -/
theorem filter_withNames (keep : String → Bool) (names more : List String) :
    (withNames names more).filter keep = withNames (names.filter keep) (more.filter keep) := by
  unfold withNames
  induction more generalizing names with
  | nil => rfl
  | cons new more ih =>
    rw [List.foldl_cons, ih, List.filter_cons]
    by_cases hkeep : keep new = true
    · have hmem : (names.filter keep).contains new = names.contains new := by
        rw [Bool.eq_iff_iff, List.contains_iff_mem, List.contains_iff_mem, List.mem_filter]
        exact and_iff_left hkeep
      rw [if_pos hkeep, List.foldl_cons, hmem]
      split
      · rfl
      · rw [List.filter_append, List.filter_cons, if_pos hkeep, List.filter_nil]
    · rw [if_neg hkeep]
      split
      · rfl
      · rw [List.filter_append, List.filter_cons, if_neg hkeep, List.filter_nil, List.append_nil]

/-- A name that is left out in the end need not be added first. -/
theorem filter_withNames_filter (keep found : String → Bool) (names more : List String) :
    (withNames names (more.filter keep)).filter (fun name => found name && keep name) =
      ((withNames names more).filter found).filter keep :=
  calc (withNames names (more.filter keep)).filter (fun name => found name && keep name)
      = ((withNames names (more.filter keep)).filter keep).filter found :=
        List.filter_filter.symm
    _ = ((withNames names more).filter keep).filter found := by
        rw [filter_withNames keep names (more.filter keep), filter_withNames keep names more,
          List.filter_filter]
        simp only [Bool.and_self]
    _ = ((withNames names more).filter found).filter keep := List.filter_comm ..

theorem addedNames_clear {p q : Path} (hq : ¬p <+: q) :
    (fs.clear p).addedNames q = (fs.addedNames q).filter fun name => q ++ [name] != p := by
  unfold addedNames
  show ((fs.overlay.filter fun pair => !pair.1.isAtOrBelow p).filter _).map _ = _
  rw [List.filter_map, List.filter_filter, List.filter_filter]
  refine congrArg _ (List.filter_congr fun pair _ => ?_)
  obtain ⟨r, node⟩ := pair
  by_cases hhere : (r != [] && r.parent == q) = true
  · rw [Bool.and_eq_true, bne_iff_ne, beq_iff_eq] at hhere
    obtain ⟨hroot, rfl⟩ := hhere
    have hplace : r.isAtOrBelow p = (r == p) := by
      rw [Bool.eq_iff_iff, Path.isAtOrBelow_iff, beq_iff_eq]
      constructor
      · intro hpre
        rw [← Path.parent_append_name hroot, Path.prefix_append_name_iff] at hpre
        rw [← Path.parent_append_name hroot]
        exact (hpre.resolve_right hq).symm
      · rintro rfl
        exact List.prefix_refl r
    simp only [Function.comp_apply, hplace, Path.parent_append_name hroot]
    rw [Bool.and_comm]
    rfl
  · rw [Bool.not_eq_true] at hhere
    simp only [hhere, Bool.and_false, Bool.false_and]

/-- Outside of what is cleared, a directory has the same names but for the cleared one. -/
theorem Kept.entryNames_clear (hk : fs.Kept) {p q : Path} (hq : ¬p <+: q) (dir : Node) :
    (fs.clear p).entryNames q dir =
      (fs.entryNames q dir).filter fun name => q ++ [name] != p := by
  have hfound : ∀ name, ((fs.clear p).lookup (q ++ [name])).isSome =
      ((fs.lookup (q ++ [name])).isSome && q ++ [name] != p) := fun name => by
    rw [hk.lookup_clear]
    by_cases hname : q ++ [name] = p
    · rw [if_pos (hname ▸ List.prefix_refl p), bne, beq_iff_eq.mpr hname]
      exact (Bool.and_false _).symm
    · have hnot : ¬p <+: q ++ [name] := fun hpre =>
        (Path.prefix_append_name_iff.mp hpre).elim (fun h => hname h.symm) hq
      rw [if_neg hnot, bne_iff_ne.mpr hname, Bool.and_true]
  unfold entryNames
  simp only [hfound]
  rw [addedNames_clear hq]
  exact filter_withNames_filter _ _ _ _

/-- What a view is like without a place and everything below it. -/
structure IsWithout (gone fs : FileSystem) (p : Path) : Prop where
  missing : ∀ text, p <+: fs.resolve text → gone.has text = false
  found : ∀ text, ¬p <+: fs.resolve text → gone.get text = fs.get text
  /-- The order of the names stays as well. -/
  listed : ∀ text, ¬p <+: fs.resolve text → gone.list text =
    (fs.list text).map fun names => names.filter fun name => fs.resolve text ++ [name] != p
  resolved : ∀ text, gone.resolve text = fs.resolve text
  cwd : gone.cwd = fs.cwd

theorem Kept.isWithout_clear (hk : fs.Kept) (p : Path) : (fs.clear p).IsWithout fs p where
  missing text hpre := by
    show ((fs.clear p).lookup (fs.resolve text)).isSome = false
    rw [hk.lookup_clear, if_pos hpre]
    rfl
  found text hpre := by
    have hresolved : (fs.clear p).resolve text = fs.resolve text := rfl
    unfold get
    rw [hresolved, hk.lookup_clear, if_neg hpre]
  listed text hpre := by
    have hresolved : (fs.clear p).resolve text = fs.resolve text := rfl
    unfold list
    dsimp only
    rw [hresolved, hk.lookup_clear, if_neg hpre]
    cases fs.lookup (fs.resolve text) with
    | none => rfl
    | some dir =>
      dsimp only
      rw [hk.entryNames_clear hpre]
      split <;> rfl
  resolved _ := rfl
  cwd := rfl

/-! ## The root -/

/-- Whether there is a directory at the root. -/
def HasRoot (fs : FileSystem) : Prop := ∃ root, fs.lookup [] = some root ∧ root.isDirectory = true

theorem hasRoot_fresh {tree : Tree} (h : tree.Shaped) (home cwd : String) :
    (fresh tree home cwd).HasRoot := h.root

theorem HasRoot.of_lookup (h : fs.HasRoot) {fs' : FileSystem}
    (hsame : fs'.lookup [] = fs.lookup []) : fs'.HasRoot := by
  obtain ⟨root, hroot, hdirectory⟩ := h
  exact ⟨root, hsame.trans hroot, hdirectory⟩

theorem HasRoot.store (h : fs.HasRoot) {p : Path} (hp : p ≠ []) (node : Node) :
    (fs.store p node).HasRoot := by
  refine h.of_lookup ?_
  have hover : (fs.store p node).overlay.lookup [] = fs.overlay.lookup [] := by
    show (fs.cover p node).overlay.lookup [] = _
    rw [overlay_cover, if_neg hp.symm]
  obtain ⟨root, hroot, _⟩ := h
  rw [hroot]
  obtain habove | ⟨hnone, hclear, htree⟩ := lookup_eq_some_iff.mp hroot
  · exact lookup_of_overlay (hover.trans habove)
  · -- The root is not removed, and a place that is put in does not remove anything.
    have hstill : (fs.store p node).isRemoved [] = false := by
      rw [Bool.eq_false_iff]
      intro hremoved
      obtain ⟨gone, hmem, _, hpre⟩ := isRemoved_store_iff.mp hremoved
      rw [isRemoved_iff.mpr ⟨gone, hmem, hpre⟩] at hclear
      cases hclear
    exact lookup_eq_some_iff.mpr (.inr ⟨hover.trans hnone, hstill, htree⟩)

theorem HasRoot.of_effect (h : fs.HasRoot) {p : Path} {fs' : FileSystem}
    (heffect : Effect fs (some p) fs') : fs'.HasRoot := by
  cases heffect with
  | new room vacant =>
    refine h.store ?_ _
    rintro rfl
    obtain ⟨root, hroot, _⟩ := h
    cases hroot.symm.trans vacant
  | rewritten room there file =>
    refine h.store ?_ _
    rintro rfl
    obtain ⟨root, hroot, hdirectory⟩ := h
    cases hroot.symm.trans there
    cases hdirectory.symm.trans file
  | refused => exact h

theorem HasRoot.cover (h : fs.HasRoot) {p : Path} {old node : Node} (hold : fs.lookup p = some old)
    (hsame : node.body = old.body) : (fs.cover p node).HasRoot := by
  by_cases hp : p = []
  · subst hp
    obtain ⟨root, hroot, hdirectory⟩ := h
    cases hroot.symm.trans hold
    refine ⟨node, ?_, ?_⟩
    · rw [lookup_cover, if_pos rfl]
    · unfold Node.isDirectory at hdirectory ⊢
      rw [hsame]
      exact hdirectory
  · refine h.of_lookup ?_
    rw [lookup_cover, if_neg (Ne.symm hp)]

theorem HasRoot.after (hk : fs.Kept) (h : fs.HasRoot) (change : Change) :
    (fs.after change).HasRoot := by
  cases change with
  | write path text mode owner now => exact h.of_effect (effect_write path text mode owner now)
  | append device path text mode owner now chances =>
    exact h.of_effect (effect_append device path text mode owner now chances)
  | makeDirectory path owner now => exact h.of_effect (effect_makeDirectory path owner now)
  | remove path recursive =>
    show (fs.settled (fs.remove path recursive)).HasRoot
    obtain ⟨cause, _, hremove⟩ | ⟨hroot, hremove, _⟩ := remove_eq fs path recursive
    · rw [hremove]
      exact h
    · rw [hremove]
      refine h.of_lookup ?_
      show (fs.clear _).lookup [] = _
      rw [hk.lookup_clear, if_neg fun hpre => hroot (List.prefix_nil.mp hpre)]
  | changeMode path mode now =>
    show (fs.settled (fs.changeMode path mode now)).HasRoot
    unfold changeMode
    dsimp only
    cases hlookup : fs.lookup (fs.resolve path) with
    | none => exact h
    | some old => exact h.cover hlookup rfl
  | changeDirectory path =>
    rw [after_eq]
    cases hresult : fs.result? (.changeDirectory path) with
    | none => exact h
    | some fs' =>
      refine h.of_lookup (congrFun ?_ [])
      exact lookup_of_changeDirectory (toOption_eq_some_iff.mp hresult)
  | discard => exact hasRoot_fresh hk.shaped fs.home ""

theorem HasRoot.run (hk : fs.Kept) (h : fs.HasRoot) (changes : List Change) :
    (changes.foldl FileSystem.after fs).HasRoot := by
  induction changes generalizing fs with
  | nil => exact h
  | cons change changes ih => exact ih (hk.after change) (h.after hk change)

theorem Reachable.hasRoot (h : fs.Reachable) : fs.HasRoot := by
  obtain ⟨device, hdevice, home, cwd, changes, rfl⟩ := h
  have hshaped := Layout.shaped_tree hdevice
  exact (hasRoot_fresh hshaped home cwd).run (kept_fresh hshaped home cwd) changes

/-- **What a removal does** to the view of a session of a shipped device: it is refused and changes
nothing, or it takes away what is at and below the place, and nothing else. The root, which cannot
be removed, is a directory at any time. -/
theorem Reachable.remove_cases (h : fs.Reachable) (path : String) (recursive : Bool) :
    (∃ root, fs.get "/" = .ok root ∧ root.isDirectory = true) ∧
    ((∃ cause, fs.Refuses path recursive cause ∧
        fs.remove path recursive = .error ⟨cause, path⟩ ∧ fs.after (.remove path recursive) = fs) ∨
      ∃ gone, (∀ cause, ¬fs.Refuses path recursive cause) ∧
        fs.remove path recursive = .ok gone ∧ fs.after (.remove path recursive) = gone ∧
        gone.IsWithout fs (fs.resolve path)) := by
  have hafter : fs.after (.remove path recursive) = fs.settled (fs.remove path recursive) := rfl
  constructor
  · obtain ⟨root, hroot, hdirectory⟩ := h.hasRoot
    refine ⟨root, get_eq_ok_iff.mpr ?_, hdirectory⟩
    have hresolve : fs.resolve "/" = [] := resolve_text (p := []) nofun
    rw [hresolve, hroot]
  · obtain ⟨cause, hcause, hremove⟩ | ⟨_, hremove, hnone⟩ := remove_eq fs path recursive
    · refine .inl ⟨cause, hcause, hremove, ?_⟩
      rw [hafter, hremove]
      rfl
    · refine .inr ⟨_, hnone, hremove, ?_, h.kept.isWithout_clear _⟩
      rw [hafter, hremove]
      rfl

theorem reachable_exampleView : exampleView.Reachable :=
  ⟨Persona.raspberryPi, List.mem_cons_self, "/root", "", [], rfl⟩

/-- `rm -r /var/log` in a new session takes away the log of logins, but not `/var/www`. -/
theorem remove_cases_example :
    exampleView.Reachable ∧
    ∃ gone, exampleView.remove logDirectory.text true = .ok gone ∧
      gone.has "/var/log/auth.log" = false ∧ gone.get "/var/www" = exampleView.get "/var/www" := by
  have hshaped : (Layout.tree Persona.raspberryPi).Shaped := Layout.shaped_tree List.mem_cons_self
  have hdirectory := hshaped.canonical _ isSome_lookup_logDirectory
  have hremove := remove_fresh hshaped (List.cons_ne_nil _ _) isSome_lookup_logDirectory "/root" ""
  refine ⟨reachable_exampleView, ?_⟩
  obtain ⟨_, ⟨_, _, hrefused, _⟩ | ⟨gone, _, hgone, _, hwithout⟩⟩ :=
    reachable_exampleView.remove_cases logDirectory.text true
  · cases hremove.symm.trans hrefused
  · refine ⟨gone, hgone, hwithout.missing _ ?_, hwithout.found _ ?_⟩
    · rw [resolve_text hdirectory]
      decide +kernel
    · rw [resolve_text hdirectory]
      decide +kernel

end FileSystem

end Honeypot
