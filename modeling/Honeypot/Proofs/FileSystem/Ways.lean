import Honeypot.Proofs.FileSystem.Removal
import Honeypot.Proofs.FileSystem.Storing

/-!
# The way to a place

The directories that are missing on the way to a place are made from the root down. A directory that
is made where one was removed brings back what the device has below it, so what matters on the way
is not what is found beforehand but what stands at each place as far as only the place itself may
have been removed (`standing`). A way that is paved has exactly that, and new directories elsewhere
(`Paved`).
-/

namespace Honeypot.FileSystem

variable {fs fs' : FileSystem} {p q : Path} {name : String} {node : Node}

/-! ## What stands at a place -/

/-- What would be found at a place if nothing above it were removed. -/
def standing (fs : FileSystem) (p : Path) : Option Node :=
  (fs.overlay.lookup p).or (if fs.removed.contains p then none else fs.tree.lookup p)

theorem lookup_eq_standing (h : ∀ gone ∈ fs.removed, gone <+: p → gone = p) :
    fs.lookup p = fs.standing p := by
  have hgone : fs.isRemoved p = true ↔ fs.removed.contains p = true := by
    rw [isRemoved_iff, List.contains_iff_mem]
    constructor
    · rintro ⟨gone, hmem, hpre⟩
      exact h gone hmem hpre ▸ hmem
    · exact fun hmem => ⟨p, hmem, List.prefix_refl p⟩
  unfold lookup standing
  cases fs.overlay.lookup p with
  | some node => rfl
  | none =>
    rw [Option.none_or]
    exact if_congr hgone rfl rfl

theorem lookup_root (fs : FileSystem) : fs.lookup [] = fs.standing [] :=
  lookup_eq_standing fun _ _ => List.prefix_nil.mp

theorem Kept.lookup_append (hk : fs.Kept) (h : fs.lookup p = some node) (name : String) :
    fs.lookup (p ++ [name]) = fs.standing (p ++ [name]) := by
  refine lookup_eq_standing fun gone hmem hpre => ?_
  refine (Path.prefix_append_name_iff.mp hpre).resolve_right fun habove => ?_
  have hremoved := isRemoved_iff.mpr ⟨gone, hmem, habove⟩
  exact Bool.false_ne_true ((hk.isRemoved_of_lookup h).symm.trans hremoved)

theorem standing_store (hne : q ≠ p) (node : Node) :
    (fs.store p node).standing q = fs.standing q := by
  have hover : (fs.store p node).overlay.lookup q = fs.overlay.lookup q :=
    (overlay_cover p q node).trans (if_neg hne)
  have hgone : (fs.store p node).removed.contains q = true ↔ fs.removed.contains q = true := by
    show (fs.removed.filter (· != p)).contains q = true ↔ _
    rw [List.contains_iff_mem, List.contains_iff_mem, List.mem_filter]
    exact and_iff_left (bne_iff_ne.mpr hne)
  unfold standing
  rw [hover]
  exact congrArg _ (if_congr hgone rfl rfl)

/-! ## Ways that can be paved -/

/-- Whether what is missing on the way to a place can be made: whatever stands above it is a
directory. -/
def HasWay (fs : FileSystem) (p : Path) : Prop :=
  ∀ q name, q ++ [name] <+: p → fs.standing (q ++ [name]) = none →
    ∀ dir, fs.standing q = some dir → dir.isDirectory = true

theorem hasWay_root (fs : FileSystem) : fs.HasWay [] := fun q name h =>
  absurd (List.prefix_nil.mp h) (List.concat_ne_nil name q)

theorem hasWay_append : fs.HasWay (p ++ [name]) ↔ fs.HasWay p ∧ (fs.standing (p ++ [name]) = none →
    ∀ dir, fs.standing p = some dir → dir.isDirectory = true) := by
  constructor
  · exact fun h => ⟨fun q last hpre => h q last (hpre.trans (List.prefix_append p [name])),
      h p name (List.prefix_refl _)⟩
  · rintro ⟨habove, hhere⟩ q last hpre
    obtain heq | hpre := Path.prefix_append_name_iff.mp hpre
    · obtain ⟨rfl, hlast⟩ := List.append_inj' heq rfl
      cases hlast
      exact hhere
    · exact habove q last hpre

theorem hasWay_of_directories
    (h : ∀ q, q <+: p → ∀ node, fs.standing q = some node → node.isDirectory = true) :
    fs.HasWay p := fun q name hpre _ => h q ((List.prefix_append q [name]).trans hpre)

/-! ## Paved ways -/

variable {owner : String} {now : Float}

/-- What a view is like after what was missing on the way to a place was made. -/
structure Paved (owner : String) (now : Float) (fs : FileSystem) (p : Path) (fs' : FileSystem) :
    Prop where
  kept : fs'.Kept
  all : fs'.Extends fs
  resolved : ∀ text, fs'.resolve text = fs.resolve text
  made : ∀ q, q <+: p → fs'.lookup q = some ((fs.standing q).getD (newDirectory owner now q))
  beyond : ∀ q, ¬q <+: p → fs'.standing q = fs.standing q

namespace Paved

theorem root (hk : fs.Kept) (hroot : fs.HasRoot) : Paved owner now fs [] fs where
  kept := hk
  all := .refl fs
  resolved _ := rfl
  made q hpre := by
    obtain ⟨root, hfound, -⟩ := hroot
    rw [List.prefix_nil.mp hpre, ← lookup_root, hfound]
    rfl
  beyond _ _ := rfl

theorem lookup_next (h : Paved owner now fs p fs') (name : String) :
    fs'.lookup (p ++ [name]) = fs.standing (p ++ [name]) := by
  rw [h.kept.lookup_append (h.made p (List.prefix_refl p))]
  exact h.beyond _ (Path.not_append_name_prefix p name)

/-- There is room for what comes next unless something else than a directory stands above it. -/
theorem hasRoom_next_iff (h : Paved owner now fs p fs') (name : String) :
    fs'.HasRoom (p ++ [name]) ↔ ∀ dir, fs.standing p = some dir → dir.isDirectory = true := by
  unfold HasRoom
  rw [Path.parent_append, h.made p (List.prefix_refl p)]
  cases fs.standing p with
  | none => exact ⟨nofun, fun _ => ⟨_, rfl, rfl⟩⟩
  | some node =>
    constructor
    · rintro ⟨_, ⟨⟩, hdirectory⟩ _ ⟨⟩
      exact hdirectory
    · exact fun hall => ⟨node, rfl, hall node rfl⟩

theorem across (h : Paved owner now fs p fs') (hstands : fs.standing (p ++ [name]) = some node) :
    Paved owner now fs (p ++ [name]) fs' where
  kept := h.kept
  all := h.all
  resolved := h.resolved
  made q hpre := by
    obtain rfl | habove := Path.prefix_append_name_iff.mp hpre
    · rw [h.lookup_next, hstands]
      rfl
    · exact h.made q habove
  beyond q hnot := h.beyond q fun hpre => hnot (hpre.trans (List.prefix_append p [name]))

/-- A way goes on across a directory that is made where nothing stands. -/
theorem make (h : Paved owner now fs p fs') (hname : (p ++ [name]).IsCanonical)
    (hstands : fs.standing (p ++ [name]) = none) (hroom : fs'.HasRoom (p ++ [name])) :
    Paved owner now fs (p ++ [name])
      (fs'.store (p ++ [name]) (newDirectory owner now (p ++ [name]))) where
  kept := h.kept.store hroom rfl hname
  all := (Extends.store ((h.lookup_next name).trans hstands) _).trans h.all
  resolved := h.resolved
  made q hpre := by
    obtain rfl | habove := Path.prefix_append_name_iff.mp hpre
    · rw [lookup_store_self, hstands]
      rfl
    · refine lookup_store_of_some (h.made q habove) ?_
      rintro rfl
      exact Path.not_append_name_prefix p name habove
  beyond q hnot := by
    rw [standing_store]
    · exact h.beyond q fun hpre => hnot (hpre.trans (List.prefix_append p [name]))
    · rintro rfl
      exact hnot (List.prefix_refl _)

theorem directories_iff (h : Paved owner now fs p fs') :
    (∀ q, q <+: p → ∃ dir, fs'.lookup q = some dir ∧ dir.isDirectory = true) ↔
      ∀ q, q <+: p → ∀ node, fs.standing q = some node → node.isDirectory = true := by
  refine forall₂_congr fun q hpre => ?_
  rw [h.made q hpre]
  cases fs.standing q with
  | none => exact ⟨fun _ => nofun, fun _ => ⟨_, rfl, rfl⟩⟩
  | some node =>
    constructor
    · rintro ⟨_, ⟨⟩, hdirectory⟩ _ ⟨⟩
      exact hdirectory
    · exact fun hall => ⟨node, rfl, hall node rfl⟩

end Paved

end Honeypot.FileSystem
