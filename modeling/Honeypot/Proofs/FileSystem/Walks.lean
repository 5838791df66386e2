import Mathlib.Algebra.Order.BigOperators.Group.List
import Mathlib.Algebra.Order.Group.Nat
import Mathlib.Data.List.Flatten
import Mathlib.Logic.Relation
import Honeypot.Proofs.FileSystem.Removal
import Honeypot.Proofs.FileSystem.Storing

/-!
# Walks

A walk goes through what the directories list. If there is room it meets everything that is
reached in that way, once and in preorder: a directory first and then, without a gap, what is below
it (`IsWalk`). Only finitely many places are reached at any time, so that every walk ends; there is
room for it exactly if nothing that is reached lies too deep (`Reachable.walk_eq`).
-/

namespace Honeypot

theorem mapM_eq_some_iff {α β : Type} [Inhabited β] {f : α → Option β} {xs : List α} {ys : List β} :
    xs.mapM f = some ys ↔ ∃ g : α → β, (∀ x ∈ xs, f x = some (g x)) ∧ ys = xs.map g := by
  constructor
  · intro h
    refine ⟨fun x => (f x).getD default, ?_⟩
    induction xs generalizing ys with
    | nil =>
      rw [List.mapM_nil] at h
      exact ⟨nofun, (Option.some.inj h).symm⟩
    | cons x xs ih =>
      simp only [List.mapM_cons, Option.bind_eq_bind, Option.bind_eq_some_iff, Option.pure_def,
        Option.some.injEq] at h
      obtain ⟨y, hy, rest, hrest, rfl⟩ := h
      obtain ⟨hall, hmap⟩ := ih hrest
      refine ⟨List.forall_mem_cons.mpr ⟨?_, hall⟩, ?_⟩
      · show f x = some ((f x).getD default)
        rw [hy]
        rfl
      · rw [List.map_cons, ← hmap, hy]
        rfl
  · rintro ⟨g, hall, rfl⟩
    induction xs with
    | nil => rfl
    | cons x xs ih =>
      obtain ⟨hx, hxs⟩ := List.forall_mem_cons.mp hall
      rw [List.mapM_cons, hx, ih hxs]
      rfl

theorem not_sublist_swap {α : Type} {x y : α} {xs : List α} (h : xs.Nodup)
    (hxy : [x, y].Sublist xs) : ¬[y, x].Sublist xs := by
  induction xs with
  | nil => cases hxy
  | cons z xs ih =>
    obtain ⟨hz, hxs⟩ := List.nodup_cons.mp h
    intro hyx
    cases hxy with
    | cons _ hxy =>
      cases hyx with
      | cons _ hyx => exact ih hxs hxy hyx
      | cons_cons _ _ => exact hz (hxy.subset (List.mem_cons_of_mem x List.mem_cons_self))
    | cons_cons _ hy =>
      cases hyx with
      | cons _ hyx => exact hz (hyx.subset (List.mem_cons_of_mem y List.mem_cons_self))
      | cons_cons _ _ => exact hz (List.singleton_sublist.mp hy)

theorem Path.name_eq_of_below {p q : Path} {a b : String} (ha : p ++ [a] <+: q)
    (hb : p ++ [b] <+: q) : a = b := by
  have hlength : (p ++ [a]).length = (p ++ [b]).length := by
    rw [List.length_append, List.length_append, List.length_singleton, List.length_singleton]
  have hpre := List.prefix_of_prefix_length_le ha hb hlength.le
  exact List.singleton_injective (List.append_cancel_left (hpre.eq_of_length hlength))

namespace FileSystem

variable {fs : FileSystem}

/-! ## What is reached -/

/-- Whether a directory lists a place, asked by texts. -/
def Holds (fs : FileSystem) (p q : Path) : Prop :=
  ∃ names, fs.list p.text = .ok names ∧ ∃ name ∈ names, q = p ++ [name]

/-- Whether a place is reached from another through what directories list. -/
def Reaches (fs : FileSystem) : Path → Path → Prop := Relation.ReflTransGen fs.Holds

theorem holds_iff {p q : Path} (hp : p.IsCanonical) :
    fs.Holds p q ↔ ∃ name, fs.Lists p name ∧ q = p ++ [name] := by
  unfold Holds Lists
  simp only [list_eq_ok_iff, resolve_text hp]
  constructor
  · rintro ⟨_, ⟨dir, hdir, hdirectory, rfl⟩, name, hname, rfl⟩
    exact ⟨name, ⟨dir, hdir, hdirectory, hname⟩, rfl⟩
  · rintro ⟨name, ⟨dir, hdir, hdirectory, hname⟩, rfl⟩
    exact ⟨_, ⟨dir, hdir, hdirectory, rfl⟩, name, hname, rfl⟩

theorem Reaches.isPrefix {p q : Path} (h : fs.Reaches p q) : p <+: q := by
  induction h with
  | refl => exact List.prefix_refl p
  | tail _ hlast ih =>
    obtain ⟨_, _, name, _, rfl⟩ := hlast
    exact ih.trans (List.prefix_append _ [name])

theorem Reaches.of_between {p d q : Path} (h : fs.Reaches p q) (hp : p <+: d) (hd : d <+: q) :
    fs.Reaches p d := by
  induction h with
  | refl =>
    rw [hd.eq_of_length_le hp.length_le]
    exact .refl
  | tail hinit hlast ih =>
    obtain ⟨_, _, name, _, rfl⟩ := id hlast
    obtain rfl | hd := Path.prefix_append_name_iff.mp hd
    · exact hinit.tail hlast
    · exact ih hd

theorem reaches_iff {p q : Path} (hp : p.IsCanonical) : fs.Reaches p q ↔
    p = q ∨ ∃ name, fs.Lists p name ∧ fs.Reaches (p ++ [name]) q := by
  unfold Reaches
  rw [Relation.ReflTransGen.cases_head_iff]
  simp only [holds_iff hp]
  constructor
  · rintro (hpq | ⟨_, ⟨name, hname, rfl⟩, hrest⟩)
    · exact .inl hpq
    · exact .inr ⟨name, hname, hrest⟩
  · rintro (hpq | ⟨name, hname, hrest⟩)
    · exact .inl hpq
    · exact .inr ⟨_, ⟨name, hname, rfl⟩, hrest⟩

theorem Kept.isCanonical_of_reaches (hk : fs.Kept) {p q : Path} (hp : p.IsCanonical)
    (h : fs.Reaches p q) : q.IsCanonical := by
  induction h with
  | refl => exact hp
  | tail _ hlast ih =>
    obtain ⟨name, ⟨_, _, _, hname⟩, rfl⟩ := (holds_iff ih).mp hlast
    obtain ⟨node, hnode⟩ := Option.isSome_iff_exists.mp (mem_entryNames_iff.mp hname).1
    exact (hk.sound_of_lookup hnode).2

theorem Coherent.reaches (hk : fs.Kept) (h : fs.Coherent) {p q : Path} (hpre : p <+: q)
    (hfound : (fs.lookup q).isSome = true) : fs.Reaches p q := by
  obtain ⟨rest, rfl⟩ := hpre
  induction rest using List.reverseRecOn with
  | nil =>
    rw [List.append_nil]
    exact .refl
  | append_singleton rest name ih =>
    rw [← List.append_assoc] at hfound ⊢
    have hlists := h _ name hfound
    obtain ⟨dir, hdir, _⟩ := hlists
    have hcanonical := (hk.sound_of_lookup hdir).2
    have hlast := (holds_iff hcanonical).mpr ⟨name, h _ name hfound, rfl⟩
    exact (ih (Option.isSome_of_eq_some hdir)).tail hlast

theorem get_text_eq_ok_iff {p : Path} (hp : p.IsCanonical) {node : Node} :
    fs.get p.text = .ok node ↔ fs.lookup p = some node := by
  rw [get_eq_ok_iff, resolve_text hp]

theorem exists_depth (fs : FileSystem) :
    ∃ depth, ∀ p node, fs.lookup p = some node → p.length ≤ depth := by
  refine ⟨((fs.overlay ++ fs.tree).map fun pair => pair.1.length).sum, fun p node hfound => ?_⟩
  have hkey : ∃ pair ∈ fs.overlay ++ fs.tree, p = pair.1 := by
    obtain hover | ⟨_, _, htree⟩ := lookup_eq_some_iff.mp hfound
    · obtain ⟨pair, hmem, hp⟩ := List.lookup_isSome_iff.mp (Option.isSome_of_eq_some hover)
      exact ⟨pair, List.mem_append_left _ hmem, by simpa using hp⟩
    · obtain ⟨pair, hmem, hp⟩ := List.lookup_isSome_iff.mp (Option.isSome_of_eq_some htree)
      exact ⟨pair, List.mem_append_right _ hmem, by simpa using hp⟩
  obtain ⟨pair, hmem, rfl⟩ := hkey
  exact List.le_sum_of_mem (List.mem_map_of_mem hmem)

/-! ## Walks in preorder -/

/-- The nodes that a walk from a node meets, in preorder. -/
structure IsWalk (fs : FileSystem) (p : Path) (node : Node) (nodes : List (Path × Node)) :
    Prop where
  first : nodes.head? = some (p, node)
  once : (nodes.map (·.1)).Nodup
  /-- Everything that is reached is met, with the node that is found there, and nothing else. -/
  reached : ∀ q found, (q, found) ∈ nodes ↔ fs.Reaches p q ∧ fs.get q.text = .ok found
  /-- Whatever is met is followed by what is met below it, without a gap. -/
  blocks : ∀ x ∈ nodes, ∃ block, block <:+: nodes ∧ block.head? = some x ∧
    ∀ y ∈ nodes, y ∈ block ↔ x.1 <+: y.1

theorem IsWalk.isPrefix {p : Path} {node : Node} {nodes : List (Path × Node)}
    (h : fs.IsWalk p node nodes) {x : Path × Node} (hx : x ∈ nodes) : p <+: x.1 :=
  ((h.reached x.1 x.2).mp hx).1.isPrefix

theorem IsWalk.pairwise {p : Path} {node : Node} {nodes : List (Path × Node)}
    (h : fs.IsWalk p node nodes) : nodes.Pairwise fun x y => ¬x.1.isBelow y.1 = true := by
  rw [List.pairwise_iff_forall_sublist]
  intro x y hsub hbelow
  obtain ⟨hpre, hne⟩ := Path.isBelow_iff.mp hbelow
  have hx : x ∈ nodes := hsub.subset List.mem_cons_self
  have hy : y ∈ nodes := hsub.subset (List.mem_cons_of_mem x List.mem_cons_self)
  obtain ⟨block, hblock, hfirst, hmem⟩ := h.blocks y hy
  obtain ⟨rest, rfl⟩ := List.head?_eq_some_iff.mp hfirst
  -- What is below is in the block, and so it comes after what it is below.
  have hrest : x ∈ rest := by
    obtain rfl | hrest := List.mem_cons.mp ((hmem x hx).mpr hpre)
    · exact absurd rfl hne
    · exact hrest
  have hback : [y, x].Sublist nodes :=
    ((List.singleton_sublist.mpr hrest).cons_cons y).trans hblock.sublist
  exact not_sublist_swap h.once.of_map hsub hback

theorem Kept.isWalk_file (hk : fs.Kept) {p : Path} {node : Node} (hnode : fs.lookup p = some node)
    (hfile : node.isDirectory = false) : fs.IsWalk p node [(p, node)] where
  first := rfl
  once := List.nodup_singleton p
  reached q found := by
    have hp := (hk.sound_of_lookup hnode).2
    rw [List.mem_singleton, Prod.mk.injEq, reaches_iff hp]
    constructor
    · rintro ⟨rfl, rfl⟩
      exact ⟨.inl rfl, (get_text_eq_ok_iff hp).mpr hnode⟩
    · rintro ⟨rfl | ⟨_, ⟨dir, hdir, hdirectory, _⟩, _⟩, hfound⟩
      · exact ⟨rfl, Option.some.inj (((get_text_eq_ok_iff hp).mp hfound).symm.trans hnode)⟩
      · -- A file lists nothing.
        cases hdir.symm.trans hnode
        cases hdirectory.symm.trans hfile
  blocks x hx := by
    rw [List.mem_singleton] at hx
    subst hx
    refine ⟨_, List.infix_refl _, rfl, fun y hy => ?_⟩
    rw [List.mem_singleton] at hy
    subst hy
    exact iff_of_true (List.mem_singleton_self _) (List.prefix_refl _)

section Directory

variable {p : Path} {node : Node} {below : String → List (Path × Node)}
  (hbelow : ∀ name ∈ fs.entryNames p node, ∃ child, fs.IsWalk (p ++ [name]) child (below name))
include hbelow

/-- What is met under a name is what is met below the place of that name. -/
theorem mem_below_iff {name : String} (hname : name ∈ fs.entryNames p node) {x : Path × Node}
    (hx : x ∈ (p, node) :: (fs.entryNames p node).flatMap below) :
    x ∈ below name ↔ p ++ [name] <+: x.1 := by
  constructor
  · obtain ⟨child, hwalk⟩ := hbelow name hname
    exact hwalk.isPrefix
  · intro hpre
    obtain rfl | hx := List.mem_cons.mp hx
    · exact absurd hpre (Path.not_append_name_prefix p name)
    · obtain ⟨other, hother, hx⟩ := List.mem_flatMap.mp hx
      obtain ⟨child, hwalk⟩ := hbelow other hother
      rwa [Path.name_eq_of_below hpre (hwalk.isPrefix hx)]

theorem Kept.isWalk_directory (hk : fs.Kept) (hnode : fs.lookup p = some node)
    (hdirectory : node.isDirectory = true) :
    fs.IsWalk p node ((p, node) :: (fs.entryNames p node).flatMap below) where
  first := rfl
  once := by
    rw [List.map_cons, List.map_flatMap, List.nodup_cons, List.nodup_flatMap]
    refine ⟨fun hmem => ?_, fun name hname => ?_, ?_⟩
    · obtain ⟨name, hname, hp⟩ := List.mem_flatMap.mp hmem
      obtain ⟨x, hx, hpath⟩ := List.mem_map.mp hp
      obtain ⟨child, hwalk⟩ := hbelow name hname
      have hpre := hwalk.isPrefix hx
      rw [hpath] at hpre
      exact Path.not_append_name_prefix p name hpre
    · obtain ⟨child, hwalk⟩ := hbelow name hname
      exact hwalk.once
    · have hnames : (fs.entryNames p node).Nodup :=
        nodup_entryNames (hk.sound_of_lookup hnode).1 p
      refine List.Pairwise.imp_of_mem (fun {a b} ha hb hne => ?_) hnames
      intro q hqa hqb
      obtain ⟨x, hx, rfl⟩ := List.mem_map.mp hqa
      obtain ⟨y, hy, hpath⟩ := List.mem_map.mp hqb
      obtain ⟨_, hwalka⟩ := hbelow a ha
      obtain ⟨_, hwalkb⟩ := hbelow b hb
      have hpre := hwalkb.isPrefix hy
      rw [hpath] at hpre
      exact hne (Path.name_eq_of_below (hwalka.isPrefix hx) hpre)
  reached q found := by
    have hp := (hk.sound_of_lookup hnode).2
    rw [List.mem_cons, Prod.mk.injEq, reaches_iff hp, List.mem_flatMap]
    constructor
    · rintro (⟨rfl, rfl⟩ | ⟨name, hname, hx⟩)
      · exact ⟨.inl rfl, (get_text_eq_ok_iff hp).mpr hnode⟩
      · obtain ⟨child, hwalk⟩ := hbelow name hname
        obtain ⟨hreaches, hfound⟩ := (hwalk.reached q found).mp hx
        exact ⟨.inr ⟨name, ⟨node, hnode, hdirectory, hname⟩, hreaches⟩, hfound⟩
    · rintro ⟨rfl | ⟨name, ⟨dir, hdir, _, hname⟩, hreaches⟩, hfound⟩
      · exact .inl ⟨rfl, Option.some.inj (((get_text_eq_ok_iff hp).mp hfound).symm.trans hnode)⟩
      · cases hdir.symm.trans hnode
        obtain ⟨child, hwalk⟩ := hbelow name hname
        exact .inr ⟨name, hname, (hwalk.reached q found).mpr ⟨hreaches, hfound⟩⟩
  blocks x hx := by
    have hat : ∀ {name}, name ∈ fs.entryNames p node → ∀ {y},
        y ∈ (p, node) :: (fs.entryNames p node).flatMap below →
          (y ∈ below name ↔ p ++ [name] <+: y.1) :=
      fun hname _ hy => mem_below_iff hbelow hname hy
    obtain rfl | hinner := List.mem_cons.mp hx
    · refine ⟨_, List.infix_refl _, rfl, fun y hy => iff_of_true hy ?_⟩
      obtain rfl | hy := List.mem_cons.mp hy
      · exact List.prefix_refl _
      · obtain ⟨name, hname, hy⟩ := List.mem_flatMap.mp hy
        obtain ⟨child, hwalk⟩ := hbelow name hname
        exact (List.prefix_append p [name]).trans (hwalk.isPrefix hy)
    · -- What is below something under a name is met under that name.
      obtain ⟨name, hname, hinner⟩ := List.mem_flatMap.mp hinner
      obtain ⟨child, hwalk⟩ := hbelow name hname
      obtain ⟨block, hblock, hfirst, hmem⟩ := hwalk.blocks x hinner
      have hblocks : below name <:+: (fs.entryNames p node).flatMap below :=
        List.infix_of_mem_flatten (List.mem_map_of_mem hname)
      refine ⟨block, hblock.trans (hblocks.trans (List.suffix_cons _ _).isInfix), hfirst,
        fun y hy => ⟨fun hyblock => ?_, fun hpre => ?_⟩⟩
      · exact (hmem y (hblock.subset hyblock)).mp hyblock
      · have hy' : y ∈ below name := (hat hname hy).mpr ((hwalk.isPrefix hinner).trans hpre)
        exact (hmem y hy').mpr hpre

end Directory

/-! ## The recursion -/

/-- What a walk from a directory meets below a name. -/
def walkUnder (fs : FileSystem) (room : Nat) (p : Path) (name : String) :
    Option (List (Path × Node)) :=
  match fs.lookup (p ++ [name]) with
  | some child =>
    if Path.step p name = p ++ [name] then fs.walkFrom room (p ++ [name]) child else none
  | none => some []

theorem walkFrom_succ_eq (fs : FileSystem) (room : Nat) (p : Path) (node : Node) :
    fs.walkFrom (room + 1) p node =
      if node.isDirectory then
        ((fs.entryNames p node).mapM (fs.walkUnder room p)).bind fun below =>
          some ((p, node) :: below.flatten)
      else some [(p, node)] := by
  rw [walkFrom]
  rfl

/-- Every name that is listed leads down to something. -/
theorem Kept.walkUnder_eq_some_iff (hk : fs.Kept) {room : Nat} {p : Path} {node : Node}
    {name : String} (hname : name ∈ fs.entryNames p node) {inner : List (Path × Node)} :
    fs.walkUnder room p name = some inner ↔ ∃ child, fs.lookup (p ++ [name]) = some child ∧
      fs.walkFrom room (p ++ [name]) child = some inner := by
  obtain ⟨child, hchild⟩ := Option.isSome_iff_exists.mp (mem_entryNames_iff.mp hname).1
  have hcanonical := (hk.sound_of_lookup hchild).2
  have hdown : Path.step p name = p ++ [name] :=
    Path.step_of_isName (hcanonical name (List.mem_append_right _ (List.mem_singleton_self _))) p
  unfold walkUnder
  rw [hchild]
  dsimp only
  rw [if_pos hdown]
  simp only [Option.some.injEq, exists_eq_left']

/-- **One step of a walk** that ends: a file alone, or a directory and a walk from everything that
it lists. -/
theorem Kept.walkFrom_succ_eq_some_iff (hk : fs.Kept) {room : Nat} {p : Path} {node : Node}
    {nodes : List (Path × Node)} : fs.walkFrom (room + 1) p node = some nodes ↔
      node.isDirectory = false ∧ nodes = [(p, node)] ∨
      node.isDirectory = true ∧ ∃ below : String → List (Path × Node),
        (∀ name ∈ fs.entryNames p node, ∃ child, fs.lookup (p ++ [name]) = some child ∧
          fs.walkFrom room (p ++ [name]) child = some (below name)) ∧
        nodes = (p, node) :: (fs.entryNames p node).flatMap below := by
  rw [walkFrom_succ_eq]
  cases hdirectory : node.isDirectory with
  | false =>
    simp only [Bool.false_eq_true, if_false, true_and, false_and, or_false, Option.some.injEq]
    exact eq_comm
  | true =>
    simp only [if_true, true_and, Bool.true_eq_false, false_and, false_or,
      Option.bind_eq_some_iff, Option.some.injEq, mapM_eq_some_iff]
    constructor
    · rintro ⟨_, ⟨below, hall, rfl⟩, rfl⟩
      exact ⟨below, fun name hname => (hk.walkUnder_eq_some_iff hname).mp (hall name hname), rfl⟩
    · rintro ⟨below, hall, rfl⟩
      have hunder := fun name hname => (hk.walkUnder_eq_some_iff hname).mpr (hall name hname)
      exact ⟨_, ⟨below, hunder, rfl⟩, rfl⟩

/-- **A walk that ends** meets what is reached, in preorder. -/
theorem Kept.isWalk_of_walkFrom (hk : fs.Kept) {room : Nat} {p : Path} {node : Node}
    {nodes : List (Path × Node)} (hnode : fs.lookup p = some node)
    (h : fs.walkFrom room p node = some nodes) : fs.IsWalk p node nodes := by
  induction room generalizing p node nodes with
  | zero => cases h
  | succ room ih =>
    obtain ⟨hfile, rfl⟩ | ⟨hdirectory, below, hbelow, rfl⟩ := hk.walkFrom_succ_eq_some_iff.mp h
    · exact hk.isWalk_file hnode hfile
    · refine Kept.isWalk_directory (fun name hname => ?_) hk hnode hdirectory
      obtain ⟨child, hchild, hwalk⟩ := hbelow name hname
      exact ⟨child, ih hchild hwalk⟩

theorem Kept.length_lt_of_walkFrom (hk : fs.Kept) {room : Nat} {p : Path} {node : Node}
    {nodes : List (Path × Node)} (h : fs.walkFrom room p node = some nodes) {x : Path × Node}
    (hx : x ∈ nodes) : x.1.length < p.length + room := by
  induction room generalizing p node nodes with
  | zero => cases h
  | succ room ih =>
    obtain ⟨_, rfl⟩ | ⟨_, below, hbelow, rfl⟩ := hk.walkFrom_succ_eq_some_iff.mp h
    · rw [List.mem_singleton] at hx
      subst hx
      dsimp only
      omega
    · obtain rfl | hx := List.mem_cons.mp hx
      · dsimp only
        omega
      · obtain ⟨name, hname, hx⟩ := List.mem_flatMap.mp hx
        obtain ⟨child, _, hwalk⟩ := hbelow name hname
        have hlength := ih hwalk hx
        rw [List.length_append, List.length_singleton] at hlength
        omega

/-- A walk that ends with some room ends in the same way with any room that is deep enough for what
it meets. -/
theorem Kept.walkFrom_of_length_lt (hk : fs.Kept) {much room : Nat} {p : Path} {node : Node}
    {nodes : List (Path × Node)} (h : fs.walkFrom much p node = some nodes)
    (hroom : ∀ x ∈ nodes, x.1.length < p.length + room) :
    fs.walkFrom room p node = some nodes := by
  induction much generalizing room p node nodes with
  | zero => cases h
  | succ much ih =>
    have hinv := hk.walkFrom_succ_eq_some_iff.mp h
    have hfirst : (p, node) ∈ nodes := by
      obtain ⟨_, rfl⟩ | ⟨_, _, _, rfl⟩ := hinv <;> exact List.mem_cons_self
    obtain ⟨room, rfl⟩ : ∃ less, room = less + 1 := by
      have hlength := hroom _ hfirst
      dsimp only at hlength
      exact ⟨room - 1, by omega⟩
    obtain hfile | ⟨hdirectory, below, hbelow, rfl⟩ := hinv
    · exact hk.walkFrom_succ_eq_some_iff.mpr (.inl hfile)
    · refine hk.walkFrom_succ_eq_some_iff.mpr (.inr ⟨hdirectory, below, fun name hname => ?_, rfl⟩)
      obtain ⟨child, hchild, hwalk⟩ := hbelow name hname
      refine ⟨child, hchild, ih hwalk fun x hx => ?_⟩
      have hlength := hroom x (List.mem_cons_of_mem _ (List.mem_flatMap.mpr ⟨name, hname, hx⟩))
      rw [List.length_append, List.length_singleton]
      omega

/-- There is an end to every walk. -/
theorem Kept.exists_walkFrom (hk : fs.Kept) {depth : Nat}
    (hdepth : ∀ p node, fs.lookup p = some node → p.length ≤ depth) {room : Nat} {p : Path}
    {node : Node} (hnode : fs.lookup p = some node) (hroom : depth < p.length + room) :
    ∃ nodes, fs.walkFrom room p node = some nodes := by
  induction room generalizing p node with
  | zero =>
    have hlength := hdepth p node hnode
    omega
  | succ room ih =>
    cases hdirectory : node.isDirectory with
    | false => exact ⟨_, hk.walkFrom_succ_eq_some_iff.mpr (.inl ⟨hdirectory, rfl⟩)⟩
    | true =>
      have hnames : ∀ name ∈ fs.entryNames p node, ∃ inner child,
          fs.lookup (p ++ [name]) = some child ∧
            fs.walkFrom room (p ++ [name]) child = some inner := fun name hname => by
        obtain ⟨child, hchild⟩ := Option.isSome_iff_exists.mp (mem_entryNames_iff.mp hname).1
        obtain ⟨inner, hinner⟩ := ih hchild (by
          rw [List.length_append, List.length_singleton]
          omega)
        exact ⟨inner, child, hchild, hinner⟩
      choose! below hbelow using hnames
      exact ⟨_, hk.walkFrom_succ_eq_some_iff.mpr (.inr ⟨hdirectory, below, hbelow, rfl⟩)⟩

/-- There is room for a walk exactly if nothing that is reached lies as deep below the start as the
room goes. -/
theorem Kept.exists_walk (hk : fs.Kept) {path : String} {node : Node}
    (hget : fs.get path = .ok node) :
    ∃ nodes, fs.IsWalk (fs.resolve path) node nodes ∧ ∀ room,
      fs.walk room path =
        if ∀ x ∈ nodes, x.1.length < (fs.resolve path).length + room then .ok nodes
        else .error ⟨.tooDeep, path⟩ := by
  have hnode := get_eq_ok_iff.mp hget
  obtain ⟨depth, hdepth⟩ := exists_depth fs
  have hroom : depth < (fs.resolve path).length + (depth + 1) := by omega
  obtain ⟨nodes, hnodes⟩ := hk.exists_walkFrom hdepth hnode hroom
  have hwalk := hk.isWalk_of_walkFrom hnode hnodes
  refine ⟨nodes, hwalk, fun room => ?_⟩
  unfold walk
  dsimp only
  rw [hnode]
  dsimp only
  by_cases hroom : ∀ x ∈ nodes, x.1.length < (fs.resolve path).length + room
  · rw [if_pos hroom, hk.walkFrom_of_length_lt hnodes hroom]
  · rw [if_neg hroom]
    cases hother : fs.walkFrom room (fs.resolve path) node with
    | none => rfl
    | some others =>
      -- What another walk meets is the same, and none of it would lie too deep.
      refine absurd (fun x hx => hk.length_lt_of_walkFrom hother ?_) hroom
      have hreached := (hwalk.reached x.1 x.2).mp hx
      exact ((hk.isWalk_of_walkFrom hnode hother).reached x.1 x.2).mpr hreached

/-- **A walk from anything that is found** by a session of a shipped device has an end. What it
meets is what is reached through listings, in preorder, unless some of that lies as deep below the
start as the room goes. -/
theorem Reachable.walk_eq (h : fs.Reachable) {path : String} {node : Node}
    (hget : fs.get path = .ok node) :
    ∃ nodes, fs.IsWalk (fs.resolve path) node nodes ∧ ∀ room,
      fs.walk room path =
        if ∀ x ∈ nodes, x.1.length < (fs.resolve path).length + room then .ok nodes
        else .error ⟨.tooDeep, path⟩ := h.kept.exists_walk hget

/-! ## A new session -/

theorem length_le_of_lookup_exampleView {p : Path} {node : Node}
    (h : exampleView.lookup p = some node) : p.length ≤ 5 := by
  have htree : (Layout.tree Persona.raspberryPi).lookup p = some node := h
  have hheld : p.parent ∈ Layout.holders Persona.raspberryPi :=
    Tree.parent_mem_of_lookup (Layout.plantable_entries _ List.mem_cons_self) htree
  have hholders : ∀ d ∈ Layout.holders Persona.raspberryPi, d.length ≤ 4 := by decide +kernel
  have hlength := hholders _ hheld
  unfold Path.parent at hlength
  rw [List.length_dropLast] at hlength
  omega

/-- There is room for a walk through all of a new session. -/
theorem walk_eq_example :
    exampleView.Reachable ∧ ∃ root nodes, exampleView.get "/" = .ok root ∧
      exampleView.IsWalk [] root nodes ∧ exampleView.walk Shell.callRoom "/" = .ok nodes := by
  obtain ⟨root, hroot, _⟩ := reachable_exampleView.hasRoot
  have hresolve : exampleView.resolve "/" = [] := resolve_text (p := []) nofun
  have hget : exampleView.get "/" = .ok root := get_eq_ok_iff.mpr (by rw [hresolve, hroot])
  obtain ⟨nodes, hwalk, hroom⟩ := reachable_exampleView.walk_eq hget
  rw [hresolve] at hwalk hroom
  refine ⟨reachable_exampleView, root, nodes, hget, hwalk, ?_⟩
  rw [hroom, if_pos]
  intro x hx
  obtain ⟨hreaches, hfound⟩ := (hwalk.reached x.1 x.2).mp hx
  have hcanonical := reachable_exampleView.kept.isCanonical_of_reaches Path.isCanonical_nil hreaches
  have hlength := length_le_of_lookup_exampleView ((get_text_eq_ok_iff hcanonical).mp hfound)
  exact Nat.lt_of_le_of_lt hlength (by decide)

/-! ## Too deep -/

/-- So many directories in one another, below the one for temporary files. -/
def nest (depth : Nat) : Path := "tmp" :: List.replicate depth "d"

/-- A session that has made so many directories in one another. -/
def nested (depth : Nat) : FileSystem :=
  ((List.range depth).map fun n => Change.makeDirectory (nest (n + 1)).text "root" 0.0).foldl after
    exampleView

theorem nest_succ (depth : Nat) : nest (depth + 1) = nest depth ++ ["d"] := by
  unfold nest
  rw [List.replicate_succ', List.cons_append]

theorem isCanonical_nest (depth : Nat) : (nest depth).IsCanonical := by
  have hnames : Path.IsName "tmp" ∧ Path.IsName "d" := by decide +kernel
  intro name hname
  obtain rfl | hname := List.mem_cons.mp hname
  · exact hnames.1
  · rw [List.eq_of_mem_replicate hname]
    exact hnames.2

theorem nested_succ (depth : Nat) : nested (depth + 1) =
    (nested depth).after (.makeDirectory (nest (depth + 1)).text "root" 0.0) := by
  unfold nested
  rw [List.range_succ, List.map_append, List.foldl_append]
  rfl

theorem reachable_nested (depth : Nat) : (nested depth).Reachable :=
  ⟨Persona.raspberryPi, List.mem_cons_self, "/root", "", _, rfl⟩

/-- A directory can be made in a directory where nothing is. -/
theorem after_makeDirectory {p : Path} (hp : p.IsCanonical) (hroom : fs.HasRoom p)
    (hvacant : fs.lookup p = none) (owner : String) (now : Float) :
    fs.after (.makeDirectory p.text owner now) =
      fs.store p ⟨p, .directory [], 0o755, owner, owner, now⟩ := by
  have hplace : fs.resolve p.text = p := resolve_text hp
  show fs.settled (fs.makeDirectory p.text owner now) = _
  rw [makeDirectory_of_hasRoom (hplace.symm ▸ hroom) (hplace.symm ▸ hvacant), hplace]
  rfl

/-- What a session with nested directories is like. -/
structure IsNested (fs : FileSystem) (depth : Nat) : Prop where
  kept : fs.Kept
  coherent : fs.Coherent
  whole : fs.removed = []
  inner : ∃ dir, fs.lookup (nest depth) = some dir ∧ dir.isDirectory = true
  vacant : ∀ deeper, depth < deeper → fs.lookup (nest deeper) = none

theorem isNested_zero : exampleView.IsNested 0 where
  kept := reachable_exampleView.kept
  coherent := coherent_fresh (Layout.shaped_tree List.mem_cons_self) "/root" ""
  whole := rfl
  inner := by
    have hentry : Layout.directory ["tmp"] 0o1777 "root" ∈ Layout.entries Persona.raspberryPi := by
      simp [Layout.entries, Layout.top]
    have hplain : ∀ e ∈ Layout.entries Persona.raspberryPi,
        e.path = ["tmp"] → e.content? = none := by
      simp only [Layout.entries, Layout.userBinNames, Layout.userSbinNames, List.mem_append,
        Layout.mem_programs_sort]
      simp only [← List.mem_append]
      decide +kernel
    obtain ⟨dir, hdir⟩ := Option.isSome_iff_exists.mp (Layout.isSome_lookup_tree hentry)
    have hdirectory := Tree.isDirectory_of_lookup
      (Layout.plantable_entries _ List.mem_cons_self) hplain hdir
    exact ⟨dir, hdir, hdirectory⟩
  vacant deeper hdeeper := by
    have hholders : ∀ d ∈ Layout.holders Persona.raspberryPi, d.head? ≠ some "tmp" := by
      decide +kernel
    refine Option.eq_none_iff_forall_ne_some.mpr fun node hnode => ?_
    obtain ⟨depth, rfl⟩ : ∃ depth, deeper = depth + 1 := ⟨deeper - 1, by omega⟩
    have htree : (Layout.tree Persona.raspberryPi).lookup (nest (depth + 1)) = some node := hnode
    have hheld : (nest (depth + 1)).parent ∈ Layout.holders Persona.raspberryPi :=
      Tree.parent_mem_of_lookup (Layout.plantable_entries _ List.mem_cons_self) htree
    rw [nest_succ, Path.parent_append] at hheld
    exact hholders _ hheld rfl

theorem IsNested.succ {depth : Nat} (h : fs.IsNested depth) :
    (fs.after (.makeDirectory (nest (depth + 1)).text "root" 0.0)).IsNested (depth + 1) := by
  have hburies : ∀ p, ¬fs.Buries p := by
    rintro p ⟨hmem, _⟩
    rw [h.whole] at hmem
    cases hmem
  have hharmless : ¬fs.Revives (.makeDirectory (nest (depth + 1)).text "root" 0.0) := by
    rintro ⟨p, _, _, hmem⟩
    exact hburies p hmem
  have hkept := h.kept.after (.makeDirectory (nest (depth + 1)).text "root" 0.0)
  have hcoherent := (h.coherent.after_iff h.kept _).mpr hharmless
  have hroom : fs.HasRoom (nest (depth + 1)) := by
    unfold HasRoom
    rw [nest_succ, Path.parent_append]
    exact h.inner
  have hvacant := h.vacant (depth + 1) (Nat.lt_succ_self depth)
  rw [after_makeDirectory (isCanonical_nest _) hroom hvacant] at hkept hcoherent ⊢
  have hlookup := h.kept.lookup_store (hburies (nest (depth + 1)))
  refine ⟨hkept, hcoherent, ?_, ?_, fun deeper hdeeper => ?_⟩
  · show fs.removed.filter _ = []
    rw [h.whole]
    rfl
  · rw [hlookup]
    exact ⟨_, (lookup_cover _ _ _).trans (if_pos rfl), rfl⟩
  · have hne : nest deeper ≠ nest (depth + 1) := fun heq => by
      have hlength := congrArg List.length heq
      simp only [nest, List.length_cons, List.length_replicate] at hlength
      omega
    rw [hlookup, lookup_cover, if_neg hne]
    exact h.vacant deeper (by omega)

theorem isNested_nested (depth : Nat) : (nested depth).IsNested depth := by
  induction depth with
  | zero => exact isNested_zero
  | succ depth ih =>
    rw [nested_succ]
    exact ih.succ

/-- After `mkdir -p /tmp/d/d/d…` with as many levels as there is room for calls, a walk from `/tmp`
fails although the directory is there. -/
theorem walk_too_deep :
    (nested Shell.callRoom).Reachable ∧
    (∃ node, (nested Shell.callRoom).get "/tmp" = .ok node) ∧
    (nested Shell.callRoom).walk Shell.callRoom "/tmp" = .error ⟨.tooDeep, "/tmp"⟩ := by
  have hnested := isNested_nested Shell.callRoom
  have hreachable := reachable_nested Shell.callRoom
  generalize nested Shell.callRoom = fs at hnested hreachable
  obtain ⟨inner, hinner, _⟩ := hnested.inner
  have hbelow : nest 0 <+: nest Shell.callRoom := List.prefix_append ["tmp"] _
  have hreaches := hnested.coherent.reaches hnested.kept hbelow (Option.isSome_of_eq_some hinner)
  have htext : (nest 0).text = "/tmp" := by decide +kernel
  have hresolve : fs.resolve "/tmp" = nest 0 := by
    rw [← htext]
    exact resolve_text (isCanonical_nest 0)
  have hstart : (fs.lookup (nest 0)).isSome = true := by
    obtain heq | ⟨_, ⟨dir, hdir, _⟩, _⟩ := (reaches_iff (isCanonical_nest 0)).mp hreaches
    · rw [heq]
      exact Option.isSome_of_eq_some hinner
    · exact Option.isSome_of_eq_some hdir
  obtain ⟨node, hnode⟩ := Option.isSome_iff_exists.mp hstart
  have hget : fs.get "/tmp" = .ok node := get_eq_ok_iff.mpr (by rw [hresolve, hnode])
  refine ⟨hreachable, ⟨node, hget⟩, ?_⟩
  obtain ⟨nodes, hwalk, hroom⟩ := hnested.kept.exists_walk hget
  rw [hresolve] at hwalk hroom
  rw [hroom, if_neg]
  intro hall
  have hmet := (hwalk.reached (nest Shell.callRoom) inner).mpr
    ⟨hreaches, (get_text_eq_ok_iff (isCanonical_nest _)).mpr hinner⟩
  have hlength := hall _ hmet
  simp only [nest, List.length_cons, List.length_replicate, Nat.zero_add] at hlength
  omega

end FileSystem

end Honeypot
