import Honeypot.Proofs.FileSystem.Walks
import Honeypot.Proofs.Shell.Calls
import Honeypot.Shell.Search

/-!
# What a search names

A search names a node unless a directory above it was refused in the same walk. A directory comes
in a walk before everything below it and the places of a walk differ, so that the directories that
were refused so far hide exactly what any directory of the walk hides (`findLines_eq`). The root
hides nothing: below it everything is named, whoever may read it.
-/

namespace Honeypot

namespace Path

theorem isBelow_trans {p q r : Path} (hpq : p.isBelow q = true) (hqr : q.isBelow r = true) :
    p.isBelow r = true := by
  obtain ⟨hpre, _⟩ := isBelow_iff.mp hpq
  obtain ⟨htop, hne⟩ := isBelow_iff.mp hqr
  refine isBelow_iff.mpr ⟨htop.trans hpre, ?_⟩
  rintro rfl
  exact hne (hpre.eq_of_length_le htop.length_le)

theorem isBelow_nil {p : Path} : p.isBelow [] = true ↔ p ≠ [] := by
  rw [isBelow_iff]
  exact and_iff_right List.nil_prefix

end Path

namespace Shell

open FileSystem

variable {c : Context} {tests : NameTests} {nodes rest : List (Path × Node)}

/-! ## Hiding -/

/-- Whether a node is a directory that the user may not read. -/
def Context.bars (c : Context) (node : Node) : Bool := node.isDirectory && !c.mayRead node

/-- Whether one of the nodes hides a place: it lies below a directory other than the root that the
user may not read. -/
def Context.hides (c : Context) (nodes : List (Path × Node)) (p : Path) : Bool :=
  nodes.any fun d => c.bars d.2 && (d.1 != [] && p.isBelow d.1)

theorem hides_iff {p : Path} : c.hides nodes p = true ↔
    ∃ d ∈ nodes, c.bars d.2 = true ∧ d.1 ≠ [] ∧ p.isBelow d.1 = true := by
  unfold Context.hides
  simp only [List.any_eq_true, Bool.and_eq_true, bne_iff_ne]

theorem hides_nil : c.hides nodes [] = false := by
  refine Bool.eq_false_iff.mpr fun hhides => ?_
  obtain ⟨d, _, _, hne, hbelow⟩ := hides_iff.mp hhides
  exact hne (List.prefix_nil.mp (Path.isBelow_iff.mp hbelow).1)

theorem hides_of_isBelow {p q : Path} (h : c.hides nodes q = true) (hp : p.isBelow q = true) :
    c.hides nodes p = true := by
  obtain ⟨d, hd, hbars, hne, hq⟩ := hides_iff.mp h
  exact hides_iff.mpr ⟨d, hd, hbars, hne, Path.isBelow_trans hp hq⟩

theorem hides_append_singleton (done : List (Path × Node)) (x : Path × Node) (p : Path) :
    c.hides (done ++ [x]) p =
      (c.hides done p || c.bars x.2 && (x.1 != [] && p.isBelow x.1)) := by
  unfold Context.hides
  rw [List.any_append, List.any_cons, List.any_nil, Bool.or_false]

/-! ## Findings -/

/-- A line of a search that began at one place. -/
inductive Finding where
  /-- Nothing is there where the search begins. -/
  | missing
  /-- A directory that the user may not read. -/
  | refused (p : Path)
  /-- A node that passes the tests. -/
  | named (p : Path)
  deriving DecidableEq

namespace Finding

def place (base : Path) : Finding → Path
  | missing => base
  | refused p | named p => p

def line (start : String) (base : Path) : Finding → String
  | missing => "find: '" ++ start ++ "': No such file or directory"
  | refused p => "find: '" ++ displayPath start base.text p.text ++ "': Permission denied"
  | named p => displayPath start base.text p.text

end Finding

/-- What is said about a node of a walk. -/
def finding? (c : Context) (tests : NameTests) (nodes : List (Path × Node)) (x : Path × Node) :
    Option Finding :=
  if c.hides nodes x.1 then none
  else if c.bars x.2 then some (.refused x.1)
  else if tests.accept x.1.name x.2 then some (.named x.1)
  else none

/-- What is said about the nodes of a walk. -/
def findings (c : Context) (tests : NameTests) (nodes : List (Path × Node)) : List Finding :=
  nodes.filterMap (finding? c tests nodes)

/-- What was refused so far hides what anything so far hides. -/
theorem findLines_eq_of_done (start : String) (base : Path) (done : List (Path × Node))
    {refused : List Path}
    (hrefused : ∀ p, (refused.any fun d => d != [] && p.isBelow d) = c.hides done p)
    (hrest : rest.Pairwise fun x y => ¬x.1.isBelow y.1 = true) :
    findLines c tests (fun p => displayPath start base.text p.text) refused rest =
      (rest.filterMap (finding? c tests (done ++ rest))).map (Finding.line start base) := by
  induction rest generalizing done refused with
  | nil => rfl
  | cons x rest ih =>
    obtain ⟨p, node⟩ := x
    obtain ⟨hx, htail⟩ := List.pairwise_cons.mp hrest
    -- Nothing that comes later hides the node.
    have hhere : c.hides (done ++ (p, node) :: rest) p = c.hides done p := by
      have hlater : c.hides ((p, node) :: rest) p = false := by
        refine Bool.eq_false_iff.mpr fun hhides => ?_
        obtain ⟨d, hd, _, _, hbelow⟩ := hides_iff.mp hhides
        obtain rfl | hd := List.mem_cons.mp hd
        · exact (Path.isBelow_iff.mp hbelow).2 rfl
        · exact hx d hd hbelow
      unfold Context.hides at hlater ⊢
      rw [List.any_append, hlater, Bool.or_false]
    have hdone : done ++ (p, node) :: rest = done ++ [(p, node)] ++ rest := by
      rw [List.append_assoc, List.singleton_append]
    have hsaid : finding? c tests (done ++ (p, node) :: rest) (p, node) =
        if c.hides done p then none
        else if c.bars node then some (.refused p)
        else if tests.accept p.name node then some (.named p)
        else none := by
      unfold finding?
      rw [hhere]
    rw [List.filterMap_cons, hsaid, hdone]
    unfold findLines
    rw [hrefused]
    by_cases hhidden : c.hides done p = true
    · rw [if_pos hhidden, if_pos hhidden]
      refine ih _ (fun q => ?_) htail
      -- What the node would hide is hidden with it.
      rw [hides_append_singleton, hrefused, Bool.eq_iff_iff, Bool.or_eq_true]
      refine ⟨.inl, fun h => h.elim id fun h => ?_⟩
      rw [Bool.and_eq_true, Bool.and_eq_true] at h
      exact hides_of_isBelow hhidden h.2.2
    · rw [if_neg hhidden, if_neg hhidden]
      have hbars : (node.isDirectory && !c.mayRead node) = c.bars node := rfl
      rw [hbars]
      by_cases hbarred : c.bars node = true
      · rw [if_pos hbarred, if_pos hbarred, ih _ (fun q => ?_) htail]
        · rfl
        · rw [hides_append_singleton, List.any_append, hrefused, hbarred, List.any_cons,
            List.any_nil, Bool.or_false, Bool.true_and]
      · have hnext : ∀ q, (refused.any fun d => d != [] && q.isBelow d) =
            c.hides (done ++ [(p, node)]) q := fun q => by
          rw [hides_append_singleton, hrefused, Bool.eq_false_iff.mpr hbarred, Bool.false_and,
            Bool.or_false]
        rw [if_neg hbarred, if_neg hbarred, ih _ hnext htail]
        split <;> rfl

/-- **What a search says of a walk** is said of every node by itself: what any directory of the walk
hides is left out. -/
theorem findLines_eq (start : String) (base : Path)
    (hnodes : nodes.Pairwise fun x y => ¬x.1.isBelow y.1 = true) :
    findLines c tests (fun p => displayPath start base.text p.text) [] nodes =
      (findings c tests nodes).map (Finding.line start base) :=
  findLines_eq_of_done start base [] (fun _ => rfl) hnodes

/-! ## What is concealed -/

/-- Whether the lines of a walk conceal what the user may not read: below a directory that is met
and that the user may not read nothing is named, and the one line about it, if it does not lie
below another, is that it was refused. -/
structure Conceals (c : Context) (base : Path) (nodes : List (Path × Node))
    (found : List Finding) : Prop where
  covered : ∀ d ∈ nodes, c.bars d.2 = true → ∀ f ∈ found, ¬(f.place base).isBelow d.1 = true
  refused : ∀ d ∈ nodes, c.bars d.2 = true →
    (∀ e ∈ nodes, c.bars e.2 = true → ¬d.1.isBelow e.1 = true) →
      found.filter (·.place base = d.1) = [.refused d.1]

/-- Whether nothing below the root is named if the root is met and the user may not read it. -/
def StopsAtRoot (c : Context) (base : Path) (nodes : List (Path × Node))
    (found : List Finding) : Prop :=
  ∀ root, ([], root) ∈ nodes → c.bars root = true → ∀ f ∈ found, f.place base = []

theorem finding?_eq_some_iff {x : Path × Node} {f : Finding} :
    finding? c tests nodes x = some f ↔ c.hides nodes x.1 = false ∧
      (c.bars x.2 = true ∧ f = .refused x.1 ∨
        c.bars x.2 = false ∧ tests.accept x.1.name x.2 = true ∧ f = .named x.1) := by
  unfold finding?
  cases c.hides nodes x.1 <;> cases c.bars x.2 <;> cases tests.accept x.1.name x.2 <;>
    simp [eq_comm]

theorem place_of_finding? {x : Path × Node} {f : Finding} (h : finding? c tests nodes x = some f)
    (base : Path) : f.place base = x.1 ∧ c.hides nodes x.1 = false := by
  obtain ⟨hhides, ⟨_, rfl⟩ | ⟨_, _, rfl⟩⟩ := finding?_eq_some_iff.mp h
  · exact ⟨rfl, hhides⟩
  · exact ⟨rfl, hhides⟩

theorem nodup_places (base : Path) (h : (nodes.map (·.1)).Nodup) :
    ((findings c tests nodes).map (Finding.place base)).Nodup := by
  unfold List.Nodup findings at *
  rw [List.pairwise_map] at h ⊢
  rw [List.pairwise_filterMap]
  refine h.imp fun hne f hf f' hf' => ?_
  rw [(place_of_finding? hf base).1, (place_of_finding? hf' base).1]
  exact hne

theorem filter_key_eq {α β : Type} [DecidableEq β] {key : α → β} {xs : List α} {a : α}
    (h : (xs.map key).Nodup) (ha : a ∈ xs) : xs.filter (fun x => key x = key a) = [a] := by
  induction xs with
  | nil => cases ha
  | cons x xs ih =>
    obtain ⟨hx, hxs⟩ := List.nodup_cons.mp h
    obtain rfl | ha := List.mem_cons.mp ha
    · rw [List.filter_cons_of_pos (by simp), List.filter_eq_nil_iff.mpr]
      intro y hy hkey
      exact hx (List.mem_map.mpr ⟨y, hy, of_decide_eq_true hkey⟩)
    · have hkey : key x ≠ key a := fun hkey => hx (hkey ▸ List.mem_map_of_mem ha)
      rw [List.filter_cons_of_neg (by simpa using hkey), ih hxs ha]

/-- **What is said of a walk conceals what the user may not read** exactly if it stops at a root
that the user may not read. -/
theorem conceals_findings_iff (base : Path) (h : (nodes.map (·.1)).Nodup) :
    Conceals c base nodes (findings c tests nodes) ↔
      StopsAtRoot c base nodes (findings c tests nodes) := by
  constructor
  · intro hconceals root hroot hbars f hf
    by_contra hne
    exact hconceals.covered _ hroot hbars f hf (Path.isBelow_nil.mpr hne)
  · intro hstops
    refine ⟨fun d hd hbars f hf hbelow => ?_, fun d hd hbars htop => ?_⟩
    · obtain ⟨x, _, hx⟩ := List.mem_filterMap.mp hf
      obtain ⟨hplace, hhides⟩ := place_of_finding? hx base
      have hroot : d.1 ≠ [] := fun hroot => by
        have hmem : (([] : Path), d.2) ∈ nodes := by rwa [← hroot]
        rw [hstops d.2 hmem hbars f hf] at hbelow
        exact (Path.isBelow_iff.mp hbelow).2 hroot.symm
      rw [hplace] at hbelow
      rw [hides_iff.mpr ⟨d, hd, hbars, hroot, hbelow⟩] at hhides
      cases hhides
    · have hhides : c.hides nodes d.1 = false := by
        refine Bool.eq_false_iff.mpr fun hhides => ?_
        obtain ⟨e, he, hbarse, _, hbelow⟩ := hides_iff.mp hhides
        exact htop e he hbarse hbelow
      have hmem : Finding.refused d.1 ∈ findings c tests nodes :=
        List.mem_filterMap.mpr ⟨d, hd, finding?_eq_some_iff.mpr ⟨hhides, .inl ⟨hbars, rfl⟩⟩⟩
      exact filter_key_eq (nodup_places base h) hmem

/-! ## Searches -/

/-- What a search that begins at one place meets, and what it says of that. -/
structure IsSearch (c : Context) (fs : FileSystem) (tests : NameTests) (start : String)
    (nodes : List (Path × Node)) (found : List Finding) : Prop where
  walked : ∀ node, fs.get start = .ok node →
    fs.IsWalk (fs.resolve start) node nodes ∧ found = findings c tests nodes
  missing : ∀ e, fs.get start = .error e → nodes = [] ∧ found = [.missing]

section Search

variable {fs : FileSystem} {start : String} {found : List Finding}

theorem IsSearch.conceals_iff (h : IsSearch c fs tests start nodes found) :
    Conceals c (fs.resolve start) nodes found ↔ StopsAtRoot c (fs.resolve start) nodes found := by
  cases hget : fs.get start with
  | ok node =>
    obtain ⟨hwalk, rfl⟩ := h.walked node hget
    exact conceals_findings_iff _ hwalk.once
  | error e =>
    obtain ⟨rfl, rfl⟩ := h.missing e hget
    exact iff_of_true ⟨nofun, nofun⟩ nofun

/-- Every line is about a place at or below the one where the search began. -/
theorem IsSearch.place (h : IsSearch c fs tests start nodes found) {f : Finding} (hf : f ∈ found) :
    f.place (fs.resolve start) = fs.resolve start ∨
      ∃ x ∈ nodes, f.place (fs.resolve start) = x.1 ∧ fs.resolve start <+: x.1 := by
  cases hget : fs.get start with
  | ok node =>
    obtain ⟨hwalk, rfl⟩ := h.walked node hget
    obtain ⟨x, hx, hsome⟩ := List.mem_filterMap.mp hf
    exact .inr ⟨x, hx, (place_of_finding? hsome _).1, hwalk.isPrefix hx⟩
  | error e =>
    obtain ⟨rfl, rfl⟩ := h.missing e hget
    rw [List.mem_singleton.mp hf]
    exact .inl rfl

/-- A search that begins at one place either meets something too deep or says what it has to say of
everything that it meets. -/
theorem exists_isSearch (hfs : fs.Reachable) (c : Context) (tests : NameTests) (start : String) :
    ∃ nodes found, IsSearch c fs tests start nodes found ∧
      findFrom c fs tests start =
        if ∀ x ∈ nodes, x.1.length < (fs.resolve start).length + c.room then
          .ok (found.map (Finding.line start (fs.resolve start)))
        else .error .tooDeep := by
  cases hget : fs.get start with
  | ok node =>
    obtain ⟨nodes, hwalk, hroom⟩ := hfs.walk_eq hget
    refine ⟨nodes, findings c tests nodes, ⟨fun _ h => ?_, fun _ h => ?_⟩, ?_⟩
    · cases hget.symm.trans h
      exact ⟨hwalk, rfl⟩
    · cases hget.symm.trans h
    · have hlines : findLines c tests (fun p => displayPath start (fs.resolve start).text p.text) []
          nodes = _ := findLines_eq start (fs.resolve start) hwalk.pairwise
      unfold findFrom
      rw [hroom]
      by_cases hdeep : ∀ x ∈ nodes, x.1.length < (fs.resolve start).length + c.room
      · rw [if_pos hdeep, if_pos hdeep]
        exact congrArg Except.ok hlines
      · rw [if_neg hdeep, if_neg hdeep]
        rfl
  | error e =>
    refine ⟨[], [.missing], ⟨fun _ h => ?_, fun _ _ => ⟨rfl, rfl⟩⟩, ?_⟩
    · cases hget.symm.trans h
    · have hnone : fs.lookup (fs.resolve start) = none := by
        refine Option.eq_none_iff_forall_ne_some.mpr fun node hnode => ?_
        cases hget.symm.trans (get_eq_ok_iff.mpr hnode)
      unfold findFrom walk
      dsimp only
      rw [hnone, if_pos nofun]
      rfl

end Search

/-- The words before the first option. -/
def Invocation.typedStarts (inv : Invocation) : List String :=
  inv.tokens.takeWhile fun t => !isFlag t

/-- The places at which a search begins. -/
def Invocation.starts (inv : Invocation) : List String :=
  if inv.typedStarts.isEmpty then ["."] else inv.typedStarts

def Invocation.nameTests (inv : Invocation) : NameTests :=
  readTests ⟨none, false, none⟩ (inv.tokens.drop inv.typedStarts.length)

theorem mapM_ite {ε α β : Type} {f : α → Except ε β} {e : ε} {P : α → Prop} [DecidablePred P]
    {g : α → β} {xs : List α} (h : ∀ x ∈ xs, f x = if P x then .ok (g x) else .error e) :
    xs.mapM f = if ∀ x ∈ xs, P x then .ok (xs.map g) else .error e := by
  induction xs with
  | nil => rfl
  | cons x xs ih =>
    obtain ⟨hx, hxs⟩ := List.forall_mem_cons.mp h
    rw [List.mapM_cons, hx, ih hxs]
    by_cases hhere : P x
    · by_cases hrest : ∀ y ∈ xs, P y
      · rw [if_pos hhere, if_pos hrest, if_pos (List.forall_mem_cons.mpr ⟨hhere, hrest⟩)]
        rfl
      · rw [if_pos hhere, if_neg hrest, if_neg fun hall => hrest (List.forall_mem_cons.mp hall).2]
        rfl
    · rw [if_neg hhere, if_neg fun hall => hhere (List.forall_mem_cons.mp hall).1]
      rfl

/-- **A search** says what there is to be said of everything that it meets from every place where it
begins, unless some of that lies too deep. -/
theorem exists_searches {s : State} (hfs : s.files.Reachable) (c : Context) (inv : Invocation) :
    ∃ (met : String → List (Path × Node)) (found : String → List Finding),
      (∀ start, IsSearch c s.files inv.nameTests start (met start) (found start)) ∧
      find c s inv =
        if ∀ start ∈ inv.starts, ∀ x ∈ met start,
            x.1.length < (s.files.resolve start).length + c.room then
          .ok (Text.block (inv.starts.flatMap fun start =>
            (found start).map (Finding.line start (s.files.resolve start))))
        else .error .tooDeep := by
  have hsearches := exists_isSearch hfs c inv.nameTests
  choose met found hsearch hfind using hsearches
  refine ⟨met, found, hsearch, ?_⟩
  have hwhole : find c s inv = inv.starts.mapM (findFrom c s.files inv.nameTests) >>= fun found =>
      pure (Text.block found.flatten) := rfl
  rw [hwhole, mapM_ite fun start _ => hfind start]
  split <;> rfl

/-! ## Several starts -/

section Across

variable {fs : FileSystem} {a b : String} {found found' : List Finding}
  {nodes' : List (Path × Node)}

/-- What one search meets is met by another that begins above it and meets something below it. -/
theorem IsSearch.mem_of_between (ha : IsSearch c fs tests a nodes found)
    (hb : IsSearch c fs tests b nodes' found') {d x : Path × Node} (hd : d ∈ nodes)
    (hx : x ∈ nodes') (habove : fs.resolve b <+: d.1) (hbelow : d.1 <+: x.1) : d ∈ nodes' := by
  cases hgeta : fs.get a with
  | error e =>
    rw [(ha.missing e hgeta).1] at hd
    cases hd
  | ok first =>
    cases hgetb : fs.get b with
    | error e =>
      rw [(hb.missing e hgetb).1] at hx
      cases hx
    | ok first' =>
      have hthere := ((ha.walked first hgeta).1.reached d.1 d.2).mp hd
      have hwalk := (hb.walked first' hgetb).1
      have hreaches := ((hwalk.reached x.1 x.2).mp hx).1.of_between habove hbelow
      exact (hwalk.reached d.1 d.2).mpr ⟨hreaches, hthere.2⟩

/-- Whatever one search says of a place below a directory that another meets is said of a place
below a directory that it meets itself, unless it begins below the directory. -/
theorem IsSearch.covered_iff (ha : IsSearch c fs tests a nodes found)
    (hb : IsSearch c fs tests b nodes' found')
    (hconceals : Conceals c (fs.resolve b) nodes' found') {d : Path × Node} (hd : d ∈ nodes)
    (hbars : c.bars d.2 = true) :
    (∀ f ∈ found', ¬(f.place (fs.resolve b)).isBelow d.1 = true) ↔
      (found' ≠ [] → ¬(fs.resolve b).isBelow d.1 = true) := by
  constructor
  · intro hall hne hbegin
    obtain ⟨f, hf⟩ := List.exists_mem_of_ne_nil _ hne
    refine hall f hf ?_
    obtain hplace | ⟨x, _, hplace, hpre⟩ := hb.place hf
    · rw [hplace]
      exact hbegin
    · rw [hplace]
      obtain ⟨hdpre, hne⟩ := Path.isBelow_iff.mp hbegin
      refine Path.isBelow_iff.mpr ⟨hdpre.trans hpre, ?_⟩
      rintro heq
      exact hne ((heq ▸ hpre).eq_of_length_le hdpre.length_le)
  · intro hbegin f hf hbelow
    have hnot := hbegin (List.ne_nil_of_mem hf)
    obtain hplace | ⟨x, hx, hplace, hpre⟩ := hb.place hf
    · rw [hplace] at hbelow
      exact hnot hbelow
    · have hdx := (Path.isBelow_iff.mp (hplace ▸ hbelow)).1
      by_cases hup : fs.resolve b <+: d.1
      · exact hconceals.covered d (ha.mem_of_between hb hd hx hup hdx) hbars f hf hbelow
      · have hdown := (List.prefix_or_prefix_of_prefix hpre hdx).resolve_left hup
        exact hnot (Path.isBelow_iff.mpr ⟨hdown, fun heq => hup (heq ▸ List.prefix_refl _)⟩)

end Across

/-- **What a search conceals.** Every place where a search begins is searched by itself. What it
says of what it meets conceals what the user may not read, exactly if it stops at a root that the
user may not read. Nothing that the whole search names lies below a directory that it meets from
anywhere and that the user may not read, exactly if that holds from every start and no start that
has anything to say was typed below such a directory. -/
theorem find_conceals_iff {s : State} (hfs : s.files.Reachable) (c : Context) (inv : Invocation) :
    ∃ (met : String → List (Path × Node)) (found : String → List Finding),
      (∀ start, IsSearch c s.files inv.nameTests start (met start) (found start)) ∧
      find c s inv =
        (if ∀ start ∈ inv.starts, ∀ x ∈ met start,
            x.1.length < (s.files.resolve start).length + c.room then
          .ok (Text.block (inv.starts.flatMap fun start =>
            (found start).map (Finding.line start (s.files.resolve start))))
        else .error .tooDeep) ∧
      (∀ start, Conceals c (s.files.resolve start) (met start) (found start) ↔
        StopsAtRoot c (s.files.resolve start) (met start) (found start)) ∧
      ((∀ a ∈ inv.starts, ∀ d ∈ met a, c.bars d.2 = true →
          ∀ b ∈ inv.starts, ∀ f ∈ found b, ¬(f.place (s.files.resolve b)).isBelow d.1 = true) ↔
        (∀ a ∈ inv.starts, StopsAtRoot c (s.files.resolve a) (met a) (found a)) ∧
          ∀ a ∈ inv.starts, ∀ d ∈ met a, c.bars d.2 = true →
            ∀ b ∈ inv.starts, found b ≠ [] → ¬(s.files.resolve b).isBelow d.1 = true) := by
  obtain ⟨met, found, hsearch, hfind⟩ := exists_searches hfs c inv
  have hconceals := fun start => (hsearch start).conceals_iff
  refine ⟨met, found, hsearch, hfind, hconceals, ?_⟩
  constructor
  · intro hall
    have hstops : ∀ a ∈ inv.starts, StopsAtRoot c (s.files.resolve a) (met a) (found a) := by
      intro a ha root hroot hbars f hf
      by_contra hne
      exact hall a ha _ hroot hbars a ha f hf (Path.isBelow_nil.mpr hne)
    refine ⟨hstops, fun a ha d hd hbars b hb => ?_⟩
    have hhere := (hconceals b).mpr (hstops b hb)
    exact ((hsearch a).covered_iff (hsearch b) hhere hd hbars).mp (hall a ha d hd hbars b hb)
  · rintro ⟨hstops, hbegin⟩ a ha d hd hbars b hb
    have hhere := (hconceals b).mpr (hstops b hb)
    exact ((hsearch a).covered_iff (hsearch b) hhere hd hbars).mpr (hbegin a ha d hd hbars b hb)

/-! ## A closed directory -/

/-- A new session in which only the owner of a place may read it. -/
def closedAt (p : Path) : FileSystem := exampleView.after (.changeMode p.text 0o700 0.0)

theorem reachable_closedAt (p : Path) : (closedAt p).Reachable :=
  ⟨Persona.raspberryPi, List.mem_cons_self, "/root", "", [_], rfl⟩

theorem lookup_closedAt {p : Path} {old : Node} (hold : exampleView.lookup p = some old)
    (q : Path) : (closedAt p).lookup q =
      if q = p then some { old with mode := 0o700, changed := 0.0 } else exampleView.lookup q := by
  have hp := (reachable_exampleView.kept.sound_of_lookup hold).2
  have hclosed : closedAt p = exampleView.cover p { old with mode := 0o700, changed := 0.0 } := by
    show exampleView.settled (exampleView.changeMode p.text 0o700 0.0) = _
    unfold changeMode
    dsimp only
    rw [resolve_text hp, hold]
    rfl
  rw [hclosed, lookup_cover]

/-- What is found in a new session was laid out, or is a plain directory. -/
theorem entry_of_lookup_exampleView {p : Path} {node : Node}
    (h : exampleView.lookup p = some node) : ∃ e entries,
      (e ∈ Layout.entries Persona.raspberryPi ∨ e = Tree.plainDirectory p) ∧ e.path = p ∧
        node = Tree.node entries Layout.changed e := by
  have htree : (Layout.tree Persona.raspberryPi).lookup p = some node := h
  obtain ⟨e, entries, hadd, hpath, hnode⟩ :=
    Tree.entry_of_lookup (Layout.plantable_entries _ List.mem_cons_self) htree
  exact ⟨e, entries, hadd.imp_right And.right, hpath, hnode⟩

/-- Whom the places of a new session belong to, and who may read them. -/
theorem entries_example : ∀ e ∈ Layout.entries Persona.raspberryPi,
    (e.path = [] ∨ e.path = logDirectory → e.owner = "root" ∧ e.content? = none) ∧
    (e.path = ["etc"] ∨ e.path = ["etc", "issue"] →
      (modeBits e.mode).testBit 8 = true ∧ (modeBits e.mode).testBit 2 = true) := by
  simp only [Layout.entries, Layout.userBinNames, Layout.userSbinNames, List.mem_append,
    Layout.mem_programs_sort]
  simp only [← List.mem_append]
  decide +kernel

/-- A directory of the superuser that was closed bars a guest. -/
theorem bars_closed {old : Node} (hdirectory : old.isDirectory = true)
    (howner : old.owner = "root") :
    guest.bars { old with mode := 0o700, changed := 0.0 } = true := by
  have hread : guest.mayRead { old with mode := 0o700, changed := 0.0 } = false := by
    show (guest.isRoot ||
      (modeBits 0o700).testBit (if old.owner = guest.user then 8 else 2)) = false
    rw [howner]
    decide
  unfold Context.bars
  rw [hread]
  exact Bool.and_eq_true_iff.mpr ⟨hdirectory, rfl⟩

theorem bars_of_testBit {node : Node} (howner : node.bits.testBit 8 = true)
    (hothers : node.bits.testBit 2 = true) : c.bars node = false := by
  have hread : c.mayRead node = true := by
    unfold Context.mayRead Context.may
    split
    · rw [howner, Bool.or_true]
    · rw [hothers, Bool.or_true]
  unfold Context.bars
  rw [hread, Bool.not_true, Bool.and_false]

/-- Closing a directory of the superuser bars a guest from it. -/
theorem exists_lookup_closedAt {p : Path} (hp : p = [] ∨ p = logDirectory) :
    ∃ closed, (closedAt p).lookup p = some closed ∧ guest.bars closed = true ∧
      ∀ q, q ≠ p → (closedAt p).lookup q = exampleView.lookup q := by
  have hthere : (exampleView.lookup p).isSome = true := by
    obtain rfl | rfl := hp
    · obtain ⟨root, hroot, _⟩ := reachable_exampleView.hasRoot
      exact Option.isSome_of_eq_some hroot
    · exact isSome_lookup_logDirectory
  obtain ⟨old, hold⟩ := Option.isSome_iff_exists.mp hthere
  obtain ⟨e, entries, he, hpath, hnode⟩ := entry_of_lookup_exampleView hold
  have hentry : e.owner = "root" ∧ e.content? = none := by
    obtain he | rfl := he
    · exact (entries_example e he).1 (hpath ▸ hp)
    · exact ⟨rfl, rfl⟩
  have hdirectory : old.isDirectory = true := by
    rw [hnode]
    unfold Node.isDirectory Tree.node
    rw [hentry.2]
  refine ⟨_, (lookup_closedAt hold p).trans (if_pos rfl),
    bars_closed hdirectory (hnode ▸ hentry.1), fun q hq => ?_⟩
  exact (lookup_closedAt hold q).trans (if_neg hq)

theorem IsSearch.lookup {fs : FileSystem} (hk : fs.Kept) {start : String} {found : List Finding}
    (h : IsSearch c fs tests start nodes found) {x : Path × Node} (hx : x ∈ nodes) :
    fs.lookup x.1 = some x.2 := by
  cases hget : fs.get start with
  | error e =>
    rw [(h.missing e hget).1] at hx
    cases hx
  | ok node =>
    obtain ⟨hreaches, hfound⟩ := ((h.walked node hget).1.reached x.1 x.2).mp hx
    have hcanonical := hk.isCanonical_of_reaches (Path.isCanonical_resolve _ _ _) hreaches
    exact (get_text_eq_ok_iff hcanonical).mp hfound

/-- What is written on a new device for those who log in, and where it is, may be read by all. -/
theorem bars_issue {p : Path} (hp : p = ["etc"] ∨ p = ["etc", "issue"]) {node : Node}
    (h : exampleView.lookup p = some node) : c.bars node = false := by
  obtain ⟨e, entries, he, hpath, rfl⟩ := entry_of_lookup_exampleView h
  have hmode : (modeBits e.mode).testBit 8 = true ∧ (modeBits e.mode).testBit 2 = true := by
    obtain he | rfl := he
    · exact (entries_example e he).2 (hpath ▸ hp)
    · show (modeBits 0o755).testBit 8 = true ∧ (modeBits 0o755).testBit 2 = true
      decide
  exact bars_of_testBit hmode.1 hmode.2

/-- Nothing that a new session finds hides it, unless the root does. -/
theorem hides_issue (h : ∀ x ∈ nodes, (closedAt []).lookup x.1 = some x.2) :
    c.hides nodes ["etc", "issue"] = false := by
  refine Bool.eq_false_iff.mpr fun hhides => ?_
  obtain ⟨d, hd, hbars, hne, hbelow⟩ := hides_iff.mp hhides
  obtain ⟨hpre, hneq⟩ := Path.isBelow_iff.mp hbelow
  have hetc : d.1 = ["etc"] := by
    have habove := (Path.prefix_append_name_iff (p := ["etc"])).mp hpre
    have hat := habove.resolve_left hneq.symm
    exact ((Path.prefix_append_name_iff (p := [])).mp hat).resolve_right
      fun hpre => hne (List.prefix_nil.mp hpre)
  have hdir := h d hd
  obtain ⟨_, _, _, hother⟩ := exists_lookup_closedAt (p := []) (.inl rfl)
  rw [hother _ hne, hetc] at hdir
  rw [bars_issue (.inl rfl) hdir] at hbars
  cases hbars

theorem isSome_lookup_issue :
    ((Layout.tree Persona.raspberryPi).lookup ["etc", "issue"]).isSome = true := by
  obtain ⟨e, he, hpath⟩ : ∃ e ∈ Layout.settings Persona.raspberryPi, e.path = ["etc", "issue"] :=
    ⟨_, List.mem_of_getElem? (i := 6) rfl, rfl⟩
  have hentry : e ∈ Layout.entries Persona.raspberryPi := by
    simp only [Layout.entries, List.mem_append, he, true_or, or_true]
  rw [← hpath]
  exact Layout.isSome_lookup_tree hentry

theorem coherent_closedAt (p : Path) : (closedAt p).Coherent := by
  have hcoherent := coherent_fresh (Layout.shaped_tree List.mem_cons_self) "/root" ""
  refine (hcoherent.after_iff reachable_exampleView.kept _).mpr ?_
  rintro ⟨_, hplace, _⟩
  cases hplace

/-- There is room for a search through a new session in which a directory was closed. -/
theorem length_lt_of_closedAt {p : Path} (hp : p = [] ∨ p = logDirectory) {start : String}
    {found : List Finding} (h : IsSearch guest (closedAt p) tests start nodes found)
    {x : Path × Node} (hx : x ∈ nodes) :
    x.1.length < ((closedAt p).resolve start).length + guest.room := by
  obtain ⟨closed, _, _, hother⟩ := exists_lookup_closedAt hp
  have hlength : x.1.length ≤ 5 := by
    by_cases hxp : x.1 = p
    · rw [hxp]
      obtain rfl | rfl := hp <;> decide
    · have hlookup := h.lookup (reachable_closedAt p).kept hx
      rw [hother _ hxp] at hlookup
      exact length_le_of_lookup_exampleView hlookup
  have hroom : guest.room = 986 := rfl
  omega

theorem find_conceals_iff_example :
    (closedAt logDirectory).Reachable ∧
    find guest { bare with files := closedAt logDirectory } (.ofWords "find" ["/var/log"]) =
      .ok "find: '/var/log': Permission denied\n" := by
  have hreachable := reachable_closedAt logDirectory
  refine ⟨hreachable, ?_⟩
  obtain ⟨closed, hclosed, hbars, _⟩ := exists_lookup_closedAt (.inr rfl)
  have hcanonical := (hreachable.kept.sound_of_lookup hclosed).2
  obtain ⟨met, found, hsearch, hfind, hconceals, _⟩ :=
    find_conceals_iff (s := { bare with files := closedAt logDirectory }) hreachable guest
      (.ofWords "find" ["/var/log"])
  have hbase : (closedAt logDirectory).resolve "/var/log" = logDirectory := resolve_text hcanonical
  have hstarts : (Invocation.ofWords "find" ["/var/log"]).starts = ["/var/log"] := by decide
  have hhere := hsearch "/var/log"
  have hget : (closedAt logDirectory).get "/var/log" = .ok closed :=
    get_eq_ok_iff.mpr (by rw [hbase, hclosed])
  have hwalk := (hhere.walked closed hget).1
  rw [hbase] at hwalk
  have hfirst : (logDirectory, closed) ∈ met "/var/log" := List.mem_of_head? hwalk.first
  have hcovers := (hconceals "/var/log").mpr fun root hroot => by
    have hpre := hwalk.isPrefix hroot
    exact absurd (List.prefix_nil.mp hpre) (List.cons_ne_nil _ _)
  have hplace : ∀ f ∈ found "/var/log", f.place logDirectory = logDirectory := fun f hf => by
    have hnot := hcovers.covered _ hfirst hbars f hf
    have hat := hhere.place hf
    rw [hbase] at hnot hat
    obtain hat | ⟨x, _, hat, hpre⟩ := hat
    · exact hat
    · by_contra hne
      exact hnot (Path.isBelow_iff.mpr ⟨hat ▸ hpre, hne⟩)
  have hsingle : found "/var/log" = [.refused logDirectory] := by
    have hone := hcovers.refused _ hfirst hbars fun e he _ hbelow => by
      obtain ⟨hpre, hne⟩ := Path.isBelow_iff.mp hbelow
      exact hne (hpre.eq_of_length_le (hwalk.isPrefix he).length_le).symm
    rw [hbase, List.filter_eq_self.mpr fun f hf => decide_eq_true (hplace f hf)] at hone
    exact hone
  rw [hfind, hstarts, if_pos]
  · rw [List.flatMap_cons, List.flatMap_nil, List.append_nil, hsingle, hbase]
    decide +kernel
  · intro start _ x hx
    exact length_lt_of_closedAt (.inr rfl) (hsearch start) hx

/-- A guest who may not read the root learns from `find / -name issue` what lies below it. -/
theorem find_names_below_closed_root :
    (closedAt []).Reachable ∧
    (∃ root, (closedAt []).get "/" = .ok root ∧ guest.bars root = true) ∧
    ∃ lines, find guest { bare with files := closedAt [] }
        (.ofWords "find" ["/", "-name", "issue"]) = .ok (Text.block lines) ∧
      "find: '/': Permission denied" ∈ lines ∧ "/etc/issue" ∈ lines := by
  have hreachable := reachable_closedAt []
  obtain ⟨root, hroot, hbars, hother⟩ := exists_lookup_closedAt (.inl rfl)
  have hbase : (closedAt []).resolve "/" = [] := resolve_text Path.isCanonical_nil
  have hget : (closedAt []).get "/" = .ok root := get_eq_ok_iff.mpr (by rw [hbase, hroot])
  refine ⟨hreachable, ⟨root, hget, hbars⟩, ?_⟩
  obtain ⟨met, found, hsearch, hfind⟩ :=
    exists_searches (s := { bare with files := closedAt [] }) hreachable guest
      (.ofWords "find" ["/", "-name", "issue"])
  have hstarts : (Invocation.ofWords "find" ["/", "-name", "issue"]).starts = ["/"] := by decide
  have htests : (Invocation.ofWords "find" ["/", "-name", "issue"]).nameTests =
      ⟨some "issue", false, none⟩ := by decide
  obtain ⟨hwalk, hfound⟩ := (hsearch "/").walked root hget
  rw [htests] at hfound
  rw [hbase] at hwalk
  have hlookup : ∀ x ∈ met "/", (closedAt []).lookup x.1 = some x.2 := fun x hx =>
    (hsearch "/").lookup hreachable.kept hx
  refine ⟨_, hfind.trans (if_pos fun start _ x hx => length_lt_of_closedAt (.inl rfl)
    (hsearch start) hx), ?_, ?_⟩
  all_goals rw [hstarts, List.flatMap_cons, List.flatMap_nil, List.append_nil, hfound, hbase]
  · have hfirst : (([] : Path), root) ∈ met "/" := List.mem_of_head? hwalk.first
    have hline : Finding.line "/" [] (.refused []) = "find: '/': Permission denied" := by decide
    have hsaid : finding? guest ⟨some "issue", false, none⟩ (met "/") ([], root) =
        some (.refused []) := finding?_eq_some_iff.mpr ⟨hides_nil, .inl ⟨hbars, rfl⟩⟩
    exact List.mem_map.mpr ⟨_, List.mem_filterMap.mpr ⟨_, hfirst, hsaid⟩, hline⟩
  · obtain ⟨node, hnode⟩ := Option.isSome_iff_exists.mp isSome_lookup_issue
    have hthere : (closedAt []).lookup ["etc", "issue"] = some node :=
      (hother _ (List.cons_ne_nil _ _)).trans hnode
    have hmet : (["etc", "issue"], node) ∈ met "/" := by
      refine (hwalk.reached _ _).mpr ⟨?_, ?_⟩
      · exact (coherent_closedAt []).reaches hreachable.kept List.nil_prefix
          (Option.isSome_of_eq_some hthere)
      · exact (get_text_eq_ok_iff (hreachable.kept.sound_of_lookup hthere).2).mpr hthere
    have hopen := bars_issue (c := guest) (.inr rfl) hnode
    have hline : Finding.line "/" [] (.named ["etc", "issue"]) = "/etc/issue" := by decide
    have hglob : matchesGlob "issue" "issue" = true := by decide +kernel
    have haccept : NameTests.accept ⟨some "issue", false, none⟩ "issue" node = true := by
      unfold NameTests.accept
      simp [hglob]
    have hsaid : finding? guest ⟨some "issue", false, none⟩ (met "/") (["etc", "issue"], node) =
        some (.named ["etc", "issue"]) :=
      finding?_eq_some_iff.mpr ⟨hides_issue hlookup, .inr ⟨hopen, haccept, rfl⟩⟩
    exact List.mem_map.mpr ⟨_, List.mem_filterMap.mpr ⟨_, hmet, hsaid⟩, hline⟩

end Shell
end Honeypot
