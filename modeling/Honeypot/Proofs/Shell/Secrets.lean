import Mathlib.Data.List.Forall2
import Honeypot.Proofs.Shell.Segments

/-!
# Files that may not be read

Two states are alike to a user if they differ in nothing but what those files hold that the user
may not read. The commands that print files and search them come to the same in states that are
alike and leave them alike (`secrets_unseen`), and so does a line of such commands, however they are
joined (`runLine_unseen`). The superuser may read every file, so that alike states show the
superuser the same files.
-/

namespace Honeypot

variable {readable : Node → Bool}

/-! ## Likeness -/

/-- Two nodes that are the same, but for what they hold if they are files that may not be read. -/
inductive Node.Alike (readable : Node → Bool) : Node → Node → Prop
  | same (node : Node) : Alike readable node node
  | secret {node : Node} {content : Content} (other : Content)
      (hfile : node.body = .file content) (hsecret : readable node = false) :
      Alike readable node { node with body := .file other }

namespace FileSystem

/-- Two views that stand at the same place and show nodes that are alike at every path. -/
structure Alike (readable : Node → Bool) (fs fs' : FileSystem) : Prop where
  home : fs'.home = fs.home
  cwd : fs'.cwd = fs.cwd
  nodes : ∀ p, Option.Rel (Node.Alike readable) (fs.lookup p) (fs'.lookup p)

/-- Two nodes at the same path that are alike. -/
def AlikeAt (readable : Node → Bool) (here there : Path × Node) : Prop :=
  here.1 = there.1 ∧ here.2.Alike readable there.2

theorem rel_lookup {nodes nodes' : List (Path × Node)}
    (h : List.Forall₂ (AlikeAt readable) nodes nodes') (p : Path) :
    Option.Rel (Node.Alike readable) (nodes.lookup p) (nodes'.lookup p) := by
  induction h with
  | nil => exact .none
  | @cons here there _ _ halike _ ih =>
    rw [List.lookup_cons, List.lookup_cons, halike.1]
    cases p == there.1 with
    | true => exact .some halike.2
    | false => exact ih

/-- Views are alike if they have been made from nodes that are alike one by one. -/
theorem Alike.of_nodes {fs : FileSystem} {tree : Tree} {overlay : List (Path × Node)}
    (htree : List.Forall₂ (AlikeAt readable) fs.tree tree)
    (hoverlay : List.Forall₂ (AlikeAt readable) fs.overlay overlay) :
    fs.Alike readable { fs with tree, overlay } where
  home := rfl
  cwd := rfl
  nodes p := by
    have hover := rel_lookup hoverlay p
    have hunder := rel_lookup htree p
    unfold lookup
    dsimp only
    generalize fs.overlay.lookup p = here, overlay.lookup p = there at hover ⊢
    cases hover with
    | none =>
      show Option.Rel _ (if fs.isRemoved p then _ else _) (if fs.isRemoved p then _ else _)
      split
      · exact .none
      · exact hunder
    | some halike => exact .some halike

/-- What two views that are alike have at a place: nothing, or nodes that are alike. -/
theorem Alike.get_cases {fs fs' : FileSystem} (h : fs.Alike readable fs') (path : String) :
    (∃ e, fs.get path = .error e ∧ fs'.get path = .error e) ∨
    ∃ node node', fs.get path = .ok node ∧ fs'.get path = .ok node' ∧
      node.Alike readable node' := by
  have hplace : fs'.resolve path = fs.resolve path := by
    unfold resolve
    rw [h.home, h.cwd]
  have hnodes := h.nodes (fs.resolve path)
  unfold get
  rw [hplace]
  generalize fs.lookup (fs.resolve path) = here, fs'.lookup (fs.resolve path) = there at hnodes ⊢
  cases hnodes with
  | none => exact .inl ⟨_, rfl, rfl⟩
  | some halike => exact .inr ⟨_, _, rfl, rfl, halike⟩

end FileSystem

namespace Shell

variable {α β : Type} {c : Context} {inv : Invocation}

/-- Two states that differ in nothing but what files hold that may not be read. -/
structure State.Alike (readable : Node → Bool) (s s' : State) : Prop where
  files : s.files.Alike readable s'.files
  others : s' = { s with files := s'.files }

/-! ## Printing and searching -/

section Commands

variable {fs fs' : FileSystem} {s s' : State}

/-- What is done with a file only if it may be read does not tell views apart that are alike. -/
theorem opened_eq_of_alike (h : fs.Alike c.mayRead fs') (target : String)
    (missing directory refused : α) (opened : Node → α) :
    (match fs.get target with
      | .error _ => missing
      | .ok node =>
        if node.isDirectory then directory else if c.mayRead node then opened node else refused) =
    match fs'.get target with
      | .error _ => missing
      | .ok node =>
        if node.isDirectory then directory
        else if c.mayRead node then opened node else refused := by
  obtain ⟨e, he, he'⟩ | ⟨node, node', hnode, hnode', halike⟩ := h.get_cases target
  · rw [he, he']
  · rw [hnode, hnode']
    cases halike with
    | same => rfl
    | @secret _ other hfile hsecret =>
      -- The mode and the owner decide, and both nodes have the same.
      have hsecret' : c.mayRead { node with body := .file other } = false := hsecret
      have hdirectory : node.isDirectory = false := by
        unfold Node.isDirectory
        rw [hfile]
      dsimp only
      rw [hsecret, hsecret', hdirectory]
      rfl

theorem catTarget_eq_of_alike (h : fs.Alike c.mayRead fs') : catTarget c fs = catTarget c fs' :=
  funext fun target => opened_eq_of_alike h target _ _ _ _

theorem grepTarget_eq_of_alike (h : fs.Alike c.mayRead fs') (style : LineStyle) :
    grepTarget c fs style = grepTarget c fs' style :=
  funext fun target => opened_eq_of_alike h target _ _ _ _

theorem cat_eq_of_alike (h : s.Alike c.mayRead s') (inv : Invocation) :
    cat c s inv = cat c s' inv := by
  unfold cat
  rw [catTarget_eq_of_alike h.files]

theorem grep_eq_of_alike (h : s.Alike c.mayRead s') (inv : Invocation) :
    grep c s inv = grep c s' inv := by
  unfold grep
  simp only [grepTarget_eq_of_alike h.files]

end Commands

/-! ## Discretion -/

/-- An action that comes to the same in states that are alike, and leaves them alike. -/
def Discreet (readable : Node → Bool) (m : Action α) : Prop :=
  ∀ ⦃s s' : State⦄, s.Alike readable s' →
    (m.run s).1 = (m.run s').1 ∧ State.Alike readable (m.run s).2 (m.run s').2

namespace Discreet

theorem pure (a : α) : Discreet readable (pure a : Action α) := fun _ _ h => ⟨rfl, h⟩

theorem bind {m : Action α} {f : α → Action β} (hm : Discreet readable m)
    (hf : ∀ a, Discreet readable (f a)) : Discreet readable (m >>= f) := by
  intro s s' h
  obtain ⟨hresult, hstate⟩ := hm h
  rw [run_bind, run_bind]
  rcases hr : m.run s with ⟨r, t⟩
  rcases hr' : m.run s' with ⟨r', t'⟩
  rw [hr, hr'] at hresult hstate
  obtain rfl : r = r' := hresult
  cases r with
  | error e => exact ⟨rfl, hstate⟩
  | ok a => exact hf a hstate

theorem look {m : State → Look α}
    (hm : ∀ ⦃s s' : State⦄, s.Alike readable s' → m s = m s') :
    Discreet readable (Action.look m) := by
  intro s s' h
  have hchances : s'.chances = s.chances := by rw [h.others]
  rw [Action.run_look, Action.run_look, hm h, hchances]
  exact ⟨rfl, h.files, by rw [h.others]⟩

end Discreet

/-- The names of the commands that print files and search them. -/
def readingNames : List String := ["cat", "grep"]

theorem discreet_dispatch (hname : Text.hasChar inv.name '/' = false)
    (hreads : inv.command ∈ readingNames) : Discreet c.mayRead (dispatch c inv) := by
  obtain ⟨command, hcommand, halone, hcontext⟩ : ∃ command,
      Command.ofName? inv.command = some command ∧
      (command ≠ .exit ∧ command ≠ .sudo ∧ command ≠ .shell) ∧
      ∀ c : Context, Discreet c.mayRead (runAlone c inv command) := by
    obtain hcat | hgrep := List.mem_pair.mp hreads
    · exact ⟨.cat, by rw [hcat]; decide, by decide,
        fun _ => Discreet.look fun _ _ h => cat_eq_of_alike h inv⟩
    · exact ⟨.grep, by rw [hgrep]; decide, by decide,
        fun _ => Discreet.look fun _ _ h => grep_eq_of_alike h inv⟩
  obtain hroom | hroom := Nat.lt_or_ge c.room 2
  · intro s s' h
    rw [run_dispatch_of_room_lt hname hcommand hroom, run_dispatch_of_room_lt hname hcommand hroom]
    exact ⟨rfl, h⟩
  · obtain ⟨room, hroom⟩ := Nat.exists_eq_add_of_le' hroom
    rw [dispatch_of_alone hname hcommand halone hroom]
    exact .bind (hcontext { c with room }) fun _ => .pure _

/-- **What a user may not read stays unseen.** Printing files and searching them comes to the same
in all states that differ in nothing but what files hold that the user may not read: the same
texts and complaints, the same draws, whatever the arguments, the flags and the input are. So does a
command of these names, which leaves the states alike. -/
theorem secrets_unseen (c : Context) {s s' : State} (h : s.Alike c.mayRead s')
    (inv : Invocation) :
    (cat c s inv = cat c s' inv ∧ grep c s inv = grep c s' inv) ∧
    (Text.hasChar inv.name '/' = false → inv.command ∈ readingNames →
      ((dispatch c inv).run s).1 = ((dispatch c inv).run s').1 ∧
      State.Alike c.mayRead ((dispatch c inv).run s).2 ((dispatch c inv).run s').2) :=
  ⟨⟨cat_eq_of_alike h inv, grep_eq_of_alike h inv⟩,
    fun hname hreads => discreet_dispatch hname hreads h⟩

/-- A state with a file in the root that only the superuser may read. -/
def sealed (content : Content) : State :=
  { bare with
    files := FileSystem.fresh
      [([], ⟨[], .directory ["key"], 0o755, "root", "root", 0⟩),
        (["key"], ⟨["key"], .file content, 0o600, "root", "root", 0⟩)] "/" "/" }

theorem secrets_unseen_example :
    ((sealed (.fixed "xyzzy")).Alike guest.mayRead (sealed (.madeUp .shadow)) ∧
      Text.hasChar (Invocation.ofWords "cat" ["/key"]).name '/' = false ∧
      (Invocation.ofWords "cat" ["/key"]).command ∈ readingNames) ∧
    (cat guest (sealed (.fixed "xyzzy")) (.ofWords "cat" ["/key"]) =
        cat guest (sealed (.madeUp .shadow)) (.ofWords "cat" ["/key"]) ∧
      grep guest (sealed (.fixed "xyzzy")) (.ofWords "cat" ["/key"]) =
        grep guest (sealed (.madeUp .shadow)) (.ofWords "cat" ["/key"])) ∧
    ((dispatch guest (.ofWords "cat" ["/key"])).run (sealed (.fixed "xyzzy"))).1 =
      ((dispatch guest (.ofWords "cat" ["/key"])).run (sealed (.madeUp .shadow))).1 := by
  have halike : (sealed (.fixed "xyzzy")).Alike guest.mayRead (sealed (.madeUp .shadow)) :=
    ⟨.of_nodes (.cons ⟨rfl, .same _⟩ (.cons ⟨rfl, .secret _ rfl rfl⟩ .nil)) .nil, rfl⟩
  have hname : Text.hasChar (Invocation.ofWords "cat" ["/key"]).name '/' = false := by decide
  have hreads : (Invocation.ofWords "cat" ["/key"]).command ∈ readingNames := by decide
  obtain ⟨hlooks, hdispatch⟩ := secrets_unseen guest halike (.ofWords "cat" ["/key"])
  exact ⟨⟨halike, hname, hreads⟩, hlooks, (hdispatch hname hreads).1⟩

/-! ## Lines -/

/-- Whether the name of a command of a line is bare and one of those that read files. -/
def Segment.OnlyReads (segment : Segment) : Prop :=
  ∀ inv, Invocation.parse? segment.text = some inv →
    Text.hasChar inv.name '/' = false ∧ inv.command ∈ readingNames

theorem discreet_runSegments {segments : List Segment}
    (h : ∀ segment ∈ segments, segment.OnlyReads) (outputs : List String) (failed : Bool) :
    Discreet c.mayRead (runSegments c outputs failed segments) := by
  refine runSegments_induction .pure (fun _ _ => .bind) (fun segment hsegment inv hinv input? => ?_)
    outputs failed
  obtain ⟨hname, hreads⟩ := h segment hsegment inv hinv
  exact discreet_dispatch (c := { c with input? }) hname hreads

/-- **A line of commands that read files** prints the same in states that are alike, also where one
of them searches what another one printed. -/
theorem runLine_unseen (c : Context) {s s' : State} (halike : s.Alike c.mayRead s') {line : String}
    (h : ∀ segment ∈ split line, segment.OnlyReads) :
    ((runLine c line).run s).1 = ((runLine c line).run s').1 := by
  rw [runLine]
  cases hroom : c.room with
  | zero =>
    rw [Context.call_of_no_room hroom]
    rfl
  | succ room =>
    rw [call_bind hroom]
    exact (discreet_runSegments (c := { c with room }) h [] false halike).1

end Shell

end Honeypot
