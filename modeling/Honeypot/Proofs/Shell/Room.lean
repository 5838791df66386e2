import Honeypot.Proofs.Regex.Room
import Honeypot.Proofs.Shell.Segments

/-!
# Room for calls

How many calls may lie in one another decides nothing but whether running a line gives up:
whatever does not end for want of room ends in the same way with more room (`agrees_dispatch`).
-/

namespace Honeypot

/-! ## Walks -/

namespace FileSystem

variable {fs : FileSystem}

theorem mapM_eq_some_of {α β : Type} {f g : α → Option β} {xs : List α} {ys : List β}
    (hfg : ∀ x y, f x = some y → g x = some y) (h : xs.mapM f = some ys) : xs.mapM g = some ys := by
  induction xs generalizing ys with
  | nil => exact h
  | cons x xs ih =>
    simp only [List.mapM_cons, Option.bind_eq_bind, Option.bind_eq_some_iff, Option.pure_def,
      Option.some.injEq] at h ⊢
    obtain ⟨y, hy, rest, hrest, rfl⟩ := h
    exact ⟨y, hfg x y hy, rest, ih hrest, rfl⟩

theorem walkFrom_succ {room : Nat} {p : Path} {node : Node} {nodes : List (Path × Node)}
    (h : fs.walkFrom room p node = some nodes) : fs.walkFrom (room + 1) p node = some nodes := by
  induction room generalizing p node nodes with
  | zero => cases h
  | succ room ih =>
    unfold walkFrom at h ⊢
    split at h
    · next hdirectory =>
      rw [if_pos hdirectory]
      simp only [Option.bind_eq_bind, Option.bind_eq_some_iff] at h ⊢
      obtain ⟨below, hbelow, hnodes⟩ := h
      refine ⟨below, mapM_eq_some_of (fun name inner hinner => ?_) hbelow, hnodes⟩
      split at hinner
      · next child hchild =>
        split at hinner
        · next hdown =>
          rw [if_pos hdown]
          exact ih hinner
        · cases hinner
      · exact hinner
    · next hfile =>
      rw [if_neg hfile]
      exact h

theorem walkFrom_add {room : Nat} (more : Nat) {p : Path} {node : Node}
    {nodes : List (Path × Node)} (h : fs.walkFrom room p node = some nodes) :
    fs.walkFrom (room + more) p node = some nodes := by
  induction more with
  | zero => exact h
  | succ more ih => exact walkFrom_succ ih

/-- **A walk with more room** finds the same, unless there was no room for the first one. -/
theorem walk_add (room more : Nat) (path : String) :
    fs.walk room path = .error ⟨.tooDeep, path⟩ ∨
      fs.walk (room + more) path = fs.walk room path := by
  unfold walk
  dsimp only
  cases fs.lookup (fs.resolve path) with
  | none => exact .inr rfl
  | some node =>
    cases hwalk : fs.walkFrom room (fs.resolve path) node with
    | none =>
      dsimp only
      rw [hwalk]
      exact .inl rfl
    | some nodes =>
      dsimp only
      rw [hwalk, walkFrom_add more hwalk]
      exact .inr rfl

end FileSystem

namespace Shell

variable {c : Context} {more : Nat}

/-- The same context with room for more calls. -/
def Context.roomier (c : Context) (more : Nat) : Context := { c with room := c.room + more }

/-! ## Searches -/

theorem mapM_unless {ε α β : Type} {e : ε} {f g : α → Except ε β}
    (hfg : ∀ x, f x = .error e ∨ g x = f x) (xs : List α) :
    xs.mapM f = .error e ∨ xs.mapM g = xs.mapM f := by
  induction xs with
  | nil => exact .inr rfl
  | cons x xs ih =>
    rw [List.mapM_cons, List.mapM_cons]
    obtain hfault | hsame := hfg x
    · rw [hfault]
      exact .inl rfl
    · rw [hsame]
      cases f x with
      | error e' => exact .inr rfl
      | ok y =>
        obtain hfault | hsame := ih
        · rw [hfault]
          exact .inl rfl
        · rw [hsame]
          exact .inr rfl

theorem findLines_roomier (tests : NameTests) (shown : Path → String) (refused : List Path)
    (walked : List (Path × Node)) :
    findLines (c.roomier more) tests shown refused walked =
      findLines c tests shown refused walked := by
  have hread : (c.roomier more).mayRead = c.mayRead := rfl
  induction walked generalizing refused with
  | nil => rfl
  | cons found walked ih =>
    unfold findLines
    simp only [ih, hread]

theorem findFrom_roomier (fs : FileSystem) (tests : NameTests) (start : String) :
    findFrom c fs tests start = .error .tooDeep ∨
      findFrom (c.roomier more) fs tests start = findFrom c fs tests start := by
  unfold findFrom
  obtain hdeep | hsame := fs.walk_add c.room more start
  · rw [hdeep]
    exact .inl rfl
  · have hwalk : fs.walk (c.roomier more).room start = fs.walk c.room start := hsame
    refine .inr ?_
    rw [hwalk]
    cases fs.walk c.room start with
    | error e => rfl
    | ok walked =>
      dsimp only
      rw [findLines_roomier]

theorem find_roomier (s : State) (inv : Invocation) :
    find c s inv = .error .tooDeep ∨ find (c.roomier more) s inv = find c s inv := by
  unfold find
  dsimp only
  have hone (tests : NameTests) (start : String) :
      findFrom c s.files tests start = .error .tooDeep ∨
        findFrom (c.roomier more) s.files tests start = findFrom c s.files tests start :=
    findFrom_roomier s.files tests start
  obtain hdeep | hsame := mapM_unless (hone _) _
  · rw [hdeep]
    exact .inl rfl
  · rw [hsame]
    exact .inr rfl

theorem linePattern_add (room more : Nat) (text : String) (anyCase : Bool) :
    linePattern room text anyCase = .error .tooDeep ∨
      linePattern (room + more) text anyCase = linePattern room text anyCase := by
  unfold linePattern
  obtain hdeep | hparse := Regex.parse_add room more text anyCase
  · rw [hdeep]
    exact .inl rfl
  · rw [hparse]
    exact .inr rfl

theorem agrees_grep (s : State) (inv : Invocation) :
    AgreesUnless .tooDeep (grep c s inv) (grep (c.roomier more) s inv) := by
  unfold grep
  cases inv.args with
  | nil => exact .refl _
  | cons first files =>
    refine .ite (.refl _) (.bind ?_ fun pattern => .refl _)
    exact .lift (linePattern_add c.room more (unquote first) (inv.hasLetter 'i'))

/-! ## Commands -/

theorem makeMissing_roomier (paths : List String) :
    makeMissing (c.roomier more) paths = makeMissing c paths := by
  induction paths with
  | nil => rfl
  | cons path paths ih =>
    unfold makeMissing
    rw [ih]
    rfl

theorem mkdirTarget_roomier : mkdirTarget (c.roomier more) = mkdirTarget c := by
  funext parents target
  unfold mkdirTarget
  simp only [makeMissing_roomier]
  rfl

theorem chmodTargets_roomier (change : String) (done targets : List String) :
    chmodTargets (c.roomier more) change done targets = chmodTargets c change done targets := by
  induction targets generalizing done with
  | nil => rfl
  | cons target targets ih =>
    unfold chmodTargets
    simp only [ih]
    rfl

theorem mkdir_roomier (inv : Invocation) : mkdir (c.roomier more) inv = mkdir c inv := by
  unfold mkdir
  rw [mkdirTarget_roomier]

theorem chmod_roomier (inv : Invocation) : chmod (c.roomier more) inv = chmod c inv := by
  unfold chmod
  simp only [chmodTargets_roomier]

theorem agrees_look {α : Type} {e : Fault} {m m' : State → Look α}
    (h : ∀ s, AgreesUnless e (m s) (m' s)) : AgreesUnless e (Action.look m) (Action.look m') := by
  intro s
  rw [Action.run_look, Action.run_look]
  exact (h s s.chances).imp id fun hsame => by rw [hsame]

theorem agrees_runAlone (inv : Invocation) (command : Command) :
    AgreesUnless .tooDeep (runAlone c inv command) (runAlone (c.roomier more) inv command) := by
  cases command with
  | mkdir => exact .of_eq (mkdir_roomier inv)
  | chmod => exact .of_eq (chmod_roomier inv)
  | find => exact .bind (.refl _) fun s => agrees_look fun _ => .lift (find_roomier s inv)
  | grep => exact .bind (.refl _) fun s => agrees_look fun _ => agrees_grep s inv
  | _ => exact .of_eq rfl

theorem agrees_call {α : Type} {f f' : Context → Action α}
    (h : ∀ c : Context, AgreesUnless .tooDeep (f c) (f' (c.roomier more))) :
    AgreesUnless .tooDeep (liftM c.call >>= f) (liftM (c.roomier more).call >>= f') := by
  intro s
  rw [run_bind, run_bind, run_lift, run_lift]
  cases hroom : c.room with
  | zero =>
    rw [Context.call_of_no_room hroom]
    exact .inl rfl
  | succ room =>
    have hmore : (c.roomier more).room = room + more + 1 := by
      show c.room + more = _
      omega
    rw [Context.call_of_room hroom, Context.call_of_room hmore]
    exact h _ s

/-! ## Lines -/

/-- **What runs a line agrees with itself in a roomier context**, unless it ends for want of
room. -/
theorem agrees_runs (more : Nat) :
    (∀ (c : Context) (line : String),
      AgreesUnless .tooDeep (runLine c line) (runLine (c.roomier more) line)) ∧
    (∀ (c : Context) (outputs : List String) (failed : Bool) (segments : List Segment),
      AgreesUnless .tooDeep (runSegments c outputs failed segments)
        (runSegments (c.roomier more) outputs failed segments)) ∧
    (∀ (c : Context) (inv : Invocation),
      AgreesUnless .tooDeep (dispatch c inv) (dispatch (c.roomier more) inv)) ∧
    (∀ (c : Context) (inv : Invocation) (command : Command),
      AgreesUnless .tooDeep (runCommand c inv command)
        (runCommand (c.roomier more) inv command)) := by
  -- By the recursion of the four functions. All but `runSegments` make a call first: it leaves
  -- both contexts with one call less, or fails for want of room.
  apply runLine.mutual_induct
    (fun c line => AgreesUnless .tooDeep (runLine c line) (runLine (c.roomier more) line))
    (fun c outputs failed segments => AgreesUnless .tooDeep (runSegments c outputs failed segments)
      (runSegments (c.roomier more) outputs failed segments))
    (fun c inv => AgreesUnless .tooDeep (dispatch c inv) (dispatch (c.roomier more) inv))
    (fun c inv command => AgreesUnless .tooDeep (runCommand c inv command)
      (runCommand (c.roomier more) inv command))
  case case1 =>
    intro c line ih
    rw [runLine, runLine]
    exact agrees_call ih
  case case2 =>
    intro c outputs failed
    rw [runSegments_nil, runSegments_nil]
    exact .refl _
  case case3 =>
    intro c outputs failed segment rest hpassed ih
    rw [runSegments_of_passedOver hpassed, runSegments_of_passedOver hpassed]
    exact ih
  case case4 =>
    intro c outputs failed segment rest _ hnone ih
    rw [runSegments_of_nameless hnone, runSegments_of_nameless hnone]
    exact ih
  case case5 =>
    intro c outputs failed segment rest hruns inv hinv _ _ _ ihone ihrest
    have hruns := Bool.eq_false_iff.mpr hruns
    rw [runSegments_of_runs hruns hinv, runSegments_of_runs hruns hinv]
    refine .bind ihone fun response => ?_
    cases response with
    | exit => exact .refl _
    | text output => exact ihrest output
  case case6 =>
    intro c inv ihprogram ihcommand
    rw [dispatch, dispatch]
    refine agrees_call fun c => .ite (agrees_call fun c => .bind (.refl _) fun found => ?_) ?_
    · cases found with
      | text answer => exact .refl _
      | program name =>
        dsimp only
        cases Command.ofName? name with
        | none => exact .refl _
        | some command => exact ihprogram c name command
    · cases Command.ofName? inv.command with
      | none => exact .refl _
      | some command => exact ihcommand c command
  case case7 =>
    intro c inv command ihsudo ihscript
    rw [runCommand, runCommand]
    refine agrees_call fun c => ?_
    cases command with
    | exit => exact .refl _
    | «sudo» =>
      refine .ite (.refl _) (.ite (.refl _) ?_)
      split
      · exact .refl _
      · next sub hsub => exact .ite (.refl _) (ihsudo c sub hsub)
    | shell =>
      dsimp only
      split
      · next hscript => exact ihscript c hscript
      · exact .refl _
    | _ => exact .bind (agrees_runAlone inv _) fun output => .refl _

theorem agrees_dispatch (c : Context) (more : Nat) (inv : Invocation) :
    AgreesUnless .tooDeep (dispatch c inv) (dispatch (c.roomier more) inv) :=
  (agrees_runs more).2.2.1 c inv

end Shell

end Honeypot
