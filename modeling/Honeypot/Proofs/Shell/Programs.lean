import Honeypot.Proofs.FileSystem.Absence
import Honeypot.Proofs.Shell.Bars
import Honeypot.Proofs.Shell.Room
import Honeypot.Proofs.Shell.Tails

/-!
# Commands named by their programs

A path that leads to a program stands for the command of the program's name. The command then does
the same, one call deeper (`run_dispatch_path`). What follows it in the line may differ: whether a
command has failed is told by whether its output begins with the name that was typed, and a command
complains by the name of the program (`path_stands_for_name_iff`).
-/

namespace Honeypot.Shell

/-! ## Outcomes -/

/-- What becomes of commands, as far as they run: one that ends the session or fails with a fault
has no output, and nothing becomes of those behind it. -/
def outcomesFrom (c : Context) (outputs : List String) (failed : Bool) (s : State) :
    List Segment → List Outcome
  | [] => []
  | segment :: rest =>
    if segment.isPassedOver failed then .passedOver :: outcomesFrom c outputs failed s rest
    else
      match Invocation.parse? segment.text with
      | none => outcomesFrom c outputs failed s rest
      | some inv =>
        let input? := segment.takes? c.input? outputs
        match (dispatch { c with input? := input? } inv).run s with
        | (.ok (.text output), s') =>
          .ran input? output ::
            outcomesFrom c (output :: segment.leaves outputs) (inv.failed output) s' rest
        | _ => []

/-- What becomes of the commands of a line. -/
def outcomes (c : Context) (line : String) (s : State) : List Outcome :=
  match c.call with
  | .ok c => outcomesFrom c [] false s (split line)
  | .error _ => []

variable {c : Context} {outputs : List String} {failed : Bool} {s s' : State}
  {segments : List Segment} {turns : List Turn} {out : String}

theorem outcomesFrom_of_runs {segment : Segment} {rest : List Segment} {inv : Invocation}
    (hruns : segment.isPassedOver failed = false)
    (hinv : Invocation.parse? segment.text = some inv) :
    outcomesFrom c outputs failed s (segment :: rest) =
      match (dispatch { c with input? := segment.takes? c.input? outputs } inv).run s with
      | (.ok (.text output), s') => .ran (segment.takes? c.input? outputs) output ::
          outcomesFrom c (output :: segment.leaves outputs) (inv.failed output) s' rest
      | _ => [] := by
  rw [outcomesFrom, if_neg (Bool.eq_false_iff.mp hruns), hinv]

/-! ## Commands that ask for the one before -/

/-- Whether it matters to some commands whether the one before them has failed. -/
def AsksBefore (segments : List Segment) : Prop :=
  ∃ g ∈ segments.head?, g.joint = .onSuccess ∨ g.joint = .onFailure

theorem isPassedOver_of_not_asks {g : Segment} (h : ¬(g.joint = .onSuccess ∨ g.joint = .onFailure))
    (failed : Bool) : g.isPassedOver failed = false := by
  rw [not_or] at h
  simp [Segment.isPassedOver, h.1, h.2]

theorem isPassedOver_ne {g : Segment} (h : g.joint = .onSuccess ∨ g.joint = .onFailure)
    {failed failed' : Bool} (hne : failed ≠ failed') :
    g.isPassedOver failed ≠ g.isPassedOver failed' := by
  unfold Segment.isPassedOver
  revert failed failed'
  obtain h | h := h
  · rw [h]
    decide
  · rw [h]
    decide

section Asks

variable (hnamed : ∀ g ∈ segments, (Invocation.parse? g.text).isSome = true)

include hnamed

/-- Commands that do not ask for the one before do the same whether it has failed or not. -/
theorem goesOn_of_not_asks (h : ¬AsksBefore segments) (c : Context) (outputs : List String)
    (failed failed' : Bool) :
    runSegments c outputs failed segments = runSegments c outputs failed' segments ∧
    ∀ s, outcomesFrom c outputs failed s segments = outcomesFrom c outputs failed' s segments := by
  cases segments with
  | nil => exact ⟨by rw [runSegments_nil, runSegments_nil], fun _ => rfl⟩
  | cons g rest =>
    have hruns := isPassedOver_of_not_asks fun hasks => h ⟨g, rfl, hasks⟩
    obtain ⟨inv, hinv⟩ := Option.isSome_iff_exists.mp (hnamed g List.mem_cons_self)
    refine ⟨?_, fun s => ?_⟩
    · rw [runSegments_of_runs (hruns failed) hinv, runSegments_of_runs (hruns failed') hinv]
    · rw [outcomesFrom_of_runs (hruns failed) hinv, outcomesFrom_of_runs (hruns failed') hinv]

/-- Of commands that ask for the one before, the first one runs or is passed over according to
whether it has failed. -/
theorem outcomesFrom_ne_of_asks (h : AsksBefore segments) (c : Context) (outputs : List String)
    (s : State) {failed failed' : Bool} (hne : failed ≠ failed') :
    outcomesFrom c outputs failed s segments ≠ outcomesFrom c outputs failed' s segments := by
  have hran {g : Segment} {rest : List Segment} {failed : Bool}
      (hruns : g.isPassedOver failed = false) {inv : Invocation}
      (hinv : Invocation.parse? g.text = some inv) :
      (outcomesFrom c outputs failed s (g :: rest)).head? ≠ some .passedOver := by
    rw [outcomesFrom_of_runs hruns hinv]
    split
    · nofun
    · nofun
  have hpassed {g : Segment} {rest : List Segment} {failed : Bool}
      (hpasses : g.isPassedOver failed = true) :
      (outcomesFrom c outputs failed s (g :: rest)).head? = some .passedOver := by
    rw [outcomesFrom, if_pos hpasses]
    rfl
  cases segments with
  | nil =>
    obtain ⟨_, hnone, _⟩ := h
    cases hnone
  | cons g rest =>
    obtain ⟨_, ⟨⟩, hasks⟩ := h
    obtain ⟨inv, hinv⟩ := Option.isSome_iff_exists.mp (hnamed g List.mem_cons_self)
    have hpasses := isPassedOver_ne hasks hne
    intro heq
    cases hf : g.isPassedOver failed with
    | true =>
      have hf' : g.isPassedOver failed' = false := by
        rw [hf] at hpasses
        simpa using hpasses.symm
      exact hran hf' hinv (heq ▸ hpassed hf)
    | false =>
      have hf' : g.isPassedOver failed' = true := by
        rw [hf] at hpasses
        simpa using hpasses.symm
      exact hran hf hinv (heq ▸ hpassed hf')

/-- Whether the command before has failed makes no difference exactly if it is the same or does
not matter. -/
theorem goesOn_iff (c : Context) (outputs : List String) (s : State) (failed failed' : Bool) :
    (runSegments c outputs failed segments).run s = (runSegments c outputs failed' segments).run s ∧
      outcomesFrom c outputs failed s segments = outcomesFrom c outputs failed' s segments ↔
    (AsksBefore segments → failed = failed') := by
  constructor
  · rintro ⟨-, hsame⟩ hasks
    by_contra hne
    exact outcomesFrom_ne_of_asks hnamed hasks c outputs s hne hsame
  · intro h
    by_cases hasks : AsksBefore segments
    · rw [h hasks]
      exact ⟨rfl, rfl⟩
    · obtain ⟨hruns, hsame⟩ := goesOn_of_not_asks hnamed hasks c outputs failed failed'
      exact ⟨by rw [hruns], hsame s⟩

end Asks

section First

variable {line text : String} {later : List Segment} {inv : Invocation} {room : Nat}
  (hroom : c.room = room + 1) (hsplit : split line = ⟨.start, text⟩ :: later)
  (hinv : Invocation.parse? text = some inv)

include hroom hsplit hinv

theorem outcomes_first : outcomes c line s =
    match (dispatch { c with room } inv).run s with
    | (.ok (.text output), s') => .ran c.input? output ::
        outcomesFrom { c with room } [output] (inv.failed output) s' later
    | _ => [] := by
  have hfirst : (⟨.start, text⟩ : Segment).isPassedOver false = false := rfl
  unfold outcomes
  rw [Context.call_of_room hroom, hsplit]
  exact outcomesFrom_of_runs hfirst hinv

end First

/-! ## Paths of programs -/

/-- Whether a path leads to a program that the user may run and that stands for a command. -/
structure LeadsTo (c : Context) (fs : FileSystem) (path name : String) : Prop where
  plain : IsPlain path
  slash : Text.hasChar path '/' = true
  found : ∃ node, fs.get path = .ok node ∧ node.isProgram = true ∧ node.bits &&& 0o111 ≠ 0 ∧
    c.mayEnter node = true ∧ node.name = name
  known : (Command.ofName? name).isSome = true

theorem plain_of_known {name : String} (h : (Command.ofName? name).isSome = true) :
    IsPlain name ∧ Text.hasChar name '/' = false ∧ Text.lower name = name := by
  have htable : ∀ entry ∈ Command.table, IsPlain entry.1 ∧ Text.hasChar entry.1 '/' = false ∧
      Text.lower entry.1 = entry.1 := by decide +kernel
  obtain ⟨entry, hentry, rfl⟩ := List.mem_map.mp ((Assoc.isSome_lookup_iff _ _).mp h)
  exact htable entry hentry

theorem LeadsTo.withRoom {fs : FileSystem} {path name : String} (h : LeadsTo c fs path name)
    (room : Nat) : LeadsTo { c with room } fs path name :=
  ⟨h.plain, h.slash, h.found, h.known⟩

theorem isDirectory_of_isProgram {node : Node} (h : node.isProgram = true) :
    node.isDirectory = false := by
  unfold Node.isProgram Node.content? at h
  unfold Node.isDirectory
  cases hbody : node.body with
  | directory children =>
    rw [hbody] at h
    cases h
  | file content => rfl

theorem executableAt_of_leadsTo {fs : FileSystem} {path name : String}
    (h : LeadsTo c fs path name) : executableAt c fs path = pure (.program name) := by
  obtain ⟨node, hget, hprogram, hbits, henter, rfl⟩ := h.found
  have hmay : ¬(decide (node.bits &&& 0o111 = 0) || !c.mayEnter node) = true := by
    rw [henter]
    simpa using hbits
  unfold executableAt
  rw [hget]
  dsimp only
  rw [isDirectory_of_isProgram hprogram, hprogram]
  exact if_neg hmay

/-- **A command named by its program** does what it does when it is named by itself, and takes one
more call for it. -/
theorem run_dispatch_path {path name : String} (h : LeadsTo c s.files path name)
    (raw raw' : String) (words : List String) :
    (dispatch (c.roomier 1) ⟨raw, path, words⟩).run s =
      (dispatch c ⟨raw', name, words⟩).run s := by
  obtain ⟨-, hslash, hlower⟩ := plain_of_known h.known
  obtain ⟨command, hcommand⟩ := Option.isSome_iff_exists.mp h.known
  have hnamed : Command.ofName? (Invocation.mk raw' name words).command = some command := by
    show Command.ofName? (Text.lower name) = some command
    rw [hlower]
    exact hcommand
  have hroomier : (c.roomier 1).room = c.room + 1 := rfl
  rw [dispatch_of_command hslash hnamed, dispatch, call_bind hroomier]
  dsimp only
  rw [if_pos h.slash]
  -- What is left of the room is the same on both sides.
  have hsame : ({ c.roomier 1 with room := c.room } : Context) = c := rfl
  rw [hsame]
  cases hroom : c.room with
  | zero =>
    rw [Context.call_of_no_room hroom]
    rfl
  | succ room =>
    rw [call_bind hroom, call_bind hroom]
    have hlook : (Action.look fun s => executableAt { c with room } s.files path).run s =
        (.ok (.program name), s) := by
      rw [Action.run_look, executableAt_of_leadsTo (h.withRoom room)]
      rfl
    rw [run_bind_of_ok hlook]
    dsimp only
    rw [hcommand]
    exact congrArg (fun m => m.run s) (runCommand_raw _ raw raw' name words command)

/-- The path does what the name does unless there is no room for the call. -/
theorem run_dispatch_path_cases {path name : String} (h : LeadsTo c s.files path name)
    (raw raw' : String) (words : List String) :
    ((dispatch c ⟨raw, path, words⟩).run s).1 = .error .tooDeep ∨
      (dispatch c ⟨raw, path, words⟩).run s = (dispatch c ⟨raw', name, words⟩).run s := by
  rw [← run_dispatch_path h raw]
  exact (agrees_dispatch c 1 ⟨raw, path, words⟩ s).imp id Eq.symm

theorem lookup_fresh (tree : Tree) (home cwd : String) (p : Path) :
    (FileSystem.fresh tree home cwd).lookup p = tree.lookup p := rfl

section Device

variable {device : Persona} (hdevice : device ∈ Persona.catalogue) {e : Entry}
  (he : e ∈ Layout.programFiles device)
  (hknown : (Command.ofName? e.path.name).isSome = true)

include hdevice he hknown

/-- **The programs of a device** lead to the commands of their names, wherever in a session the
user finds them and may run them. -/
theorem leadsTo_of_program {fs : FileSystem} (hfs : fs.Reachable) {node : Node}
    (hnode : fs.lookup e.path = some node) (hprogram : node.isProgram = true)
    (hbits : node.bits &&& 0o111 ≠ 0) (henter : c.mayEnter node = true) :
    LeadsTo c fs e.path.text e.path.name := by
  have hplaces : ∀ p ∈ Persona.catalogue, ∀ e ∈ Layout.programFiles p,
      IsPlain e.path.text ∧ Text.hasChar e.path.text '/' = true ∧ e.path.IsCanonical := by
    simp only [Layout.programFiles, Layout.userBinNames, Layout.userSbinNames, List.mem_append,
      Layout.mem_programs_sort]
    simp only [← List.mem_append]
    decide +kernel
  obtain ⟨hplain, hslash, hcanonical⟩ := hplaces device hdevice e he
  refine ⟨hplain, hslash, ⟨node, ?_, hprogram, hbits, henter, ?_⟩, hknown⟩
  · rw [FileSystem.get_eq_ok_iff, FileSystem.resolve_text hcanonical]
    exact hnode
  · exact congrArg Path.name (hfs.labelled.path_eq hnode)

/-- In a new session every program leads to its command, whoever the user is. -/
theorem leadsTo_fresh (c : Context) (home cwd : String) :
    LeadsTo c (FileSystem.fresh (Layout.tree device) home cwd) e.path.text e.path.name := by
  obtain ⟨node, hnode, hprogram, hmode⟩ := Layout.lookup_program hdevice he
  have hbits : node.bits = 0o755 := by
    unfold Node.bits
    rw [hmode]
    rfl
  have henter : c.mayEnter node = true := by
    unfold Context.mayEnter Context.may
    rw [hbits]
    split
    · exact Bool.or_true _
    · exact Bool.or_true _
  have hfound := (lookup_fresh (Layout.tree device) home cwd e.path).trans hnode
  refine leadsTo_of_program hdevice he hknown ?_ hfound hprogram ?_ henter
  · exact ⟨device, hdevice, home, cwd, [], rfl⟩
  · rw [hbits]
    decide

end Device

/-! ## Lines -/

/-- **A path that leads to a program stands for the program's name.** The command does the same,
with room for the one call that the path takes. Put in the place of the name at the beginning of a
line, the path makes the first command do the same, unless this ends for want of room. The line as
a whole ends in the same way and in the same state, and the same becomes of all its commands,
exactly if it makes no difference to the second command whether the output of the first one is that
of a failed command by the name or by the path. -/
theorem path_stands_for_name_iff (c : Context) (s : State) {path name t : String}
    (hleads : LeadsTo c s.files path name) (ht : Trails t) :
    (∀ words, (dispatch (c.roomier 1) (.ofWords path words)).run s =
      (dispatch c (.ofWords name words)).run s) ∧
    (((runLine c (path ++ t)).run s).1 = .error .tooDeep ∧ outcomes c (path ++ t) s = [] ∨
      (outcomes c (path ++ t) s).head? = (outcomes c (name ++ t) s).head? ∧
      ((runLine c (path ++ t)).run s = (runLine c (name ++ t)).run s ∧
          outcomes c (path ++ t) s = outcomes c (name ++ t) s ↔
        ∀ input? output, (outcomes c (name ++ t) s).head? = some (.ran input? output) →
          AsksBefore (split (name ++ t)).tail →
          (Invocation.ofWords path []).failed output =
            (Invocation.ofWords name []).failed output)) := by
  refine ⟨fun words => run_dispatch_path hleads _ _ words, ?_⟩
  obtain ⟨words, later, -, hsplit⟩ := exists_split_join ht
  have hone (first : String) (hfirst : IsPlain first) : ∃ text raw,
      split (first ++ t) = ⟨.start, text⟩ :: later ∧
        Invocation.parse? text = some ⟨raw, first, words⟩ := by
    have h := hsplit first [] (List.forall_mem_singleton.mpr hfirst)
    rwa [Text.join_singleton] at h
  obtain ⟨textP, rawP, hsplitP, hinvP⟩ := hone path hleads.plain
  obtain ⟨textN, rawN, hsplitN, hinvN⟩ := hone name (plain_of_known hleads.known).1
  have hnamed : ∀ g ∈ later, (Invocation.parse? g.text).isSome = true := fun g hg =>
    isSome_parse?_of_mem_split (hsplitN ▸ List.mem_cons_of_mem _ hg)
  cases hroom : c.room with
  | zero =>
    left
    unfold outcomes
    rw [runLine, Context.call_of_no_room hroom]
    exact ⟨rfl, rfl⟩
  | succ room =>
    rw [runLine_first hroom hsplitP hinvP, runLine_first hroom hsplitN hinvN,
      outcomes_first hroom hsplitP hinvP, outcomes_first hroom hsplitN hinvN, hsplitN,
      List.tail_cons]
    obtain hdeep | hsame := run_dispatch_path_cases (hleads.withRoom room) rawP rawN words
    · left
      rcases hrun : (dispatch { c with room } ⟨rawP, path, words⟩).run s with ⟨e | response, s'⟩
      · rw [hrun] at hdeep
        cases hdeep
        rw [run_bind_of_error hrun]
        exact ⟨rfl, rfl⟩
      · rw [hrun] at hdeep
        cases hdeep
    · right
      rcases hrun : (dispatch { c with room } ⟨rawN, name, words⟩).run s with
        ⟨e | (output | _), s'⟩
      · rw [hrun] at hsame
        rw [run_bind_of_error hrun, run_bind_of_error hsame, hsame]
        exact ⟨rfl, iff_of_true ⟨rfl, rfl⟩ fun _ _ hran => by cases hran⟩
      · rw [hrun] at hsame
        rw [run_bind_of_ok hrun, run_bind_of_ok hsame, hsame]
        refine ⟨rfl, ?_⟩
        dsimp only
        rw [List.cons.injEq, eq_self, true_and,
          goesOn_iff hnamed { c with room } [output] s' _ _]
        refine ⟨fun h input? printed hfirst hasks => ?_, fun h hasks => h _ _ rfl hasks⟩
        cases hfirst
        exact h hasks
      · rw [hrun] at hsame
        rw [run_bind_of_ok hrun, run_bind_of_ok hsame, hsame]
        exact ⟨rfl, iff_of_true ⟨rfl, rfl⟩ fun _ _ hran => by cases hran⟩

/-- A shell on the files of a standard device. -/
def desk : State :=
  { bare with files := FileSystem.fresh (Layout.tree Persona.standard) "/home/pi" "" }

theorem leadsTo_hostname : LeadsTo guest desk.files "/bin/hostname" "hostname" := by
  have he : Layout.file ["bin", "hostname"] (.fixed Node.programStub) 0o755 ∈
      Layout.programFiles Persona.standard := by
    simp [Layout.programFiles, Layout.programs, Layout.binNames]
  have hknown : (Command.ofName? (Path.name ["bin", "hostname"])).isSome = true := by decide
  exact leadsTo_fresh List.mem_cons_self he hknown guest "/home/pi" ""

theorem leadsTo_sleep : LeadsTo guest desk.files "/bin/sleep" "sleep" := by
  have he : Layout.file ["bin", "sleep"] (.fixed Node.programStub) 0o755 ∈
      Layout.programFiles Persona.standard := by
    simp [Layout.programFiles, Layout.programs, Layout.binNames]
  have hknown : (Command.ofName? (Path.name ["bin", "sleep"])).isSome = true := by decide
  exact leadsTo_fresh List.mem_cons_self he hknown guest "/home/pi" ""

/-- Where there is room, a path does what the command does that runs no others. -/
theorem run_path_of_alone {path name output : String} (h : LeadsTo c s.files path name)
    {command : Command} (hcommand : Command.ofName? (Text.lower name) = some command)
    (halone : command ≠ .exit ∧ command ≠ .sudo ∧ command ≠ .shell) {room : Nat}
    (hroom : c.room = room + 3) {raw : String} {words : List String}
    (hrun : (runAlone { c with room } ⟨raw, name, words⟩ command).run s = (.ok output, s)) :
    (dispatch c ⟨raw, path, words⟩).run s = (.ok (.text output), s) := by
  have hroomier : ({ c with room := room + 2 } : Context).roomier 1 = c := by
    show { c with room := room + 2 + 1 } = c
    rw [← hroom]
  have hpath := run_dispatch_path (h.withRoom (room + 2)) raw raw words
  have hname : Text.hasChar (Invocation.mk raw name words).name '/' = false :=
    (plain_of_known h.known).2.1
  rw [hroomier, dispatch_of_alone hname hcommand halone rfl, run_bind_of_ok hrun] at hpath
  exact hpath

/-- A command that succeeds may be named by its program in front of any other. -/
theorem path_stands_for_name_example :
    (LeadsTo guest desk.files "/bin/hostname" "hostname" ∧ Trails " && whoami") ∧
    (runLine guest ("/bin/hostname" ++ " && whoami")).run desk =
      (runLine guest ("hostname" ++ " && whoami")).run desk ∧
    outcomes guest ("/bin/hostname" ++ " && whoami") desk =
      outcomes guest ("hostname" ++ " && whoami") desk := by
  have htrails : Trails " && whoami" := by decide
  have hroom : guest.room = 985 + 1 := rfl
  have hsplit : split ("/bin/hostname" ++ " && whoami") =
      [⟨.start, "/bin/hostname"⟩, ⟨.onSuccess, "whoami"⟩] := by decide
  have hinv : Invocation.parse? "/bin/hostname" = some (.ofWords "/bin/hostname" []) := by decide
  have hrun : (dispatch { guest with room := 985 } (.ofWords "/bin/hostname" [])).run desk =
      (.ok (.text "raspberrypi\n"), desk) :=
    run_path_of_alone (leadsTo_hostname.withRoom 985) rfl (by decide) rfl rfl
  have hfirst : (outcomes guest ("/bin/hostname" ++ " && whoami") desk).head? =
      some (.ran none "raspberrypi\n") := by
    rw [outcomes_first hroom hsplit hinv, hrun]
    rfl
  refine ⟨⟨leadsTo_hostname, htrails⟩, ?_⟩
  obtain ⟨-, ⟨-, hnone⟩ | ⟨hsame, hiff⟩⟩ :=
    path_stands_for_name_iff guest desk leadsTo_hostname htrails
  · rw [hnone] at hfirst
    cases hfirst
  · refine hiff.mpr fun input? output hran _ => ?_
    rw [← hsame, hfirst] at hran
    cases hran
    decide

def sleepComplaint : String :=
  "sleep: missing operand\nTry 'sleep --help' for more information.\n"

/-- A command that complains by the name of its program has not failed if it was named by its
path. -/
theorem path_hides_failure :
    (LeadsTo guest desk.files "/bin/sleep" "sleep" ∧ Trails " || whoami") ∧
    (runLine guest ("/bin/sleep" ++ " || whoami")).run desk =
      (.ok (.text sleepComplaint), desk) ∧
    (runLine guest ("sleep" ++ " || whoami")).run desk =
      (.ok (.text (sleepComplaint ++ "pi\n")), desk) := by
  have hline : guest.room = 985 + 1 := rfl
  have hroom : ({ guest with room := 985 } : Context).room = 983 + 2 := rfl
  have hpath : (dispatch { guest with room := 985 } (.ofWords "/bin/sleep" [])).run desk =
      (.ok (.text sleepComplaint), desk) :=
    run_path_of_alone (leadsTo_sleep.withRoom 985) rfl (by decide) rfl rfl
  have hname : (dispatch { guest with room := 985 } (.ofWords "sleep" [])).run desk =
      (.ok (.text sleepComplaint), desk) := by
    rw [dispatch_of_alone (by decide) rfl (by decide) hroom]
    rfl
  have hsplitPath : split ("/bin/sleep" ++ " || whoami") =
      [⟨.start, "/bin/sleep"⟩, ⟨.onFailure, "whoami"⟩] := by decide
  have hsplitName : split ("sleep" ++ " || whoami") =
      [⟨.start, "sleep"⟩, ⟨.onFailure, "whoami"⟩] := by decide
  have hinvPath : Invocation.parse? "/bin/sleep" = some (.ofWords "/bin/sleep" []) := by decide
  have hinvName : Invocation.parse? "sleep" = some (.ofWords "sleep" []) := by decide
  refine ⟨⟨leadsTo_sleep, by decide⟩, ?_, ?_⟩
  · rw [runLine_first hline hsplitPath hinvPath, run_bind_of_ok hpath]
    dsimp only
    rw [runSegments_of_passedOver (by decide), runSegments_nil, run_pure]
    rfl
  · rw [runLine_first hline hsplitName hinvName, run_bind_of_ok hname]
    exact (course_whoami hroom (by decide) (by decide) .finish).run_eq

end Honeypot.Shell
