import Honeypot.Shell.Changes
import Honeypot.Shell.Downloads
import Honeypot.Shell.Environment
import Honeypot.Shell.Identity
import Honeypot.Shell.Listing
import Honeypot.Shell.Probes
import Honeypot.Shell.Processes
import Honeypot.Shell.Search
import Honeypot.Shell.Size

/-!
# Running lines

A line is run command by command. Three commands run others: `sudo` runs the words after its
options as the superuser, a shell runs a script as a line, and a program that is named by its path
stands for the command of its name. What they run is always shorter than what they were given, so
running ends; it also ends, with a fault, where too many calls lie in one another.
-/

namespace Honeypot.Shell

/-! ## Commands that run no others -/

/-- The text that a command prints which only looks at the state; the other commands have none. -/
def lookText? (c : Context) (s : State) (inv : Invocation) : Command → Option (Look String)
  | .whoami => some (pure (whoami c))
  | .id => some (pure (identity c inv))
  | .uname => some (Look.certain (uname c inv))
  | .hostname => some (pure (hostname c inv))
  | .uptime => some (Look.chance (uptime c inv))
  | .date => some (Look.certain (date c))
  | .nproc => some (pure (nproc c))
  | .w => some (Look.chance (w c))
  | .lscpu => some (pure (lscpu c))
  | .detectVirt => some (pure detectVirt)
  | .dmidecode => some (pure (dmidecode c inv))
  | .lspci => some (pure (lspci c inv))
  | .dmesg => some (Look.certain (dmesg c))
  | .pwd => some (pure (pwd s))
  | .ls => some (ls c s inv)
  | .cat => some (cat c s inv)
  | .find => some (Look.certain (find c s inv))
  | .grep => some (grep c s inv)
  | .which => some (pure (which s inv))
  | .ifconfig => some (Look.chance (ifconfig c inv))
  | .ip => some (Look.certain (ip c inv))
  | .netstat => some (Look.certain (netstat c inv))
  | .ss => some (Look.certain (ss c inv))
  | .ping => some (Look.chance (ping inv))
  | .ps => some (Look.chance (ps c inv))
  | .top => some (Look.chance (top c))
  | .free => some (Look.chance (free c inv))
  | .df => some (Look.chance (df c inv))
  | .clear => some (pure clear)
  | .env => some (pure (env s inv))
  | .sleep => some (pure (sleep inv))
  | _ => none

/-- Runs a command that runs no others and does not end the session. -/
def runAlone (c : Context) (inv : Invocation) : Command → Action String
  | .cd => cd c inv
  | .echo => echo c inv
  | .touch => touch c inv
  | .mkdir => mkdir c inv
  | .rm => rm inv
  | .chmod => chmod c inv
  | .wget => wget c inv
  | .curl => curl c inv
  | .history => history inv
  | .export => exportVariables inv
  | command => do
    let s ← get
    match lookText? c s inv command with
    | some text => Action.look fun _ => text
    | none => pure ""

/-! ## Commands that run others -/

/-- What is found at the path of a command. -/
inductive Executable where
  /-- A program that stands for a command of the given name. -/
  | program (name : String)
  /-- Something that does nothing, or a complaint. -/
  | text (answer : String)
  deriving Repr, DecidableEq

/-- Looks at what is at a path, as far as the user may run it. -/
def executableAt (c : Context) (fs : FileSystem) (path : String) : Look Executable :=
  let complain (what : String) : Look Executable :=
    pure (.text ("bash: " ++ path ++ ": " ++ what ++ "\n"))
  match fs.get path with
  | .error _ => complain "No such file or directory"
  | .ok node =>
    if node.isDirectory then complain "Is a directory"
    else if node.bits &&& 0o111 = 0 || !c.mayEnter node then complain "Permission denied"
    else if node.isProgram then pure (.program node.name)
    else do
      let text ← Look.noise (node.read c.device c.now)
      if Text.startsWith text "\x7fELF" then
        complain "cannot execute binary file: Exec format error"
      else pure (.text "")

/-- The first of some targets that is missing. -/
def missingTarget? (fs : FileSystem) (targets : List String) : Option String :=
  targets.find? fun target => !fs.has target

mutual

def runLine (c : Context) (line : String) : Action Response := do
  runSegments (← c.call) [] false (split line)
  termination_by 3 * line.length + 4
  decreasing_by
    have := segmentsSize_split line
    omega

/-- Runs the commands of a line in order. `outputs` holds what was printed so far, the latest
first, and `failed` tells whether the latest command has failed. A command after two ampersands
or two bars is passed over if the latest command did not end as it asks for; a command after one
bar takes the latest output as its input. -/
def runSegments (c : Context) (outputs : List String) (failed : Bool) :
    List Segment → Action Response
  | [] => pure (.text (String.join outputs.reverse))
  | segment :: rest =>
    if segment.joint = .onSuccess && failed || segment.joint = .onFailure && !failed then
      runSegments c outputs failed rest
    else
      match _h : Invocation.parse? segment.text with
      | none => runSegments c outputs failed rest
      | some inv => do
        let piped := segment.joint = .pipe
        let before := if piped then outputs.drop 1 else outputs
        let input? := if piped then some (outputs.headD "") else c.input?
        match ← dispatch { c with input? := input? } inv with
        | .exit => pure .exit
        | .text output => runSegments c (output :: before) (inv.failed output) rest
  termination_by segments => 3 * segmentsSize segments
  decreasing_by
    · simp only [segmentsSize, List.map_cons, Number.sum_cons]
      omega
    · simp only [segmentsSize, List.map_cons, Number.sum_cons]
      omega
    · have := tokensSize_of_parse? _h
      simp only [segmentsSize, List.map_cons, Number.sum_cons]
      omega
    · simp only [segmentsSize, List.map_cons, Number.sum_cons]
      omega

/-- Runs a command: one of the table, or what is at the path that stands in its place. -/
def dispatch (c : Context) (inv : Invocation) : Action Response := do
  let c ← c.call
  if Text.hasChar inv.name '/' then
    let c ← c.call
    match ← Action.look fun s => executableAt c s.files inv.name with
    | .text answer => pure (.text answer)
    | .program name =>
      match Command.ofName? name with
      | none => pure (.text "")
      | some command => runCommand c { inv with name := name } command
  else
    match Command.ofName? inv.command with
    | none => pure (.text (commandNotFound inv.name))
    | some command => runCommand c inv command
  termination_by 3 * tokensSize inv.tokens + 1

/-- Runs a command of the table. -/
def runCommand (c : Context) (inv : Invocation) (command : Command) : Action Response := do
  let c ← c.call
  match command with
  | .exit => pure .exit
  | .sudo =>
    if inv.tokens.isEmpty then pure (.text sudoUsage)
    else if inv.hasFlag "-l" || inv.hasFlag "--list" then pure (.text (sudoRights c))
    else
      match _h : Invocation.parse? (Text.join " " (afterSudoOptions inv.tokens)) with
      | none => pure (.text "")
      | some sub =>
        if !Text.hasChar sub.name '/' && (Command.ofName? sub.command).isNone then
          pure (.text ("sudo: " ++ sub.name ++ ": command not found\n"))
        else dispatch { c with user := "root" } sub
  | .shell =>
    if _h : "-c" ∈ inv.tokens then
      runLine { c with input? := none } (unquote (Text.join " " (afterWord "-c" inv.tokens)))
    else do
      match missingTarget? (← Action.files) inv.args with
      | some target =>
        pure (.text (inv.name ++ ": " ++ target ++ ": No such file or directory\n"))
      | none => pure (.text "")
  | other => do pure (.text (← runAlone c inv other))
  termination_by 3 * tokensSize inv.tokens
  decreasing_by
    · have := tokensSize_of_parse? _h
      have := length_join_le (afterSudoOptions inv.tokens)
      have := tokensSize_afterSudoOptions inv.tokens
      omega
    · have := length_unquote_le (Text.join " " (afterWord "-c" inv.tokens))
      have := length_join_le (afterWord "-c" inv.tokens)
      have := tokensSize_afterWord _h
      have hword : ("-c" : String).length = 2 := rfl
      omega

end

end Honeypot.Shell
