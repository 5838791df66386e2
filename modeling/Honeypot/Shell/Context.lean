import Honeypot.FileSystem.View
import Honeypot.Number.Reading
import Honeypot.Shell.Expansion
import Honeypot.Shell.Invocation

/-!
# What a command works on

A command knows the device, the user and the peer of its session, and works on a state. Commands
that only look are computations on the generators alone, so that they cannot change anything
else; the other commands are computations on the state. The draws and changes that were made
before a fault stay made.
-/

namespace Honeypot.Shell

/-- How many calls may lie in one another when a line is run. A line, the look-up of a command,
a program that is found by its path and the command itself are a call each. -/
def callRoom : Nat := 986

/-- What a command knows and cannot change. -/
structure Context where
  device : Persona
  user : String
  sessionId : String
  peerIp : String
  peerPort : Int
  /-- The clock, in seconds. -/
  now : Float
  /-- What the command before a bar printed. -/
  input? : Option String
  /-- How many more calls may lie in this one. -/
  room : Nat

/-- The generators that commands draw from. -/
structure Chances where
  /-- The generator of the session. -/
  session : Random
  /-- The generator that made-up files draw from. -/
  noise : Random
  deriving Repr, DecidableEq

/-- A program that fetches files. -/
inductive Tool where
  | wget
  | curl
  deriving Repr, DecidableEq

/-- The name of a program that fetches files. -/
def Tool.name : Tool → String
  | .wget => "wget"
  | .curl => "curl"

/-- A file that somebody asked the shell to fetch. -/
structure Download where
  url : String
  tool : Tool
  deriving Repr, DecidableEq

/-- What commands work on. -/
structure State where
  files : FileSystem
  env : Env
  /-- The lines that were entered, the first one first. -/
  history : List String
  chances : Chances
  /-- What was fetched, the first one first. -/
  downloads : List Download

/-- What a line or a command ends in. -/
inductive Response where
  | text (s : String)
  /-- The end of the session. -/
  | exit
  deriving Repr, DecidableEq

/-! ## Looking and acting -/

/-- A computation that draws and changes nothing else. -/
abbrev Look := ExceptT Fault (StateM Chances)

/-- A computation that may change the state. -/
abbrev Action := ExceptT Fault (StateM State)

/-- Draws from the generator of the session. -/
def Look.chance {α : Type} (m : Draws α) : Look α := fun chances =>
  let (result, after) := m.run chances.session
  (result, { chances with session := after })

/-- Draws from the generator of made-up files. -/
def Look.noise {α : Type} (m : Draws α) : Look α := fun chances =>
  let (result, after) := m.run chances.noise
  (result, { chances with noise := after })

/-- A result or a fault without any draw. -/
def Look.certain {α : Type} (result : Except Fault α) : Look α := fun chances => (result, chances)

def Action.look {α : Type} (m : State → Look α) : Action α := fun s =>
  let (result, after) := (m s).run s.chances
  (result, { s with chances := after })

/-- Draws from the generator of the session. -/
def Action.chance {α : Type} (m : Draws α) : Action α := Action.look fun _ => Look.chance m

def Action.files : Action FileSystem := do pure (← get).files

/-- Puts another view in the place of the files of the session. -/
def Action.setFiles (files : FileSystem) : Action Unit := modify fun s => { s with files := files }

def Action.setVariable (name value : String) : Action Unit :=
  modify fun s => { s with env := Assoc.put name value s.env }

/-- Makes an attempt to change the files; the files stay as they are if it fails. -/
def Action.attempt (change : FileSystem → Except PathError FileSystem) :
    Action (Option PathFault) := do
  match change (← Action.files) with
  | .ok files => do
    Action.setFiles files
    pure none
  | .error e => pure (some e.cause)

/-- Notes what is fetched. -/
def Action.report (url : String) (tool : Tool) : Action Unit :=
  modify fun s => { s with downloads := s.downloads ++ [⟨url, tool⟩] }

/-! ## Rights -/

namespace Context

def isRoot (c : Context) : Bool := c.user == "root"

/-- Whether the user has a right to a node: the owner's bit decides for the owner and the bit of
all others for everybody else, and the superuser has every right. -/
def may (c : Context) (node : Node) (ownerBit otherBit : Nat) : Bool :=
  c.isRoot || node.bits.testBit (if node.owner = c.user then ownerBit else otherBit)

def mayRead (c : Context) (node : Node) : Bool := c.may node 8 2

/-- Whether the user may enter a directory or run a program. -/
def mayEnter (c : Context) (node : Node) : Bool := c.may node 6 0

/-- What is known inside one more call. -/
def call (c : Context) : Except Fault Context :=
  match c.room with
  | 0 => .error .tooDeep
  | room + 1 => .ok { c with room := room }

/-- The clock as an instant with a date. -/
def instant (c : Context) : Except Fault Calendar.Instant :=
  Fault.ofDate (Calendar.ofLocalClock c.now)

/-- The clock as a moment of the calendar. -/
def moment (c : Context) : Except Fault Calendar.Moment := c.instant.map (·.moment)

end Context

/-- The process of the shell, which the beginning of the session's identifier decides. -/
def processOf (sessionId : String) : Except Fault Int :=
  match Number.readHex? (Text.take (Text.without (· == '-') sessionId) 4) with
  | some n => .ok (1800 + n % 400)
  | none => .error .badSessionId

def defaultPath : String := "/usr/local/sbin:/usr/local/bin:/usr/sbin:/usr/bin:/sbin:/bin"

end Honeypot.Shell
