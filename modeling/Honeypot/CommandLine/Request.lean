import Honeypot.CommandLine.Marks
import Honeypot.Number.Reading

/-!
# What the command line asks for

The marked arguments are gone through from left to right. Flags take effect one after the other;
the first plain argument is a command, and all that follows it belongs to the command. What
nobody understands is collected and complained about at the end.
-/

namespace Honeypot.CommandLine

/-- Settings from flags, which go before those from the environment. -/
structure Settings where
  host? : Option String
  port? : Option Int
  profile? : Option String
  logLevel? : Option String
  /-- The port for measurements, which may be given without a number. -/
  metricsPort? : Option (Option Int)
  deriving Repr, DecidableEq

def Settings.none : Settings := ⟨.none, .none, .none, .none, .none⟩

/-- What ends the program before it has begun. -/
inductive Stop where
  /-- Somebody asked for help. -/
  | help (g : Grammar)
  /-- Somebody asked for the version. -/
  | version
  | complaint (g : Grammar) (c : Complaint)

/-! ## Values -/

/-- A whole number as the value of a flag. -/
def numberOf (g : Grammar) (flag : Flag) (value : String) : Except Stop Int :=
  match Number.readInt? value with
  | some n => .ok n
  | none => .error (.complaint g (.notNumber flag value))

/-- One of some texts as the value of a flag. -/
def choiceOf (g : Grammar) (flag : Flag) (choices : List String) (value : String) :
    Except Stop String :=
  if choices.contains value then .ok value
  else .error (.complaint g (.notChoice flag.title value choices))

/-- The settings after a flag with its value. Without a value the setting is not given, except that
the port for measurements is given without a number. -/
def Settings.apply (g : Grammar) (s : Settings) (flag : Flag) (value? : Option String) :
    Except Stop Settings :=
  match flag with
  | .help => .error (.help g)
  | .version => .error .version
  | .host => .ok { s with host? := value? }
  | .port => do pure { s with port? := ← value?.mapM (numberOf g flag) }
  | .profile => do pure { s with profile? := ← value?.mapM (choiceOf g flag profileNames) }
  | .logLevel => do pure { s with logLevel? := ← value?.mapM (choiceOf g flag levelNames) }
  | .metricsPort => do pure { s with metricsPort? := some (← value?.mapM (numberOf g flag)) }

/-! ## Flags in one argument -/

/-- What an argument with flags asks for. -/
structure Use where
  /-- The flags whose values are known, and those without a value. -/
  done : List (Flag × Option String)
  /-- The flag whose value is the next argument. -/
  waiting? : Option Flag

/-- A flag with nothing behind it. -/
def Use.alone (flag : Flag) : Use :=
  if flag.takesValue then ⟨[], some flag⟩ else ⟨[(flag, none)], none⟩

/-- The value in the argument of its flag; the separator there is no value. -/
def attachedValue? (text : List Char) : Option String :=
  if text = ['-', '-'] then none else some (String.ofList text)

/-- The flags of an argument: `flag`, and the short flags in the text behind it if it takes no
value. -/
def uses (g : Grammar) (flag : Flag) (short : Bool) (text : List Char) : Except Complaint Use :=
  if flag.takesValue then .ok ⟨[(flag, attachedValue? text)], none⟩
  else
    match text with
    | [] => .error (.unwantedValue flag "")
    | c :: rest =>
      match if short then g.flag? (String.ofList ['-', c]) else none with
      | none => .error (.unwantedValue flag (String.ofList (c :: rest)))
      | some next => do
        let use ← if rest.isEmpty then pure (Use.alone next) else uses g next true rest
        pure { use with done := (flag, none) :: use.done }
  termination_by text.length

/-- The flags of an argument that names one. -/
def Found.uses (g : Grammar) (found : Found) : Except Complaint Use :=
  match found.attached? with
  | none => .ok (.alone found.flag)
  | some text => CommandLine.uses g found.flag (!Text.startsWith found.name "--") text

/-! ## All arguments -/

/-- What the arguments have come to so far. -/
structure Progress where
  settings : Settings
  /-- What nobody understands. -/
  extra : List String
  /-- The command with all that follows it. -/
  command : List String

/-- The progress after flags with their values. -/
def Progress.apply (g : Grammar) (p : Progress) (flags : List (Flag × Option String)) :
    Except Stop Progress := do
  let settings ← flags.foldlM (fun s (flag, value?) => s.apply g flag value?) p.settings
  pure { p with settings }

/-- Whether a command stands at the head of some arguments: a plain one, or one behind the
separator. -/
def commandStands (g : Grammar) (m : Mark) (rest : List (String × Mark)) : Bool :=
  !g.commands.isEmpty &&
    match m with
    | .plain => true
    | .separator => !rest.isEmpty
    | _ => false

/-- Goes through arguments up to a command. -/
def goThrough (g : Grammar) (p : Progress) : List (String × Mark) → Except Stop Progress
  | [] => .ok p
  | (_, .flag found) :: rest =>
    match found.uses g with
    | .error c => .error (.complaint g c)
    | .ok use =>
      match use.waiting?, rest with
      | none, rest => do
        let p ← p.apply g use.done
        goThrough g p rest
      | some flag, (value, .plain) :: more => do
        let p ← p.apply g (use.done ++ [(flag, some value)])
        goThrough g p more
      | some flag, _ => .error (.complaint g (.missingValue flag))
  | (argument, m) :: rest =>
    if commandStands g m rest then
      .ok { p with command := argument :: rest.map (·.1) }
    else goThrough g { p with extra := p.extra ++ [argument] } rest

/-- Marks arguments and goes through them. -/
def Grammar.read (g : Grammar) (arguments : List String) : Except Stop Progress :=
  match marks g arguments with
  | .error c => .error (.complaint g c)
  | .ok items => goThrough g ⟨.none, [], []⟩ items

inductive Request where
  /-- To list the personas. -/
  | profiles
  /-- To serve peers. -/
  | serve (settings : Settings)
  deriving Repr, DecidableEq

/-- A request, unless something was not understood. -/
def finish (extra : List String) (r : Request) : Except Stop Request :=
  if extra.isEmpty then .ok r else .error (.complaint program (.unrecognized extra))

def readArguments (arguments : List String) : Except Stop Request := do
  let p ← program.read arguments
  match p.command with
  | [] => finish p.extra (.serve p.settings)
  | name :: more =>
    if program.commands.contains name then
      let q ← profilesCommand.read more
      finish (p.extra ++ q.extra) .profiles
    else .error (.complaint program (.notChoice "command" name program.commands))

end Honeypot.CommandLine
