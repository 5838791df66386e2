import Honeypot.Shell.Context

/-!
# The environment of a session

The commands for variables, for the lines that were entered, and those without any effect.
-/

namespace Honeypot.Shell

/-! ## History -/

/-- Prints the lines that were entered, or forgets them. -/
def history (inv : Invocation) : Action String := do
  if inv.hasFlag "-c" then
    modify fun s => { s with history := [] }
    pure ""
  else
    let lines := (← get).history.mapIdx fun index line =>
      Text.padLeft 5 (Text.ofNat (index + 1)) ++ "  " ++ line
    pure (Text.block lines)

/-- Clears the screen. -/
def clear : String := "\x1b[H\x1b[2J"

/-- Waits for no time at all. -/
def sleep (inv : Invocation) : String :=
  if inv.args.isEmpty then
    "sleep: missing operand\nTry 'sleep --help' for more information.\n"
  else ""

/-! ## Variables -/

/-- Prints the variables, or the values of those that are named. -/
def env (s : State) (inv : Invocation) : String :=
  if inv.command = "printenv" ∧ !inv.args.isEmpty then
    Text.block (inv.args.filterMap fun name => s.env.lookup name)
  else Text.block (s.env.map fun (name, value) => name ++ "=" ++ value)

/-- Whether a text may be the name of a variable that is set. -/
def isVariableName (name : String) : Bool :=
  match name.toList with
  | [] => false
  | first :: rest =>
    (first = '_' || (first.toNat < 128 && first.isAlpha)) && rest.all Text.isWordChar

/-- Sets the variables of a list of assignments in turn, up to the first name that is not valid. -/
def assign : List String → Action String
  | [] => pure ""
  | assignment :: rest =>
    match Text.cutFirst '=' assignment.toList with
    | none => assign rest
    | some (name, value) => do
      let name := String.ofList name
      if isVariableName name then
        Action.setVariable name (expand (← get).env (unquote (String.ofList value)))
        assign rest
      else
        pure ("bash: export: \u0060" ++ assignment ++ "': not a valid identifier\n")

/-- Prints the variables in the order of their names, or sets some. -/
def exportVariables (inv : Invocation) : Action String := do
  if inv.args.isEmpty then
    let sorted := Text.sortBy (·.1) (← get).env
    pure (Text.block (sorted.map fun (name, value) =>
      "declare -x " ++ name ++ "=\"" ++ value ++ "\""))
  else assign inv.args

end Honeypot.Shell
