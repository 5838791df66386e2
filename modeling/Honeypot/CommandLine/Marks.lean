import Honeypot.CommandLine.Grammar
import Honeypot.Text.Digit

/-!
# Marking arguments

Every argument is marked before anything is done with any of them: as a flag, by its name or the
beginning of a long name, with the value that may stand in the same argument; as an unknown flag;
as the separator; or as plain. A number below zero and an argument with a blank in it are plain.
-/

namespace Honeypot.CommandLine

/-- A flag in an argument. -/
structure Found where
  flag : Flag
  name : String
  /-- What stands behind the name in the same argument. -/
  attached? : Option (List Char)
  deriving Repr, DecidableEq

/-- What an argument is. -/
inductive Mark where
  | plain
  /-- Nothing after this is a flag. -/
  | separator
  | flag (found : Found)
  | unknown
  deriving Repr, DecidableEq

/-- A digit sequence with a sign before it, perhaps with a point before its last digits, and
perhaps with a line feed at its end. -/
def looksNegative (argument : List Char) : Bool :=
  match argument with
  | '-' :: rest =>
    let body := if rest.getLast? = some '\n' then rest.dropLast else rest
    let isDigits (cs : List Char) : Bool := !cs.isEmpty && cs.all Text.isDecimal
    isDigits body ||
      match Text.cutFirst '.' body with
      | some (whole, places) => whole.all Text.isDecimal && isDigits places
      | none => false
  | _ => false

/-- An argument before its first equals sign and, if it has one, what stands behind it. -/
def cutAtSign (argument : String) : String × Option (List Char) :=
  match Text.cutFirst '=' argument.toList with
  | some (name, value) => (String.ofList name, some value)
  | none => (argument, none)

/-- The flags that an argument may stand for: those whose long names it begins, or the one whose
short name begins it. -/
def candidates (g : Grammar) (argument : String) : List Found :=
  if Text.startsWith argument "--" then
    let (start, attached?) := cutAtSign argument
    (g.names.filter fun (name, _) => Text.startsWith name start).map fun (name, flag) =>
      ⟨flag, name, attached?⟩
  else
    (g.names.filter fun (name, _) => name == Text.take argument 2).map fun (name, flag) =>
      ⟨flag, name, some (argument.toList.drop 2)⟩

/-- The flag that an argument names in full, alone or with an equals sign behind its name. -/
def named? (g : Grammar) (argument : String) : Option Found :=
  match g.flag? argument with
  | some flag => some ⟨flag, argument, none⟩
  | none =>
    match cutAtSign argument with
    | (name, some attached) => (g.flag? name).map fun flag => ⟨flag, name, some attached⟩
    | (_, none) => none

def mark (g : Grammar) (argument : String) : Except Complaint Mark :=
  if !Text.startsWith argument "-" || argument.length ≤ 1 then .ok .plain
  else
    match named? g argument with
    | some found => .ok (.flag found)
    | none =>
      match candidates g argument with
      | [found] => .ok (.flag found)
      | [] =>
        if looksNegative argument.toList || Text.hasChar argument ' ' then .ok .plain
        else .ok .unknown
      | several => .error (.ambiguous argument (several.map (·.name)))

def marks (g : Grammar) : List String → Except Complaint (List (String × Mark))
  | [] => .ok []
  | argument :: rest =>
    if argument = "--" then .ok ((argument, .separator) :: rest.map fun a => (a, .plain))
    else do
      let m ← mark g argument
      let more ← marks g rest
      pure ((argument, m) :: more)

end Honeypot.CommandLine
