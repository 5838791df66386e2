import Honeypot.Text.Blank
import Honeypot.Text.Digit
import Honeypot.Text.Word

/-!
# What the program tells about its running

Records have a level, and a format says how they are written. A format is accepted if it has at
least one field: a percent sign, a name in parentheses, flags, a width, a number of places, and
the letter of a conversion.
-/

namespace Honeypot.CommandLine

/-! ## Formats -/

/-- The rest of a text behind a star or a number at its head. -/
def afterCount? : List Char → Option (List Char)
  | '*' :: rest => some rest
  | c :: rest => if Text.isDecimal c then some (rest.dropWhile Text.isDecimal) else none
  | [] => none

def fieldFlags : List Char := ['#', '0', '+', ' ', '-']

/-- What ends a field. -/
def conversions : List Char :=
  ['d', 'i', 'o', 'u', 'x', 'e', 'f', 'g', 'c', 'r', 's', 'a', '%']

/-- The small letter of a letter of ASCII, of the i with and without a dot in the other case, and
of the long s. -/
def smallLetter (c : Char) : Char :=
  if c = 'İ' || c = 'ı' then 'i' else if c = 'ſ' then 's' else c.toLower

/-- Whether a field may go on so behind its name. -/
def isFieldTail (cs : List Char) : Bool :=
  let sized := cs.dropWhile fieldFlags.contains
  let placed := (afterCount? sized).getD sized
  let ending? :=
    match placed with
    | '.' :: rest => afterCount? rest
    | rest => some rest
  match ending? with
  | some (c :: _) => conversions.contains (smallLetter c)
  | _ => false

/-- Whether a field stands at the head of a text. -/
def isField : List Char → Bool
  | '%' :: '(' :: rest =>
    match rest.dropWhile Text.isWordChar with
    | ')' :: tail => rest.head? != some ')' && isFieldTail tail
    | _ => false
  | _ => false

/-- Whether a field stands somewhere in a text. -/
def hasField : List Char → Bool
  | [] => false
  | c :: rest => isField (c :: rest) || hasField rest

/-- Whether records can be written in a format; an empty one stands for the message alone. -/
def isFormat (format : String) : Bool := format.isEmpty || hasField format.toList

/-! ## Levels -/

def levels : List (String × Nat) :=
  [("NOTSET", 0), ("DEBUG", 10), ("INFO", 20), ("WARN", 30), ("WARNING", 30), ("ERROR", 40),
    ("FATAL", 50), ("CRITICAL", 50)]

/-- The capitals of a letter, where they are letters of ASCII: also of the dotless i, of the long
and the sharp s, and of joined letters. -/
def capitals (c : Char) : List Char :=
  match c with
  | 'ı' => ['I']
  | 'ſ' => ['S']
  | 'ß' => ['S', 'S']
  | 'ﬀ' => ['F', 'F']
  | 'ﬁ' => ['F', 'I']
  | 'ﬂ' => ['F', 'L']
  | 'ﬃ' => ['F', 'F', 'I']
  | 'ﬄ' => ['F', 'F', 'L']
  | 'ﬅ' => ['S', 'T']
  | 'ﬆ' => ['S', 'T']
  | c => [c.toUpper]

/-- The name of a level in capitals. -/
def inCapitals (name : String) : String := String.ofList (name.toList.flatMap capitals)

/-- The level with a name in any case; the level of plain information for an unknown name. -/
def levelOf (name : String) : Nat := (levels.lookup (inCapitals name)).getD 20

/-- Why the program cannot tell anything about its running. -/
inductive DiagnosticFault where
  /-- The file that it goes to is a directory. -/
  | directory
  /-- The path of that file is too long, or a name in it. -/
  | longPath
  | format
  /-- The name of the level names the default format. -/
  | formatForLevel
  /-- The name of the level names the table of styles. -/
  | tableForLevel
  deriving Repr, DecidableEq

/-- The greatest number of bytes in a name of a file, and in a path. -/
def maxBytes : Nat × Nat := (255, 4095)

/-- What is wrong with a file, as far as its path shows it. -/
def fileFault? (path : String) : Option DiagnosticFault :=
  let names := Text.fields '/' path
  if names.any (maxBytes.1 < ·.utf8ByteSize) || maxBytes.2 < path.utf8ByteSize then some .longPath
  else if names.all (fun name => name = "" ∨ name = ".") || names.getLast? = some ".." then
    some .directory
  else none

/-- What is wrong with a file, a format and the name of a level. -/
def diagnosticFault? (file? : Option String) (format level : String) : Option DiagnosticFault :=
  let name := inCapitals level
  if let some fault := file?.bind fileFault? then some fault
  else if !isFormat format then some .format
  else if name = "BASIC_FORMAT" then some .formatForLevel
  else if name = "_STYLES" then some .tableForLevel
  else none

end Honeypot.CommandLine
