import Honeypot.Json.Limits
import Honeypot.Number.Shortest

/-!
# Values as one line of text

`Json.line` writes a value in ASCII on one line: a comma and a blank between members, a colon and
a blank after a field's name, and every character outside the printable ASCII range as an escape.
A character beyond 16 bits takes two escapes. A value that cannot be written has no line (`line?`).
-/

namespace Honeypot.Json

/-- Numbers of a record: the fewest digits that read back, and named infinities. -/
def numberLayout : Number.Layout := { Number.plain with infinite := "Infinity", undefined := "NaN" }

/-- The escape of a 16-bit unit. -/
def unitEscape (n : Nat) : List Char :=
  ['\\', 'u'] ++ (Text.fillLeft '0' 4 (Text.inBase 16 n)).toList

/-- A character as it stands between quotes. -/
def escaped (c : Char) : List Char :=
  let n := c.toNat
  if c = '"' then ['\\', '"']
  else if c = '\\' then ['\\', '\\']
  else if c = '\n' then ['\\', 'n']
  else if c = '\r' then ['\\', 'r']
  else if c = '\t' then ['\\', 't']
  else if n = 12 then ['\\', 'f']
  else if n = 8 then ['\\', 'b']
  else if 32 ≤ n ∧ n < 127 then [c]
  else if n < 65536 then unitEscape n
  else unitEscape (0xD800 + (n - 65536) / 1024) ++ unitEscape (0xDC00 + (n - 65536) % 1024)

def quoted (cs : List Char) : List Char := '"' :: cs.flatMap escaped ++ ['"']

mutual

def chars : Json → List Char
  | .null => "null".toList
  | .bool b => (if b then "true" else "false").toList
  | .int n => (Text.ofInt n).toList
  | .float x => (numberLayout.written x).toList
  | .text s => quoted s.toList
  | .list items => '[' :: itemChars items ++ [']']
  | .object fields => '\x7b' :: fieldChars fields ++ ['\x7d']

/-- The characters of the members of a list. -/
def itemChars : List Json → List Char
  | [] => []
  | [item] => chars item
  | item :: rest => chars item ++ [',', ' '] ++ itemChars rest

/-- The characters of the fields of an object. -/
def fieldChars : List (String × Json) → List Char
  | [] => []
  | [(name, value)] => quoted name.toList ++ [':', ' '] ++ chars value
  | (name, value) :: rest =>
    quoted name.toList ++ [':', ' '] ++ chars value ++ [',', ' '] ++ fieldChars rest

end

/-- A value as one line of ASCII text. -/
def line (value : Json) : String := String.ofList value.chars

/-- The line of a value, if it can be written with lists and objects in one another only so deep. -/
def line? (room : Nat) (value : Json) : Option String :=
  if value.fits room then some value.line else none

end Honeypot.Json
