import Honeypot.Json.Limits
import Honeypot.Number.Shortest
import Honeypot.Text.Printable

/-!
# Values in running text

How a value shows in a line that people read: a text as it is, nothing as `None`, truth values
with a capital letter, and lists and objects with their texts in quotes. The quotes are single
unless the text holds single quotes only. A value that cannot be written does not show (`shown?`).
-/

namespace Honeypot.Json

/-- The escape of a character that does not show, with as many digits as it needs. -/
def hiddenEscape (c : Char) : String :=
  let n := c.toNat
  let digits := Text.inBase 16 n
  if n < 256 then "\\x" ++ Text.fillLeft '0' 2 digits
  else if n < 65536 then "\\u" ++ Text.fillLeft '0' 4 digits
  else "\\U" ++ Text.fillLeft '0' 8 digits

/-- A character between quotes of a given kind. -/
def shownChar (quote c : Char) : String :=
  if c == quote then "\\" ++ String.singleton c
  else if c == '\\' then "\\\\"
  else if c == '\n' then "\\n"
  else if c == '\r' then "\\r"
  else if c == '\t' then "\\t"
  else if Text.isPrintable c then String.singleton c
  else hiddenEscape c

/-- A text as it shows inside a list or an object. -/
def shownText (s : String) : String :=
  let quote := if Text.hasChar s '\'' && !Text.hasChar s '"' then '"' else '\''
  String.singleton quote ++ String.join (s.toList.map (shownChar quote)) ++ String.singleton quote

mutual

/-- A value as it shows inside a list or an object. -/
def shownInside : Json → String
  | .null => "None"
  | .bool b => if b then "True" else "False"
  | .int n => Text.ofInt n
  | .float x => Number.plain.written x
  | .text s => shownText s
  | .list items => "[" ++ shownItems items ++ "]"
  | .object fields => "\x7b" ++ shownFields fields ++ "\x7d"

/-- The members of a list with commas between them. -/
def shownItems : List Json → String
  | [] => ""
  | [item] => shownInside item
  | item :: rest => shownInside item ++ ", " ++ shownItems rest

/-- The fields of an object with commas between them. -/
def shownFields : List (String × Json) → String
  | [] => ""
  | [(name, value)] => shownText name ++ ": " ++ shownInside value
  | (name, value) :: rest =>
    shownText name ++ ": " ++ shownInside value ++ ", " ++ shownFields rest

end

/-- A value in running text. -/
def shown : Json → String
  | .text s => s
  | value => shownInside value

/-- A value in running text, if it can be written with lists and objects in one another only so
deep. -/
def shown? (room : Nat) (value : Json) : Option String :=
  if value.fits room then some value.shown else none

end Honeypot.Json
