import Honeypot.Text.Basic

/-!
# Lines

The line breaks of all scripts, and line feeds as a terminal needs them.
-/

namespace Honeypot.Text

/-- Characters that end a line. -/
def isLineBreak (c : Char) : Bool :=
  let n := c.toNat
  (10 ≤ n && n ≤ 13) || (28 ≤ n && n ≤ 30) || n == 0x85 || n == 0x2028 || n == 0x2029

/-- The lines of a text without their breaks, `line` being the start of the first of them in
reverse. A carriage return and the line feed after it are one break, and no empty line follows
the last break. -/
def linesFrom (line : List Char) : List Char → List (List Char)
  | [] => if line.isEmpty then [] else [line.reverse]
  | '\r' :: '\n' :: rest => line.reverse :: linesFrom [] rest
  | c :: rest =>
    if isLineBreak c then line.reverse :: linesFrom [] rest else linesFrom (c :: line) rest

def lines (s : String) : List String := (linesFrom [] s.toList).map String.ofList

/-- The text with every line feed directly after exactly one carriage return of the pair. -/
def crlfChars : List Char → List Char
  | [] => []
  | '\r' :: '\n' :: rest => '\r' :: '\n' :: crlfChars rest
  | '\n' :: rest => '\r' :: '\n' :: crlfChars rest
  | c :: rest => c :: crlfChars rest

/-- A text with its line ends written as a terminal wants them. -/
def crlf (s : String) : String := String.ofList (crlfChars s.toList)

end Honeypot.Text
