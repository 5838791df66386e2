import Honeypot.Regex.Progress
import Honeypot.Text.Name

/-!
# Escapes

What a backslash and the characters after it stand for: a character by its code or its name, a
named class, a condition on a place or an earlier group.
-/

namespace Honeypot.Regex

/-! ## Codes -/

/-- The value of digits in a base. -/
def valueIn (base : Nat) (digits : List Char) : Nat :=
  digits.foldl (fun n c => n * base + (Text.hexValue? c).getD 0) 0

/-- Whether a character is a digit of ASCII. -/
def isAsciiDigit (c : Char) : Bool := '0' ≤ c && c ≤ '9'

def isOctal (c : Char) : Bool := '0' ≤ c && c ≤ '7'

/-- Whether a character is a letter of ASCII. -/
def isAsciiLetter (c : Char) : Bool := c.toNat < 128 && c.isAlpha

def classOf? (c : Char) : Option Item :=
  if c = 'd' then some (.named .digit false)
  else if c = 'D' then some (.named .digit true)
  else if c = 's' then some (.named .space false)
  else if c = 'S' then some (.named .space true)
  else if c = 'w' then some (.named .word false)
  else if c = 'W' then some (.named .word true)
  else none

def controlOf? (c : Char) : Option Nat :=
  if c = 'a' then some 7
  else if c = 'b' then some 8
  else if c = 'f' then some 12
  else if c = 'n' then some 10
  else if c = 'r' then some 13
  else if c = 't' then some 9
  else if c = 'v' then some 11
  else if c = '\\' then some 92
  else none

/-- Reads exactly so many hexadecimal digits. -/
def hexDigits (count : Nat) : Read Nat := do
  let digits ← takeWhile count fun c => (Text.hexValue? c).isSome
  if digits.length < count then refuse
  else
    let n := valueIn 16 digits
    if n < 0x110000 then pure n else refuse

/-- Reads the name of a character in braces. -/
def namedCode : Read Nat := do
  if ← accept '\x7b' then
    match Text.named? (String.ofList (← takeUntil '\x7d')) with
    | some n => pure n
    | none => refuse
  else refuse

/-- Reads the code point that a letter announces. -/
def codeOf? (c : Char) : Read (Option Nat) := do
  if c = 'x' then pure (some (← hexDigits 2))
  else if c = 'u' then pure (some (← hexDigits 4))
  else if c = 'U' then pure (some (← hexDigits 8))
  else if c = 'N' then pure (some (← namedCode))
  else pure none

/-! ## In a set -/

/-- An escape inside a set of characters. -/
def setEscape : Read Item := do
  match ← take? with
  | none => refuse
  | some c =>
    match controlOf? c, classOf? c with
    | some n, _ => pure (.char n)
    | _, some item => pure item
    | none, none =>
      match ← codeOf? c with
      | some n => pure (.char n)
      | none =>
        if isOctal c then do
          let n := valueIn 8 (c :: (← takeWhile 2 isOctal))
          if n ≤ 255 then pure (.char n) else refuse
        else if isAsciiDigit c || isAsciiLetter c then refuse
        else pure (.char c.toNat)

/-! ## Elsewhere -/

/-- What was read of a sequence, as far as it matters for what may follow. -/
inductive Kind where
  | anchor
  | repetition
  | other
  deriving Repr, DecidableEq

/-- A node that stands for one character. -/
def literal (flags : Flags) (n : Nat) : Node := .one (.single flags.letters n)

/-- A reference to a group, or a character in octal digits. -/
def numbered (flags : Flags) (c : Char) : Read Node := do
  match ← peek with
  | some d =>
    if isAsciiDigit d then
      let _ ← take?
      let e ← peek
      if isOctal c && isOctal d && e.any isOctal then
        let _ ← take?
        let n := valueIn 8 [c, d, e.getD '0']
        if n ≤ 255 then pure (literal flags n) else refuse
      else pure (.again (← checkedGroup (valueIn 10 [c, d])) flags.letters)
    else pure (.again (← checkedGroup (valueIn 10 [c])) flags.letters)
  | none => pure (.again (← checkedGroup (valueIn 10 [c])) flags.letters)

/-- An escape outside sets of characters. -/
def escape (flags : Flags) : Read (Kind × Node) := do
  match ← take? with
  | none => refuse
  | some c =>
    if c = 'A' then pure (.anchor, .anchor .textStart)
    else if c = 'Z' then pure (.anchor, .anchor .textEnd)
    else if c = 'b' then pure (.anchor, .anchor (.wordEdge flags.ascii false))
    else if c = 'B' then pure (.anchor, .anchor (.wordEdge flags.ascii true))
    else
      match classOf? c, controlOf? c with
      | some item, _ => pure (.other, .one (.ofItems flags.letters false [item]))
      | _, some n => pure (.other, literal flags n)
      | none, none =>
        match ← codeOf? c with
        | some n => pure (.other, literal flags n)
        | none =>
          if c = '0' then pure (.other, literal flags (valueIn 8 (← takeWhile 2 isOctal)))
          else if isAsciiDigit c then pure (.other, ← numbered flags c)
          else if isAsciiLetter c then refuse
          else pure (.other, literal flags c.toNat)

end Honeypot.Regex
