import Honeypot.Json.Value
import Honeypot.Number.Reading

/-!
# Reading a value

`Json.read` reads a text that is one value with blanks around it. Numbers without a fraction and
an exponent are whole; a field that is given twice keeps its first place and its last value. Lists
and objects may lie in one another only so deep, and whole numbers be only so long.
-/

namespace Honeypot.Json

/-- The blanks that may stand between the signs of a value. -/
def isSpace (c : Char) : Bool := c == ' ' || c == '\t' || c == '\n' || c == '\r'

/-- The text after the blanks at its start. -/
def skip (cs : List Char) : List Char := cs.dropWhile isSpace

/-- The number that four hexadecimal digits stand for. -/
def unit? (a b c d : Char) : Option Nat := do
  let a ← Text.hexValue? a
  let b ← Text.hexValue? b
  let c ← Text.hexValue? c
  let d ← Text.hexValue? d
  pure (((a * 16 + b) * 16 + c) * 16 + d)

/-- The character of a one-letter escape. -/
def escape? (c : Char) : Option Char :=
  if c = '"' || c = '\\' || c = '/' then some c
  else if c = 'n' then some '\n'
  else if c = 'r' then some '\r'
  else if c = 't' then some '\t'
  else if c = 'f' then some '\x0c'
  else if c = 'b' then some '\x08'
  else none

/-- Reads the inside of a text up to its closing quote. Two escapes of a pair of units are one
character. A text holds characters only, so that the escape of half a pair, which stands for no
character, is read as the character 0 and not kept as it is. -/
def string? (done : List Char) : List Char → Option (List Char × List Char)
  | [] => none
  | '"' :: rest => some (done.reverse, rest)
  | '\\' :: 'u' :: a :: b :: c :: d :: '\\' :: 'u' :: e :: f :: g :: h :: rest =>
    match unit? a b c d, unit? e f g h with
    | some high, some low =>
      if 0xD800 ≤ high && high < 0xDC00 && 0xDC00 ≤ low && low < 0xE000 then
        string? (Char.ofNat (65536 + (high - 0xD800) * 1024 + (low - 0xDC00)) :: done) rest
      else string? (Char.ofNat high :: done) ('\\' :: 'u' :: e :: f :: g :: h :: rest)
    | some high, none =>
      string? (Char.ofNat high :: done) ('\\' :: 'u' :: e :: f :: g :: h :: rest)
    | none, _ => none
  | '\\' :: 'u' :: a :: b :: c :: d :: rest =>
    match unit? a b c d with
    | some n => string? (Char.ofNat n :: done) rest
    | none => none
  | '\\' :: c :: rest =>
    match escape? c with
    | some e => string? (e :: done) rest
    | none => none
  | c :: rest => if c.toNat < 32 then none else string? (c :: done) rest
  termination_by cs => cs.length

/-- The digits at the start of a number; a zero stands alone. -/
def wholeDigits : List Char → List Char
  | '0' :: _ => ['0']
  | cs => cs.takeWhile Char.isDigit

/-- The digits behind a point at the start of a text. -/
def placeDigits : List Char → List Char
  | '.' :: rest => rest.takeWhile Char.isDigit
  | _ => []

/-- The exponent at the start of a text, with its mark and its sign. -/
def exponentChars : List Char → List Char
  | e :: rest =>
    if e == 'e' || e == 'E' then
      let digits := (Number.signed rest).2.takeWhile Char.isDigit
      if digits.isEmpty then [] else
        (e :: rest).take (1 + (rest.length - (Number.signed rest).2.length) + digits.length)
    else []
  | [] => []

/-- Reads a number behind its sign, unless it is whole and too long. -/
def magnitude? (negative : Bool) (body : List Char) : Option (Json × List Char) :=
  let whole := wholeDigits body
  let afterWhole := body.drop whole.length
  if whole.isEmpty then none
  else
    let places := placeDigits afterWhole
    let afterPlaces := if places.isEmpty then afterWhole else afterWhole.drop (places.length + 1)
    let exponent := exponentChars afterPlaces
    let rest := afterPlaces.drop exponent.length
    if places.isEmpty && exponent.isEmpty then
      if whole.length > Number.maxDigits then none
      else
        let n := Number.runValue whole
        some (.int (if negative then -(n : Int) else n), rest)
    else
      (Number.exponentValue? exponent).map fun e =>
        let x := Number.nearest (Number.runValue (whole ++ places)) (e - places.length)
        (.float (if negative then -x else x), rest)

def number? : List Char → Option (Json × List Char)
  | '-' :: rest => magnitude? true rest
  | cs => magnitude? false cs

/-- The text after a word, if the text begins with it. -/
def after? (word : String) (cs : List Char) : Option (List Char) :=
  if word.toList.isPrefixOf cs then some (cs.drop word.length) else none

/-- Reads a value that is a word or a number. -/
def simple? (cs : List Char) : Option (Json × List Char) :=
  match after? "null" cs, after? "true" cs, after? "false" cs with
  | some rest, _, _ => some (.null, rest)
  | _, some rest, _ => some (.bool true, rest)
  | _, _, some rest => some (.bool false, rest)
  | none, none, none =>
    match after? "NaN" cs, after? "Infinity" cs, after? "-Infinity" cs with
    | some rest, _, _ => some (.float (0.0 / 0.0), rest)
    | _, some rest, _ => some (.float (1.0 / 0.0), rest)
    | _, _, some rest => some (.float (-1.0 / 0.0), rest)
    | none, none, none => number? cs

/-- Why a text is no value. -/
inductive Refusal where
  | malformed
  /-- Lists and objects lie in one another too deeply. -/
  | tooDeep
  deriving Repr, DecidableEq

/-- What was read, or the refusal of a malformed text. -/
def orMalformed {α : Type} : Option α → Except Refusal α
  | some a => .ok a
  | none => .error .malformed

mutual

/-- Reads a value at the start of a text. The arguments bound how deep lists and objects may lie in
one another, and the number of steps. -/
def value : Nat → Nat → List Char → Except Refusal (Json × List Char)
  | _, 0, _ => .error .malformed
  | _, _ + 1, '"' :: rest =>
    orMalformed ((string? [] rest).map fun (s, more) => (.text (String.ofList s), more))
  | 0, _ + 1, '[' :: _ => .error .tooDeep
  | 0, _ + 1, '\x7b' :: _ => .error .tooDeep
  | room + 1, steps + 1, '[' :: rest =>
    match skip rest with
    | ']' :: more => .ok (.list [], more)
    | more => (items room steps more).map fun (items, left) => (.list items, left)
  | room + 1, steps + 1, '\x7b' :: rest =>
    match skip rest with
    | '\x7d' :: more => .ok (.object [], more)
    | more =>
      (fields room steps [] more).map fun (fields, left) => (.object fields, left)
  | _, _ + 1, cs => orMalformed (simple? cs)

/-- Reads the members of a list up to its closing bracket. -/
def items : Nat → Nat → List Char → Except Refusal (List Json × List Char)
  | _, 0, _ => .error .malformed
  | room, steps + 1, cs =>
    match value room steps cs with
    | .error e => .error e
    | .ok (item, rest) =>
      match skip rest with
      | ']' :: more => .ok ([item], more)
      | ',' :: more =>
        (items room steps (skip more)).map fun (items, left) => (item :: items, left)
      | _ => .error .malformed

/-- Reads the fields of an object up to its closing brace, after those read before. -/
def fields : Nat → Nat → List (String × Json) → List Char →
    Except Refusal (List (String × Json) × List Char)
  | _, 0, _, _ => .error .malformed
  | room, steps + 1, done, '"' :: cs =>
    match string? [] cs with
    | none => .error .malformed
    | some (name, rest) =>
      match skip rest with
      | ':' :: more =>
        match value room steps (skip more) with
        | .error e => .error e
        | .ok (value, left) =>
          let known := Assoc.put (String.ofList name) value done
          match skip left with
          | '\x7d' :: last => .ok (known, last)
          | ',' :: next => fields room steps known (skip next)
          | _ => .error .malformed
      | _ => .error .malformed
  | _, _ + 1, _, _ => .error .malformed

end

/-- Reads a text that holds one value in which lists and objects lie in one another at most so
deep. -/
def read (room : Nat) (s : String) : Except Refusal Json := do
  let cs := skip s.toList
  let (value, rest) ← value room (cs.length + 1) cs
  if (skip rest).isEmpty then pure value else throw .malformed

end Honeypot.Json
