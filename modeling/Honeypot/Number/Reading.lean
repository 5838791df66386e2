import Honeypot.Number.Parts
import Honeypot.Text.Blank
import Honeypot.Text.Digit

/-!
# Reading numbers

The grammar of a number in a setting or an argument. Blanks may stand around it, digits of any
script count, and a single underscore may stand between two digits.
-/

namespace Honeypot.Number

/-- Blanks that may stand around a number: those of ASCII and those beyond it, without the
separators 28 to 31. -/
def isMargin (c : Char) : Bool := Text.isBlank c && !(28 ≤ c.toNat && c.toNat ≤ 31)

/-- A character with a decimal digit of another script replaced by the ASCII one. -/
def asciiDigit (c : Char) : Char :=
  match Text.decimalValue? c with
  | some d => Char.ofNat (48 + d)
  | none => c

/-- The value of digits with single underscores between them; `value` is what was read so far and
`digitNext` tells whether a digit has to come next. -/
def digitsValue? (base : Nat) (value : Nat) (digitNext : Bool) : List Char → Option Nat
  | [] => if digitNext then none else some value
  | '_' :: rest => if digitNext then none else digitsValue? base value true rest
  | c :: rest =>
    match Text.digitValue? c with
    | some d => if d < base then digitsValue? base (value * base + d) false rest else none
    | none => none

/-- Splits a sign off; true stands for minus. -/
def signed : List Char → Bool × List Char
  | '-' :: rest => (true, rest)
  | '+' :: rest => (false, rest)
  | cs => (false, cs)

/-- Splits off the mark of a hexadecimal number and one underscore after it. -/
def unmarked : List Char → List Char
  | '0' :: x :: rest =>
    if x == 'x' || x == 'X' then (match rest with | '_' :: more => more | _ => rest)
    else '0' :: x :: rest
  | cs => cs

/-- The most digits of a decimal integer that is read. -/
def maxDigits : Nat := 4300

def readInt? (s : String) : Option Int :=
  let (negative, body) := signed ((Text.dropEnds isMargin s.toList).map asciiDigit)
  if (body.filter Char.isDigit).length > maxDigits then none
  else (digitsValue? 10 0 true body).map fun n => if negative then -(n : Int) else n

/-- Reads an integer in hexadecimal digits, with or without the mark `0x`. -/
def readHex? (s : String) : Option Int :=
  let (negative, body) := signed ((Text.dropEnds isMargin s.toList).map asciiDigit)
  (digitsValue? 16 0 true (unmarked body)).map fun n => if negative then -(n : Int) else n

/-- Whether every underscore stands between two digits; `afterDigit` tells of the character
before. -/
def underscoresFit (afterDigit : Bool) : List Char → Bool
  | [] => true
  | '_' :: c :: rest => afterDigit && c.isDigit && underscoresFit true rest
  | ['_'] => false
  | c :: rest => underscoresFit c.isDigit rest

def runValue (digits : List Char) : Nat :=
  digits.foldl (fun n c => n * 10 + (c.toNat - 48)) 0

/-- `digits * 10 ^ exponent` as the nearest double. Exponents beyond every double's range are
not worked out. -/
def nearest (digits : Nat) (exponent : Int) : Float :=
  let size := (Nat.toDigits 10 digits).length
  if digits == 0 then 0.0
  else if exponent + size > 400 then 1.0 / 0.0
  else if exponent + size < -400 then 0.0
  else if exponent < 0 then Float.ofScientific digits true (-exponent).toNat
  else Float.ofScientific digits false exponent.toNat

/-- Reads the exponent that may follow a mantissa. -/
def exponentValue? : List Char → Option Int
  | [] => some 0
  | e :: rest =>
    if e == 'e' || e == 'E' then
      let (negative, digits) := signed rest
      if digits.isEmpty || !digits.all Char.isDigit then none
      else
        let n := runValue digits
        some (if negative then -(n : Int) else n)
    else none

/-- Reads digits with at most one point among them, and an exponent. -/
def decimalValue? (body : List Char) : Option Float :=
  let whole := body.takeWhile Char.isDigit
  let afterWhole := body.dropWhile Char.isDigit
  let (places, rest) :=
    match afterWhole with
    | '.' :: more => (more.takeWhile Char.isDigit, more.dropWhile Char.isDigit)
    | _ => ([], afterWhole)
  if whole.isEmpty && places.isEmpty then none
  else (exponentValue? rest).map fun e => nearest (runValue (whole ++ places)) (e - places.length)

/-- Reads the name of a number that has no digits. -/
def namedValue? (body : List Char) : Option Float :=
  let name := String.ofList (body.map Char.toLower)
  if name == "inf" || name == "infinity" then some (1.0 / 0.0)
  else if name == "nan" then some (0.0 / 0.0)
  else none

/-- Reads a number with or without a point and an exponent. -/
def readFloat? (s : String) : Option Float :=
  let cs := (Text.dropEnds isMargin s.toList).map asciiDigit
  if !underscoresFit false cs then none
  else
    let (negative, body) := signed (cs.filter (· != '_'))
    let size := (namedValue? body).or (decimalValue? body)
    size.map fun x => if negative then -x else x

end Honeypot.Number
