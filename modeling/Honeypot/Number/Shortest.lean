import Honeypot.Number.Parts
import Honeypot.Text.Basic

/-!
# The fewest digits that read back

`shortest` finds the decimal number with the fewest significant digits among those that a reader
takes for a given double, and of these the nearest to it. `written` sets the digits out by a
`Layout`.

The reals that a reader takes for `m * 2 ^ q` are an interval whose ends lie half a step away,
with the ends themselves if `m` is even. A grid of decimal numbers meets the interval only if one
of the two grid points next to the value lies in it.
-/

namespace Honeypot.Number

/-- A positive decimal number `digits * 10 ^ exponent`. -/
structure Decimal where
  digits : Nat
  exponent : Int
  deriving Repr, DecidableEq

/-- `n * 2 ^ q * 10 ^ (-k)` as a fraction. -/
def scaled (n : Nat) (q k : Int) : Nat × Nat :=
  let (num, den) := ratio n q
  if 0 ≤ k then (num, den * Nat.pow 10 k.toNat) else (num * Nat.pow 10 (-k).toNat, den)

/-- Whether the grid point `d * 10 ^ k` is taken for `m * 2 ^ q` by a reader. All is measured in
quarters of a step, so that the ends of the interval are whole. -/
def readsBack (m : Nat) (q k : Int) (d : Nat) : Bool :=
  let below := if m == hiddenBit && q > -1074 then 4 * m - 1 else 4 * m - 2
  let above := 4 * m + 2
  let (lowNum, lowDen) := scaled below (q - 2) k
  let (highNum, highDen) := scaled above (q - 2) k
  if m % 2 == 0 then lowNum ≤ d * lowDen && d * highDen ≤ highNum
  else lowNum < d * lowDen && d * highDen < highNum

/-- The better of the two grid points next to the value, if one of them reads back. -/
def onGrid? (m : Nat) (q k : Int) : Option Decimal :=
  let (num, den) := scaled m q k
  let lower := num / den
  let upper := lower + 1
  let nearest := roundDiv num den
  let other := if nearest == lower then upper else lower
  if 0 < nearest && readsBack m q k nearest then some ⟨nearest, k⟩
  else if 0 < other && readsBack m q k other then some ⟨other, k⟩
  else none

/-- The number of decimal digits of the integer part of a fraction, or minus the number of zeros
after the point if that is zero. -/
def magnitude (num den : Nat) : Int :=
  if den ≤ num then ((Nat.toDigits 10 (num / den)).length : Int)
  else
    let up := (Nat.toDigits 10 (den / num)).length
    if num * Nat.pow 10 up ≥ den then 1 - (up : Int) else -(up : Int)

/-- The first of the grids of `size`, `size + 1`, … digits that has a point which reads back. -/
def firstGrid (m : Nat) (q top : Int) : Nat → Nat → Decimal
  | size, 0 => (onGrid? m q (top - size)).getD ⟨m, q⟩
  | size, more + 1 =>
    match onGrid? m q (top - size) with
    | some d => d
    | none => firstGrid m q top (size + 1) more

/-- The shortest decimal that reads back as `m * 2 ^ q`, for a positive `m`. -/
def shortest (m : Nat) (q : Int) : Decimal :=
  let (num, den) := ratio m q
  firstGrid m q (magnitude num den) 1 16

/-- How the digits of a number are set out. -/
structure Layout where
  /-- The least power of ten of the first digit that is written without an exponent. -/
  positionalFrom : Int
  /-- The least power of ten of the first digit that needs an exponent again. -/
  positionalBelow : Int
  /-- The least number of digits of an exponent. -/
  exponentDigits : Nat
  infinite : String
  undefined : String

/-- Digits without the zeros at their end. -/
def significant (digits : List Char) : List Char := Text.dropEnd (· == '0') digits

/-- A positive decimal, set out. A number without an exponent has at least one decimal place. -/
def Layout.positive (layout : Layout) (d : Decimal) : String :=
  let digits := significant (Nat.toDigits 10 d.digits)
  let lead := (Nat.toDigits 10 d.digits).length + d.exponent - 1
  let text (cs : List Char) : String := String.ofList cs
  if layout.positionalFrom ≤ lead && lead < layout.positionalBelow then
    if lead < 0 then "0." ++ Text.copies (-lead - 1).toNat '0' ++ text digits
    else
      let whole := digits.take (lead.toNat + 1)
      let rest := digits.drop (lead.toNat + 1)
      text whole ++ Text.copies (lead.toNat + 1 - whole.length) '0' ++ "." ++
        (if rest.isEmpty then "0" else text rest)
  else
    let rest := digits.drop 1
    text (digits.take 1) ++ (if rest.isEmpty then "" else "." ++ text rest) ++ "e" ++
      (if lead < 0 then "-" else "+") ++
      Text.fillLeft '0' layout.exponentDigits (Text.ofNat lead.natAbs)

/-- A number in the fewest digits that read back. -/
def Layout.written (layout : Layout) (x : Float) : String :=
  match parts x with
  | .finite negative mantissa exponent =>
    (if negative then "-" else "") ++
      (if mantissa == 0 then "0.0" else layout.positive (shortest mantissa exponent))
  | .infinite negative => (if negative then "-" else "") ++ layout.infinite
  | .undefined => layout.undefined

/-- Numbers of ordinary size without an exponent, as far as their digits are exact. -/
def plain : Layout := ⟨-4, 16, 2, "inf", "nan"⟩

end Honeypot.Number
