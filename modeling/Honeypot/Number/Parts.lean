/-!
# The exact value of a binary number

`parts` opens a double-precision number into a sign and a fraction of natural numbers, so that
everything printed of it is exact arithmetic. `roundDiv` divides with the nearest result, a tie
going to the even neighbour; `roundTo` and `truncate` are rounding on the exact value.
-/

namespace Honeypot.Number

/-- What a double-precision number stands for. -/
inductive Parts where
  /-- `mantissa * 2 ^ exponent`, negated if `negative`. -/
  | finite (negative : Bool) (mantissa : Nat) (exponent : Int)
  | infinite (negative : Bool)
  | undefined
  deriving Repr, DecidableEq

/-- The value of the bit that stands before the bits of every mantissa, `2 ^ 52`. -/
def hiddenBit : Nat := 1 <<< 52

/-- The sign, mantissa and exponent of a number. -/
def parts (x : Float) : Parts :=
  let bits : Nat := x.toBits.toNat
  let negative : Bool := bits >>> 63 == 1
  let biased : Nat := (bits >>> 52) % 2048
  let low : Nat := bits % hiddenBit
  if biased == 2047 then (if low == 0 then .infinite negative else .undefined)
  else if biased == 0 then .finite negative low (-1074)
  else .finite negative (hiddenBit + low) ((biased : Int) - 1075)

/-- The numerator and denominator of `mantissa * 2 ^ exponent`. -/
def ratio (mantissa : Nat) (exponent : Int) : Nat × Nat :=
  if 0 ≤ exponent then (mantissa <<< exponent.toNat, 1)
  else (mantissa, 1 <<< (-exponent).toNat)

/-- The natural number nearest to `num / den`; a tie goes to the even one. -/
def roundDiv (num den : Nat) : Nat :=
  let quotient := num / den
  let twice := 2 * (num % den)
  if twice < den then quotient
  else if den < twice then quotient + 1
  else quotient + quotient % 2

/-- The integer part of a number, if it is finite. -/
def truncate? (x : Float) : Option Int :=
  match parts x with
  | .finite negative mantissa exponent =>
    let (num, den) := ratio mantissa exponent
    some (if negative then -((num / den : Nat) : Int) else (num / den : Nat))
  | _ => none

/-- The greatest integer that is no greater than `x / n`, if `x` is finite. -/
def floorDiv? (x : Float) (n : Nat) : Option Int :=
  match parts x with
  | .finite negative mantissa exponent =>
    let (num, den) := ratio mantissa exponent
    some (Int.fdiv (if negative then -(num : Int) else num) (den * n : Nat))
  | _ => none

/-- The greatest integer that is no greater than the number, if it is finite. -/
def floor? (x : Float) : Option Int := floorDiv? x 1

/-- Whether an integer is nearest to one of the finite numbers. -/
def isInRange (n : Int) : Bool := n.natAbs < (1 <<< 1024) - (1 <<< 970)

/-- The integer part of a finite number, and 0 for the others. -/
def truncate (x : Float) : Int := (truncate? x).getD 0

/-- The number nearest to `x` rounded to `places` decimal places, a tie of the exact value going
to the even last digit. -/
def roundTo (places : Nat) (x : Float) : Float :=
  match parts x with
  | .finite negative mantissa exponent =>
    let (num, den) := ratio mantissa exponent
    let size := Float.ofScientific (roundDiv (num * Nat.pow 10 places) den) true places
    if negative then -size else size
  | _ => x

end Honeypot.Number
