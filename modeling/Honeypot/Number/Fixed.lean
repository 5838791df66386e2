import Honeypot.Number.Parts
import Honeypot.Text.Basic

/-!
# A fixed number of decimal places

`fixed` writes a number with a given number of places. The exact value is rounded, a tie going to
the even last digit, and the sign of a negative number is kept even if all its digits are zero.
-/

namespace Honeypot.Number

/-- The digits of `n / 10 ^ places` with a point in front of the last `places` of them. -/
def withPoint (places n : Nat) : String :=
  if places = 0 then Text.ofNat n
  else
    Text.ofNat (n / Nat.pow 10 places) ++ "." ++
      Text.fillLeft '0' places (Text.ofNat (n % Nat.pow 10 places))

/-- A number with `places` decimal places. -/
def fixed (places : Nat) (x : Float) : String :=
  match parts x with
  | .finite negative mantissa exponent =>
    let (num, den) := ratio mantissa exponent
    (if negative then "-" else "") ++ withPoint places (roundDiv (num * Nat.pow 10 places) den)
  | .infinite negative => if negative then "-inf" else "inf"
  | .undefined => "nan"

end Honeypot.Number
