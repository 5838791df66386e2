import Honeypot.Text.DigitTable

/-!
# Decimal digits

The value of a decimal digit of any script, and of a digit in a base up to 36.
-/

namespace Honeypot.Text

def decimalValue? (c : Char) : Option Nat :=
  let n := c.toNat
  if n < 128 then (if 48 ≤ n && n ≤ 57 then some (n - 48) else none)
  else (zeroDigits.find? fun first => first ≤ n && n < first + 10).map (n - ·)

/-- Whether a character is a decimal digit of some script. -/
def isDecimal (c : Char) : Bool := (decimalValue? c).isSome

/-- The value of a character as a digit in bases up to 36: a decimal digit of any script, or a
letter from `a` (10) to `z` (35) in either case. -/
def digitValue? (c : Char) : Option Nat :=
  if 'a' ≤ c && c ≤ 'z' then some (c.toNat - 87)
  else if 'A' ≤ c && c ≤ 'Z' then some (c.toNat - 55)
  else decimalValue? c

/-- The value of a hexadecimal digit written in ASCII. -/
def hexValue? (c : Char) : Option Nat :=
  if c.toNat < 128 then (digitValue? c).filter (· < 16) else none

end Honeypot.Text
