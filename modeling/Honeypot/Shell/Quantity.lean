import Honeypot.Fault
import Honeypot.Number.Fixed

/-!
# Quantities for people

Sizes with a unit, and spans of time in days, hours and minutes.
-/

namespace Honeypot.Shell

/-- Divides by 1024 until the number is small or the units are used up. -/
def scaleSize (value : Float) (unit : String) : List String → Float × String
  | [] => (value, unit)
  | next :: rest => if value >= 1024.0 then scaleSize (value / 1024.0) next rest else (value, unit)

/-- A number of kilobytes with a unit, as a table of disks shows it. -/
def humanSize (kb : Int) : Except Fault String :=
  if kb ≤ 0 then .ok "0"
  else if Number.isInRange kb then
    let (value, unit) := scaleSize (Float.ofInt kb) "K" ["M", "G", "T", "P"]
    .ok (Number.fixed (if value < 10.0 then 1 else 0) value ++ unit)
  else .error .hugeQuantity

/-- A number of kilobytes with a binary unit, as a table of memory shows it. -/
def humanFree (kb : Int) : Except Fault String :=
  if kb ≤ 0 then .ok "0B" else (humanSize kb).map (· ++ "i")

/-- A 1024th of a quantity. What does not fit into 1024 times the greatest real has none. -/
def perKibi (n : Int) : Except Fault Float :=
  if Number.isInRange n then .ok (Float.ofInt n / 1024.0)
  else
    -- a remainder is kept as a last bit, far behind those that count for the rounding
    let size : Nat := n.natAbs / 1024 ||| (if n.natAbs % 1024 = 0 then 0 else 1)
    if Number.isInRange size then
      .ok (if n < 0 then -(Float.ofNat size) else Float.ofNat size)
    else .error .hugeQuantity

/-- An integer with zeros in front up to a width; a minus sign stands before the zeros. -/
def zeroPadded (width : Nat) (n : Int) : String :=
  if n < 0 then "-" ++ Text.fillLeft '0' (width - 1) (Text.ofNat n.natAbs)
  else Text.fillLeft '0' width (Text.ofInt n)

/-- The time that the device has been up, in short form. -/
def formatUp (minutes : Int) : String :=
  let days := Int.fdiv minutes 1440
  let hours := Int.fdiv (Int.fmod minutes 1440) 60
  let rest := Int.fmod (Int.fmod minutes 1440) 60
  let clock := Text.padLeft 2 (Text.ofInt hours) ++ ":" ++ zeroPadded 2 rest
  if days ≠ 0 then
    let label := if days = 1 then "day" else "days"
    "up " ++ Text.ofInt days ++ " " ++ label ++ ", " ++
      (if hours ≠ 0 then clock else Text.ofInt rest ++ " min")
  else if hours ≠ 0 then "up " ++ clock
  else "up " ++ Text.ofInt rest ++ " min"

end Honeypot.Shell
