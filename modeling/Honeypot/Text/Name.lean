import Honeypot.Text.Basic
import Honeypot.Text.NameTable

/-!
# Characters by name

`named?` finds a character by a name of one word. Letters of ASCII count in either case.
-/

namespace Honeypot.Text

/-- The selector of a variant with a number from 1 to 256. -/
def variantSelector (n : Nat) : Nat := if n ≤ 16 then 0xFDFF + n else 0xE00EF + n

/-- The code point of the character that has a name of one word. -/
def named? (name : String) : Option Nat :=
  let name := name.map Char.toUpper
  (nameTable.lookup name).or
    (((List.range' 1 256).find? fun n => "VS" ++ ofNat n == name).map variantSelector)

end Honeypot.Text
