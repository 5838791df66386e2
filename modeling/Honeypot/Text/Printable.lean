import Honeypot.Text.HiddenTable
import Honeypot.Text.Word

/-!
# Printable characters

Which characters show something when they are printed, the plain blank included.
-/

namespace Honeypot.Text

/-- Whether a character can be shown as it is. -/
def isPrintable (c : Char) : Bool := !inRanges hiddenRanges c.toNat

end Honeypot.Text
