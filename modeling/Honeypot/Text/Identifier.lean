import Honeypot.Text.Digit
import Honeypot.Text.IdentifierTable
import Honeypot.Text.Word

/-!
# Identifiers

An identifier is a letter or an underscore, followed by letters, digits, underscores and marks.
-/

namespace Honeypot.Text

/-- Whether an identifier may go on with a character. -/
def isIdentifierChar (c : Char) : Bool :=
  if isWordChar c then !inRanges wordOnlyRanges c.toNat else inRanges markRanges c.toNat

/-- Whether an identifier may begin with a character. -/
def isIdentifierStart (c : Char) : Bool :=
  if isWordChar c then
    isIdentifierChar c && !isDecimal c && !inRanges laterRanges c.toNat
  else inRanges firstMarkRanges c.toNat

def isIdentifier : List Char → Bool
  | [] => false
  | c :: rest => isIdentifierStart c && rest.all isIdentifierChar

end Honeypot.Text
