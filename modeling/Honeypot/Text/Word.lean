import Honeypot.Text.WordTable

/-!
# Characters of a word

Letters and numbers of any script, and the underscore.
-/

namespace Honeypot.Text

/-- Whether a code point lies in one of the ranges. -/
def inRanges (ranges : List (Nat × Nat)) (n : Nat) : Bool :=
  ranges.any fun (low, high) => low ≤ n && n ≤ high

/-- Letters and numbers of any script. -/
def isAlphanumeric (c : Char) : Bool :=
  if c.toNat < 128 then c.isAlphanum else inRanges wordRanges c.toNat

/-- The characters that a name is made of. -/
def isWordChar (c : Char) : Bool := c == '_' || isAlphanumeric c

end Honeypot.Text
