import Honeypot.Text.Basic

/-!
# Blanks and words

Which characters count as white space, and the words that they separate. The set is the white
space of all scripts together with the four separators 28 to 31; the zero-width space is no blank.
-/

namespace Honeypot.Text

/-- White space of any script. -/
def isBlank (c : Char) : Bool :=
  let n := c.toNat
  (9 ≤ n && n ≤ 13) || (28 ≤ n && n ≤ 32) || n == 0x85 || n == 0xA0 || n == 0x1680 ||
    (0x2000 ≤ n && n ≤ 0x200A) || n == 0x2028 || n == 0x2029 || n == 0x202F || n == 0x205F ||
    n == 0x3000

/-- The maximal runs of characters that are no blanks. -/
def wordsOf (cs : List Char) : List (List Char) :=
  (cs.splitOnP isBlank).filter fun w => !w.isEmpty

def words (s : String) : List String := (wordsOf s.toList).map String.ofList

/-- A text without the blanks around it. -/
def strip (s : String) : String := trim isBlank s

end Honeypot.Text
