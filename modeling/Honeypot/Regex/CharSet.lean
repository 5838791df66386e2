import Honeypot.Text.Blank
import Honeypot.Text.Case
import Honeypot.Text.Digit

/-!
# Sets of characters

A set is made of single characters, ranges and named classes. Where case does not count, a part
of a set stands for all characters that are the same as one of its own up to case
(`Letters.same`).
-/

namespace Honeypot.Regex

/-! ## Case -/

/-- How letters are compared and which characters are letters. -/
structure Letters where
  /-- Whether letters stand for both their cases. -/
  anyCase : Bool
  /-- Whether only letters of ASCII have two cases, and named classes hold characters of ASCII
  only. -/
  ascii : Bool
  deriving Repr, DecidableEq

/-- Letters that are the same up to case although their lower-case letters differ. -/
def caseGroups : List (List Nat) := [
  [0x69, 0x131], [0x73, 0x17F], [0xB5, 0x3BC], [0x345, 0x3B9, 0x1FBE], [0x390, 0x1FD3],
  [0x3B0, 0x1FE3], [0x3B2, 0x3D0], [0x3B5, 0x3F5], [0x3B8, 0x3D1], [0x3BA, 0x3F0],
  [0x3C0, 0x3D6], [0x3C1, 0x3F1], [0x3C2, 0x3C3], [0x3C6, 0x3D5], [0x432, 0x1C80],
  [0x434, 0x1C81], [0x43E, 0x1C82], [0x441, 0x1C83], [0x442, 0x1C84, 0x1C85],
  [0x44A, 0x1C86], [0x463, 0x1C87], [0x1C88, 0xA64B], [0x1E61, 0x1E9B], [0xFB05, 0xFB06]]

/-- A lower-case letter and those that are the same up to case. -/
def caseMates (n : Nat) : List Nat := n :: ((caseGroups.find? (·.contains n)).getD []).erase n

/-- The characters whose lower-case letter is the given one. -/
def withLower (n : Nat) : List Nat :=
  (if (Text.lowerChar (Char.ofNat n)).toNat = n then [n] else []) ++
    (if 97 ≤ n && n ≤ 122 then [n - 32] else []) ++ (if n = 0x69 then [0x130] else []) ++
    Text.lowerRuns.filterMap fun (first, last, _, image) =>
      let source := first + (n - image)
      if image ≤ n && source ≤ last && (Text.lowerChar (Char.ofNat source)).toNat = n then
        some source
      else none

/-- The first capital letter of a letter. The capital of the sharp s does not count, and that of an
n with an apostrophe is written in two characters, of which the first one counts. -/
def capital (n : Nat) : Nat :=
  if n = 0xDF then n
  else if n = 0x149 then 0x2BC
  else (((caseMates n).flatMap fun m => (withLower m).filter (· != m)).head?).getD n

/-- The character that is compared in the place of a character: its lower-case letter where case
does not count. -/
def Letters.fold (l : Letters) (c : Char) : Char :=
  if !l.anyCase then c else if l.ascii then c.toLower else Text.lowerChar c

/-- The characters that are the same as a character, up to case where case does not count. -/
def Letters.same (l : Letters) (c : Char) : List Nat :=
  if !l.anyCase then [c.toNat]
  else if l.ascii then [c.toLower.toNat, c.toUpper.toNat]
  else (caseMates (Text.lowerChar c).toNat).flatMap withLower

/-- Whether a code point stands for others too, because case does not count. Surrogates are no
characters and stand for themselves. -/
def Letters.isCased (l : Letters) (n : Nat) : Bool :=
  (Char.ofNat n).toNat == n && !(l.same (Char.ofNat n)).all (· == n)

/-! ## Parts of sets -/

/-- A named class of characters. -/
inductive Class where
  | digit
  | space
  | word
  deriving Repr, DecidableEq

/-- A part of a set of characters. -/
inductive Item where
  /-- One code point. -/
  | char (n : Nat)
  /-- Neighbouring code points. -/
  | range (low high : Nat)
  /-- A named class or everything outside it. -/
  | named (c : Class) (negated : Bool)
  deriving Repr, DecidableEq

/-- Whether a character belongs to a named class. -/
def Class.holds (ascii : Bool) (k : Class) (c : Char) : Bool :=
  (!ascii || c.toNat < 128) &&
    match k with
    | .digit => Text.isDecimal c
    | .space => if ascii then c == ' ' || (9 ≤ c.toNat && c.toNat ≤ 13) else Text.isBlank c
    | .word => Text.isWordChar c

/-- The first code point beyond the basic plane. -/
def beyondBasic : Nat := 0x10000

/-- Whether a character belongs to a part of a set. Beyond the basic plane, a character that is not
alone in its set stands for the characters that have it as their lower-case letter, and a range
that leads there goes by the capital letters of all scripts too. -/
def Item.holds (l : Letters) (alone : Bool) (c : Char) : Item → Bool
  | .char n =>
    if alone || n < beyondBasic then (l.same c).contains n else (l.fold c).toNat == n
  | .range low high =>
    let same :=
      if l.anyCase && beyondBasic ≤ high then capital (l.fold c).toNat :: l.same c else l.same c
    same.any fun n => low ≤ n && n ≤ high
  | .named k negated => k.holds l.ascii c != negated

/-- Whether a part of a set stands for more than is written, because case does not count. -/
def Item.isFolded (l : Letters) : Item → Bool
  | .char n => l.isCased n
  | .range low high =>
    l.anyCase && (beyondBasic ≤ high || (List.range' low (high + 1 - low)).any l.isCased)
  | .named .. => false

/-! ## Sets -/

structure CharSet where
  items : List Item
  negated : Bool
  letters : Letters
  deriving Repr, DecidableEq

namespace CharSet

/-- The set of some parts, each of them once. -/
def ofItems (letters : Letters) (negated : Bool) (items : List Item) : CharSet :=
  ⟨items.eraseDups, negated, letters⟩

def single (letters : Letters) (n : Nat) : CharSet := ⟨[.char n], false, letters⟩

/-- Whether a character belongs to a set. -/
def holds (s : CharSet) (c : Char) : Bool :=
  s.items.any (Item.holds s.letters (s.items.length == 1) c) != s.negated

/-- Whether a set stands for more than is written, because case does not count. -/
def isFolded (s : CharSet) : Bool := s.items.any (·.isFolded s.letters)

/-- The set of what belongs to one of some sets, where none of them is given by what is outside
it. -/
def union? (sets : List CharSet) : Option CharSet :=
  match sets with
  | [] => none
  | first :: _ =>
    if sets.all fun s => !s.negated && s.letters == first.letters then
      some (ofItems first.letters false (sets.flatMap (·.items)))
    else none

end CharSet

end Honeypot.Regex
