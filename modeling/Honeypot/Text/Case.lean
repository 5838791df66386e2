import Honeypot.Text.CaseTable
import Honeypot.Text.Word

/-!
# Lower case

`lower` writes a text in lower case. One letter has a lower case of two characters, and a capital
sigma becomes the final form at the end of a word.
-/

namespace Honeypot.Text

/-- The one lower-case letter of a character, or the character itself. -/
def lowerChar (c : Char) : Char :=
  let n := c.toNat
  if n < 128 then c.toLower
  else if n == 0x130 then 'i'
  else
    match lowerRuns.find? fun (first, last, step, _) =>
        first ≤ n && n ≤ last && (n - first) % step == 0 with
    | some (first, _, _, image) => Char.ofNat (image + (n - first))
    | none => c

/-- Characters that are passed over when the neighbours of a sigma are looked for. -/
def isCaseIgnorable (c : Char) : Bool := inRanges caseIgnorableRanges c.toNat

/-- Characters with a case, as they count for the spelling of a sigma. -/
def isCased (c : Char) : Bool := inRanges casedRanges c.toNat

/-- Whether the first character that is not passed over has a case. -/
def nextIsCased (cs : List Char) : Bool :=
  match cs.dropWhile isCaseIgnorable with
  | c :: _ => isCased c
  | [] => false

/-- Lower case of the characters after `done`, which is the text before them in reverse. -/
def lowerFrom (done : List Char) : List Char → List Char
  | [] => []
  | c :: rest =>
    let image :=
      if c == 'Σ' then (if nextIsCased done && !nextIsCased rest then ['ς'] else ['σ'])
      else if c == 'İ' then ['i', '\u0307']
      else [lowerChar c]
    image ++ lowerFrom (c :: done) rest

def lower (s : String) : String := String.ofList (lowerFrom [] s.toList)

end Honeypot.Text
