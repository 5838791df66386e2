/-!
# Text by its characters

Cutting, joining, padding and comparing text. Every function is given by what it does to the list
of characters, so that a statement about a text is a statement about a list.
-/

namespace Honeypot.Text

/-! ## Tests -/

def startsWith (s head : String) : Bool := head.toList.isPrefixOf s.toList

def endsWith (s tail : String) : Bool := tail.toList.isSuffixOf s.toList

def hasChar (s : String) (c : Char) : Bool := s.toList.contains c

/-- Whether `part` occurs in `whole` as a run of neighbouring characters. -/
def hasRun (part : List Char) : List Char → Bool
  | [] => part.isEmpty
  | c :: rest => part.isPrefixOf (c :: rest) || hasRun part rest

def hasText (s part : String) : Bool := hasRun part.toList s.toList

/-- The order of texts by code point. -/
def charsBefore : List Char → List Char → Bool
  | _, [] => false
  | [], _ :: _ => true
  | a :: as, b :: bs => a.toNat < b.toNat || (a == b && charsBefore as bs)

/-- Whether `a` comes strictly before `b` in the order by code point. -/
def before (a b : String) : Bool := charsBefore a.toList b.toList

/-- Stable sorting of values by a text that each of them has. -/
def sortBy {α : Type} (key : α → String) (values : List α) : List α :=
  values.mergeSort fun a b => !before (key b) (key a)

/-- Texts in the order by code point. -/
def sort (texts : List String) : List String := sortBy id texts

/-! ## Pieces -/

def drop (s : String) (n : Nat) : String := String.ofList (s.toList.drop n)

def take (s : String) (n : Nat) : String := String.ofList (s.toList.take n)

/-- The pieces of `s` between the occurrences of `sep`; there is always one more piece than
occurrences. -/
def fields (sep : Char) (s : String) : List String := (s.toList.splitOn sep).map String.ofList

/-- The text before and the text after the first `sep`, if there is one. -/
def cutFirst (sep : Char) : List Char → Option (List Char × List Char)
  | [] => none
  | c :: rest =>
    if c = sep then some ([], rest)
    else (cutFirst sep rest).map fun (left, right) => (c :: left, right)

/-- The text before and the text after the last `sep`, if there is one. -/
def cutLast (sep : Char) : List Char → Option (List Char × List Char)
  | [] => none
  | c :: rest =>
    match cutLast sep rest with
    | some (left, right) => some (c :: left, right)
    | none => if c = sep then some ([], rest) else none

/-- What follows the last `sep`, or all of `s`. -/
def afterLast (sep : Char) (s : String) : String :=
  match cutLast sep s.toList with
  | some (_, right) => String.ofList right
  | none => s

/-- `s` without the characters of a class at its start. -/
def trimStart (drops : Char → Bool) (s : String) : String :=
  String.ofList (s.toList.dropWhile drops)

/-- A list without the members of a class at its end. -/
def dropEnd (drops : Char → Bool) (cs : List Char) : List Char :=
  (cs.reverse.dropWhile drops).reverse

/-- `s` without the characters of a class at its end. -/
def trimEnd (drops : Char → Bool) (s : String) : String :=
  String.ofList (dropEnd drops s.toList)

/-- A list without the members of a class at both ends. -/
def dropEnds (drops : Char → Bool) (cs : List Char) : List Char :=
  dropEnd drops (cs.dropWhile drops)

/-- `s` without the characters of a class at both ends. -/
def trim (drops : Char → Bool) (s : String) : String :=
  String.ofList (dropEnds drops s.toList)

/-- `s` without any character of a class. -/
def without (drops : Char → Bool) (s : String) : String :=
  String.ofList (s.toList.filter fun c => !drops c)

/-! ## Joining and padding -/

/-- The texts with `sep` between neighbours. -/
def join (sep : String) (parts : List String) : String := String.intercalate sep parts

/-- Each line followed by a line feed. -/
def block (lines : List String) : String := String.join (lines.map (· ++ "\n"))

def copies (n : Nat) (c : Char) : String := String.ofList (List.replicate n c)

/-- `s` with `c` put in front until it is `width` characters long. -/
def fillLeft (c : Char) (width : Nat) (s : String) : String := copies (width - s.length) c ++ s

/-- `s` set flush right in a column. -/
def padLeft (width : Nat) (s : String) : String := fillLeft ' ' width s

/-- `s` set flush left in a column. -/
def padRight (width : Nat) (s : String) : String := s ++ copies (width - s.length) ' '

/-- A natural number in a given base, with lower-case digits. -/
def inBase (base n : Nat) : String := String.ofList (Nat.toDigits base n)

def ofNat (n : Nat) : String := inBase 10 n

/-- An integer in decimal digits, after a minus sign if it is negative. -/
def ofInt : Int → String
  | .ofNat n => ofNat n
  | .negSucc n => "-" ++ ofNat (n + 1)

end Honeypot.Text
