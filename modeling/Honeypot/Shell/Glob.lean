import Honeypot.Text.Basic

/-!
# Wildcards

A pattern for file names: a star stands for any text, a question mark for one character, and
brackets for one character of a set. A bracket that is not closed stands for itself.
-/

namespace Honeypot.Shell.Glob

/-- A part of a pattern. -/
inductive Part where
  /-- Any text. -/
  | anyText
  /-- A character that lies in one of the ranges, or in none of them. -/
  | one (ranges : List (Char × Char)) (negated : Bool)
  deriving Repr, DecidableEq

/-! ## Reading a pattern -/

/-- The characters and ranges between brackets. A hyphen makes a range of the characters beside
it. -/
def ranges : List Char → List (Char × Option Char)
  | [] => []
  | low :: '-' :: high :: rest => (low, some high) :: ranges rest
  | c :: rest => (c, none) :: ranges rest

/-- Whether the bounds of a range are in the wrong order. -/
def isReversed : Char × Option Char → Bool
  | (low, high?) => high?.any fun high => high.toNat < low.toNat

/-- A character alone as a range. -/
def bounds : Char × Option Char → Char × Char
  | (low, high?) => (low, high?.getD low)

/-- The set that the text between two brackets stands for. A range whose bounds are in the wrong
order is left out; an exclamation mark at the start of what is left asks for all other
characters, and a hyphen behind it stands for itself. -/
def setOf (inside : List Char) : Part :=
  let read :=
    match inside with
    | '!' :: rest => ('!', none) :: ranges rest
    | _ => ranges inside
  match read.filter fun r => !isReversed r with
  | ('!', none) :: rest => .one (rest.map bounds) true
  | ('!', some high) :: rest => .one (('-', '-') :: (high, high) :: rest.map bounds) true
  | kept => .one (kept.map bounds) false

/-- The text up to a closing bracket and the text after it, if there is one. A bracket directly
at the start, or after an exclamation mark there, closes nothing. -/
def bracketed? (cs : List Char) : Option (List Char × List Char) :=
  let head :=
    match cs with
    | '!' :: ']' :: _ => 2
    | '!' :: _ => 1
    | ']' :: _ => 1
    | _ => 0
  (Text.cutFirst ']' (cs.drop head)).map fun (inside, rest) => (cs.take head ++ inside, rest)

theorem length_of_cutFirst {sep : Char} {cs left right : List Char}
    (h : Text.cutFirst sep cs = some (left, right)) : right.length < cs.length := by
  induction cs generalizing left with
  | nil => simp [Text.cutFirst] at h
  | cons c rest ih =>
    unfold Text.cutFirst at h
    split at h
    · simp only [Option.some.injEq, Prod.mk.injEq] at h
      simp [h.2]
    · simp only [Option.map_eq_some_iff, Prod.mk.injEq, Prod.exists] at h
      obtain ⟨a, b, hab, _, rfl⟩ := h
      exact Nat.lt_succ_of_lt (ih hab)

theorem length_of_bracketed? {cs inside rest : List Char}
    (h : bracketed? cs = some (inside, rest)) : rest.length ≤ cs.length := by
  simp only [bracketed?, Option.map_eq_some_iff, Prod.mk.injEq, Prod.exists] at h
  obtain ⟨a, b, hab, _, rfl⟩ := h
  exact Nat.le_trans (Nat.le_of_lt (length_of_cutFirst hab)) (by simp)

def parts : List Char → List Part
  | [] => []
  | c :: rest =>
    if c = '*' then .anyText :: parts rest
    else if c = '?' then .one [] true :: parts rest
    else if c = '[' then
      match _h : bracketed? rest with
      | some (inside, more) => setOf inside :: parts more
      | none => .one [(c, c)] false :: parts rest
    else .one [(c, c)] false :: parts rest
  termination_by cs => cs.length
  decreasing_by
    · simp
    · simp
    · have := length_of_bracketed? _h
      simp only [List.length_cons]
      omega
    · simp
    · simp

/-! ## Matching -/

def inSet (set : List (Char × Char)) (negated : Bool) (c : Char) : Bool :=
  (set.any fun (low, high) => low.toNat ≤ c.toNat && c.toNat ≤ high.toNat) != negated

/-- Whether the parts of a pattern match a whole text. -/
def holds : List Part → List Char → Bool
  | [], cs => cs.isEmpty
  | .anyText :: parts, [] => holds parts []
  | .anyText :: parts, c :: rest => holds parts (c :: rest) || holds (.anyText :: parts) rest
  | .one .. :: _, [] => false
  | .one set negated :: parts, c :: rest => inSet set negated c && holds parts rest
  termination_by parts cs => parts.length + cs.length

end Honeypot.Shell.Glob

namespace Honeypot.Shell

def matchesGlob (pattern name : String) : Bool :=
  Glob.holds (Glob.parts pattern.toList) name.toList

end Honeypot.Shell
