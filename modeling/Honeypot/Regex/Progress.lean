import Honeypot.Regex.Basic

/-!
# Reading with progress

What is known while a pattern is being read, and the steps that take characters off it. A fault
that only shows once the whole pattern has been read is noted in `Progress.spoiled`.
-/

namespace Honeypot.Regex

/-- Why a text is no pattern. -/
inductive Fault where
  | malformed
  /-- A number of repetitions is beyond all bounds. -/
  | tooLarge
  /-- A number of repetitions has more digits than are read. -/
  | longNumber
  /-- The pattern asks for characters of ASCII and for those of all scripts. -/
  | clash
  /-- Groups lie in one another too deeply. -/
  | tooDeep
  deriving Repr, DecidableEq

/-! ## Flags -/

/-- What changes the meaning of a pattern. -/
structure Flags where
  anyCase : Bool
  /-- Whether lines have starts and ends of their own. -/
  multiLine : Bool
  /-- Whether a dot stands for a line feed too. -/
  dotAll : Bool
  /-- Whether blanks and comments are left out. -/
  verbose : Bool
  /-- Whether characters of ASCII only were asked for. -/
  ascii : Bool
  /-- Whether characters of all scripts were asked for. -/
  everyScript : Bool
  /-- Whether repetitions are refused. -/
  plain : Bool
  deriving Repr, DecidableEq

namespace Flags

def none : Flags := ⟨false, false, false, false, false, false, false⟩

/-- How letters are compared. -/
def letters (flags : Flags) : Letters := ⟨flags.anyCase, flags.ascii⟩

/-- Sets or clears the flag of a letter. -/
def put? (value : Bool) (flags : Flags) (letter : Char) : Option Flags :=
  if letter = 'i' then some { flags with anyCase := value }
  else if letter = 'm' then some { flags with multiLine := value }
  else if letter = 's' then some { flags with dotAll := value }
  else if letter = 'x' then some { flags with verbose := value }
  else if letter = 'a' then some { flags with ascii := value }
  else if letter = 'u' then some { flags with everyScript := value }
  else if letter = 't' then some { flags with plain := value }
  else Option.none

def isLetter (c : Char) : Bool := (none.put? true c).isSome

def set (flags : Flags) (letters : List Char) : Flags :=
  letters.foldl (fun flags c => (flags.put? true c).getD flags) flags

def clear (flags : Flags) (letters : List Char) : Flags :=
  letters.foldl (fun flags c => (flags.put? false c).getD flags) flags

/-- Sets the flags of letters for one group, where the script that is asked for takes the place of
the one that was. -/
def setInside (flags : Flags) (letters : List Char) : Flags :=
  if letters.contains 'a' || letters.contains 'u' then (flags.clear ['a', 'u']).set letters
  else flags.set letters

end Flags

/-! ## Progress -/

/-- What is known while a pattern is being read. -/
structure Progress where
  rest : List Char
  /-- The number of the next group. -/
  nextGroup : Nat
  names : List (String × Nat)
  /-- The lengths of the groups that are complete. -/
  widths : List (Nat × Nat × Option Nat)
  /-- The number of the next group when the outermost condition on the text before a place was
  begun. -/
  behindFrom : Option Nat
  /-- Groups that alternatives depend on. -/
  required : List Nat
  /-- The flags of the whole pattern. -/
  flags : Flags
  /-- How much deeper groups may lie in one another. -/
  room : Nat
  /-- Whether the text is no pattern, however it goes on. -/
  spoiled : Bool

/-- The lengths of what a group matches. -/
def Progress.width (p : Progress) (index : Nat) : Nat × Option Nat :=
  (p.widths.lookup index).getD (0, some 0)

/-- Reading with a fault. -/
abbrev Read := StateT Progress (Except Fault)

def refuse {α : Type} : Read α := throw .malformed

/-- Notes that the text is no pattern. -/
def spoil : Read Unit := modify fun p => { p with spoiled := true }

/-! ## Characters -/

/-- The next character, left in place. -/
def peek : Read (Option Char) := do pure (← get).rest.head?

def take? : Read (Option Char) := do
  let p ← get
  match p.rest with
  | [] => pure none
  | c :: rest =>
    set { p with rest := rest }
    pure (some c)

/-- Takes the next character off if it is the given one. -/
def accept (c : Char) : Read Bool := do
  let p ← get
  match p.rest with
  | d :: rest =>
    if d = c then
      set { p with rest := rest }
      pure true
    else pure false
  | [] => pure false

/-- Takes characters of a class off, at most so many. -/
def takeWhile (most : Nat) (holds : Char → Bool) : Read (List Char) := do
  let p ← get
  let taken := (p.rest.take most).takeWhile holds
  set { p with rest := p.rest.drop taken.length }
  pure taken

/-- Takes off what stands before a sign, and the sign. -/
def takeUntil (sign : Char) : Read (List Char) := do
  let p ← get
  match Text.cutFirst sign p.rest with
  | some (left, right) =>
    if left.isEmpty then refuse
    else
      set { p with rest := right }
      pure left
  | none => refuse

/-- What stands from a sign on; a backslash takes the character after it along. -/
def fromSign? (sign : Char) : List Char → Option (List Char)
  | [] => some []
  | ['\\'] => none
  | '\\' :: _ :: rest => fromSign? sign rest
  | c :: rest => if c = sign then some (c :: rest) else fromSign? sign rest

/-- Passes over a comment that a sign ends. -/
def skipComment (sign : Char) : Read Unit := do
  let p ← get
  match fromSign? sign p.rest with
  | some rest => set { p with rest := rest }
  | none => refuse

def closing : Read Unit := do
  if ← accept ')' then pure () else refuse

/-! ## Groups -/

/-- Reads something that lies deeper, by a number of steps. -/
def deeper {α : Type} (steps : Nat) (inside : Read α) : Read α := do
  let p ← get
  if p.room < steps then throw .tooDeep
  else
    set { p with room := p.room - steps }
    let result ← inside
    modify fun q => { q with room := p.room }
    pure result

def openGroup (name? : Option String) : Read Nat := do
  let p ← get
  match name? with
  | none =>
    set { p with nextGroup := p.nextGroup + 1 }
    pure p.nextGroup
  | some name =>
    if (p.names.lookup name).isSome then refuse
    else
      set { p with nextGroup := p.nextGroup + 1, names := (name, p.nextGroup) :: p.names }
      pure p.nextGroup

def closeGroup (index : Nat) (body : Node) : Read Unit :=
  modify fun p => { p with widths := (index, body.width p.width) :: p.widths }

/-- The group of a number, if it may be referred to. -/
def checkedGroup (index : Nat) : Read Nat := do
  let p ← get
  if index < p.nextGroup && (p.widths.lookup index).isSome && p.behindFrom.all (index < ·) then
    pure index
  else refuse

/-- Refuses a group that an alternative may not depend on. -/
def checkCondition (index : Nat) : Read Unit := do
  let p ← get
  match p.behindFrom with
  | none => pure ()
  | some first =>
    if index < p.nextGroup && (p.widths.lookup index).isSome && index < first then pure ()
    else refuse

end Honeypot.Regex
