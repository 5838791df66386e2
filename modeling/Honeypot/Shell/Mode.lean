import Honeypot.Text.Basic

/-!
# Changes of mode

A change of mode is an octal number of one to four digits, or clauses with commas between them. A
clause names classes of users, an operator and permissions; without classes it concerns all.
-/

namespace Honeypot.Shell

/-- What a clause does with the permissions that it names. -/
inductive ModeOperator where
  | grant
  | revoke
  | assign
  deriving Repr, DecidableEq

/-- A clause of a change of mode: the bits of the classes that it concerns and the bits that it
names in them. -/
structure ModeClause where
  classes : Nat
  operator : ModeOperator
  bits : Nat
  deriving Repr, DecidableEq

def isClassLetter (c : Char) : Bool := c == 'u' || c == 'g' || c == 'o' || c == 'a'

def isPermissionLetter (c : Char) : Bool :=
  c == 'r' || c == 'w' || c == 'x' || c == 'X' || c == 's' || c == 't'

def modeOperator? (c : Char) : Option ModeOperator :=
  if c = '+' then some .grant
  else if c = '-' then some .revoke
  else if c = '=' then some .assign
  else none

/-- The permission bits of one class. -/
def permissionBits (letters : List Char) : Nat :=
  (if letters.contains 'r' then 4 else 0) + (if letters.contains 'w' then 2 else 0) +
    (if letters.contains 'x' || letters.contains 'X' then 1 else 0)

/-- Copies of the bits of one class for all classes that are named. -/
def spread (who : List Char) (bits : Nat) : Nat :=
  let all := who.isEmpty || who.contains 'a'
  (if all || who.contains 'u' then bits * 64 else 0) +
    (if all || who.contains 'g' then bits * 8 else 0) +
    (if all || who.contains 'o' then bits else 0)

/-- Reads a clause; a line feed may stand at its end. -/
def ModeClause.parse? (cs : List Char) : Option ModeClause :=
  let who := cs.takeWhile isClassLetter
  match cs.drop who.length with
  | [] => none
  | sign :: rest =>
    let letters := rest.takeWhile isPermissionLetter
    let tail := rest.drop letters.length
    if tail = [] ∨ tail = ['\n'] then
      (modeOperator? sign).map fun operator =>
        ⟨spread who 7, operator, spread who (permissionBits letters)⟩
    else none

def clearBits (mode bits : Nat) : Nat := mode - (mode &&& bits)

/-- The bits of a mode after a clause. -/
def ModeClause.apply (clause : ModeClause) (mode : Nat) : Nat :=
  match clause.operator with
  | .grant => mode ||| clause.bits
  | .revoke => clearBits mode clause.bits
  | .assign => clearBits mode clause.classes ||| clause.bits

/-- A mode with its last twelve bits changed. -/
def changeBits (change : Nat → Nat) (mode : Int) : Int :=
  mode - mode % 4096 + change (mode % 4096).toNat

/-- The value of one to four octal digits. -/
def octalMode? (cs : List Char) : Option Nat :=
  if cs.isEmpty || 4 < cs.length || !cs.all (fun c => '0' ≤ c && c ≤ '7') then none
  else some (cs.foldl (fun n c => n * 8 + (c.toNat - 48)) 0)

/-- A mode after a change, if the change is valid. -/
def applyMode? (change : String) (mode : Int) : Option Int :=
  match octalMode? change.toList with
  | some value => some value
  | none =>
    ((change.toList.splitOn ',').mapM ModeClause.parse?).map fun clauses =>
      changeBits (fun bits => clauses.foldl (fun bits clause => clause.apply bits) bits) mode

end Honeypot.Shell
