import Honeypot.Text.Basic
import Honeypot.Text.Digit

/-!
# The console without colours

Two kinds of sequences do not go to an output that is no terminal. Commands, an escape with a
closing bracket and a text up to a bell, are taken out first; then what sets colours and moves the
cursor, an escape with an opening bracket, numbers with semicolons, and a letter. Each may stand
between the marks of what does not show. A command that sets the title of a window cannot be
followed.
-/

namespace Honeypot.CommandLine

/-! ## Colours -/

/-- A colour of what is printed. -/
inductive Colour where
  | red
  | green
  | yellow
  | cyan
  deriving Repr, DecidableEq

def Colour.code : Colour → String
  | .red => "31"
  | .green => "32"
  | .yellow => "33"
  | .cyan => "36"

def coloured (k : Colour) (s : String) : String := "\x1b[" ++ k.code ++ "m" ++ s ++ "\x1b[0m"

/-! ## Commands -/

/-- A command in a text. -/
structure Command where
  start : Nat
  length : Nat
  /-- What stands before the bell. -/
  text : List Char
  deriving Repr, DecidableEq

/-- The text of a command behind its bracket, and the number of characters up to its end. -/
def commandBody? (cs : List Char) : Option (List Char × Nat) :=
  (Text.cutFirst '\x07' cs).map fun (text, rest) =>
    (text, text.length + (if rest.head? = some '\x02' then 2 else 1))

/-- The command at the head of a text: what it says and how long it is. -/
def commandAt? : List Char → Option (List Char × Nat)
  | '\x01' :: '\x1b' :: ']' :: rest => (commandBody? rest).map fun (text, n) => (text, n + 3)
  | '\x1b' :: ']' :: rest => (commandBody? rest).map fun (text, n) => (text, n + 2)
  | _ => none

/-- The commands in a text that begins at a place, after so many characters of the one before. -/
def commandsFrom (pos : Nat) : Nat → List Char → List Command
  | _, [] => []
  | skip + 1, _ :: rest => commandsFrom (pos + 1) skip rest
  | 0, c :: rest =>
    match commandAt? (c :: rest) with
    | some (text, n) => ⟨pos, n, text⟩ :: commandsFrom (pos + 1) (n - 1) rest
    | none => commandsFrom (pos + 1) 0 rest

/-- Takes out a command. Its place is where it stood before any other was taken out, so that of
several commands only the first one goes as a whole. -/
def Command.remove (cs : List Char) (k : Command) : List Char :=
  cs.take k.start ++ cs.drop (k.start + k.length)

/-- Whether a command asks for a title: one semicolon, with an empty text, a zero, a two or both
before it. -/
def Command.asksForTitle (k : Command) : Bool :=
  match k.text.splitOn ';' with
  | [kind, _] => [[], ['0'], ['2'], ['0', '2']].contains kind
  | _ => false

/-- The characters without commands, unless one asks for a title. -/
def withoutCommands? (cs : List Char) : Option (List Char) :=
  let commands := commandsFrom 0 0 cs
  if commands.any Command.asksForTitle then none else some (commands.foldl Command.remove cs)

/-! ## Colours and the cursor -/

/-- What follows the numbers and the letter of a sequence. -/
def afterNumbers? : List Char → Option (List Char)
  | [] => none
  | c :: rest =>
    if Text.isDecimal c || c == ';' then afterNumbers? rest
    else if c.isAlpha then some (if rest.head? = some '\x02' then rest.tail else rest)
    else none

/-- What follows a sequence at the head of a text. -/
def afterSequence? : List Char → Option (List Char)
  | '\x01' :: '\x1b' :: '[' :: rest => afterNumbers? rest
  | '\x1b' :: '[' :: rest => afterNumbers? rest
  | _ => none

theorem length_afterNumbers? {cs rest : List Char} (h : afterNumbers? cs = some rest) :
    rest.length < cs.length := by
  induction cs with
  | nil => simp [afterNumbers?] at h
  | cons c more ih =>
    unfold afterNumbers? at h
    split at h
    · have := ih h
      simp only [List.length_cons]
      omega
    · split at h
      · simp only [Option.some.injEq] at h
        subst h
        split
        · rw [List.length_tail, List.length_cons]
          omega
        · exact Nat.lt_succ_self _
      · simp at h

theorem length_afterSequence? {cs rest : List Char} (h : afterSequence? cs = some rest) :
    rest.length < cs.length := by
  unfold afterSequence? at h
  split at h
  · have := length_afterNumbers? h
    simp only [List.length_cons]
    omega
  · have := length_afterNumbers? h
    simp only [List.length_cons]
    omega
  · simp at h

/-- The characters without all sequences. -/
def plainChars (cs : List Char) : List Char :=
  match _h : afterSequence? cs with
  | some rest => plainChars rest
  | none =>
    match cs with
    | [] => []
    | c :: rest => c :: plainChars rest
  termination_by cs.length
  decreasing_by
    · exact length_afterSequence? _h
    · simp

/-- A text as it goes to an output that is no terminal, unless it asks for a title. -/
def plainText? (s : String) : Option String :=
  (withoutCommands? s.toList).map fun cs => String.ofList (plainChars cs)

/-- Texts as they go to such an output one after the other, each with the end of its line. -/
def plainBlock? (texts : List String) : Option String := (texts.mapM plainText?).map Text.block

end Honeypot.CommandLine
