import Honeypot.Text.Blank

/-!
# Command lines

A line is one command or several with a joint between neighbours. Joints stand outside quotes; of
two joints that begin at the same place the longer one counts. `split` cuts a line at its joints
and drops the commands that are blank.
-/

namespace Honeypot.Shell

/-- What stands between a command and the one before it. -/
inductive Joint where
  /-- Nothing: the command is the first of its line. -/
  | start
  /-- A semicolon. -/
  | always
  /-- Two ampersands. -/
  | onSuccess
  /-- Two bars. -/
  | onFailure
  /-- One bar. -/
  | pipe
  deriving Repr, DecidableEq

def Joint.sign : Joint → String
  | .start => ""
  | .always => ";"
  | .onSuccess => "&&"
  | .onFailure => "||"
  | .pipe => "|"

/-- A command of a line with the joint in front of it. -/
structure Segment where
  joint : Joint
  text : String
  deriving Repr, DecidableEq

/-- Whether a character begins a quoted part. -/
def isQuote (c : Char) : Bool := c == '\'' || c == '"'

/-- Cuts a line at its joints. The first argument is the quote that is open, the second the joint
in front of the command that is being read, and the third what was read of it, in reverse. -/
def cut : Option Char → Joint → List Char → List Char → List (Joint × List Char)
  | _, joint, done, [] => [(joint, done.reverse)]
  | some quote, joint, done, c :: rest =>
    cut (if c = quote then none else some quote) joint (c :: done) rest
  | none, joint, done, '&' :: '&' :: rest => (joint, done.reverse) :: cut none .onSuccess [] rest
  | none, joint, done, '|' :: '|' :: rest => (joint, done.reverse) :: cut none .onFailure [] rest
  | none, joint, done, ';' :: rest => (joint, done.reverse) :: cut none .always [] rest
  | none, joint, done, '|' :: rest => (joint, done.reverse) :: cut none .pipe [] rest
  | none, joint, done, c :: rest =>
    cut (if isQuote c then some c else none) joint (c :: done) rest

/-- The command in a piece of a line, without the blanks around it, unless it is blank. -/
def segment? (piece : Joint × List Char) : Option Segment :=
  let body := Text.dropEnds Text.isBlank piece.2
  if body.isEmpty then none else some ⟨piece.1, String.ofList body⟩

/-- The commands of a line in order. -/
def split (line : String) : List Segment :=
  (cut none .start [] line.toList).filterMap segment?

end Honeypot.Shell
