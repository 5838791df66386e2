import Honeypot.Path
import Honeypot.Shell.Command
import Honeypot.Shell.Line
import Honeypot.Text.Case

/-!
# Invocations

An invocation is a command line taken as words: a name and the words after it. Words that begin
with a dash are flags, the others are arguments. Quotes have no meaning here.
-/

namespace Honeypot.Shell

/-- A command with the words after its name. -/
structure Invocation where
  /-- The line without the blanks around it. -/
  raw : String
  name : String
  tokens : List String
  deriving Repr, DecidableEq

def isFlag (token : String) : Bool := token.toList.head? == some '-'

/-- The words of a line as an invocation; a blank line has none. -/
def Invocation.parse? (line : String) : Option Invocation :=
  match Text.words line with
  | [] => none
  | name :: tokens => some ⟨Text.strip line, name, tokens⟩

/-- The different members of a list in the order by code point. -/
def sortedSet (texts : List String) : List String := Text.sort texts.eraseDups

/-- The letters of all flags with a single dash, the flags in the order by code point. -/
def shortLetters (flags : List String) : String :=
  String.join ((sortedSet flags).map fun flag =>
    if isFlag flag && !Text.startsWith flag "--" then Text.drop flag 1 else "")

/-- The word after the first of the words that equals an option and is not the last one. -/
def optionValue? (option : String) : List String → Option String
  | token :: value :: rest =>
    if token = option then some value else optionValue? option (value :: rest)
  | _ => none

namespace Invocation

/-- The name that a command is looked up by. -/
def command (inv : Invocation) : String := Text.lower inv.name

/-- The words that are no flags. -/
def args (inv : Invocation) : List String := inv.tokens.filter fun t => !isFlag t

/-- The flags, every one once, in the order by code point. -/
def flags (inv : Invocation) : List String := sortedSet (inv.tokens.filter isFlag)

def hasFlag (inv : Invocation) (flag : String) : Bool :=
  isFlag flag && inv.tokens.contains flag

/-- The letters of the flags with a single dash. -/
def letters (inv : Invocation) : String := shortLetters inv.flags

/-- Whether one of the flags with a single dash holds a letter. -/
def hasLetter (inv : Invocation) (c : Char) : Bool := Text.hasChar inv.letters c

/-- Whether the text that a command printed looks as if the command had failed. -/
def failed (inv : Invocation) (output : String) : Bool :=
  ["bash: ", "sudo: ", inv.name ++ ": ", inv.command ++ ": "].any (Text.startsWith output)

end Invocation

/-- The names that the commands of a line are looked up by, without what leads to a program. -/
def commandNames (line : String) : List String :=
  (split line).filterMap fun segment =>
    (Invocation.parse? segment.text).map fun inv =>
      if Text.hasChar inv.name '/' then Path.nameText inv.command else inv.command

/-- Whether a line has commands and all of them are in the table. -/
def isKnownLine (line : String) : Bool :=
  let names := commandNames line
  !names.isEmpty && names.all fun name => (Command.ofName? name).isSome

/-- What the shell prints for a name that it does not know. -/
def commandNotFound (name : String) : String := "bash: " ++ name ++ ": command not found\n"

end Honeypot.Shell
