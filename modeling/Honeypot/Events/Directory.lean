import Honeypot.Assoc
import Honeypot.Calendar

/-!
# Directories of logs

A directory holds texts by names; a name may lead into the directory of the sessions. Every file
keeps the moment of its last change.
-/

namespace Honeypot.Events

open Calendar (Reading)

structure File where
  text : String
  changed : Reading
  deriving Repr, DecidableEq

/-- The files by their names. -/
abbrev Directory := List (String × File)

namespace Directory

/-- Whether there is a file of a name. -/
def has (d : Directory) (name : String) : Bool := (d.lookup name).isSome

/-- The directory after a text was written to the end of a file. -/
def append (d : Directory) (now : Reading) (name text : String) : Directory :=
  let before :=
    match d.lookup name with
    | some file => file.text
    | none => ""
  Assoc.put name ⟨before ++ text, now⟩ d

/-- The directory with an empty file unless the file is there. -/
def touch (d : Directory) (now : Reading) (name : String) : Directory :=
  if d.has name then d else Assoc.put name ⟨"", now⟩ d

/-- The directory after a file was given another name, in the place of a file of that name. -/
def rename (d : Directory) (name newName : String) : Directory :=
  match d.lookup name with
  | some file => Assoc.put newName file (Assoc.erase name d)
  | none => d

def removeAll (d : Directory) (names : List String) : Directory :=
  names.foldl (fun d name => Assoc.erase name d) d

/-- The names of the files that lie directly in the directory. -/
def topNames (d : Directory) : List String :=
  (d.map (·.1)).filter fun name => !Text.hasChar name '/'

/-- The first members of a list of names in order, so many that a given number is left; all of
them if that number is negative. -/
def surplus (keep : Int) (names : List String) : List String :=
  (Text.sort names).take ((names.length : Int) - keep).toNat

end Directory

/-! ## Places -/

/-- Where a directory of logs lies among all directories. -/
structure Place where
  /-- The names on the way from the top to the directory. -/
  names : List String
  /-- Whether there is a directory at the end of a way from the top, outside of that of the logs. -/
  hasOutside : List String → Bool

namespace Place

/-- The way to the directory of the sessions. -/
def sessions (p : Place) : List String := p.names ++ ["sessions"]

/-- Whether a way from the top leads to a directory. In the directory of the logs there is only that
of the sessions. -/
def isDirectory (p : Place) (way : List String) : Bool :=
  if p.names.isPrefixOf way then way = p.names || way = p.sessions
  else way.isPrefixOf p.names || p.hasOutside way

/-- Where the parts of a path lead from a directory, if all of them are directories. -/
def walk (p : Place) : List String → List String → Option (List String)
  | way, [] => some way
  | way, part :: rest =>
    if part = "" ∨ part = "." then p.walk way rest
    else if part = ".." then p.walk way.dropLast rest
    else if p.isDirectory (way ++ [part]) then p.walk (way ++ [part]) rest
    else none

end Place

end Honeypot.Events
