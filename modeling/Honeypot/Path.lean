import Honeypot.Text.Basic

/-!
# Paths

A path is the list of the names from the root down to a place in the tree. A text is resolved to
a path against a working directory and a home directory; `text` writes a path out again.
-/

namespace Honeypot

/-- The names from the root down. -/
abbrev Path := List String

namespace Path

def root : Path := []

/-- The written form: every name after a slash, and a single slash for the root. -/
def text (p : Path) : String :=
  match p with
  | [] => "/"
  | names => String.join (names.map ("/" ++ ·))

/-- The directory that a path lies in; the root lies in itself. -/
def parent (p : Path) : Path := p.dropLast

/-- The last name, and a slash for the root. -/
def name (p : Path) : String := (p.getLast?).getD "/"

/-- Whether a path is at or below another. -/
def isAtOrBelow (p top : Path) : Bool := top.isPrefixOf p

/-- Whether a path is strictly below another. -/
def isBelow (p top : Path) : Bool := p.isAtOrBelow top && p != top

/-! ## Resolution -/

/-- A text with everything in front that it leaves out: an empty text stands for the working
directory, a leading tilde for the home directory, and a text without a leading slash starts in
the working directory. -/
def expanded (cwd home path : List Char) : List Char :=
  let path := if path.isEmpty then cwd else path
  let path := if path = ['~'] || ['~', '/'].isPrefixOf path then home ++ path.drop 1 else path
  if path.head? = some '/' then path else cwd ++ '/' :: path

/-- One step of a walk along the parts of a text: an empty part and a dot stay, two dots go up
and stay at the root, any other part goes down. -/
def step (p : Path) (part : String) : Path :=
  if part = "" || part = "." then p
  else if part = ".." then p.dropLast
  else p ++ [part]

def resolve (cwd home path : String) : Path :=
  (((expanded cwd.toList home.toList path.toList).splitOn '/').map String.ofList).foldl step root

/-! ## Texts of paths -/

/-- The text before the last slash, or the root if nothing is there. -/
def parentText (s : String) : String :=
  match Text.cutLast '/' s.toList with
  | some ([], _) => "/"
  | some (left, _) => String.ofList left
  | none => if s.isEmpty then "/" else s

/-- The text after the last slash; the root is its own name. -/
def nameText (s : String) : String := if s = "/" then "/" else Text.afterLast '/' s

end Path

end Honeypot
