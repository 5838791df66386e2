import Honeypot.FileSystem.Node

/-!
# The tree that all sessions share

A tree is built by adding directories and files in order. Directories above what is added come
into being by themselves. The children of a directory are listed in the order of adding.
-/

namespace Honeypot

/-- The nodes of a tree by their paths, in the order of adding. -/
abbrev Tree := List (Path × Node)

/-- A directory or a file that was added, before its children are known. -/
structure Entry where
  path : Path
  /-- The text of a file; a directory has none. -/
  content? : Option Content
  mode : Nat
  owner : String
  group : String

namespace Tree

/-- Adds an entry, or puts it in the place of an entry of the same path. -/
def put (entries : List Entry) (e : Entry) : List Entry :=
  if entries.any (·.path == e.path) then
    entries.map fun old => if old.path == e.path then e else old
  else entries ++ [e]

/-- A directory that belongs to the superuser and may be read by all. -/
def plainDirectory (p : Path) : Entry := ⟨p, none, 0o755, "root", "root"⟩

/-- Adds the directories above a path that are missing, from the root down. -/
def addParents (entries : List Entry) (p : Path) : List Entry :=
  ((List.range p.length).map p.take).foldl
    (fun acc above => if acc.any (·.path == above) then acc else acc ++ [plainDirectory above])
    entries

/-- Adds an entry and the directories above it. -/
def add (entries : List Entry) (e : Entry) : List Entry := put (addParents entries e.path) e

/-- The names of the entries that lie directly in a directory. -/
def childNames (entries : List Entry) (p : Path) : List String :=
  (entries.filter fun e => e.path != [] && e.path.parent == p).map (·.path.name)

def node (entries : List Entry) (changed : Float) (e : Entry) : Node where
  path := e.path
  body :=
    match e.content? with
    | none => .directory (childNames entries e.path)
    | some content => .file content
  mode := e.mode
  owner := e.owner
  group := e.group
  changed := changed

/-- The tree of a list of entries, all changed at the same moment. -/
def ofEntries (changed : Float) (added : List Entry) : Tree :=
  let entries := added.foldl add [plainDirectory []]
  entries.map fun e => (e.path, node entries changed e)

end Tree

end Honeypot
