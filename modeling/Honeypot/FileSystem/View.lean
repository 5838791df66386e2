import Honeypot.Assoc
import Honeypot.FileSystem.Layout
import Honeypot.FileSystem.Reading

/-!
# A session's view of the tree

A view puts an overlay of nodes and a set of removed paths over the shared tree, and holds the
working directory and the home directory of a session. A node of the overlay hides everything
else at its path; a removed path hides the nodes of the tree at and below it.

Every operation takes the text of a path and answers with the same text if it fails.
-/

namespace Honeypot

/-- Why an operation on a path failed. -/
inductive PathFault where
  | notFound
  | notDirectory
  | notFile
  | alreadyThere
  /-- The operation would remove the root. -/
  | protectedRoot
  /-- A walk leads further down than there is room for, or back to where it came from. -/
  | tooDeep
  deriving Repr, DecidableEq

/-- A failed operation with the text of the path that it was asked for. -/
structure PathError where
  cause : PathFault
  path : String
  deriving Repr, DecidableEq

/-- A session's view of the tree. -/
structure FileSystem where
  tree : Tree
  /-- What a leading tilde stands for. -/
  home : String
  cwd : Path
  /-- Nodes that were made or changed, in the order in which their paths came in. -/
  overlay : List (Path × Node)
  /-- Paths of the tree that were removed. -/
  removed : List Path

namespace FileSystem

/-- The view of a new session. The working directory is the home directory unless one is given. -/
def fresh (tree : Tree) (home cwd : String) : FileSystem where
  tree := tree
  home := home
  cwd := Path.resolve "/" "/root" (if cwd.isEmpty then home else cwd)
  overlay := []
  removed := []

/-! ## Looking up -/

/-- The path that a text names. -/
def resolve (fs : FileSystem) (path : String) : Path :=
  Path.resolve fs.cwd.text fs.home path

/-- Whether the nodes of the tree at a path are hidden. -/
def isRemoved (fs : FileSystem) (p : Path) : Bool := fs.removed.any fun gone => p.isAtOrBelow gone

/-- The node at a path. -/
def lookup (fs : FileSystem) (p : Path) : Option Node :=
  match fs.overlay.lookup p with
  | some node => some node
  | none => if fs.isRemoved p then none else fs.tree.lookup p

/-- The node that a text names. -/
def get (fs : FileSystem) (path : String) : Except PathError Node :=
  match fs.lookup (fs.resolve path) with
  | some node => .ok node
  | none => .error ⟨.notFound, path⟩

/-- Whether there is a node at the place that a text names. -/
def has (fs : FileSystem) (path : String) : Bool := (fs.lookup (fs.resolve path)).isSome

/-- The names that the overlay adds to a directory, in order. -/
def addedNames (fs : FileSystem) (p : Path) : List String :=
  (fs.overlay.filter fun (q, _) => q != [] && q.parent == p).map fun (q, _) => q.name

/-- A list of names with others after it that it does not hold yet. -/
def withNames (names more : List String) : List String :=
  more.foldl (fun acc name => if acc.contains name then acc else acc ++ [name]) names

/-- The names in a directory: those that the directory was made with and those that the overlay
adds, as far as there is a node of that name. -/
def entryNames (fs : FileSystem) (p : Path) (node : Node) : List String :=
  (withNames node.children (fs.addedNames p)).filter fun name => (fs.lookup (p ++ [name])).isSome

/-- The names in the directory that a text names. -/
def list (fs : FileSystem) (path : String) : Except PathError (List String) :=
  let p := fs.resolve path
  match fs.lookup p with
  | none => .error ⟨.notFound, path⟩
  | some node =>
    if node.isDirectory then .ok (fs.entryNames p node) else .error ⟨.notDirectory, path⟩

/-- A node and everything below it, every directory before what it holds. The first argument is
the number of directories that may lie in one another. There is no end to a walk through a name
that leads somewhere else than down. -/
def walkFrom (fs : FileSystem) : Nat → Path → Node → Option (List (Path × Node))
  | 0, _, _ => none
  | room + 1, p, node =>
    if node.isDirectory then do
      let below ← (fs.entryNames p node).mapM fun name =>
        match fs.lookup (p ++ [name]) with
        | some child =>
          if Path.step p name = p ++ [name] then walkFrom fs room (p ++ [name]) child else none
        | none => some []
      some ((p, node) :: below.flatten)
    else some [(p, node)]

/-- The nodes at and below the place that a text names. -/
def walk (fs : FileSystem) (room : Nat) (path : String) : Except PathError (List (Path × Node)) :=
  let p := fs.resolve path
  match fs.lookup p with
  | some node =>
    match fs.walkFrom room p node with
    | some nodes => .ok nodes
    | none => .error ⟨.tooDeep, path⟩
  | none => .error ⟨.notFound, path⟩

/-- The file that a text names. -/
def file (fs : FileSystem) (path : String) : Except PathError Node := do
  let node ← fs.get path
  if node.isDirectory then .error ⟨.notFile, path⟩ else .ok node

/-! ## Changing -/

/-- The view with a node in the overlay at a path. -/
def cover (fs : FileSystem) (p : Path) (node : Node) : FileSystem :=
  { fs with overlay := Assoc.put p node fs.overlay }

/-- The view with a node in the overlay at a path that is not removed itself. -/
def store (fs : FileSystem) (p : Path) (node : Node) : FileSystem :=
  { fs.cover p node with removed := fs.removed.filter (· != p) }

/-- The view without what is at and below a path. A path that the tree does not have is only
taken out of the overlay. -/
def clear (fs : FileSystem) (p : Path) : FileSystem :=
  { fs with
    overlay := fs.overlay.filter fun (q, _) => !q.isAtOrBelow p
    removed :=
      if (fs.tree.lookup p).isSome && !fs.removed.contains p then fs.removed ++ [p]
      else fs.removed }

def changeDirectory (fs : FileSystem) (path : String) : Except PathError FileSystem :=
  let p := fs.resolve path
  match fs.lookup p with
  | none => .error ⟨.notFound, path⟩
  | some node =>
    if node.isDirectory then .ok { fs with cwd := p } else .error ⟨.notDirectory, path⟩

/-- Whether a node may be made at a path: it has to lie in a directory. -/
def checkParent (fs : FileSystem) (path : String) (p : Path) : Except PathError Unit :=
  match fs.lookup p.parent with
  | none => .error ⟨.notFound, path⟩
  | some node => if node.isDirectory then .ok () else .error ⟨.notDirectory, path⟩

/-- The path that a file may be written to, and the file that is there. -/
def target (fs : FileSystem) (path : String) : Except PathError (Path × Option Node) := do
  let p := fs.resolve path
  fs.checkParent path p
  match fs.lookup p with
  | some node => if node.isDirectory then .error ⟨.notFile, path⟩ else .ok (p, some node)
  | none => .ok (p, none)

/-- The node of a file that is written. -/
def fileNode (p : Path) (text : String) (mode : Int) (owner : String) (now : Float) : Node :=
  ⟨p, .file (.fixed text), mode, owner, owner, now⟩

def write (fs : FileSystem) (path text : String) (mode : Int) (owner : String) (now : Float) :
    Except PathError FileSystem := do
  let (p, _) ← fs.target path
  .ok (fs.store p (fileNode p text mode owner now))

/-- The view after a text was written to the end of a file. What the file holds is read once. -/
def append (fs : FileSystem) (device : Persona) (path text : String) (mode : Int) (owner : String)
    (now : Float) : Draws (Except PathError FileSystem) :=
  match fs.target path with
  | .error e => pure (.error e)
  | .ok (p, old) => do
    let before ←
      match old with
      | some node => node.read device now
      | none => pure ""
    pure (.ok (fs.store p (fileNode p (before ++ text) mode owner now)))

def makeDirectory (fs : FileSystem) (path owner : String) (now : Float) :
    Except PathError FileSystem := do
  let p := fs.resolve path
  if (fs.lookup p).isSome then .error ⟨.alreadyThere, path⟩
  fs.checkParent path p
  .ok (fs.store p ⟨p, .directory [], 0o755, owner, owner, now⟩)

/-- The view after a node and everything below it was removed. A directory is removed only if
that is asked for. -/
def remove (fs : FileSystem) (path : String) (recursive : Bool) : Except PathError FileSystem :=
  let p := fs.resolve path
  if p = [] then .error ⟨.protectedRoot, path⟩
  else
    match fs.lookup p with
    | none => .error ⟨.notFound, path⟩
    | some node =>
      if node.isDirectory && !recursive then .error ⟨.notFile, path⟩
      else .ok (fs.clear p)

/-- The view after the mode of a node was changed. -/
def changeMode (fs : FileSystem) (path : String) (mode : Int) (now : Float) :
    Except PathError FileSystem :=
  let p := fs.resolve path
  match fs.lookup p with
  | none => .error ⟨.notFound, path⟩
  | some node => .ok (fs.cover p { node with mode := mode, changed := now })

/-- The view without anything that the session made, changed or removed. -/
def discard (fs : FileSystem) : FileSystem := { fs with overlay := [], removed := [] }

end FileSystem

end Honeypot
