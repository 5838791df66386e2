import Honeypot.Number.Sum
import Honeypot.Shell.Context

/-!
# Showing directories and files

The commands that list directories and print files. The size of a made-up file is the length of a
text that is made for the occasion, so a long listing draws twice for every such file: once for
the total and once for its line.
-/

namespace Honeypot.Shell

open Text (join ofNat padLeft padRight)

def pwd (s : State) : String := s.files.cwd.text ++ "\n"

/-! ## Directories -/

/-- What orders the names in a listing: dots at the start and the case of letters do not count. -/
def listingKey (name : String) : String := Text.lower (Text.trimStart (· == '.') name)

/-- How a listing looks. -/
structure ListingStyle where
  /-- Whether hidden names and the two names of dots are shown. -/
  all : Bool
  /-- Whether hidden names are shown. -/
  almostAll : Bool
  long : Bool
  onePerLine : Bool
  deriving Repr, DecidableEq

/-- The look that the flags of an invocation ask for. -/
def ListingStyle.of (inv : Invocation) : ListingStyle where
  all := inv.hasLetter 'a' || inv.hasFlag "--all"
  almostAll := inv.hasLetter 'A'
  long := inv.hasLetter 'l'
  onePerLine := inv.hasLetter '1'

/-- The number of bytes of a node. -/
def sizeOf (c : Context) (node : Node) : Look Nat := Look.noise (node.size c.device c.now)

/-- The line of a node in a long listing. -/
def longLine (c : Context) (node : Node) (shown : String) : Look String := do
  let changed := (← Fault.ofDate (Calendar.ofLocalClock node.changed)).moment
  let size ← sizeOf c node
  let links := if node.isDirectory then 2 + node.children.length else 1
  pure (join " " [node.modeString, padLeft 2 (ofNat links), padRight 8 node.owner,
    padRight 8 node.group, padLeft 8 (ofNat size), changed.monthDay, changed.shortClock, shown])

/-- The number of kilobytes that a node takes on the disk. -/
def diskUse (c : Context) (node : Node) : Look Nat :=
  if node.isDirectory then pure 4
  else do
    let size ← sizeOf c node
    pure (max 4 ((size + 4095) / 4096 * 4))

/-- The nodes of the given names in a directory. -/
def namedNodes (fs : FileSystem) (directory : Node) (names : List String) :
    Except Fault (List (String × Node)) :=
  let start := Text.trimEnd (· == '/') directory.path.text ++ "/"
  names.mapM fun name =>
    match fs.get (start ++ name) with
    | .ok node => .ok (name, node)
    | .error e => .error (.lostEntry e.path)

/-- The entries that a listing of a directory shows. -/
def shownEntries (style : ListingStyle) (fs : FileSystem) (directory : Node)
    (names : List String) : Except Fault (List (String × Node)) := do
  let names :=
    if style.all || style.almostAll then names
    else names.filter fun name => !Text.startsWith name "."
  let entries ← namedNodes fs directory (Text.sortBy listingKey names)
  if style.all then
    let above :=
      match fs.get (directory.path.text ++ "/..") with
      | .ok node => node
      | .error _ => directory
    .ok ((".", directory) :: ("..", above) :: entries)
  else .ok entries

/-- The lines of the entries of a directory. -/
def entryLines (c : Context) (style : ListingStyle) (entries : List (String × Node)) :
    Look (List String) :=
  if style.long then do
    let uses ← entries.mapM fun (_, node) => diskUse c node
    let lines ← entries.mapM fun (name, node) => longLine c node name
    pure (("total " ++ ofNat (Number.sum uses)) :: lines)
  else if style.onePerLine then pure (entries.map (·.1))
  else if entries.isEmpty then pure []
  else pure [join "  " (entries.map (·.1))]

/-- What a listing shows for one of its targets. -/
inductive Listed where
  | refused (message : String)
  | file (line : String)
  | directory (target : String) (lines : List String)
  deriving Repr, DecidableEq

def listTarget (c : Context) (style : ListingStyle) (fs : FileSystem) (target : String) :
    Look Listed :=
  match fs.get target with
  | .error _ => pure (.refused ("ls: cannot access '" ++ target ++ "': No such file or directory"))
  | .ok node =>
    match fs.list target with
    | .error _ => do
      let line ← if style.long then longLine c node target else pure target
      pure (.file line)
    | .ok names =>
      if c.mayRead node then do
        let entries ← Look.certain (shownEntries style fs node names)
        pure (.directory target (← entryLines c style entries))
      else
        pure (.refused ("ls: cannot open directory '" ++ (if target.isEmpty then "." else target) ++
          "': Permission denied"))

/-- The lines of a listing: what was refused, then the files, then the directories, which have
headings if there is more than one target. -/
def listingLines (style : ListingStyle) (headings : Bool) (listed : List Listed) : List String :=
  let refused := listed.filterMap fun l =>
    match l with
    | .refused message => some message
    | _ => none
  let files := listed.filterMap fun l =>
    match l with
    | .file line => some line
    | _ => none
  let fileLines :=
    if files.isEmpty then []
    else if style.long || style.onePerLine then files
    else [join "  " files]
  listed.foldl
    (fun out l =>
      match l with
      | .directory target lines =>
        if headings then
          (if out.isEmpty then [] else out ++ [""]) ++ (target ++ ":") :: lines
        else out ++ lines
      | _ => out)
    (refused ++ fileLines)

/-- Lists directories and files. -/
def ls (c : Context) (s : State) (inv : Invocation) : Look String := do
  let style := ListingStyle.of inv
  let targets := if inv.args.isEmpty then [""] else inv.args
  let listed ← targets.mapM (listTarget c style s.files)
  pure (Text.block (listingLines style (1 < targets.length) listed))

/-! ## Files -/

def catTarget (c : Context) (fs : FileSystem) (target : String) : Look String :=
  match fs.get target with
  | .error _ => pure ("cat: " ++ target ++ ": No such file or directory\n")
  | .ok node =>
    if node.isDirectory then pure ("cat: " ++ target ++ ": Is a directory\n")
    else if c.mayRead node then Look.noise (node.read c.device c.now)
    else pure ("cat: " ++ target ++ ": Permission denied\n")

/-- Prints files one after the other. -/
def cat (c : Context) (s : State) (inv : Invocation) : Look String := do
  pure (String.join (← inv.args.mapM (catTarget c s.files)))

end Honeypot.Shell
