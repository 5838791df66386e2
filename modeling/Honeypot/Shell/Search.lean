import Honeypot.Regex.Parser
import Honeypot.Shell.Context
import Honeypot.Shell.Glob
import Honeypot.Text.Lines

/-!
# Searching

The commands that look for names, for lines and for programs. A directory that the user may not
read is named in a complaint, and nothing below it is shown.
-/

namespace Honeypot.Shell

/-! ## Names -/

/-- What a search for names asks of a node. -/
structure NameTests where
  /-- The pattern of the name. -/
  pattern? : Option String
  /-- Whether the case of letters in names does not count. -/
  anyCase : Bool
  /-- The kind of node, as a letter. -/
  kind? : Option String
  deriving Repr, DecidableEq

/-- Options of a search that take a value and ask for nothing. -/
def idleOptions : List String := ["-maxdepth", "-mindepth", "-perm", "-user", "-size"]

/-- Reads what a search asks for. -/
def readTests (tests : NameTests) : List String → NameTests
  | option :: value :: rest =>
    if option = "-name" ∨ option = "-iname" then
      let pattern := Text.trim isQuote value
      readTests { tests with pattern? := some pattern, anyCase := option = "-iname" } rest
    else if option = "-type" then readTests { tests with kind? := some value } rest
    else if idleOptions.contains option then readTests tests rest
    else readTests tests (value :: rest)
  | _ => tests

/-- Whether a node passes the tests. -/
def NameTests.accept (tests : NameTests) (name : String) (node : Node) : Bool :=
  !(tests.kind? == some "f" && node.isDirectory) &&
    !(tests.kind? == some "d" && !node.isDirectory) &&
    tests.pattern?.all fun pattern =>
      if tests.anyCase then matchesGlob (Text.lower pattern) (Text.lower name)
      else matchesGlob pattern name

/-- How the path of a node is shown: with the place where the search began as it was typed. -/
def displayPath (start base path : String) : String :=
  if base = "/" then
    let below := Text.drop path 1
    if below.isEmpty then "/" else "/" ++ below
  else if start = "/" then path
  else Text.trimEnd (· == '/') start ++ Text.drop path base.length

/-- The lines for the nodes of a walk. The first list holds the directories that were refused so
far. -/
def findLines (c : Context) (tests : NameTests) (shown : Path → String) :
    List Path → List (Path × Node) → List String
  | _, [] => []
  | refused, (p, node) :: rest =>
    if refused.any fun d => d != [] && p.isBelow d then findLines c tests shown refused rest
    else if node.isDirectory && !c.mayRead node then
      ("find: '" ++ shown p ++ "': Permission denied") ::
        findLines c tests shown (refused ++ [p]) rest
    else if tests.accept p.name node then shown p :: findLines c tests shown refused rest
    else findLines c tests shown refused rest

/-- The lines of a search that begins at one place. -/
def findFrom (c : Context) (fs : FileSystem) (tests : NameTests) (start : String) :
    Except Fault (List String) :=
  match fs.walk c.room start with
  | .error e =>
    if e.cause = .tooDeep then .error .tooDeep
    else .ok ["find: '" ++ start ++ "': No such file or directory"]
  | .ok walked =>
    let base := (fs.resolve start).text
    .ok (findLines c tests (fun p => displayPath start base p.text) [] walked)

/-- Prints the paths of nodes that pass tests. -/
def find (c : Context) (s : State) (inv : Invocation) : Except Fault String := do
  let starts := inv.tokens.takeWhile fun t => !isFlag t
  let tests := readTests ⟨none, false, none⟩ (inv.tokens.drop starts.length)
  let found ← (if starts.isEmpty then ["."] else starts).mapM (findFrom c s.files tests)
  pure (Text.block found.flatten)

/-! ## Lines -/

/-- The pattern of a search for lines. A text that is no pattern stands for itself. -/
def linePattern (room : Nat) (text : String) (anyCase : Bool) : Except Fault Regex.Pattern :=
  match Regex.parse room text anyCase with
  | .ok pattern => .ok pattern
  | .error .malformed => .ok (Regex.ofText text anyCase)
  | .error .tooLarge => .error .hugeRepetition
  | .error .longNumber => .error .longNumber
  | .error .clash => .error .clashingScripts
  | .error .tooDeep => .error .tooDeep

/-- How a search for lines answers. -/
structure LineStyle where
  pattern : Regex.Pattern
  inverted : Bool
  numbered : Bool
  counted : Bool
  /-- Whether lines are shown with the name of their file. -/
  named : Bool

/-- The answer for a text that has a given name. -/
def LineStyle.answer (style : LineStyle) (name text : String) : List String :=
  let label := if style.named then name ++ ":" else ""
  let hits := ((Text.lines text).mapIdx fun index line => (index + 1, line)).filter
    fun (_, line) => style.pattern.occursIn line != style.inverted
  if style.counted then [label ++ Text.ofNat hits.length]
  else hits.map fun (number, line) =>
    label ++ (if style.numbered then Text.ofNat number ++ ":" else "") ++ line

def grepTarget (c : Context) (fs : FileSystem) (style : LineStyle) (target : String) :
    Look (List String) :=
  match fs.get target with
  | .error _ => pure ["grep: " ++ target ++ ": No such file or directory"]
  | .ok node =>
    if node.isDirectory then pure ["grep: " ++ target ++ ": Is a directory"]
    else if c.mayRead node then do
      pure (style.answer target (← Look.noise (node.read c.device c.now)))
    else pure ["grep: " ++ target ++ ": Permission denied"]

/-- Prints the lines in which a pattern occurs, of files or of what the command before a bar
printed. -/
def grep (c : Context) (s : State) (inv : Invocation) : Look String :=
  match inv.args with
  | [] =>
    pure ("Usage: grep [OPTION]... PATTERNS [FILE]...\n" ++
      "Try 'grep --help' for more information.\n")
  | first :: files =>
    if files.isEmpty && c.input?.isNone then pure ""
    else do
      let pattern ← Look.certain (linePattern c.room (unquote first) (inv.hasLetter 'i'))
      let style : LineStyle :=
        ⟨pattern, inv.hasLetter 'v', inv.hasLetter 'n', inv.hasLetter 'c', 1 < files.length⟩
      if files.isEmpty then pure (Text.block (style.answer "-" (c.input?.getD "")))
      else
        let answers ← files.mapM (grepTarget c s.files style)
        pure (Text.block answers.flatten)

/-! ## Programs -/

/-- The first file of a name in a list of directories. -/
def programPath? (fs : FileSystem) (directories : List String) (name : String) : Option String :=
  (directories.map fun d => Text.trimEnd (· == '/') d ++ "/" ++ name).find? fun path =>
    match fs.get path with
    | .ok node => !node.isDirectory
    | .error _ => false

def which (s : State) (inv : Invocation) : String :=
  let directories := Text.fields ':' ((s.env.lookup "PATH").getD defaultPath)
  Text.block (inv.args.filterMap (programPath? s.files directories))

end Honeypot.Shell
