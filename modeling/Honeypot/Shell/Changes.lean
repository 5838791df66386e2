import Honeypot.Shell.Context
import Honeypot.Shell.Mode

/-!
# Changing directories, files and modes

The commands that change the working directory or the files. A command with several targets goes
on after a complaint.
-/

namespace Honeypot.Shell

/-! ## The working directory -/

/-- Enters a directory and says so if asked to. -/
def enterDirectory (c : Context) (target : String) (echo : Bool) : Action String := do
  let s ← get
  let complain (what : String) : Action String :=
    pure ("bash: cd: " ++ target ++ ": " ++ what ++ "\n")
  match s.files.get target with
  | .error _ => complain "No such file or directory"
  | .ok node =>
    if node.isDirectory && !c.mayEnter node then complain "Permission denied"
    else
      match s.files.changeDirectory target with
      | .error e =>
        complain
          (if e.cause = .notDirectory then "Not a directory" else "No such file or directory")
      | .ok files => do
        let here := files.cwd.text
        set { s with
          files := files
          env := Assoc.put "PWD" here (Assoc.put "OLDPWD" s.files.cwd.text s.env) }
        pure (if echo then here ++ "\n" else "")

/-- Changes the working directory: to a target, to the one before, or to the home directory. -/
def cd (c : Context) (inv : Invocation) : Action String := do
  let s ← get
  match inv.args with
  | _ :: _ :: _ => pure "bash: cd: too many arguments\n"
  | [target] => enterDirectory c target false
  | [] =>
    if inv.hasFlag "-" then
      let before := (s.env.lookup "OLDPWD").getD ""
      if before.isEmpty then pure "bash: cd: OLDPWD not set\n" else enterDirectory c before true
    else enterDirectory c s.files.home false

/-! ## Writing -/

/-- The options of `echo`: whether a line feed follows and whether escapes are decoded. -/
structure EchoOptions where
  newline : Bool
  escapes : Bool
  deriving Repr, DecidableEq

/-- The words that are options of `echo`. -/
def echoFlags : List String := ["-n", "-e", "-E", "-ne", "-en", "-nE", "-En"]

/-- Reads the options at the start of the words of `echo`. -/
def readEchoOptions (options : EchoOptions) : List String → EchoOptions × List String
  | [] => (options, [])
  | token :: rest =>
    if echoFlags.contains token then
      readEchoOptions
        ⟨options.newline && !Text.hasChar token 'n',
          if Text.hasChar token 'e' then true
          else if Text.hasChar token 'E' then false
          else options.escapes⟩
        rest
    else (options, token :: rest)

/-- Where a text is written to. -/
structure Redirection where
  target : String
  appended : Bool
  deriving Repr, DecidableEq

/-- Splits the first redirection off a list of words; there is no result if its target is
missing. -/
def splitRedirection : List String → Option (List String × Option Redirection)
  | [] => some ([], none)
  | token :: rest =>
    if Text.startsWith token ">" then
      let appended := Text.startsWith token ">>"
      let glued := Text.drop token (if appended then 2 else 1)
      if !glued.isEmpty then some (rest, some ⟨glued, appended⟩)
      else
        match rest with
        | [] => none
        | target :: more => some (more, some ⟨target, appended⟩)
    else (splitRedirection rest).map fun (words, redirection) => (token :: words, redirection)

/-- The text that words of `echo` stand for. -/
def echoText (options : EchoOptions) (env : Env) (words : List String) : String :=
  let text := expand env (unquote (Text.join " " words))
  let (text, stopped) := if options.escapes then decodeEscapes text else (text, false)
  if options.newline && !stopped then text ++ "\n" else text

def newFileMode : Nat := 0o644

/-- Writes a text where a redirection says, and answers with the cause if that fails. -/
def writeRedirected (c : Context) (r : Redirection) (text : String) : Action (Option PathFault) :=
  if r.appended then do
    let result ← Action.look fun s =>
      Look.noise (s.files.append c.device r.target text newFileMode c.user c.now)
    match result with
    | .ok files => do
      Action.setFiles files
      pure none
    | .error e => pure (some e.cause)
  else Action.attempt fun fs => fs.write r.target text newFileMode c.user c.now

/-- Prints words or writes them to a file. -/
def echo (c : Context) (inv : Invocation) : Action String := do
  let (options, tokens) := readEchoOptions ⟨true, false⟩ inv.tokens
  match splitRedirection tokens with
  | none => pure "bash: syntax error near unexpected token \u0060newline'\n"
  | some (words, redirection?) => do
    let text := echoText options (← get).env words
    match redirection? with
    | none => pure text
    | some r =>
      match ← writeRedirected c r text with
      | none => pure ""
      | some .notFile => pure ("bash: " ++ r.target ++ ": Is a directory\n")
      | some _ => pure ("bash: " ++ r.target ++ ": No such file or directory\n")

/-! ## Making and removing -/

/-- What a program prints if an operand is missing. -/
def missing (program what : String) : String :=
  program ++ ": missing " ++ what ++ "\nTry '" ++ program ++ " --help' for more information.\n"

/-- Runs an action on every target and collects the complaints. -/
def complaints (targets : List String) (act : String → Action (List String)) : Action String := do
  pure (Text.block (← targets.mapM act).flatten)

/-- Makes an empty file unless there is something. -/
def touchTarget (c : Context) (target : String) : Action (List String) := do
  if (← Action.files).has target then pure []
  else
    match ← Action.attempt fun fs => fs.write target "" newFileMode c.user c.now with
    | none => pure []
    | some _ => pure ["touch: cannot touch '" ++ target ++ "': No such file or directory"]

def touch (c : Context) (inv : Invocation) : Action String :=
  if inv.args.isEmpty then pure (missing "touch" "file operand")
  else complaints inv.args (touchTarget c)

/-- Makes the directories of a list of paths that are missing, up to the first that cannot be
made. -/
def makeMissing (c : Context) : List String → Action (Option PathFault)
  | [] => pure none
  | path :: rest => do
    if (← Action.files).has path then makeMissing c rest
    else
      match ← Action.attempt fun fs => fs.makeDirectory path c.user c.now with
      | none => makeMissing c rest
      | some cause => pure (some cause)

/-- The paths of the directories on the way to a path, from the top down to the path itself. -/
def wayTo (p : Path) : List String :=
  (List.range p.length).map fun n => Path.text (p.take (n + 1))

def mkdirTarget (c : Context) (parents : Bool) (target : String) : Action (List String) := do
  let cause ←
    if parents then do
      let fs ← Action.files
      makeMissing c (wayTo (fs.resolve target))
    else Action.attempt fun fs => fs.makeDirectory target c.user c.now
  let complain (what : String) : List String :=
    ["mkdir: cannot create directory '" ++ target ++ "': " ++ what]
  pure (match cause with
    | none => []
    | some .alreadyThere => complain "File exists"
    | some .notFound => complain "No such file or directory"
    | some _ => complain "Not a directory")

def mkdir (c : Context) (inv : Invocation) : Action String :=
  if inv.args.isEmpty then pure (missing "mkdir" "operand")
  else complaints inv.args (mkdirTarget c (inv.hasLetter 'p' || inv.hasFlag "--parents"))

/-- How nodes are removed. -/
structure RemovalStyle where
  recursive : Bool
  /-- Whether missing nodes are no cause for a complaint. -/
  force : Bool
  /-- Whether the root has no protection of its own. -/
  rootToo : Bool
  deriving Repr, DecidableEq

def rmTarget (style : RemovalStyle) (target : String) : Action (List String) := do
  let complain (what : String) : List String := ["rm: cannot remove '" ++ target ++ "': " ++ what]
  match ← Action.attempt fun fs => fs.remove target style.recursive with
  | none => pure []
  | some .protectedRoot =>
    if !style.recursive then pure (complain "Is a directory")
    else if style.rootToo then pure (complain "Device or resource busy")
    else
      pure ["rm: it is dangerous to operate recursively on '" ++ target ++ "'",
        "rm: use --no-preserve-root to override this failsafe"]
  | some .notFile => pure (complain "Is a directory")
  | some _ => pure (if style.force then [] else complain "No such file or directory")

def rm (inv : Invocation) : Action String :=
  let style : RemovalStyle :=
    ⟨inv.hasLetter 'r' || inv.hasLetter 'R' || inv.hasFlag "--recursive",
      inv.hasLetter 'f' || inv.hasFlag "--force", inv.hasFlag "--no-preserve-root"⟩
  if inv.args.isEmpty then pure (if style.force then "" else missing "rm" "operand")
  else complaints inv.args (rmTarget style)

/-! ## Modes -/

/-- Options of `chmod` that change nothing. -/
def chmodOptions : List String := ["-R", "-v", "-f", "--recursive"]

/-- Changes the modes of targets and collects the complaints; a change that is not valid ends
everything with a complaint of its own. -/
def chmodTargets (c : Context) (change : String) : List String → List String → Action String
  | done, [] => pure (Text.block done)
  | done, target :: rest => do
    match (← Action.files).get target with
    | .error _ =>
      chmodTargets c change
        (done ++ ["chmod: cannot access '" ++ target ++ "': No such file or directory"]) rest
    | .ok node =>
      match applyMode? change (node.mode % 4096) with
      | none =>
        pure ("chmod: invalid mode: '" ++ change ++
          "'\nTry 'chmod --help' for more information.\n")
      | some mode =>
        if c.isRoot || node.owner = c.user then do
          let _ ← Action.attempt fun fs => fs.changeMode target mode c.now
          chmodTargets c change done rest
        else
          chmodTargets c change
            (done ++ ["chmod: changing permissions of '" ++ target ++
              "': Operation not permitted"]) rest

def chmod (c : Context) (inv : Invocation) : Action String :=
  match inv.tokens.filter fun t => !chmodOptions.contains t with
  | [] => pure (missing "chmod" "operand")
  | [change] => pure (missing "chmod" ("operand after '" ++ change ++ "'"))
  | change :: targets => chmodTargets c change [] targets

end Honeypot.Shell
