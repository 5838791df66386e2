import Honeypot.Shell.Network

/-!
# Fetching files

The two programs that fetch files. Nothing is fetched: a locator is reported, a file of the right
look is written, and the progress of a transfer is made up.
-/

namespace Honeypot.Shell

open Number (fixed)
open Text (ofInt padLeft padRight)

/-- The locators among the words of a command. -/
def locators (tokens : List String) : List String :=
  tokens.filter fun t => Text.startsWith t "http://" || Text.startsWith t "https://"

/-- A file of a given size that looks like a program. -/
def payload (size : Int) : String := Node.programStub ++ Text.copies (size - 7).toNat '\x00'

def cutLocator (url : String) : Except Fault Url :=
  match Url.parse url with
  | .ok u => .ok u
  | .error cause => .error (.badUrl cause)

/-- The host and the port of a locator, with the usual ones where none is given. -/
def hostAndPort (u : Url) : Except Fault (String × Nat) :=
  match u.port? with
  | .error cause => .error (.badUrl cause)
  | .ok port? =>
    let usual := if u.scheme = "https" then 443 else 80
    .ok (u.host?.getD "localhost", (port?.filter (· != 0)).getD usual)

/-- Writes a fetched file, and tells whether that worked. -/
def savePayload (c : Context) (name : String) (size : Int) : Action Bool := do
  let failure ← Action.attempt fun fs => fs.write name (payload size) 0o644 c.user c.now
  pure failure.isNone

/-! ## wget -/

/-- What the options of `wget` say. -/
structure WgetStyle where
  quiet : Bool
  /-- The name of the file that is written. -/
  output? : Option String
  deriving Repr, DecidableEq

def readWgetOptions (style : WgetStyle) : List String → WgetStyle
  | [] => style
  | token :: rest =>
    if Text.startsWith token "--" then
      if Text.startsWith token "--output-document=" then
        readWgetOptions { style with output? := some (Text.drop token 18) } rest
      else if token = "--quiet" then readWgetOptions { style with quiet := true } rest
      else readWgetOptions style rest
    else if isFlag token then
      let quiet := style.quiet || Text.hasChar token 'q'
      let output? :=
        match Text.cutFirst 'O' token.toList with
        | none => style.output?
        | some (_, []) => rest.head?.or style.output?
        | some (_, glued) => some (String.ofList glued)
      readWgetOptions ⟨quiet, output?⟩ rest
    else readWgetOptions style rest

/-- The first name that is free: the name itself or the name with a number after it. The first
argument bounds how many numbers are tried. -/
def freeName (fs : FileSystem) (name : String) : Nat → Nat → String
  | 0, number => name ++ "." ++ Text.ofNat number
  | tries + 1, number =>
    let candidate := name ++ "." ++ Text.ofNat number
    if fs.has candidate then freeName fs name tries (number + 1) else candidate

/-- A name that no node has: there are more candidates than nodes. -/
def unusedName (fs : FileSystem) (name : String) : String :=
  if fs.has name then freeName fs name (fs.tree.length + fs.overlay.length + 1) 1 else name

/-- What `wget` prints about a transfer. -/
def transferLines (started : Calendar.Instant) (url host address : String) (port : Nat)
    (size : Int) (name : String) : Draws (List String) := do
  let span := Calendar.microsOfSeconds (← Draws.uniform 0.1 1.5)
  let finished ← Fault.ofDate (started.reach span)
  let speed ← Draws.uniform 1.0 12.0
  let tenths ← Draws.between 1 9
  let kilobytes := Float.ofInt size / 1024.0
  pure [
    "--" ++ started.moment.dateClock ++ "--  " ++ url,
    "Resolving " ++ host ++ " (" ++ host ++ ")... " ++ address,
    "Connecting to " ++ host ++ " (" ++ host ++ ")|" ++ address ++ "|:" ++ Text.ofNat port ++
      "... connected.",
    "HTTP request sent, awaiting response... 200 OK",
    "Length: " ++ ofInt size ++ " (" ++ fixed 0 kilobytes ++ "K) [application/octet-stream]",
    "Saving to: '" ++ name ++ "'",
    "",
    padRight 18 (Text.take name 18) ++ " 100%[===================>] " ++
      padLeft 6 (fixed 2 kilobytes) ++ "K  --.-KB/s    in 0." ++ ofInt tenths ++ "s",
    "",
    finished.moment.dateClock ++ " (" ++ fixed 2 speed ++ " MB/s) - '" ++ name ++ "' saved [" ++
      ofInt size ++ "/" ++ ofInt size ++ "]",
    ""]

def wgetOne (c : Context) (style : WgetStyle) (url : String) : Action (List String) := do
  Action.report url .wget
  let u ← cutLocator url
  let (host, port) ← hostAndPort u
  let address ← Action.chance (addressOf host)
  let size ← Action.chance (Draws.between 8000 64000)
  let fs ← Action.files
  let name :=
    match style.output?.filter fun name => !name.isEmpty with
    | some name => name
    | none => unusedName fs (u.fileName "index.html")
  let started ← c.instant
  let saved ← if name = "-" then pure true else savePayload c name size
  if !saved then pure [name ++ ": No such file or directory"]
  else if style.quiet then pure []
  else Action.chance (transferLines started url host address port size name)

/-- Fetches files and tells of it at length. -/
def wget (c : Context) (inv : Invocation) : Action String := do
  let urls := locators inv.tokens
  if urls.isEmpty then
    pure ("wget: missing URL\nUsage: wget [OPTION]... [URL]...\n\n" ++
      "Try \u0060wget --help' for more options.\n")
  else
    let style := readWgetOptions ⟨false, none⟩ inv.tokens
    pure (Text.block (← urls.mapM (wgetOne c style)).flatten)

/-! ## curl -/

/-- What the options of `curl` say. -/
structure CurlStyle where
  silent : Bool
  /-- Whether a file has the name that the locator gives it. -/
  remoteName : Bool
  /-- The name of the file that is written. -/
  output? : Option String
  deriving Repr, DecidableEq

def CurlStyle.of (inv : Invocation) : CurlStyle where
  silent := inv.hasLetter 's' || inv.hasFlag "--silent"
  remoteName := inv.hasLetter 'O' || inv.hasFlag "--remote-name"
  output? := (optionValue? "-o" inv.tokens).or (optionValue? "--output" inv.tokens)

/-- What `curl` prints instead of a program. -/
def binaryWarning : List String := [
  "Warning: Binary output can mess up your terminal. Use \"--output -\" to tell",
  "Warning: curl to output it to your terminal anyway, or consider \"--output",
  "Warning: <FILE>\" to save to a file."]

/-- What `curl` prints about a transfer. -/
def progressLines (size : Int) : Draws (List String) := do
  let kilobytes := padLeft 4 (ofInt (Int.fdiv size 1024))
  let rate ← Draws.between 200 900
  pure [
    "  % Total    % Received % Xferd  Average Speed   Time    Time     Time  Current",
    "                                 Dload  Upload   Total   Spent    Left  Speed",
    "100 " ++ kilobytes ++ "k  100 " ++ kilobytes ++ "k    0     0   " ++ ofInt rate ++
      "k      0 --:--:-- --:--:-- --:--:--  " ++ ofInt rate ++ "k"]

def curlOne (c : Context) (style : CurlStyle) (url : String) : Action (List String) := do
  Action.report url .curl
  let size ← Action.chance (Draws.between 8000 64000)
  if style.output? = some "-" ∨ !(style.remoteName || style.output?.isSome) then
    pure (if style.silent then [] else binaryWarning)
  else
    let name ←
      match style.output? with
      | some name => pure name
      | none => do pure ((← cutLocator url).fileName "")
    if name.isEmpty then pure ["curl: Remote file name has no length!"]
    else if ← savePayload c name size then
      if style.silent then pure [] else Action.chance (progressLines size)
    else pure ["curl: (23) Failed writing body (0 != " ++ ofInt (min size 16384) ++ ")"]

/-- Fetches files and tells of it in short. -/
def curl (c : Context) (inv : Invocation) : Action String := do
  let urls := locators inv.tokens
  if urls.isEmpty then
    match inv.args.getLast? with
    | some host => pure ("curl: (6) Could not resolve host: " ++ host ++ "\n")
    | none => pure "curl: try 'curl --help' or 'curl --manual' for more information\n"
  else pure (Text.block (← urls.mapM (curlOne c (CurlStyle.of inv))).flatten)

end Honeypot.Shell
