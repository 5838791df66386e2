import Honeypot.Session.Scene

/-!
# The course of a session

A peer arrives and is admitted or rejected, authenticates, logs in, and then uses a terminal or
runs a single line. Every line is run behind a boundary that faults do not cross. A session that
does nothing for too long is closed.
-/

namespace Honeypot.Scene

variable {τ : Type} [Clock τ]

/-! ## Arrival -/

/-- Turns a peer away. -/
def reject (c : Scene τ) (verdict : String) : Scene τ :=
  let session := { c.session with
    status := .closed, stop? := some c.station.now, reason? := some verdict, closed := true }
  ({ c with session }).measure fun m => m.connected verdict

/-- Serves a peer that has a place in the registry. -/
def serve (c : Scene τ) (registry : Registry) : Scene τ :=
  let session := { c.session with admitted := true, status := .authenticating }
  let c : Scene τ := { session, station := { c.station with registry } }
  let c := c.measure fun m => (m.connected Metrics.accepted).started
  let c := c.emit .connection []
  let c := if c.station.lookups?.isSome then c.submit .lookUp else c
  let c := c.touch
  if Clock.span 0 < c.session.idleTimeout then { c with session.watched := true } else c

/-- Lets a peer in unless it is on the device itself or the registry refuses it; the first result
says whether it was let in. -/
def arrive (c : Scene τ) : Bool × Scene τ :=
  let s := c.session
  if !s.servesLoopback && Address.isLoopbackText s.peerIp then
    (false, c.reject Metrics.rejectedFilter)
  else
    match c.station.registry.enter s.id ⟨s.peerIp, .session s.number⟩ with
    | .error _ => (false, c.reject Metrics.rejectedCapacity)
    | .ok registry => (true, c.serve registry)

/-! ## Logging in -/

/-- Takes down an attempt to authenticate; any password is accepted, and nothing but a
password. -/
def authenticate (c : Scene τ) (method user : String) (password? : Option String) :
    Bool × Scene τ :=
  let accepted := method == "password"
  let c := c.touch
  let c := if accepted then { c with session.user? := some user } else c
  let c := c.measure fun m => m.authenticated method
  let c := c.emit .authentication
    [("method", .text method), ("username", .text user),
      ("password", (password?.map Json.text).getD .null), ("accepted", .bool accepted)]
  (accepted, c)

/-- The first of some names that is not empty, or else the last one. -/
def firstName (names : List String) (last : String) : String :=
  (names.find? fun name => !name.isEmpty).getD last

/-- Gives the user a workspace, unless the session is closed. The user is the one given, or the
one who authenticated, or the usual user of the device. -/
def logIn (c : Scene τ) (user : String) : Scene τ :=
  if c.session.closed then c
  else
    let s := c.session
    let user := firstName [user, s.user?.getD ""] s.device.defaultUser
    let files := Shell.homeFiles s.device user
    { c with
      session := { s with
        user? := some user
        workspace? := some ⟨user, files, .fresh, false⟩
        env := Shell.withStartVariables s.device files user s.env
        status := .interactive } }

/-- Logs in if nobody has. -/
def ensureLoggedIn (c : Scene τ) : Scene τ :=
  if c.session.workspace?.isNone then c.logIn "" else c

/-! ## Running lines -/

/-- Takes down a file that somebody asked the shell to fetch. -/
def noteDownload (c : Scene τ) (d : Shell.Download) : Scene τ :=
  let c := c.measure fun m => m.downloaded d.tool.name
  c.emit .download
    [("url", .text d.url), ("tool", .text d.tool.name),
      ("username", (c.session.user?.map Json.text).getD .null)]

/-- Runs a line in a workspace; nothing is the result of a fault. -/
def runLine (c : Scene τ) (w : Workspace) (line : String) : Option Shell.Response × Scene τ :=
  let s := c.session
  let context : Shell.Context :=
    ⟨s.device, w.user, s.id, s.peerIp, s.peerPort, c.station.seconds, none, Shell.callRoom⟩
  let (result, after) :=
    (Shell.runLine context line).run
      ⟨w.files, s.env, s.history, ⟨s.chances, c.station.noise⟩, []⟩
  let session := { s with
    workspace? := some { w with files := after.files }
    env := after.env
    history := after.history
    chances := after.chances.session }
  let c : Scene τ := { session, station := { c.station with noise := after.chances.noise } }
  (result.toOption, after.downloads.foldl noteDownload c)

/-- Holds back and then runs an entered line; a line whose delay is cut short has no output. -/
def runEntered (c : Scene τ) (w : Workspace) (line : String) : Option Shell.Response × Scene τ :=
  let c := { c with session.history := c.session.history ++ [line] }
  if Clock.span 0 < c.session.delay then
    match c.wait c.session.delay with
    | (true, c) => (some (.text ""), c)
    | (false, c) => c.runLine w line
  else c.runLine w line

/-- Gives a line to the shell; nothing is the result of a fault. -/
def giveToShell (c : Scene τ) (line : String) : Option Shell.Response × Scene τ :=
  match c.session.workspace? with
  | none => (none, c)
  | some w =>
    if w.broken then (none, c)
    else
      match Shell.enteredLine? line with
      | none => (some (.text ""), c)
      | some line => c.runEntered w line

/-- What is printed for a line on which the shell failed. -/
def failureText (line : String) : String :=
  "bash: " ++ (Text.words line).headD line ++ ": Input/output error\n"

/-- What a line came to. -/
structure Execution where
  response : Shell.Response
  /-- Whether the shell failed on the line. -/
  failed : Bool
  deriving Repr, DecidableEq

/-- The text of a response as events tell it. -/
def outputOf : Shell.Response → String
  | .text s => s
  | .exit => ""

def execute (c : Scene τ) (line : String) : Execution × Scene τ :=
  let c := c.ensureLoggedIn
  let c := { c with session.commands := c.session.commands + 1 }
  let (response?, c) := c.giveToShell line
  let response := response?.getD (.text (failureText line))
  let outcome :=
    if response?.isNone then Metrics.erroneous
    else if Shell.isKnownLine line then Metrics.known
    else Metrics.unknown
  let c :=
    if c.session.closed then c
    else
      (c.emit .command [("input", .text line), ("output", .text (outputOf response))]).measure
        fun m => m.ran outcome
  (⟨response, response?.isNone⟩, c)

/-! ## The terminal -/

/-- Why a terminal cannot be used. -/
inductive Lapse where
  /-- Nobody is logged in. -/
  | noShell
  /-- The greeting cannot be made. -/
  | greeting (fault : Fault)

/-- Starts to use the terminal with a greeting and a prompt. -/
def attach (c : Scene τ) : Except Lapse Unit × Scene τ :=
  let c := { c.ensureLoggedIn with session.attached := true }
  if c.session.workspace?.isNone then (.error .noShell, c)
  else
    let (greeting, chances) :=
      (Shell.banner c.session.device c.station.seconds).run c.session.chances
    let c := { c with session.chances := chances }
    match greeting with
    | .error fault => (.error (.greeting fault), c)
    | .ok text => (.ok (), (c.send (Text.crlf text)).sendPrompt)

/-- Runs an entered line and shows what it prints; the first result says whether the session goes
on. -/
def runAtTerminal (c : Scene τ) (line : String) : Bool × Scene τ :=
  let (execution, c) := c.execute line
  if c.session.closed then (false, c)
  else
    match execution.response with
    | .exit => (false, (c.send "logout\r\n").ended "exit")
    | .text output => (true, (c.send (Text.crlf output)).sendPrompt)

/-- Reacts to a key; the first result says whether the session goes on. -/
def press (c : Scene τ) (key : Terminal.Key) : Bool × Scene τ :=
  let c := c.send key.echo
  match key with
  | .loggedOut => (false, c.ended "logout")
  | .entered line => c.runAtTerminal line
  | key => (true, if key.wantsPrompt then c.sendPrompt else c)

/-- Gives bytes to the terminal one by one, while the session goes on. -/
def feedBytes (c : Scene τ) : List UInt8 → Bool × Scene τ
  | [] => (!c.session.closed, c)
  | byte :: rest =>
    match c.session.workspace? with
    | none => (!c.session.closed, c)
    | some w =>
      let (terminal, key?) := w.terminal.step byte
      let c := { c with session.workspace? := some { w with terminal } }
      match key? with
      | none => c.feedBytes rest
      | some key =>
        match c.press key with
        | (true, c) => c.feedBytes rest
        | (false, c) => (false, c)

/-- Takes a chunk of input; the first result says whether the session is open after it. -/
def feed (c : Scene τ) (bytes : List UInt8) : Bool × Scene τ :=
  if c.session.closed || c.session.workspace?.isNone then (false, c)
  else c.touch.feedBytes bytes

/-! ## Single lines -/

/-- The output of a single line, with a line break at its end. -/
def terminated (output : String) : String :=
  if output.isEmpty || Text.endsWith output "\n" then output else output ++ "\n"

/-- Runs a single line and closes the session; the first result is the exit status. -/
def runOnce (c : Scene τ) (line : String) : Nat × Scene τ :=
  let c := ({ c with session.attached := true }).touch
  let (execution, c) := c.execute line
  let status := if execution.failed then 1 else 0
  let c := c.send (terminated (outputOf execution.response))
  let c :=
    if c.session.closed then c
    else { c with session.channel := c.session.channel.exit status }
  (status, c.ended "exec-complete")

/-! ## Watching -/

/-- Waits for the deadline and closes the session once it has come. A deadline of zero is none. -/
def watch (c : Scene τ) : Nat → Scene τ
  | 0 => c
  | rounds + 1 =>
    if c.session.closed then c
    else
      let now := c.station.now
      let deadline := c.session.deadline?.getD now
      let deadline :=
        if deadline ≤ Clock.span 0 ∧ Clock.span 0 ≤ deadline then now else deadline
      let left := deadline - now
      if left ≤ Clock.span 0 then c.ended "idle-timeout"
      else
        match c.wait left with
        | (true, c) => c
        | (false, c) => c.watch rounds

/-- Whether all work that the session waits for is done and has succeeded. -/
def settled (c : Scene τ) : Bool :=
  c.session.pending.all fun number =>
    !c.station.waits number && !c.station.failures.contains number

end Honeypot.Scene
