import Honeypot.Session.Basic
import Honeypot.Session.Station

/-!
# A session at work

The steps that all operations of a session are made of: handing on work, telling of events,
sending text, waiting, and closing. Only the first closing has any effect
(`close_of_closing`).
-/

namespace Honeypot

/-- A session together with what it shares with the others. -/
structure Scene (τ : Type) where
  session : Session τ
  station : Station τ

/-! ## Calling back -/

namespace Callback

/-- Calls somebody back; the second result says whether that went well. -/
def call (k : Callback) (notices : List Notice) : List Notice × Bool :=
  (notices ++ [.ended k.label], !k.fails)

/-- Calls everybody back in turn. A call that fails does not keep the others from being made. -/
def callAll : List Callback → List Notice → List Notice
  | [], notices => notices
  | k :: rest, notices =>
    let (notices, _) := k.call notices
    callAll rest notices

theorem callAll_eq (calls : List Callback) (notices : List Notice) :
    callAll calls notices = notices ++ calls.map fun call => .ended call.label := by
  induction calls generalizing notices with
  | nil => exact (List.append_nil notices).symm
  | cons k rest ih => exact (ih _).trans (List.append_assoc ..)

end Callback

namespace Scene

variable {τ : Type} [Clock τ]

/-! ## Handing on work -/

/-- Does work for the session; the second result says whether it succeeded. -/
def perform (c : Scene τ) : Task → Scene τ × Bool
  | .emit r =>
    let (station, kept) := c.station.tell r
    ({ c with station }, kept)
  | .lookUp =>
    let (station, facts) := c.station.lookUp c.session.peerIp
    match facts with
    | .ok [] => ({ c with station }, true)
    | .ok facts => ({ session := { c.session with facts }, station }, true)
    | .error _ => ({ c with station }, false)

/-- Does work and keeps its number if it fails. -/
def carryOut (c : Scene τ) (number : Nat) (task : Task) : Scene τ :=
  let (c, succeeded) := c.perform task
  if succeeded then c else { c with station.failures := c.station.failures ++ [number] }

/-- Takes down that work with a number was handed on. -/
def notePending (c : Scene τ) (number : Nat) : Scene τ :=
  { c with session.pending := c.session.pending.filter c.station.waits ++ [number] }

/-- Hands on work, if it is taken. -/
def submit (c : Scene τ) (task : Task) : Scene τ :=
  let number := c.station.jobs
  match c.station.pool with
  | .shut => c
  | .atOnce =>
    (({ c with station.jobs := number + 1 }).carryOut number task).notePending number
  | .later =>
    let c := c.notePending number
    let job : Job := ⟨number, c.session.number, task⟩
    { c with station := { c.station with jobs := number + 1, queue := c.station.queue ++ [job] } }

/-- Tells of an event. Nothing is told after the end of the session but the end itself. -/
def emit (c : Scene τ) (kind : Events.Kind) (fields : List (String × Json)) : Scene τ :=
  if c.station.sink?.isNone || (c.session.closing && kind != .disconnect) then c
  else c.submit (.emit ⟨kind, c.session.heading ++ fields⟩)

/-- Notes something in the measurements. -/
def measure (c : Scene τ) (f : Metrics.Collector → Metrics.Collector) : Scene τ :=
  { c with station := c.station.measure f }

/-! ## Time -/

/-- Puts the deadline off, if there is one. -/
def touch (c : Scene τ) : Scene τ :=
  if Clock.span 0 < c.session.idleTimeout then
    { c with session.deadline? := some (c.station.now + c.session.idleTimeout) }
  else c

/-! ## The end -/

/-- The session takes nothing more from now on. -/
def beginClosing (c : Scene τ) (reason : String) : Scene τ :=
  { c with
    session := { c.session with
      closing := true, closed := true, status := .closing
      stop? := some c.station.now, reason? := some reason } }

/-- Closes the channel, if the session uses it. -/
def hangUp (c : Scene τ) : Scene τ :=
  if c.session.attached then { c with session.channel := c.session.channel.close } else c

/-- Gives the place in the registry back and tells of the end, if the session was admitted. -/
def signOff (c : Scene τ) (reason : String) : Scene τ :=
  if c.session.admitted then
    let c := { c with station.registry := c.station.registry.leave c.session.id }
    let duration := Number.roundTo 2 (Clock.seconds (c.session.duration c.station.now))
    let c := c.emit .disconnect
      [("reason", .text reason), ("duration", .float duration),
        ("command_count", .int c.session.commands)]
    c.measure fun m => m.ended duration
  else c

/-- Clears the workspace and tells everybody who wants to hear of the end. -/
def cleanUp (c : Scene τ) : Scene τ where
  session := { c.session with
    workspace? := c.session.workspace?.map Workspace.cleared, status := .closed }
  station := { c.station with
    notices := Callback.callAll c.session.callbacks c.station.notices }

/-- Closes the session; the first result says whether it was open. -/
def close (c : Scene τ) (reason : String) : Bool × Scene τ :=
  if c.session.closing then (false, c)
  else (true, (((c.beginClosing reason).hangUp).signOff reason).cleanUp)

/-- The session after it is closed. -/
def ended (c : Scene τ) (reason : String) : Scene τ := (c.close reason).2

theorem close_of_closing {c : Scene τ} (h : c.session.closing = true) (reason : String) :
    c.close reason = (false, c) := by
  simp [close, h]

/-! ## Sending and waiting -/

/-- Sends text; a channel that fails ends the session. -/
def send (c : Scene τ) (text : String) : Scene τ :=
  if !c.session.attached || text.isEmpty || c.session.closed then c
  else
    match c.session.channel.send? text with
    | some channel => { c with session.channel := channel }
    | none => c.ended "transport-error"

def sendPrompt (c : Scene τ) : Scene τ :=
  match c.session.workspace? with
  | some w => c.send (Shell.prompt c.session.device w.user w.files)
  | none => c

/-- Waits for some time unless the session is closed before; the first result says whether it
was. A wait may be of any length: that a system refuses to wait for centuries is left out. -/
def wait (c : Scene τ) (time : τ) : Bool × Scene τ :=
  if c.session.closed then (true, c)
  else
    match c.session.interruption? with
    | some reason => (true, ({ c with session.interruption? := none }).ended reason)
    | none => (false, { c with station.now := c.station.now + time })

end Scene

end Honeypot
