import Honeypot.Session.Course

/-!
# The service

All sessions together with what they share. Work that was put off is done in the order in which
it was handed on, and a shutdown closes whoever holds a place in the registry.
-/

namespace Honeypot

/-- All sessions, in the order in which they began. -/
structure Service (τ : Type) where
  station : Station τ
  sessions : List (Session τ)

namespace Service

variable {τ : Type} [Clock τ]

/-- Lets a session do something; there is no result if there is no such session. -/
def act {α : Type} (s : Service τ) (number : Nat) (f : Scene τ → α × Scene τ) :
    Option α × Service τ :=
  match s.sessions[number]? with
  | none => (none, s)
  | some session =>
    let (result, c) := f ⟨session, s.station⟩
    (some result, ⟨c.station, s.sessions.set number c.session⟩)

/-- Adds a session that is made from its number and the clock. -/
def begin (s : Service τ) (session : Nat → τ → Session τ) : Service τ :=
  { s with sessions := s.sessions ++ [session s.sessions.length s.station.now] }

def advance (s : Service τ) (time : τ) : Service τ :=
  { s with station.now := s.station.now + time }

/-! ## Work that was put off -/

def carryOut (s : Service τ) (job : Job) : Service τ :=
  (s.act job.owner fun c => ((), c.carryOut job.number job.task)).2

/-- Does all work that waits; the first result says how much it was. -/
def runQueue (s : Service τ) : Nat × Service τ :=
  let queue := s.station.queue
  (queue.length, queue.foldl carryOut { s with station.queue := [] })

/-! ## The registry -/

/-- Gives a place to somebody who is no session. -/
def admitObserver (s : Service τ) (id ip : String) : Except Refusal Unit × Service τ :=
  match s.station.registry.enter id ⟨ip, .observer⟩ with
  | .ok registry => (.ok (), { s with station.registry := registry })
  | .error refusal => (.error refusal, s)

/-- Takes the place of an identifier away; the first result says whether it had one. -/
def remove (s : Service τ) (id : String) : Bool × Service τ :=
  match s.station.registry.leave? id with
  | some registry => (true, { s with station.registry := registry })
  | none => (false, s)

/-- Sends the holder of a place away. -/
def dismiss (s : Service τ) (entry : String × Place) : Service τ :=
  match entry.2.holder with
  | .session number => (s.act number fun c => c.close "shutdown").2
  | .observer =>
    { s with station.notices := s.station.notices ++ [.told entry.1 "shutdown"] }

/-- Sends everybody away who holds a place and waits some time if somebody stays; the first result
is the number of those who do. -/
def shutDown (s : Service τ) (grace : τ) : Nat × Service τ :=
  let s := s.station.registry.places.foldl dismiss s
  let left := s.station.registry.places.length
  if left = 0 then (0, s)
  else
    let station := s.station.waitUntil (s.station.now + grace) Station.rounds
    (left, { s with station })

end Service

end Honeypot
