import Honeypot.Events.Log
import Honeypot.Intel.Client
import Honeypot.Metrics.Collector
import Honeypot.Random
import Honeypot.Registry

/-!
# What sessions share

All sessions share one clock, one registry, and what their events, measurements, lookups and
background work go to. Work is done at once, later, or refused.
-/

namespace Honeypot

/-- Work that a session hands on. -/
inductive Task where
  /-- Tells of an event. -/
  | emit (event : Events.Record)
  /-- Finds out about the peer. -/
  | lookUp

/-- Work that waits to be done. -/
structure Job where
  number : Nat
  /-- The session that handed it on. -/
  owner : Nat
  task : Task

/-- When work is done. -/
inductive Pool where
  | atOnce
  | later
  /-- Work is refused. -/
  | shut
  deriving Repr, DecidableEq

/-- What keeps the events that a sink is told of. -/
inductive Medium where
  | memory
  | log (log : Events.Log)
  /-- Nothing, since it fails on every event. -/
  | broken

/-- Where events go. -/
structure Sink where
  medium : Medium
  /-- All events that the sink was told of, the first one first. -/
  told : List Events.Record

/-- Tells a sink of an event; the second result says whether it could keep it. -/
def Sink.tell (s : Sink) (now : Calendar.Reading) (r : Events.Record) : Sink × Bool :=
  let told := s.told ++ [r]
  match s.medium with
  | .memory => (⟨.memory, told⟩, true)
  | .log log => (⟨.log (log.emit now r), told⟩, true)
  | .broken => (⟨.broken, told⟩, false)

/-- How peers are looked up, and what was asked so far. -/
structure Lookups (τ : Type) where
  settings : Intel.Settings τ
  network : Intel.Network
  memory : Intel.Memory τ
  requests : List Intel.Request

/-- What somebody outside a session came to hear. -/
inductive Notice where
  /-- A session has ended. -/
  | ended (label : String)
  /-- The holder of a place is to go. -/
  | told (id reason : String)
  deriving Repr, DecidableEq

/-- What all sessions share. -/
structure Station (τ : Type) where
  now : τ
  /-- The generator of made-up files. -/
  noise : Random
  registry : Registry
  metrics? : Option Metrics.Collector
  sink? : Option Sink
  lookups? : Option (Lookups τ)
  pool : Pool
  /-- The work that waits. -/
  queue : List Job
  /-- How much work was taken. -/
  jobs : Nat
  /-- The numbers of the work that failed. -/
  failures : List Nat
  notices : List Notice

namespace Station

variable {τ : Type} [Clock τ]

def seconds (s : Station τ) : Float := Clock.seconds s.now

def reading (s : Station τ) : Calendar.Reading := .ofSeconds s.seconds

/-- Notes something in the measurements, if there are any. -/
def measure (s : Station τ) (f : Metrics.Collector → Metrics.Collector) : Station τ :=
  { s with metrics? := s.metrics?.map f }

/-- Whether work is still to be done. -/
def waits (s : Station τ) (number : Nat) : Bool := s.queue.any fun job => job.number == number

def tell (s : Station τ) (r : Events.Record) : Station τ × Bool :=
  match s.sink? with
  | none => (s, true)
  | some sink =>
    let (sink, kept) := sink.tell s.reading r
    ({ s with sink? := some sink }, kept)

/-- Looks up an address; nothing is known if nobody can be asked. -/
def lookUp (s : Station τ) (ip : String) : Station τ × Except Intel.Fault Intel.Facts :=
  match s.lookups? with
  | none => (s, .ok [])
  | some l =>
    let o := Intel.lookup l.settings l.network s.now l.memory ip
    let l := { l with memory := o.memory, requests := l.requests ++ o.requests }
    ({ s with lookups? := some l }, o.result)

/-- Waits until a time. A clock that rounds may stop short of it, so the wait is taken up again a
few times. As for a session, a wait may be of any length. -/
def waitUntil (s : Station τ) (time : τ) : Nat → Station τ
  | 0 => s
  | rounds + 1 =>
    let left := time - s.now
    if left ≤ Clock.span 0 then s else waitUntil { s with now := s.now + left } time rounds

/-- How often a wait is taken up again. -/
def rounds : Nat := 8

end Station

end Honeypot
