import Honeypot.Events.Journal
import Honeypot.Events.Ledger
import Honeypot.Events.Transcript

/-!
# The log of events

A log writes every event to the journal, to the ledger and to the transcript of its session. What
goes wrong with one of them does not keep the others from being written.
-/

namespace Honeypot.Events

open Calendar (Reading)

/-- How deep lists and objects may lie in one another in what is written. The calls of the writer
take the rest of what there is room for, as many for every event. -/
def valueRoom : Nat := 987

structure Log where
  directory : Directory
  place : Place
  /-- The number of journals and of ledgers that are kept. -/
  keep : Int
  /-- How deep lists and objects may lie in one another. -/
  room : Nat
  /-- The midnight that ends the day of the journal, in seconds. -/
  midnight : Int
  /-- The day of the last row, if one was written. -/
  day? : Option String
  /-- The sessions whose transcripts were begun. -/
  begun : List Json

/-- A log that is opened on a directory. The day of the journal is that of its last change. -/
def Log.openOn (place : Place) (directory : Directory) (keep : Int) (now : Reading) : Log :=
  let directory := directory.touch now Journal.name
  let changed :=
    match directory.lookup Journal.name with
    | some file => file.changed
    | none => now
  ⟨directory, place, keep, valueRoom, Journal.midnightAfter changed.below, none, []⟩

/-- The log after an event. Nothing is written at a time that has no date. -/
def Log.emit (log : Log) (now : Reading) (r : Record) : Log :=
  if now.instant.isDated then
    let (directory, midnight) := Journal.write log.room log.keep log.midnight now log.directory r
    let (directory, day?) :=
      if r.kind = .disconnect then (directory, log.day?)
      else Ledger.write log.room log.keep now log.day? directory r
    let (directory, begun) := Transcript.write log.place log.room now log.begun directory r
    { log with directory, midnight, day?, begun }
  else log

end Honeypot.Events
