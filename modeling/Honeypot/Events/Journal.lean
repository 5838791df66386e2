import Honeypot.Events.Directory
import Honeypot.Events.Record

/-!
# The journal

All events go to the journal as values on one line each. At the first event after a midnight the
journal is put aside under the name of the day before, and a new one is begun; the oldest
journals are removed if there are too many.
-/

namespace Honeypot.Events.Journal

open Calendar (Instant Reading)

def name : String := "events.jsonl"

/-- The greatest length of the output that the journal keeps. -/
def maxOutput : Nat := 500

/-! ## Lines -/

/-- The values of an event as the journal keeps them: after the moment and the kind, and with the
output cut short. -/
def values (now : Reading) (r : Record) : List (String × Json) :=
  let values := Json.setFields
    [("timestamp", .text now.moment.full), ("event", .text r.kind.name)] r.fields
  match Json.field? values "output" with
  | some (.text output) => Assoc.put "output" (.text (Text.take output maxOutput)) values
  | _ => values

/-- The line of an event, unless one of its values cannot be written. -/
def line? (room : Nat) (now : Reading) (r : Record) : Option String :=
  ((Json.object (values now r)).line? room).map (· ++ "\n")

/-! ## Days -/

def daySeconds : Int := 86400

def midnightAfter (seconds : Int) : Int := (Int.fdiv seconds daySeconds + 1) * daySeconds

/-- The day before a midnight, in its written form. -/
def dayBefore (midnight : Int) : String :=
  (Instant.mk ((midnight - daySeconds) * 1000000)).moment.date

/-- Whether a part of a name is a day in its written form, perhaps with a line feed behind it. -/
def isDay (part : String) : Bool :=
  match part.toList with
  | a :: b :: c :: d :: '-' :: e :: f :: '-' :: g :: h :: rest =>
    [a, b, c, d, e, f, g, h].all Char.isDigit && (rest.isEmpty || rest = ['\n'])
  | _ => false

/-- Whether a name is that of a journal put aside. -/
def isBackup (file : String) : Bool :=
  Text.startsWith file name && (Text.fields '.' file).tail.any isDay

/-- The directory with the journal put aside and a new one begun. Too many old journals are
removed if the number to keep is positive. -/
def turn (keep midnight : Int) (now : Reading) (d : Directory) : Directory :=
  let d := d.rename name (name ++ "." ++ dayBefore midnight)
  let backups := d.topNames.filter isBackup
  let d := if 0 < keep then d.removeAll (Directory.surplus keep backups) else d
  d.touch now name

/-- The directory after an event was written, and the midnight that ends the day of the journal. An
event that has no line changes nothing. -/
def write (room : Nat) (keep midnight : Int) (now : Reading) (d : Directory) (r : Record) :
    Directory × Int :=
  match line? room now r with
  | none => (d, midnight)
  | some text =>
    let (d, midnight) :=
      if midnight ≤ now.whole then (turn keep midnight now d, midnightAfter now.whole)
      else (d, midnight)
    (d.append now name text, midnight)

end Honeypot.Events.Journal
