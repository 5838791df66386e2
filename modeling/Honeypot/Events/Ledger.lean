import Honeypot.Events.Directory
import Honeypot.Events.Record

/-!
# The ledger

All events but disconnections go to the ledger as rows of eleven cells. A missing value shows as
a dash. At the first row of a day the ledger is put aside under the name of the day of its rows.
-/

namespace Honeypot.Events.Ledger

open Calendar (Reading)

def name : String := "credentials.csv"

def header : List String :=
  ["Date", "Time", "IP", "Port", "Event", "Username", "Password", "Country", "City", "AbuseScore",
    "Details"]

/-! ## Cells -/

/-- Whether a character makes quotes around a cell necessary. -/
def needsQuotes (c : Char) : Bool := c == ',' || c == '"' || c == '\r' || c == '\n'

/-- A cell as it is written: in quotes if necessary, with quotes inside doubled. -/
def written (cell : String) : String :=
  let cs := cell.toList
  if cs.any needsQuotes then
    String.ofList ('"' :: cs.flatMap (fun c => if c = '"' then ['"', '"'] else [c]) ++ ['"'])
  else cell

/-- A row as it is written. -/
def line (cells : List String) : String := Text.join "," (cells.map written) ++ "\r\n"

/-- A value as a cell; nothing makes an empty cell. -/
def cell : Json → String
  | .null => ""
  | value => value.shown

/-! ## Rows -/

/-- What is known about the peer; a value without fields cannot be asked. -/
def intelFields (r : Record) : Option (List (String × Json)) :=
  match (r.get "intel").orElse (.object []) with
  | .object fields => some fields
  | _ => none

def password (r : Record) : Json :=
  if r.kind = .authentication ∧ r.byPassword then r.getOrDash "password" else .text "-"

def details (r : Record) : Json :=
  match r.kind with
  | .authentication =>
    .text (r.method.shown ++ " " ++ if r.accepted then "accepted" else "rejected")
  | .command => r.getOrDash "input"
  | .download => r.getOrDash "url"
  | .connection => .text "connection opened"
  | .disconnect => .text "-"

/-- The values in the row of an event, unless what is known about the peer cannot be asked. -/
def row? (now : Reading) (r : Record) : Option (List Json) :=
  (intelFields r).map fun intel =>
    let known (field : String) : Json :=
      ((Json.field? intel field).getD .null).orElse (.text "-")
    [.text now.moment.date, .text now.moment.clock, r.getOrDash "peer_ip", r.getOrDash "peer_port",
      .text r.kind.name, r.getOrDash "username", password r, known "country", known "city",
      (Json.field? intel "abuse_score").getD (.text "-"), details r]

/-- The values in the row of an event, unless there is no row or its details cannot be put into
words. -/
def values? (room : Nat) (now : Reading) (r : Record) : Option (List Json) :=
  if r.kind = .authentication ∧ !r.method.fits room then none else row? now r

/-- The cells of some values, unless one of them cannot be written. -/
def cells? (room : Nat) (values : List Json) : Option (List String) :=
  if values.all (Json.fits room) then some (values.map cell) else none

/-! ## Days -/

/-- The day of the rows in the ledger: the one that is noted, or the day of its last change. -/
def dayOf? (noted? : Option String) (d : Directory) : Option String :=
  noted?.or ((d.lookup name).map fun file => file.changed.moment.date)

/-- The directory with the ledger put aside if its rows are of another day. Too many old ledgers
are removed. -/
def turn (keep : Int) (day : String) (noted? : Option String) (d : Directory) : Directory :=
  match dayOf? noted? d with
  | none => d
  | some old =>
    if old ≠ day ∧ d.has name then
      let d := d.rename name (name ++ "." ++ old)
      let backups := d.topNames.filter fun file => Text.startsWith file (name ++ ".")
      d.removeAll (Directory.surplus keep backups)
    else d

/-- The directory after the row of an event was written, and the day of the ledger. A row with a
cell that cannot be written is left out, behind the header if the ledger is a new one. -/
def write (room : Nat) (keep : Int) (now : Reading) (noted? : Option String) (d : Directory)
    (r : Record) : Directory × Option String :=
  match values? room now r with
  | none => (d, noted?)
  | some values =>
    let day := now.moment.date
    let d := turn keep day noted? d
    let d := if d.has name then d else d.append now name (line header)
    match cells? room values with
    | none => (d, some day)
    | some cells => (d.append now name (line cells), some day)

end Honeypot.Events.Ledger
