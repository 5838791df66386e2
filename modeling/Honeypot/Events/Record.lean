import Honeypot.Calendar
import Honeypot.Json.Display
import Honeypot.Json.Writer

/-!
# Event records

What happens in a session is recorded as an event of one of five kinds with named values. The
order of the values is kept.
-/

namespace Honeypot.Events

/-- What an event is about. -/
inductive Kind where
  | connection
  | authentication
  | command
  | download
  | disconnect
  deriving Repr, DecidableEq

def Kind.name : Kind → String
  | .connection => "connection"
  | .authentication => "authentication"
  | .command => "command"
  | .download => "malware-download"
  | .disconnect => "disconnect"

def Kind.all : List Kind := [.connection, .authentication, .command, .download, .disconnect]

/-- The kind of event with a given name. -/
def Kind.ofName? (name : String) : Option Kind := Kind.all.find? fun k => k.name == name

structure Record where
  kind : Kind
  fields : List (String × Json)

namespace Record

/-- Names that the values of an event cannot have: they stand for the log and for the kind of the
event. -/
def reservedNames : List String := ["self", "event"]

/-- Whether values may be those of an event. -/
def isAllowed (values : List (String × Json)) : Bool :=
  values.all fun (name, _) => !reservedNames.contains name

/-- An event of a kind with named values, where a later value of a name takes the place of an
earlier one. -/
def ofValues (kind : Kind) (values : List (String × Json)) : Record :=
  ⟨kind, Json.setFields [] values⟩

/-- A value of an event, or a default if the event does not have it. -/
def getOr (r : Record) (name : String) (default : Json) : Json :=
  (Json.field? r.fields name).getD default

theorem getOr_cases (r : Record) (name : String) (default : Json) :
    r.getOr name default = default ∨ ∃ field ∈ r.fields, r.getOr name default = field.2 := by
  unfold getOr
  cases hfound : Json.field? r.fields name with
  | none => exact .inl rfl
  | some value => exact .inr ⟨(name, value), Json.mem_of_field? hfound, rfl⟩

theorem fits_getOr {r : Record} {room : Nat} (h : ∀ field ∈ r.fields, field.2.fits room = true)
    {default : Json} (hdefault : default.fits room = true) (name : String) :
    (r.getOr name default).fits room = true := by
  obtain heq | ⟨field, hfield, heq⟩ := r.getOr_cases name default
  · rwa [heq]
  · rw [heq]
    exact h field hfield

/-- A value of an event; one that the event does not have is void. -/
def get (r : Record) (name : String) : Json := r.getOr name .null

/-- A value of an event, or a dash if it says nothing. -/
def getOrDash (r : Record) (name : String) : Json := (r.get name).orElse (.text "-")

/-- Whether an attempt to log in was accepted. -/
def accepted (r : Record) : Bool := !(r.getOr "accepted" (.bool true)).isVoid

/-- How somebody tried to log in. -/
def method (r : Record) : Json := r.getOr "method" (.text "password")

/-- Whether somebody tried to log in with a password. -/
def byPassword (r : Record) : Bool :=
  match r.method with
  | .text s => s == "password"
  | _ => false

end Record

end Honeypot.Events
