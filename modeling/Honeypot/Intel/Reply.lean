import Honeypot.Json.Reader

/-!
# Replies of the services

Two services tell about an address: one where it is and who runs it, the other how often it was
reported. A reply is a body or a failure. A body that is no value counts as a failure that is
expected; a value of an unexpected shape is a fault, since nothing deals with it.
-/

namespace Honeypot.Intel

/-- What comes back from a service. -/
inductive Reply where
  | body (bytes : ByteArray)
  /-- No answer, in one of the ways that are expected. -/
  | unreachable
  /-- No answer, in a way that nothing deals with. -/
  | broken

/-- Why a lookup failed. -/
inductive Fault where
  /-- A service failed in a way that nothing deals with. -/
  | broken
  /-- A value was expected to have fields. -/
  | noFields
  /-- A value was expected to hold others. -/
  | noMembers
  /-- Lists and objects in a body lie in one another too deeply. -/
  | tooDeep
  deriving Repr, DecidableEq

/-- What is known about an address, as named values. -/
abbrev Facts := List (String × Json)

/-- How deep lists and objects in a body may lie in one another. -/
def bodyRoom : Nat := 985

/-- The value in the body of a reply; a reply without one has none. -/
def Reply.value : Reply → Except Fault (Option Json)
  | .body bytes =>
    match (String.fromUTF8? bytes).map (Json.read bodyRoom) with
    | some (.ok value) => .ok (some value)
    | some (.error .tooDeep) => .error .tooDeep
    | some (.error .malformed) => .ok none
    | none => .ok none
  | .unreachable => .ok none
  | .broken => .error .broken

def fieldsOf : Json → Except Fault (List (String × Json))
  | .object fields => .ok fields
  | _ => .error .noFields

/-- The field of a name, or a default if there is none. -/
def fieldOr (fields : List (String × Json)) (name : String) (default : Json) : Json :=
  (Json.field? fields name).getD default

/-- The text for what a service does not tell. -/
def unknown : Json := .text "Unknown"

/-! ## Where an address is -/

/-- The facts in an answer about the place of an address. -/
def placeFacts (fields : List (String × Json)) : Facts :=
  match Json.field? fields "status" with
  | some (.text "success") => [
    ("country", (fieldOr fields "countryCode" .null).orElse (fieldOr fields "country" unknown)),
    ("city", fieldOr fields "city" unknown),
    ("isp", fieldOr fields "isp" unknown),
    ("asn", fieldOr fields "as" unknown),
    ("latitude", fieldOr fields "lat" (.int 0)),
    ("longitude", fieldOr fields "lon" (.int 0))]
  | _ => []

/-- The facts in a reply about the place of an address. -/
def readPlace (reply : Reply) : Except Fault Facts := do
  match ← reply.value with
  | none => .ok []
  | some value => .ok (placeFacts (← fieldsOf value))

/-! ## What an address is known for -/

/-- The name of the field without which an answer tells nothing. -/
def scoreField : String := "abuseConfidenceScore"

/-- Whether a value holds the name of the score: as a field, a member or a part of a text. -/
def holdsScore : Json → Except Fault Bool
  | .object fields => .ok (Json.field? fields scoreField).isSome
  | .list items => .ok (items.any fun item =>
      match item with
      | .text s => s == scoreField
      | _ => false)
  | .text s => .ok (Text.hasText s scoreField)
  | _ => .error .noMembers

/-- The facts in an answer about the reports on an address. -/
def reportFacts (fields : List (String × Json)) : Facts := [
  ("abuse_score", fieldOr fields scoreField (.int 0)),
  ("total_reports", fieldOr fields "totalReports" (.int 0)),
  ("is_tor", .bool (!(fieldOr fields "isTor" (.bool false)).isVoid)),
  ("usage_type", (fieldOr fields "usageType" .null).orElse unknown),
  ("domain", (fieldOr fields "domain" .null).orElse unknown)]

/-- The facts in a reply about the reports on an address. -/
def readReports (reply : Reply) : Except Fault Facts := do
  match ← reply.value with
  | none => .ok []
  | some value =>
    let data := (fieldOr (← fieldsOf value) "data" .null).orElse (.object [])
    if ← holdsScore data then .ok (reportFacts (← fieldsOf data)) else .ok []

end Honeypot.Intel
