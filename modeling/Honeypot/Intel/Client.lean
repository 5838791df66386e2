import Honeypot.Address.Basic
import Honeypot.Intel.Reply
import Honeypot.Intel.Window

/-!
# Looking up addresses

A client asks the services about an address, keeps what they told for some time, and stays within
the number of questions that each of them allows. What it keeps has a bounded size; the oldest
goes first.
-/

namespace Honeypot.Intel

variable {τ : Type}

structure Settings (τ : Type) where
  enabled : Bool
  /-- How long to wait for an answer, in seconds. -/
  timeout : Float
  /-- How long answers are kept. -/
  keepFor : τ
  /-- The number of questions to the first service in a minute. -/
  placeLimit : Int
  /-- The key for the second service; without one it is not asked. -/
  key : String
  /-- The number of questions to the second service in a day. -/
  reportLimit : Int
  /-- The number of addresses that are kept. -/
  capacity : Int

/-- What is known about an address since a moment. -/
structure Kept (τ : Type) where
  since : τ
  facts : Facts

/-- What a client remembers. -/
structure Memory (τ : Type) where
  /-- What is known by addresses, the oldest first. -/
  kept : List (String × Kept τ)
  /-- When the first service was asked. -/
  placeCalls : List τ
  /-- When the second service was asked. -/
  reportCalls : List τ

def Memory.fresh : Memory τ := ⟨[], [], []⟩

def Memory.forget (m : Memory τ) : Memory τ := { m with kept := [] }

structure Request where
  url : String
  timeout : Float
  /-- The headers by their names in small letters, in order. -/
  headers : List (String × String)

/-- The answers of the two services to questions about addresses. -/
structure Network where
  place : String → Reply
  reports : String → Reply

/-! ## Questions -/

/-- The name that the client gives itself. -/
def agent : String := "sshmon"

/-- The question to the first service. -/
def placeRequest (settings : Settings τ) (ip : String) : Request where
  url := "http://ip-api.com/json/" ++ ip ++
    "?fields=status,country,countryCode,city,lat,lon,isp,as"
  timeout := settings.timeout
  headers := [("user-agent", agent)]

/-- A byte as it stands in the query of a locator. -/
def queryByte (byte : UInt8) : String :=
  let c := Char.ofNat byte.toNat
  if byte < 128 && (c.isAlphanum || c == '_' || c == '.' || c == '-' || c == '~') then
    String.singleton c
  else if byte = 32 then "+"
  else
    let digits := Text.fillLeft '0' 2 (Text.inBase 16 byte.toNat)
    "%" ++ String.ofList (digits.toList.map Char.toUpper)

/-- A text as it stands in the query of a locator. -/
def queryText (s : String) : String := String.join (s.toUTF8.toList.map queryByte)

/-- The question to the second service. -/
def reportRequest (settings : Settings τ) (ip : String) : Request where
  url := "https://api.abuseipdb.com/api/v2/check?ipAddress=" ++ queryText ip ++ "&maxAgeInDays=90"
  timeout := settings.timeout
  headers := [("accept", "application/json"), ("key", settings.key), ("user-agent", agent)]

variable [Clock τ]

/-! ## Keeping -/

/-- The span of time that the first limit is about: a minute. -/
def placeWindow : τ := Clock.span 60

/-- The span of time that the second limit is about: a day. -/
def reportWindow : τ := Clock.span 86400

/-- What is known about an address, unless it is too old. -/
def Memory.known? (m : Memory τ) (keepFor now : τ) (ip : String) : Option Facts :=
  (m.kept.lookup ip).bind fun kept =>
    if now - kept.since < keepFor then some kept.facts else none

/-- The youngest entries, as many as leave room for one more. -/
def makeRoom (capacity : Int) : List (String × Kept τ) → List (String × Kept τ)
  | [] => []
  | entry :: rest =>
    if capacity ≤ (entry :: rest).length then makeRoom capacity rest else entry :: rest

/-- The memory with what was learned about an address. -/
def Memory.keep (m : Memory τ) (settings : Settings τ) (now : τ) (ip : String) (facts : Facts) :
    Memory τ :=
  let young := m.kept.filter fun (_, kept) => !decide (settings.keepFor ≤ now - kept.since)
  let others := Assoc.erase ip young
  { m with kept := makeRoom settings.capacity others ++ [(ip, ⟨now, facts⟩)] }

/-! ## Lookups -/

/-- What a lookup ends in: the facts or a fault, the memory after it, and the questions that were
asked. -/
structure Outcome (τ : Type) where
  result : Except Fault Facts
  memory : Memory τ
  requests : List Request

/-- The facts that the services tell, as far as they are asked, and the questions. -/
def ask (settings : Settings τ) (network : Network) (ip : String) (place reports : Bool) :
    Except Fault Facts × List Request :=
  let placeRequests := if place then [placeRequest settings ip] else []
  match if place then readPlace (network.place ip) else .ok [] with
  | .error e => (.error e, placeRequests)
  | .ok facts =>
    if reports then
      let requests := placeRequests ++ [reportRequest settings ip]
      match readReports (network.reports ip) with
      | .error e => (.error e, requests)
      | .ok more => (.ok (Json.setFields facts more), requests)
    else (.ok facts, placeRequests)

/-- Looks up an address. Only public addresses are looked up, and only what all services told is
kept. -/
def lookup (settings : Settings τ) (network : Network) (now : τ) (m : Memory τ) (ip : String) :
    Outcome τ :=
  if !settings.enabled || !Address.isPublicText ip then ⟨.ok [], m, []⟩
  else
    match m.known? settings.keepFor now ip with
    | some facts => ⟨.ok facts, m, []⟩
    | none =>
      let keyed := !settings.key.isEmpty
      let (place, placeCalls) := take settings.placeLimit placeWindow now m.placeCalls
      let (reports, reportCalls) :=
        if keyed then take settings.reportLimit reportWindow now m.reportCalls
        else (false, m.reportCalls)
      let m := { m with placeCalls := placeCalls, reportCalls := reportCalls }
      let (result, requests) := ask settings network ip place reports
      match result with
      | .error e => ⟨.error e, m, requests⟩
      | .ok facts =>
        if place && (reports || !keyed) then
          ⟨.ok facts, m.keep settings now ip facts, requests⟩
        else ⟨.ok facts, m, requests⟩

end Honeypot.Intel
