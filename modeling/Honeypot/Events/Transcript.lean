import Honeypot.Events.Directory
import Honeypot.Events.Record

/-!
# Transcripts

The events of a session also go to a file of the session, in words. A transcript begins with a
heading that names the session and its peer.
-/

namespace Honeypot.Events.Transcript

open Calendar (Reading)

/-! ## Files -/

/-- The greatest length of a name of a file, in bytes. -/
def maxNameBytes : Nat := 255

/-- The file of a session, if it can be written and lies in the directory of the logs. The name of a
session is taken for a path from that of the sessions, or from the top. -/
def fileOf? (p : Place) (session : String) : Option String :=
  let parts := Text.fields '/' (session ++ ".log")
  let last := parts.getLast?.getD ""
  if Text.hasChar session '\x00' || maxNameBytes < last.utf8ByteSize then none
  else
    let start := if Text.startsWith session "/" then [] else p.sessions
    (p.walk start parts.dropLast).bind fun way =>
      if way = p.sessions then some ("sessions/" ++ last)
      else if way = p.names then some last
      else none

/-! ## Lines -/

def heading? (room : Nat) (now : Reading) (session : String) (r : Record) :
    Option (List String) := do
  let ip ← (r.getOr "peer_ip" (.text "-")).shown? room
  let port ← (r.getOr "peer_port" (.text "-")).shown? room
  some ["=== Session " ++ session ++ " ===", "Start: " ++ now.moment.full,
    "IP: " ++ ip ++ ":" ++ port, "---"]

/-- The lines of an output, without the line feeds at its end. -/
def outputLines (output : String) : List String :=
  (Text.fields '\n' (Text.trimEnd (· == '\n') output)).map fun line => "           OUT: " ++ line

/-- The lines of an event after the time of day. There are none if a value cannot be written or an
output is no text. -/
def eventLines? (room : Nat) (r : Record) : Option (List String) :=
  match r.kind with
  | .authentication => do
    let user ← (r.getOr "username" (.text "")).shown? room
    let secret ←
      if r.byPassword then (r.get "password").shown? room
      else (r.method.shown? room).map fun method => "(" ++ method ++ ")"
    some ["AUTH: " ++ user ++ " / " ++ secret ++
      if r.accepted then " [ACCEPTED]" else " [REJECTED]"]
  | .command => do
    let input ← (r.getOr "input" (.text "")).shown? room
    match (r.get "output").orElse (.text "") with
    | .text output =>
      some (("CMD: " ++ input) :: if output.isEmpty then [] else outputLines output)
    | _ => none
  | .download => do
    let url ← (r.getOr "url" (.text "")).shown? room
    let tool ← (r.getOr "tool" (.text "-")).shown? room
    some ["DOWNLOAD: " ++ url ++ " (" ++ tool ++ ")"]
  | .disconnect => do
    let reason ← (r.getOr "reason" (.text "-")).shown? room
    let duration ← (r.getOr "duration" (.int 0)).shown? room
    let commands ← (r.getOr "command_count" (.int 0)).shown? room
    some ["DISCONNECT (reason: " ++ reason ++ ", duration: " ++ duration ++ "s, commands: " ++
      commands ++ ")"]
  | .connection =>
    let intel := r.get "intel"
    if intel.isVoid then some [] else (intel.line? room).map fun line => ["CONNECTION: " ++ line]

/-- The lines of an event, the first of them with the time of day. -/
def stampedLines? (room : Nat) (now : Reading) (r : Record) : Option (List String) :=
  (eventLines? room r).map fun lines =>
    match lines with
    | [] => []
    | first :: rest => ("[" ++ now.moment.clock ++ "] " ++ first) :: rest

/-- Whether a value can be told apart from others as the name of a session. -/
def isName : Json → Bool
  | .list _ => false
  | .object _ => false
  | value => !value.isVoid

/-- The directory after an event was written, and the sessions whose transcripts were begun. -/
def write (p : Place) (room : Nat) (now : Reading) (begun : List Json) (d : Directory)
    (r : Record) : Directory × List Json :=
  let id := r.get "session_id"
  match if isName id then id.shown? room else none with
  | none => (d, begun)
  | some session =>
    let file? := fileOf? p session
    let head? :=
      if begun.any id.sameKey || file?.any d.has then some [] else heading? room now session r
    match head?, stampedLines? room now r with
    | none, _ => (d, begun)
    | some _, none => (d, id :: begun)
    | some head, some lines =>
      let begun :=
        if r.kind = .disconnect then begun.filter (fun other => !id.sameKey other)
        else id :: begun
      match file? with
      | none => (d, begun)
      | some file =>
        let lines := head ++ lines
        (if lines.isEmpty then d else d.append now file (Text.block lines), begun)

end Honeypot.Events.Transcript
