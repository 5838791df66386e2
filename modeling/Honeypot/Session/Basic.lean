import Honeypot.Clock
import Honeypot.Intel.Reply
import Honeypot.Session.Channel
import Honeypot.Shell.Login
import Honeypot.Terminal

/-!
# Sessions

What is kept about one peer from its arrival until after it has gone.
-/

namespace Honeypot

/-- How far a session has come. -/
inductive Status where
  | connecting
  | authenticating
  | interactive
  | closing
  | closed
  deriving Repr, DecidableEq

def Status.name : Status → String
  | .connecting => "connecting"
  | .authenticating => "authenticating"
  | .interactive => "interactive"
  | .closing => "closing"
  | .closed => "closed"

/-- What a user has after logging in: a shell on files, and a terminal. -/
structure Workspace where
  user : String
  files : FileSystem
  terminal : Terminal.Decoder
  /-- Whether the shell fails on every line. -/
  broken : Bool

/-- The workspace with nothing of the user left in it. -/
def Workspace.cleared (w : Workspace) : Workspace :=
  { w with files := w.files.discard, terminal := .fresh }

/-- Somebody who wants to hear of the end of a session. -/
structure Callback where
  label : String
  /-- Whether a call to them ends in a failure. -/
  fails : Bool
  deriving Repr, DecidableEq

structure Session (τ : Type) where
  /-- The place of the session among all sessions. -/
  number : Nat
  id : String
  peerIp : String
  peerPort : Int
  device : Persona
  /-- How long a session may do nothing; for ever if it is not positive. -/
  idleTimeout : τ
  /-- How long every command is held back. -/
  delay : τ
  /-- Whether peers on the device itself are served. -/
  servesLoopback : Bool
  start : τ
  chances : Random
  status : Status
  user? : Option String
  /-- The number of lines that were run. -/
  commands : Nat
  env : Shell.Env
  history : List String
  /-- When the session will have done nothing for too long. -/
  deadline? : Option τ
  /-- What is known about the peer. -/
  facts : Intel.Facts
  stop? : Option τ
  reason? : Option String
  channel : Channel
  /-- Whether the session uses its channel. -/
  attached : Bool
  workspace? : Option Workspace
  /-- Whether the session has a place in the registry. -/
  admitted : Bool
  /-- Whether the end of the session has begun. -/
  closing : Bool
  /-- Whether the session takes nothing more. -/
  closed : Bool
  /-- Whether somebody watches for the deadline. -/
  watched : Bool
  /-- The work that was handed on and was not done when more was handed on. -/
  pending : List Nat
  callbacks : List Callback
  /-- The reason for which the next wait is to be cut short by the end of the session. -/
  interruption? : Option String

namespace Session

variable {τ : Type}

def fresh (number : Nat) (id peerIp : String) (peerPort : Int) (device : Persona)
    (idleTimeout delay : τ) (servesLoopback : Bool) (start : τ) (chances : Random) : Session τ where
  number
  id
  peerIp
  peerPort
  device
  idleTimeout
  delay
  servesLoopback
  start
  chances
  status := .connecting
  user? := none
  commands := 0
  env := []
  history := []
  deadline? := none
  facts := []
  stop? := none
  reason? := none
  channel := .fresh
  attached := false
  workspace? := none
  admitted := false
  closing := false
  closed := false
  watched := false
  pending := []
  callbacks := []
  interruption? := none

/-- The working directory as the variables have it. -/
def workingDirectory (s : Session τ) : String := (s.env.lookup "PWD").getD "/"

/-- How long the session has lasted, or did last. -/
def duration [Clock τ] (s : Session τ) (now : τ) : τ := s.stop?.getD now - s.start

/-- The values that every event of the session begins with. -/
def heading (s : Session τ) : List (String × Json) :=
  [("session_id", .text s.id), ("peer_ip", .text s.peerIp), ("peer_port", .int s.peerPort)] ++
    if s.facts.isEmpty then [] else [("intel", .object s.facts)]

/-- The name of the thread that watches for the deadline. -/
def watcherName (s : Session τ) : String := "sshmon-idle-" ++ Text.take s.id 8

end Session

/-- The longest part of a password that is shown in full. -/
def shownPasswordLength : Nat := 20

/-- A password as it is shown to those who run the program. -/
def maskedPassword : Option String → String
  | none => ""
  | some password =>
    if shownPasswordLength < password.length then
      Text.take password shownPasswordLength ++ "..."
    else password

end Honeypot
