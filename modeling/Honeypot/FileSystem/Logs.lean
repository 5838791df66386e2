import Honeypot.Calendar
import Honeypot.Draws
import Honeypot.Persona.Basic

/-!
# Log files

The texts of the two log files. They are made up on every reading: each line is drawn with a
moment in the time before the clock, and the lines are put in the order of their texts.
-/

namespace Honeypot.Logs

open Calendar Draws

/-- A line of a log: the moment that was drawn for it, and its text. -/
structure Line where
  moment : Instant
  text : String
  deriving Repr, DecidableEq

/-- The texts of the lines in order, each with a line end. -/
def file (lines : List Line) : String := Text.block (Text.sort (lines.map (·.text)))

/-- A moment that was drawn from the minutes after a base. -/
def moment (base : Instant) (minutes : Int) : Draws Instant := do
  pure (base.laterMinutes (← between 0 minutes))

/-- A password that was accepted or refused, in the two days before the clock. -/
def loginLine (p : Persona) (base : Instant) : Draws Line := do
  let t ← moment base 2880
  let lead := t.moment.logStamp ++ " " ++ p.hostname ++ " sshd[" ++
    Text.ofInt (← between 1000 9999) ++ "]: "
  if (← unit) < 0.6 then
    let user ← pick "root" [p.homeUser]
    let address ← pick "192.168.1.10" ["192.168.1.23"]
    let port ← between 40000 60000
    pure ⟨t, lead ++ "Accepted password for " ++ user ++ " from " ++ address ++ " port " ++
      Text.ofInt port ++ " ssh2"⟩
  else
    let user ← pick "admin" ["test", "guest", "oracle", "postgres"]
    let a ← between 1 254
    let b ← between 1 254
    let c ← between 1 254
    let d ← between 1 254
    let port ← between 40000 60000
    pure ⟨t, lead ++ "Failed password for invalid user " ++ user ++ " from " ++
      Text.join "." ([a, b, c, d].map Text.ofInt) ++ " port " ++ Text.ofInt port ++ " ssh2"⟩

/-- A message of the system, before its numbers are filled in. -/
structure Message where
  /-- The program that speaks; the number that is drawn for it shows only if it has a place. -/
  speaker : Int → String
  /-- The words, for a number that is drawn for them. -/
  words : Int → String
  /-- Whether the words have a place for a number. -/
  numbered : Bool

def sessionStarted : Message :=
  ⟨fun _ => "systemd[1]", fun n => "Started Session " ++ Text.ofInt n ++ " of user root.", true⟩

def otherMessages : List Message := [
  ⟨fun _ => "systemd[1]", fun _ => "Starting Daily apt download activities...", false⟩,
  ⟨fun _ => "systemd[1]", fun _ => "Finished Daily apt download activities.", false⟩,
  ⟨fun n => "CRON[" ++ Text.ofInt n ++ "]",
    fun _ => "(root) CMD (   cd / && run-parts --report /etc/cron.hourly)", false⟩,
  ⟨fun _ => "systemd-timesyncd[412]",
    fun _ => "Initial synchronization to time server 185.125.190.57:123 (ntp.ubuntu.com).", false⟩,
  ⟨fun _ => "rsyslogd",
    fun _ => "[origin software=\"rsyslogd\"] rsyslogd was HUPed", false⟩]

/-- A message of the system in the half day before the clock. -/
def systemLine (p : Persona) (base : Instant) : Draws Line := do
  let t ← moment base 720
  let message ← pick sessionStarted otherMessages
  let speaker := message.speaker (← between 1000 9999)
  let number ← if message.numbered then between 1 90 else pure 0
  pure ⟨t, t.moment.logStamp ++ " " ++ p.hostname ++ " " ++ speaker ++ ": " ++
    message.words number⟩

/-- A number of lines, drawn one after the other. -/
def repeated (draw : Draws Line) : Nat → Draws (List Line)
  | 0 => pure []
  | n + 1 => do
    let line ← draw
    let rest ← repeated draw n
    pure (line :: rest)

/-- The instant so many minutes before the clock. -/
def base (now : Float) (minutes : Int) : Except Fault Instant :=
  Fault.ofDate do (← ofLocalClock now).reachMinutes (-minutes)

def logins (p : Persona) (now : Float) : Draws String := do
  pure (file (← repeated (loginLine p (← base now 2880)) 24))

def system (p : Persona) (now : Float) : Draws String := do
  pure (file (← repeated (systemLine p (← base now 720)) 20))

end Honeypot.Logs
