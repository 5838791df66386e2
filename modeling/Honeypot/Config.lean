import Honeypot.Intel.Client
import Honeypot.Number.Reading
import Honeypot.Registry
import Honeypot.Text.Basic
import Honeypot.Text.Case

/-!
# The configuration

All settings come from environment variables. A variable that is not set, or whose text is not
of the kind that the setting needs, leaves the setting at its default.
-/

namespace Honeypot

/-- The variables of an environment with their values. -/
abbrev Environment := List (String × String)

namespace Environment

def text (e : Environment) (name default : String) : String := (e.lookup name).getD default

def int (e : Environment) (name : String) (default : Int) : Int :=
  ((e.lookup name).bind Number.readInt?).getD default

def float (e : Environment) (name : String) (default : Float) : Float :=
  ((e.lookup name).bind Number.readFloat?).getD default

/-- A truth value in one of its usual spellings. -/
def truth (e : Environment) (name : String) (default : Bool) : Bool :=
  let word := Text.lower (e.text name "")
  if ["true", "1", "yes", "on"].contains word then true
  else if ["false", "0", "no", "off"].contains word then false
  else default

end Environment

/-! ## Places in the file system of the host -/

/-- The slashes that a place begins with: none, one, or exactly two. -/
def hostRoot (path : List Char) : String :=
  match path.takeWhile (· == '/') with
  | [] => ""
  | [_, _] => "//"
  | _ => "/"

/-- A place on the host without empty names and names of one dot. -/
def hostPath (path : String) : String :=
  let names := (Text.fields '/' path).filter fun name => name != "" && name != "."
  let written := hostRoot path.toList ++ Text.join "/" names
  if written.isEmpty then "." else written

/-! ## Settings -/

/-- Where the program listens and how it greets. -/
structure ListenerConfig where
  host : String
  port : Int
  hostKey : String
  banner : String

/-- The limits and the pace of sessions. -/
structure SessionConfig where
  maxSessions : Int
  maxSessionsPerPeer : Int
  /-- In seconds. -/
  idleTimeout : Float
  /-- In milliseconds. -/
  commandDelayMs : Int
  servesLoopback : Bool
  /-- In seconds. -/
  shutdownGrace : Float

/-- What the program tells about its own running. -/
structure LogConfig where
  level : String
  format : String
  file? : Option String
  directory : String

/-- How peers are looked up. -/
structure LookupConfig where
  enabled : Bool
  /-- In seconds. -/
  timeout : Float
  /-- How long answers are kept, in seconds. -/
  keepFor : Int
  key : String

structure Config where
  listener : ListenerConfig
  sessions : SessionConfig
  /-- The name of the persona. -/
  profile : String
  log : LogConfig
  lookups : LookupConfig
  /-- The port for measurements, which are not served if it is zero or has no number. -/
  metricsPort? : Option Int
  projectRoot : String
  dataDirectory : String

namespace Config

/-- The settings from an environment; everything is below the root of the project unless a
variable says otherwise. -/
def load (root : String) (e : Environment) : Config where
  listener := {
    host := e.text "SSHMON_SSH_HOST" "0.0.0.0"
    port := e.int "SSHMON_SSH_PORT" 2222
    hostKey := hostPath (e.text "SSHMON_HOST_KEY" (root ++ "/data/host.key"))
    banner := e.text "SSHMON_SSH_BANNER" "SSH-2.0-OpenSSH_8.2p1 Ubuntu-4ubuntu0.3" }
  sessions := {
    maxSessions := e.int "SSHMON_MAX_SESSIONS" 50
    maxSessionsPerPeer := e.int "SSHMON_MAX_SESSIONS_PER_IP" 0
    idleTimeout := e.float "SSHMON_IDLE_TIMEOUT" 300
    commandDelayMs := e.int "SSHMON_COMMAND_DELAY_MS" 50
    servesLoopback := e.truth "SSHMON_LOG_LOCALHOST" false
    shutdownGrace := e.float "SSHMON_SHUTDOWN_GRACE" 5 }
  profile := e.text "SSHMON_PROFILE" "raspberry-pi"
  log := {
    level := e.text "SSHMON_LOG_LEVEL" "INFO"
    format := e.text "SSHMON_LOG_FORMAT" "%(asctime)s - %(name)s - %(levelname)s - %(message)s"
    file? :=
      let file := e.text "SSHMON_LOG_FILE" ""
      if file.isEmpty then none else some (hostPath file)
    directory := hostPath (e.text "SSHMON_LOGS_DIR" (root ++ "/data/logs")) }
  lookups := {
    enabled := e.truth "SSHMON_THREAT_INTEL" false
    timeout := e.float "SSHMON_THREAT_INTEL_TIMEOUT" 5
    keepFor := e.int "SSHMON_THREAT_INTEL_CACHE_TTL" 604800
    key := e.text "SSHMON_ABUSEIPDB_KEY" "" }
  metricsPort? := some (e.int "SSHMON_METRICS_PORT" 0)
  projectRoot := root
  dataDirectory := root ++ "/data"

def registry (c : Config) : Registry :=
  .empty c.sessions.maxSessions c.sessions.maxSessionsPerPeer

/-- The client for lookups that the settings ask for. -/
def lookupSettings (c : Config) : Intel.Settings Float where
  enabled := c.lookups.enabled
  timeout := c.lookups.timeout
  keepFor := Float.ofInt c.lookups.keepFor
  placeLimit := 45
  key := c.lookups.key
  reportLimit := 1000
  capacity := 10000

end Config

/-- How long every command is held back, in seconds; none if no number is that large. -/
def SessionConfig.commandDelay? (s : SessionConfig) : Option Float :=
  let ms := Float.ofInt (max 0 s.commandDelayMs)
  if ms.isInf then none else some (ms / 1000)

end Honeypot
