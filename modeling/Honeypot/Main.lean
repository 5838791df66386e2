import Honeypot.CommandLine.Launch

/-!
# The program

Reads the arguments and the environment, prints what the command line comes to, and ends with its
status. There is no network to serve peers on, so a launch always ends with that complaint.
-/

namespace Honeypot

def variableNames : List String := [
  "SSHMON_SSH_HOST", "SSHMON_SSH_PORT", "SSHMON_HOST_KEY", "SSHMON_SSH_BANNER",
  "SSHMON_MAX_SESSIONS", "SSHMON_MAX_SESSIONS_PER_IP", "SSHMON_IDLE_TIMEOUT",
  "SSHMON_COMMAND_DELAY_MS", "SSHMON_LOG_LOCALHOST", "SSHMON_SHUTDOWN_GRACE", "SSHMON_PROFILE",
  "SSHMON_LOG_LEVEL", "SSHMON_LOG_FORMAT", "SSHMON_LOG_FILE", "SSHMON_LOGS_DIR",
  "SSHMON_THREAT_INTEL", "SSHMON_THREAT_INTEL_TIMEOUT", "SSHMON_THREAT_INTEL_CACHE_TTL",
  "SSHMON_ABUSEIPDB_KEY", "SSHMON_METRICS_PORT"]

/-- The environment of the program, as far as settings come from it. -/
def environment : IO Environment := do
  let found ← variableNames.mapM fun name => do
    pure ((← IO.getEnv name).map fun value => (name, value))
  pure (found.filterMap id)

end Honeypot

open Honeypot CommandLine in
def main (arguments : List String) : IO UInt32 := do
  let root := (← IO.currentDir).toString
  match start root (← environment) arguments with
  | .finished output => do
    IO.print output
    pure 0
  | .stopped status output complaint => do
    IO.print output
    IO.eprint complaint
    pure (UInt32.ofNat status)
  | .silenced _ => do
    IO.eprintln "Invalid log settings"
    pure 1
  | .launched launch =>
    match launch.run? 0 (some "no network") with
    | some (output, status) => do
      IO.print output
      pure (UInt32.ofNat status)
    | none => do
      IO.eprintln "Invalid host"
      pure 1
