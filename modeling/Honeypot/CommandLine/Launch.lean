import Honeypot.CommandLine.Console
import Honeypot.CommandLine.Diagnostics
import Honeypot.CommandLine.Request
import Honeypot.Config

/-!
# Starting the program

What the program prints and which status it ends with, from its arguments and its environment.
Flags go before variables; a flag that is empty or zero leaves the variable in force, except that
the port for measurements may be set to zero.
-/

namespace Honeypot.CommandLine

/-! ## Settings -/

/-- The configuration with the settings from flags. -/
def Settings.override (s : Settings) (c : Config) : Config :=
  { c with
    listener := { c.listener with
      host := (s.host?.filter (· != "")).getD c.listener.host
      port := (s.port?.filter (· != 0)).getD c.listener.port }
    profile := (s.profile?.filter (· != "")).getD c.profile
    log := { c.log with level := (s.logLevel?.filter (· != "")).getD c.log.level }
    metricsPort? := s.metricsPort?.getD c.metricsPort? }

/-! ## Serving -/

/-- A program that is ready to serve. -/
structure Launch where
  config : Config
  persona : Persona

namespace Launch

/-- The level of what the program tells about its running. -/
def level (l : Launch) : Nat := levelOf l.config.log.level

/-- The level of what the transport tells, which is never below a warning. -/
def transportLevel (l : Launch) : Nat := max l.level 30

/-- The port for measurements, if they are served. -/
def metricsPort? (l : Launch) : Option Int := l.config.metricsPort?.filter (· != 0)

/-- The address that a client on the same machine can use. -/
def clientHost (l : Launch) : String :=
  if l.config.listener.host = "0.0.0.0" then "127.0.0.1" else l.config.listener.host

/-- What is printed before peers are served. -/
def opening (l : Launch) : List String :=
  let port := Text.ofInt l.config.listener.port
  [coloured .cyan startBanner,
    coloured .green ("[+] Emulating " ++ l.persona.hostname ++ " (" ++ l.persona.name ++ ") on " ++
      l.config.listener.host ++ ":" ++ port),
    "Connect with: ssh root@" ++ l.clientHost ++ " -p " ++ port,
    "Press Ctrl+C to stop\n"]

/-- What is printed when the program is told to end. -/
def farewell : String := "\n" ++ coloured .yellow "[!] Shutting down sshmon..."

/-- What is printed when peers cannot be served. -/
def failure (reason : String) : String := coloured .red ("[-] Could not start server: " ++ reason)

/-- All that is printed, and the status at the end, if the program is told to end some times and
perhaps cannot serve peers. Nothing comes of it if what is printed asks for a title. -/
def run? (l : Launch) (endings : Nat) (failure? : Option String) : Option (String × Nat) :=
  let printed := l.opening ++ List.replicate endings farewell ++ (failure?.map failure).toList
  (plainBlock? printed).map fun shown => (shown, if failure?.isSome then 1 else 0)

end Launch

/-- The signals that tell the program to end. -/
def endingSignals : List Nat := [2, 15]

/-! ## Personas -/

/-- The line of a persona in the list. -/
def profileLine (p : Persona) : String :=
  Text.padRight 16 p.name ++ " " ++ Text.padRight 14 p.hostname ++ " " ++
    Text.padRight 8 p.architecture ++ " " ++ p.osName ++
    (if p.name = Persona.standard.name then " *" else "")

def profileList : String :=
  Text.block ([
      "",
      Text.padRight 16 "PROFILE" ++ " " ++ Text.padRight 14 "HOSTNAME" ++ " " ++
        Text.padRight 8 "ARCH" ++ " OS",
      Text.copies 72 '-'] ++
    Persona.catalogue.map profileLine ++ ["", "* default"])

/-! ## The program -/

/-- What the program comes to. -/
inductive Ending where
  /-- It has printed something and is done. -/
  | finished (output : String)
  /-- It has stopped with a status after printing and complaining. -/
  | stopped (status : Nat) (output complaint : String)
  /-- It cannot tell anything about its running. -/
  | silenced (fault : DiagnosticFault)
  | launched (launch : Launch)

/-- What is printed for a stop. A complaint that asks for a title is not printed. -/
def Stop.ending : Stop → Ending
  | .help g => .stopped 0 g.help ""
  | .version => .stopped 0 versionText ""
  | .complaint g c =>
    .stopped 2 "" (g.usage ++ (plainText? (g.name ++ ": error: " ++ c.message ++ "\n")).getD "")

/-- The program on its arguments, with everything below a root. -/
def start (root : String) (e : Environment) (arguments : List String) : Ending :=
  match readArguments arguments with
  | .error stop => stop.ending
  | .ok .profiles => .finished profileList
  | .ok (.serve settings) =>
    let config := settings.override (Config.load root e)
    match diagnosticFault? config.log.file? config.log.format config.log.level with
    | some fault => .silenced fault
    | none => .launched ⟨config, Persona.ofName config.profile⟩

end Honeypot.CommandLine
