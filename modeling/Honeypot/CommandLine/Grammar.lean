import Honeypot.CommandLine.Pages
import Honeypot.Json.Display
import Honeypot.Persona.Catalogue

/-!
# The grammar of the command line

Which flags and commands there are, what may be wrong with arguments, and how that is said.
-/

namespace Honeypot.CommandLine

inductive Flag where
  | help
  | host
  | port
  | profile
  | logLevel
  | metricsPort
  | version
  deriving Repr, DecidableEq

namespace Flag

def names : Flag → List String
  | .help => ["-h", "--help"]
  | .host => ["--host"]
  | .port => ["--port", "-p"]
  | .profile => ["--profile"]
  | .logLevel => ["--log-level", "-l"]
  | .metricsPort => ["--metrics-port"]
  | .version => ["--version", "-v"]

/-- Whether a value belongs to the flag. -/
def takesValue : Flag → Bool
  | .help => false
  | .version => false
  | _ => true

/-- What the flag is called in complaints. -/
def title (f : Flag) : String := Text.join "/" f.names

end Flag

/-- The flags and commands that are understood in one place, and how to say so. -/
structure Grammar where
  name : String
  flags : List Flag
  commands : List String
  usage : String
  /-- What the help says below the usage. -/
  about : String

/-- The grammar of the program. -/
def program : Grammar where
  name := "sshmon"
  flags := [.help, .host, .port, .profile, .logLevel, .metricsPort, .version]
  commands := ["profiles"]
  usage := programUsage
  about := programHelp

/-- The grammar of what follows the command for personas. -/
def profilesCommand : Grammar where
  name := "sshmon profiles"
  flags := [.help]
  commands := []
  usage := profilesUsage
  about := profilesHelp

def Grammar.names (g : Grammar) : List (String × Flag) :=
  g.flags.flatMap fun f => f.names.map fun name => (name, f)

def Grammar.flag? (g : Grammar) (name : String) : Option Flag := g.names.lookup name

def Grammar.help (g : Grammar) : String := g.usage ++ g.about

/-! ## Choices -/

def profileNames : List String := Text.sort (Persona.catalogue.map (·.name))

def levelNames : List String := ["DEBUG", "INFO", "WARNING", "ERROR", "CRITICAL"]

/-! ## Complaints -/

/-- What is wrong with the arguments. -/
inductive Complaint where
  /-- The beginning of a name fits several flags. -/
  | ambiguous (argument : String) (names : List String)
  | missingValue (flag : Flag)
  | unwantedValue (flag : Flag) (value : String)
  | notNumber (flag : Flag) (value : String)
  | notChoice (title value : String) (choices : List String)
  | unrecognized (arguments : List String)
  deriving Repr, DecidableEq

def Complaint.message : Complaint → String
  | .ambiguous argument names =>
    "ambiguous option: " ++ argument ++ " could match " ++ Text.join ", " names
  | .missingValue flag => "argument " ++ flag.title ++ ": expected one argument"
  | .unwantedValue flag value =>
    "argument " ++ flag.title ++ ": ignored explicit argument " ++ Json.shownText value
  | .notNumber flag value =>
    "argument " ++ flag.title ++ ": invalid int value: " ++ Json.shownText value
  | .notChoice title value choices =>
    "argument " ++ title ++ ": invalid choice: " ++ Json.shownText value ++ " (choose from " ++
      Text.join ", " (choices.map Json.shownText) ++ ")"
  | .unrecognized arguments => "unrecognized arguments: " ++ Text.join " " arguments

end Honeypot.CommandLine
