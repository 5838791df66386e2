import Honeypot.Shell.Interpreter

/-!
# A shell from login on

What a shell shows before a command and at login, the variables that it starts with, and how an
entered line is noted and run.
-/

namespace Honeypot.Shell

/-! ## The start -/

/-- The variables that a shell sets when it starts. -/
def startVariables (device : Persona) (files : FileSystem) (user : String) :
    List (String × String) := [
  ("HOME", files.home),
  ("USER", user),
  ("LOGNAME", user),
  ("SHELL", "/bin/bash"),
  ("PATH", defaultPath),
  ("PWD", files.cwd.text),
  ("LANG", "en_US.UTF-8"),
  ("TERM", "xterm-256color"),
  ("HOSTNAME", device.hostname)]

/-- An environment with the variables of a new shell. -/
def withStartVariables (device : Persona) (files : FileSystem) (user : String) (env : Env) : Env :=
  (startVariables device files user).foldl (fun env (name, value) => Assoc.put name value env) env

/-- The files of a user who logs in. -/
def homeFiles (device : Persona) (user : String) : FileSystem :=
  FileSystem.fresh (Layout.tree device) (Layout.homeOf device user) ""

/-! ## What it shows -/

/-- The working directory as the prompt shows it: with a tilde for the home directory. -/
def shownDirectory (fs : FileSystem) : String :=
  let cwd := fs.cwd.text
  if cwd = fs.home then "~"
  else if fs.home ≠ "/" ∧ Text.startsWith cwd (fs.home ++ "/") then
    "~" ++ Text.drop cwd fs.home.length
  else cwd

/-- The text in front of a command. -/
def prompt (device : Persona) (user : String) (fs : FileSystem) : String :=
  user ++ "@" ++ device.hostname ++ ":" ++ shownDirectory fs ++
    (if user = "root" then "#" else "$") ++ " "

/-- The text before the last occurrence of a part, or all of the text. -/
def beforeLast (part : List Char) : List Char → List Char
  | [] => []
  | c :: rest =>
    if part.isPrefixOf (c :: rest) && !Text.hasRun part rest then []
    else c :: beforeLast part rest

def ubuntuGreeting (p : Persona) (release lastLogin : String) : String := Text.block [
  "Welcome to " ++ p.osName ++ " (GNU/Linux " ++ release ++ " " ++ p.architecture ++ ")",
  "",
  " * Documentation:  https://help.ubuntu.com",
  " * Management:     https://landscape.canonical.com",
  " * Support:        https://ubuntu.com/advantage",
  "",
  lastLogin]

def routerGreeting (p : Persona) : String := Text.block [
  "",
  "",
  "BusyBox v1.30.1 () built-in shell (ash)",
  "",
  "  _______                     ________        __",
  " |       |.-----.-----.-----.|  |  |  |.----.|  |_",
  " |   -   ||  _  |  -__|     ||  |  |  ||   _||   _|",
  " |_______||   __|_____|__|__||________||__|  |____|",
  "          |__| W I R E L E S S   F R E E D O M",
  " -----------------------------------------------------",
  " " ++ p.osName ++ ", r11306-c4a6851c72",
  " -----------------------------------------------------"]

def debianGreeting (p : Persona) (lastLogin : String) : String := Text.block [
  String.ofList (beforeLast " GNU/Linux".toList p.kernel.toList),
  "",
  "The programs included with the Debian GNU/Linux system are free software;",
  "the exact distribution terms for each program are described in the",
  "individual files in /usr/share/doc/*/copyright.",
  "",
  "Debian GNU/Linux comes with ABSOLUTELY NO WARRANTY, to the extent",
  "permitted by applicable law.",
  lastLogin]

/-- The greeting at login. The latest login is drawn, even where it is not shown. -/
def banner (p : Persona) (now : Float) : Draws String := do
  let instant ← Fault.ofDate (Calendar.ofLocalClock now)
  let hours ← Draws.between 2 72
  let minutes ← Draws.between 0 59
  let last := (← Fault.ofDate (instant.reachMinutes (-(hours * 60 + minutes)))).moment
  let host ← Draws.between 2 40
  let lastLogin :=
    "Last login: " ++ last.weekStamp ++ " " ++ Text.ofInt last.year ++ " from 192.168.1." ++
      Text.ofInt host
  if Text.startsWith p.osRelease "NAME=\"Ubuntu\"" then
    match p.kernelRelease? with
    | some release => pure (ubuntuGreeting p release lastLogin)
    | none => throw .shortKernel
  else if Text.hasText p.osName "OpenWrt" then pure (routerGreeting p)
  else pure (debianGreeting p lastLogin)

/-! ## Entering a line -/

/-- An entered line without the blanks around it; a blank line is none. -/
def enteredLine? (line : String) : Option String :=
  let line := Text.strip line
  if line.isEmpty then none else some line

/-- The state with an entered line in its history. -/
def State.note (s : State) (line : String) : State := { s with history := s.history ++ [line] }

end Honeypot.Shell
