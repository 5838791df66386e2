import Honeypot.Shell.Context

/-!
# Who the user is

The commands that tell about the user, and what `sudo` prints by itself.
-/

namespace Honeypot.Shell

def whoami (c : Context) : String := c.user ++ "\n"

/-- Prints the numbers or names of the user and the user's groups. -/
def identity (c : Context) (inv : Invocation) : String :=
  if inv.hasLetter 'u' || inv.hasLetter 'g' then
    (if inv.hasLetter 'n' then c.user else if c.isRoot then "0" else "1000") ++ "\n"
  else if c.isRoot then "uid=0(root) gid=0(root) groups=0(root)\n"
  else
    "uid=1000(" ++ c.user ++ ") gid=1000(" ++ c.user ++ ") groups=1000(" ++ c.user ++
      "),4(adm),27(sudo)\n"

/-- What `sudo` prints if nothing is asked of it. -/
def sudoUsage : String := Text.block [
  "usage: sudo -h | -K | -k | -V",
  "usage: sudo -v [-AknS] [-g group] [-h host] [-p prompt] [-u user]",
  "usage: sudo -l [-AknS] [-g group] [-h host] [-p prompt] [-U user] [-u user] [command]",
  "usage: sudo [-AbEHknPS] [-r role] [-t type] [-C num] [-g group] [-h host] [-p prompt] " ++
    "[-T timeout] [-u user] [VAR=value] [-i|-s] [<command>]"]

/-- What the user may do as the superuser. -/
def sudoRights (c : Context) : String := Text.block [
  "Matching Defaults entries for " ++ c.user ++ " on " ++ c.device.hostname ++ ":",
  "    env_reset, mail_badpass,",
  "    secure_path=/usr/local/sbin\\:/usr/local/bin\\:/usr/sbin\\:/usr/bin\\:/sbin\\:/bin",
  "",
  "User " ++ c.user ++ " may run the following commands on " ++ c.device.hostname ++ ":",
  "    (ALL : ALL) ALL"]

/-- The words after the options of `sudo`; the options for a user and a group take a word. -/
def afterSudoOptions : List String → List String
  | [] => []
  | token :: rest =>
    if isFlag token then
      if token = "-u" ∨ token = "-g" then
        match rest with
        | [] => []
        | _ :: more => afterSudoOptions more
      else afterSudoOptions rest
    else token :: rest

end Honeypot.Shell
