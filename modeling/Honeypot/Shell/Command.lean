/-!
# The commands of the shell

The table of commands. Some names stand for the same command.
-/

namespace Honeypot.Shell

/-- A command that the shell knows. -/
inductive Command where
  | whoami
  | id
  | sudo
  | uname
  | hostname
  | uptime
  | date
  | nproc
  | w
  | lscpu
  | detectVirt
  | dmidecode
  | lspci
  | dmesg
  | pwd
  | cd
  | ls
  | cat
  | echo
  | touch
  | mkdir
  | rm
  | chmod
  | find
  | grep
  | which
  | ifconfig
  | ip
  | netstat
  | ss
  | ping
  | ps
  | top
  | free
  | df
  | wget
  | curl
  | history
  | clear
  | env
  | export
  | sleep
  | shell
  | exit
  deriving Repr, DecidableEq

def Command.table : List (String × Command) := [
  ("whoami", .whoami), ("id", .id), ("sudo", .sudo), ("uname", .uname), ("hostname", .hostname),
  ("uptime", .uptime), ("date", .date), ("nproc", .nproc), ("w", .w), ("lscpu", .lscpu),
  ("systemd-detect-virt", .detectVirt), ("dmidecode", .dmidecode), ("lspci", .lspci),
  ("dmesg", .dmesg), ("pwd", .pwd), ("cd", .cd), ("ls", .ls), ("cat", .cat), ("echo", .echo),
  ("touch", .touch), ("mkdir", .mkdir), ("rm", .rm), ("chmod", .chmod), ("find", .find),
  ("grep", .grep), ("which", .which), ("ifconfig", .ifconfig), ("ip", .ip),
  ("netstat", .netstat), ("ss", .ss), ("ping", .ping), ("ps", .ps), ("top", .top),
  ("free", .free), ("df", .df), ("wget", .wget), ("curl", .curl), ("history", .history),
  ("clear", .clear), ("env", .env), ("printenv", .env), ("export", .export), ("sleep", .sleep),
  ("sh", .shell), ("bash", .shell), ("exit", .exit), ("logout", .exit)]

def Command.ofName? (name : String) : Option Command := Command.table.lookup name

end Honeypot.Shell
