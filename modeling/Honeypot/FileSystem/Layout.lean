import Honeypot.FileSystem.ConfigText
import Honeypot.FileSystem.Hardware
import Honeypot.FileSystem.Tree

/-!
# The tree of a device

Which directories and files a device has. Only what exists on its kind of device is there: the
programs that list the cards of a bus are missing without one.
-/

namespace Honeypot.Layout

def directory (path : Path) (mode : Nat) (owner : String) : Entry :=
  ⟨path, none, mode, owner, owner⟩

/-- A file of the superuser. -/
def file (path : Path) (content : Content) (mode : Nat) : Entry :=
  ⟨path, some content, mode, "root", "root"⟩

/-- A file of a given owner that others may read. -/
def owned (path : Path) (content : Content) (owner : String) : Entry :=
  ⟨path, some content, 0o644, owner, owner⟩

/-- A file of the superuser that a group may read. -/
def shared (path : Path) (content : Content) (group : String) : Entry :=
  ⟨path, some content, 0o640, "root", group⟩

/-- The directories at the root. -/
def top : List Entry :=
  ["bin", "boot", "dev", "etc", "home", "lib", "media", "mnt", "opt", "proc", "root", "run", "sbin",
    "srv", "sys", "tmp", "usr", "var"].map fun name =>
      let mode :=
        if name == "root" then 0o700
        else if name == "tmp" then 0o1777
        else if name == "proc" || name == "sys" then 0o555
        else 0o755
      directory [name] mode "root"

def settings (p : Persona) : List Entry := [
  file ["etc", "passwd"] (.madeUp .passwd) 0o644,
  shared ["etc", "shadow"] (.madeUp .shadow) "shadow",
  file ["etc", "group"] (.madeUp .group) 0o644,
  file ["etc", "hosts"] (.madeUp .hosts) 0o644,
  file ["etc", "hostname"] (.fixed (p.hostname ++ "\n")) 0o644,
  file ["etc", "os-release"] (.fixed p.osRelease) 0o644,
  file ["etc", "issue"] (.fixed (p.osName ++ " \\n \\l\n\n")) 0o644,
  file ["etc", "resolv.conf"] (.madeUp .resolver) 0o644,
  file ["etc", "fstab"] (.madeUp .mounts) 0o644,
  file ["etc", "crontab"] (.fixed ConfigText.crontab) 0o644,
  file ["etc", "ssh", "sshd_config"] (.fixed ConfigText.sshDaemon) 0o644,
  directory ["etc", "network"] 0o755 "root",
  directory ["etc", "cron.d"] 0o755 "root"]

/-- The directory of the user of a device. The name of the user may itself lead further down. -/
def userHome (p : Persona) : Path := "home" :: Text.fields '/' p.homeUser

def homes (p : Persona) : List Entry :=
  let user := p.homeUser
  let home := userHome p
  [file ["root", ".bashrc"] (.madeUp .shellStartup) 0o644,
    file ["root", ".profile"] (.fixed ConfigText.profile) 0o644,
    file ["root", ".bash_history"] (.fixed ConfigText.history) 0o600,
    directory ["root", ".ssh"] 0o700 "root",
    file ["root", ".ssh", "authorized_keys"] (.fixed "# Authorized SSH keys\n") 0o600,
    directory home 0o755 user,
    owned (home ++ [".bashrc"]) (.madeUp .shellStartup) user,
    owned (home ++ [".profile"]) (.fixed ConfigText.profile) user,
    directory (home ++ ["Documents"]) 0o755 user,
    directory (home ++ ["Downloads"]) 0o755 user]

/-- What grows while the system runs. -/
def growing : List Entry := [
  directory ["var", "log"] 0o755 "root",
  shared ["var", "log", "syslog"] (.madeUp .systemLog) "adm",
  shared ["var", "log", "auth.log"] (.madeUp .logins) "adm",
  directory ["var", "www"] 0o755 "www-data",
  directory ["var", "tmp"] 0o1777 "root",
  directory ["var", "lib"] 0o755 "root"]

/-- What the kernel shows of itself and of the device. -/
def kernel (p : Persona) : List Entry :=
  [file ["proc", "cpuinfo"] (.madeUp .processors) 0o444,
    file ["proc", "meminfo"] (.madeUp .memory) 0o444,
    file ["proc", "version"] (.madeUp .kernelVersion) 0o444,
    file ["proc", "uptime"] (.madeUp .uptime) 0o444,
    file ["proc", "loadavg"] (.madeUp .load) 0o444] ++
  (if p.isArm then [file ["proc", "device-tree", "model"] (.fixed p.model) 0o444] else []) ++
  [file ["sys", "class", "net", "eth0", "address"] (.fixed (p.macAddress ++ "\n")) 0o444,
    file ["sys", "class", "net", "lo", "address"] (.fixed "00:00:00:00:00:00\n") 0o444] ++
  (if p.hasPciBus then
    [file ["sys", "class", "dmi", "id", "sys_vendor"] (.fixed (p.vendor ++ "\n")) 0o444,
      file ["sys", "class", "dmi", "id", "product_name"] (.fixed (p.model ++ "\n")) 0o444,
      file ["sys", "class", "dmi", "id", "bios_vendor"]
        (.fixed (p.biosVendor?.getD "None" ++ "\n")) 0o444]
  else [])

def devices : List Entry :=
  ["null", "zero", "random", "urandom", "tty", "ptmx"].map fun name =>
    file ["dev", name] (.fixed "") 0o666

/-- Programs in a directory. -/
def programs (directory : Path) (names : List String) : List Entry :=
  names.map fun name => file (directory ++ [name]) (.fixed Node.programStub) 0o755

/-- Programs that every system needs. -/
def binNames : List String := [
  "bash", "cat", "chmod", "date", "df", "dmesg", "echo", "grep", "hostname", "ls", "mkdir", "ping",
  "ps", "pwd", "rm", "sh", "sleep", "touch", "uname"]

/-- Programs for the superuser that every system needs. -/
def sbinNames : List String := ["ifconfig", "ip", "ss"]

/-- Other programs. -/
def userBinNames (p : Persona) : List String :=
  Text.sort (["clear", "curl", "env", "find", "free", "id", "lscpu", "nproc", "printenv", "sudo",
    "systemd-detect-virt", "top", "uptime", "w", "wget", "whoami", "which"] ++
    if p.hasPciBus then ["lspci"] else [])

/-- Other programs for the superuser. -/
def userSbinNames (p : Persona) : List String :=
  Text.sort (["netstat", "sshd"] ++ if p.hasPciBus then ["dmidecode"] else [])

/-- All directories and files of a device in the order in which they are added. -/
def entries (p : Persona) : List Entry :=
  top ++ settings p ++ homes p ++ growing ++ kernel p ++ devices ++
    programs ["bin"] binNames ++ programs ["sbin"] sbinNames ++
    programs ["usr", "bin"] (userBinNames p) ++ programs ["usr", "sbin"] (userSbinNames p) ++
    [directory ["usr", "lib"] 0o755 "root", directory ["usr", "local", "bin"] 0o755 "root",
      directory ["usr", "share"] 0o755 "root"]

/-- The moment of the last change of all files: thirty days before the device was started. -/
def changed : Float := Hardware.bootMoment - 2592000.0

def tree (p : Persona) : Tree := Tree.ofEntries changed (entries p)

/-- The home directory of a user, as a text: that of the superuser unless a place below `/home`
has the user's name. -/
def homeOf (p : Persona) (user : String) : String :=
  if user = "root" then "/root"
  else if (tree p).any (fun (path, _) => path == "home" :: Text.fields '/' user) then
    "/home/" ++ user
  else "/root"

end Honeypot.Layout
