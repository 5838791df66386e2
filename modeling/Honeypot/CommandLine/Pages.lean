import Honeypot.Text.Basic

/-!
# Pages of the command line

The usage lines and the help of the program and of its command, set in 80 columns, and what the
program shows when it starts.
-/

namespace Honeypot.CommandLine

def programUsage : String := Text.block [
  "usage: sshmon [-h] [--host HOST] [--port PORT]",
  "              [--profile \x7bgeneric-iot,raspberry-pi,ubuntu-server\x7d]",
  "              [--log-level \x7bDEBUG,INFO,WARNING,ERROR,CRITICAL\x7d]",
  "              [--metrics-port METRICS_PORT] [--version]",
  "              \x7bprofiles\x7d ..."]

/-- The help of the program below its usage. -/
def programHelp : String := Text.block [
  "",
  "sshmon - SSH honeypot that emulates a small Linux device",
  "",
  "positional arguments:",
  "  \x7bprofiles\x7d            Available commands",
  "    profiles            List device personas",
  "",
  "options:",
  "  -h, --help            show this help message and exit",
  "  --host HOST           SSH bind address (default: 0.0.0.0, or",
  "                        SSHMON_SSH_HOST)",
  "  --port PORT, -p PORT  SSH port (default: 2222, or SSHMON_SSH_PORT)",
  "  --profile \x7bgeneric-iot,raspberry-pi,ubuntu-server\x7d",
  "                        Device persona (default: raspberry-pi, or",
  "                        SSHMON_PROFILE)",
  "  --log-level \x7bDEBUG,INFO,WARNING,ERROR,CRITICAL\x7d, -l \x7bDEBUG,INFO,WARNING,ERROR,CRITICAL\x7d",
  "                        Logging level (default: INFO, or SSHMON_LOG_LEVEL)",
  "  --metrics-port METRICS_PORT",
  "                        Prometheus metrics port, 0 disables (default:",
  "                        SSHMON_METRICS_PORT)",
  "  --version, -v         show program's version number and exit",
  "",
  "Examples:",
  "    sshmon                             Start honeypot on default port 2222",
  "    sshmon --profile ubuntu-server     Emulate an x86 Ubuntu server",
  "    sshmon --metrics-port 9090         Also expose Prometheus metrics",
  "    sshmon profiles                    List device personas",
  "",
  "Environment variables:",
  "    SSHMON_SSH_HOST          SSH bind address",
  "    SSHMON_SSH_PORT          SSH port",
  "    SSHMON_PROFILE           Device persona",
  "    SSHMON_IDLE_TIMEOUT      Idle session timeout in seconds",
  "    SSHMON_LOG_LEVEL         Logging level",
  "        "]

def profilesUsage : String := Text.block [
  "usage: sshmon profiles [-h]"]

/-- The help of the command for personas below its usage. -/
def profilesHelp : String := Text.block [
  "",
  "options:",
  "  -h, --help  show this help message and exit"]

/-- What the program is and in which version. -/
def versionText : String := "sshmon 1.0.0\n"

def startBanner : String := Text.join "\n" [
  "",
  "             _",
  "     ___ ___| |__  _ __ ___   ___  _ __",
  "    / __/ __| '_ \\| '_ \u0060 _ \\ / _ \\| '_ \\",
  "    \\__ \\__ \\ | | | | | | | | (_) | | | |",
  "    |___/___/_| |_|_| |_| |_|\\___/|_| |_|",
  "",
  "    SSH Honeypot v1.0.0",
  "    "]

end Honeypot.CommandLine
