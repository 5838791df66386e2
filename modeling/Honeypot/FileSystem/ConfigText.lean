import Honeypot.Persona.Basic

/-!
# Configuration files

The texts of the files below `/etc` and of the files in home directories.
-/

namespace Honeypot.ConfigText

/-- The table of users. -/
def passwd (p : Persona) : String := Text.block [
  "root:x:0:0:root:/root:/bin/bash",
  "daemon:x:1:1:daemon:/usr/sbin:/usr/sbin/nologin",
  "bin:x:2:2:bin:/bin:/usr/sbin/nologin",
  "sys:x:3:3:sys:/dev:/usr/sbin/nologin",
  "sync:x:4:65534:sync:/bin:/bin/sync",
  "games:x:5:60:games:/usr/games:/usr/sbin/nologin",
  "man:x:6:12:man:/var/cache/man:/usr/sbin/nologin",
  "lp:x:7:7:lp:/var/spool/lpd:/usr/sbin/nologin",
  "mail:x:8:8:mail:/var/mail:/usr/sbin/nologin",
  "news:x:9:9:news:/var/spool/news:/usr/sbin/nologin",
  "www-data:x:33:33:www-data:/var/www:/usr/sbin/nologin",
  "nobody:x:65534:65534:nobody:/nonexistent:/usr/sbin/nologin",
  "systemd-timesync:x:100:102:systemd Time Synchronization,,,:/run/systemd:/usr/sbin/nologin",
  "messagebus:x:103:106::/nonexistent:/usr/sbin/nologin",
  "sshd:x:109:65534::/run/sshd:/usr/sbin/nologin",
  p.homeUser ++ ":x:1000:1000:,,,:/home/" ++ p.homeUser ++ ":/bin/bash"]

/-- The table of passwords. -/
def shadow (p : Persona) : String := Text.block [
  "root:$6$Tm3kQ9xv$0vJ2yq4ZUyc6mNqB1tWfQe7r8Kp5Yx2hD3sLz9aGvR1uCnE6iO4jH7bM0wT5kX8dF2gP9lS3v" ++
    "A6nY1qZ4cU7e.:18921:0:99999:7:::",
  "daemon:*:18921:0:99999:7:::",
  "bin:*:18921:0:99999:7:::",
  "sys:*:18921:0:99999:7:::",
  "sync:*:18921:0:99999:7:::",
  "games:*:18921:0:99999:7:::",
  "man:*:18921:0:99999:7:::",
  "lp:*:18921:0:99999:7:::",
  "mail:*:18921:0:99999:7:::",
  "news:*:18921:0:99999:7:::",
  "www-data:*:18921:0:99999:7:::",
  "nobody:*:18921:0:99999:7:::",
  "sshd:*:18921:0:99999:7:::",
  p.homeUser ++
    ":$6$Wb8rLp2N$H4kR9sV1xQ7mZ3cT6yE0uJ5nB8gD2fA1wL4pK7oI9vS3hM6tY0rC5eX8qN2jU1bF4zG7aP3lW6dO9" ++
    "sK2mV5i/:18921:0:99999:7:::"]

def group (p : Persona) : String := Text.block [
  "root:x:0:",
  "daemon:x:1:",
  "bin:x:2:",
  "sys:x:3:",
  "adm:x:4:syslog," ++ p.homeUser,
  "tty:x:5:",
  "disk:x:6:",
  "lp:x:7:",
  "mail:x:8:",
  "news:x:9:",
  "sudo:x:27:" ++ p.homeUser,
  "www-data:x:33:",
  "shadow:x:42:",
  "users:x:100:",
  "nogroup:x:65534:",
  p.homeUser ++ ":x:1000:"]

def hosts (p : Persona) : String := Text.block [
  "127.0.0.1       localhost",
  "::1             localhost ip6-localhost ip6-loopback",
  "ff02::1         ip6-allnodes",
  "ff02::2         ip6-allrouters",
  "",
  "127.0.1.1       " ++ p.hostname]

/-- Commands of a login shell. -/
def profile : String := Text.block [
  "# ~/.profile: executed by the command interpreter for login shells.",
  "",
  "if [ -n \"$BASH_VERSION\" ]; then",
  "    if [ -f \"$HOME/.bashrc\" ]; then",
  "        . \"$HOME/.bashrc\"",
  "    fi",
  "fi",
  "",
  "if [ -d \"$HOME/bin\" ] ; then",
  "    PATH=\"$HOME/bin:$PATH\"",
  "fi"]

/-- Commands of earlier sessions. -/
def history : String := Text.block [
  "apt update",
  "apt upgrade -y",
  "df -h",
  "free -m",
  "systemctl status ssh",
  "tail -n 50 /var/log/syslog",
  "ip addr",
  "crontab -l",
  "cat /etc/os-release",
  "reboot"]

/-- Settings of the SSH daemon. -/
def sshDaemon : String := Text.block [
  "Include /etc/ssh/sshd_config.d/*.conf",
  "",
  "Port 22",
  "PermitRootLogin yes",
  "PasswordAuthentication yes",
  "ChallengeResponseAuthentication no",
  "UsePAM yes",
  "X11Forwarding yes",
  "PrintMotd no",
  "AcceptEnv LANG LC_*",
  "Subsystem       sftp    /usr/lib/openssh/sftp-server"]

/-- Commands that are run at given times. -/
def crontab : String := Text.block [
  "# /etc/crontab: system-wide crontab",
  "SHELL=/bin/sh",
  "PATH=/usr/local/sbin:/usr/local/bin:/sbin:/bin:/usr/sbin:/usr/bin",
  "",
  "17 *    * * *   root    cd / && run-parts --report /etc/cron.hourly",
  "25 6    * * *   root    test -x /usr/sbin/anacron || ( cd / && run-parts --report " ++
    "/etc/cron.daily )",
  "47 6    * * 7   root    test -x /usr/sbin/anacron || ( cd / && run-parts --report " ++
    "/etc/cron.weekly )",
  "52 6    1 * *   root    test -x /usr/sbin/anacron || ( cd / && run-parts --report " ++
    "/etc/cron.monthly )"]

/-- Commands of an interactive shell. -/
def shellStartup (p : Persona) : String := Text.block [
  "# ~/.bashrc: executed by bash(1) for non-login shells.",
  "",
  "# If not running interactively, don't do anything",
  "case $- in",
  "    *i*) ;;",
  "      *) return;;",
  "esac",
  "",
  "HISTCONTROL=ignoreboth",
  "HISTSIZE=1000",
  "HISTFILESIZE=2000",
  "",
  "PS1='$\x7bdebian_chroot:+($debian_chroot)\x7d\\u@" ++ p.hostname ++ ":\\w\\$ '",
  "",
  "alias ll='ls -alF'",
  "alias la='ls -A'",
  "alias l='ls -CF'"]

def mounts (p : Persona) : String := Text.block
  (["# <file system> <mount point>   <type>  <options>       <dump>  <pass>",
    "proc            /proc           proc    defaults          0       0"] ++
    (p.bootDevice.toList.map
      (· ++ "  /boot           vfat    defaults          0       2")) ++
    [p.rootDevice ++ "       /               ext4    defaults,noatime  0       1"])

end Honeypot.ConfigText
