import Honeypot.Address.Hardware
import Honeypot.Shell.Context

/-!
# The network

The commands that tell about interfaces, routes and connections, and the one that pings.
-/

namespace Honeypot.Shell

open Number (fixed)
open Text (ofInt padLeft padRight)

/-- The port that the device is reached at. -/
def serverPort : String := "22"

/-! ## Interfaces -/

def mebibytes (n : Int) : String := fixed 1 (Float.ofInt n / 1024.0 / 1024.0) ++ " MiB"

/-- Packets and the bytes in them. -/
structure Traffic where
  packets : Int
  bytes : Int
  deriving Repr, DecidableEq

def Traffic.line (t : Traffic) (direction : String) : String :=
  "        " ++ direction ++ " packets " ++ ofInt t.packets ++ "  bytes " ++ ofInt t.bytes ++
    " (" ++ mebibytes t.bytes ++ ")"

/-- Draws traffic between two numbers of packets of a size between two others. -/
def drawTraffic (low high smallest largest : Int) : Draws Traffic := do
  let packets ← Draws.between low high
  pure ⟨packets, packets * (← Draws.between smallest largest)⟩

def loopbackParagraph (t : Traffic) : String := Text.block [
  "lo: flags=73<UP,LOOPBACK,RUNNING>  mtu 65536",
  "        inet 127.0.0.1  netmask 255.0.0.0",
  "        inet6 ::1  prefixlen 128  scopeid 0x10<host>",
  "        loop  txqueuelen 1000  (Local Loopback)",
  t.line "RX",
  "        RX errors 0  dropped 0  overruns 0  frame 0",
  t.line "TX",
  "        TX errors 0  dropped 0 overruns 0  carrier 0  collisions 0"]

/-- The paragraph of the interface to the network. -/
def etherParagraph (p : Persona) (address : Address) (link : String) (received sent : Traffic)
    (dropped : Int) : String := Text.block [
  "eth0: flags=4163<UP,BROADCAST,RUNNING,MULTICAST>  mtu 1500",
  "        inet " ++ p.ipAddress ++ "  netmask " ++ address.mask24.text ++ "  broadcast " ++
    address.broadcast.text,
  "        inet6 " ++ link ++ "  prefixlen 64  scopeid 0x20<link>",
  "        ether " ++ p.macAddress ++ "  txqueuelen 1000  (Ethernet)",
  received.line "RX",
  "        RX errors 0  dropped " ++ ofInt dropped ++ "  overruns 0  frame 0",
  sent.line "TX",
  "        TX errors 0  dropped 0 overruns 0  carrier 0  collisions 0"]

def ifconfig (c : Context) (inv : Invocation) : Draws String := do
  let p := c.device
  let address ← p.address
  let received ← Draws.between 100000 900000
  let sent ← Draws.between 50000 received
  let receivedBytes := received * (← Draws.between 300 900)
  let sentBytes := sent * (← Draws.between 150 600)
  let inner ← drawTraffic 200 4000 60 120
  let link ← Address.linkLocal p.macAddress
  let dropped ← Draws.between 0 40
  let ether := etherParagraph p address link ⟨received, receivedBytes⟩ ⟨sent, sentBytes⟩ dropped
  let loopback := loopbackParagraph inner
  match inv.args with
  | [] => pure (ether ++ "\n" ++ loopback)
  | interface :: _ =>
    if interface = "eth0" then pure ether
    else if interface = "lo" then pure loopback
    else pure (interface ++ ": error fetching interface information: Device not found\n")

/-- The two interfaces with their addresses. -/
def addressLines (p : Persona) (address : Address) (link : String) : String := Text.block [
  "1: lo: <LOOPBACK,UP,LOWER_UP> mtu 65536 qdisc noqueue state UNKNOWN group default qlen 1000",
  "    link/loopback 00:00:00:00:00:00 brd 00:00:00:00:00:00",
  "    inet 127.0.0.1/8 scope host lo",
  "       valid_lft forever preferred_lft forever",
  "    inet6 ::1/128 scope host ",
  "       valid_lft forever preferred_lft forever",
  "2: eth0: <BROADCAST,MULTICAST,UP,LOWER_UP> mtu 1500 qdisc pfifo_fast state UP " ++
    "group default qlen 1000",
  "    link/ether " ++ p.macAddress ++ " brd ff:ff:ff:ff:ff:ff",
  "    inet " ++ p.ipAddress ++ "/24 brd " ++ address.broadcast.text ++
    " scope global dynamic eth0",
  "       valid_lft 85427sec preferred_lft 85427sec",
  "    inet6 " ++ link ++ "/64 scope link ",
  "       valid_lft forever preferred_lft forever"]

/-- The two interfaces without their addresses. -/
def linkLines (p : Persona) : String := Text.block [
  "1: lo: <LOOPBACK,UP,LOWER_UP> mtu 65536 qdisc noqueue state UNKNOWN mode DEFAULT " ++
    "group default qlen 1000",
  "    link/loopback 00:00:00:00:00:00 brd 00:00:00:00:00:00",
  "2: eth0: <BROADCAST,MULTICAST,UP,LOWER_UP> mtu 1500 qdisc pfifo_fast state UP mode DEFAULT " ++
    "group default qlen 1000",
  "    link/ether " ++ p.macAddress ++ " brd ff:ff:ff:ff:ff:ff"]

def routeLines (p : Persona) (address : Address) : String := Text.block [
  "default via " ++ address.firstHost.text ++ " dev eth0 proto dhcp src " ++ p.ipAddress ++
    " metric 202 ",
  address.networkText ++ " dev eth0 proto dhcp scope link src " ++ p.ipAddress ++ " metric 202 "]

/-- What `ip` prints if nothing is asked of it. -/
def ipUsage : String := Text.block [
  "Usage: ip [ OPTIONS ] OBJECT \x7b COMMAND | help \x7d",
  "       ip [ -force ] -batch filename",
  "where  OBJECT := \x7b link | address | addrlabel | route | rule | neigh | ntable |",
  "                   tunnel | tuntap | maddress | mroute | mrule | monitor | xfrm |",
  "                   netns | l2tp | fou | macsec | tcp_metrics | token | netconf | ila |",
  "                   vrf | sr | nexthop \x7d"]

def ip (c : Context) (inv : Invocation) : Except Fault String := do
  let p := c.device
  let address ← p.address
  let object := inv.args.headD ""
  if ["a", "ad", "addr", "address"].contains object then
    let link ← Address.linkLocal p.macAddress
    .ok (addressLines p address link)
  else if ["l", "li", "link"].contains object then .ok (linkLines p)
  else if ["r", "ro", "route"].contains object then .ok (routeLines p address)
  else if object.isEmpty then .ok ipUsage
  else .ok ("Object \"" ++ object ++ "\" is unknown, try \"ip help\".\n")

/-! ## Connections -/

/-- What a table of connections shows. -/
structure ConnectionStyle where
  listening : Bool
  all : Bool
  /-- Whether the programs are named; only the superuser sees them. -/
  programs : Bool
  deriving Repr, DecidableEq

def ConnectionStyle.of (c : Context) (inv : Invocation) : ConnectionStyle :=
  ⟨inv.hasLetter 'l', inv.hasLetter 'a', inv.hasLetter 'p' && c.isRoot⟩

/-- The device's end of the connection. -/
def localEnd (c : Context) : String := c.device.ipAddress ++ ":" ++ serverPort

/-- The peer's end of the connection. -/
def peerEnd (c : Context) : String := c.peerIp ++ ":" ++ ofInt c.peerPort

def connectionRow (style : ConnectionStyle) (protocol here there state program : String) :
    String :=
  padRight 5 protocol ++ "      0      0 " ++ padRight 23 here ++ " " ++ padRight 23 there ++ " " ++
    padRight 11 state ++ if style.programs then " " ++ program else ""

/-- Prints the connections of the device. -/
def netstat (c : Context) (inv : Invocation) : Except Fault String := do
  let style := ConnectionStyle.of c inv
  let shell ← processOf c.sessionId
  let which :=
    if style.listening then "only servers"
    else if style.all then "servers and established"
    else "w/o servers"
  let servers :=
    if style.listening || style.all then
      [connectionRow style "tcp" ("0.0.0.0:" ++ serverPort) "0.0.0.0:*" "LISTEN" "412/sshd",
        connectionRow style "tcp6" (":::" ++ serverPort) ":::*" "LISTEN" "412/sshd"]
    else []
  let own :=
    if style.listening then []
    else
      [connectionRow style "tcp" (localEnd c) (peerEnd c) "ESTABLISHED"
        (ofInt (shell - 7) ++ "/sshd: " ++ c.user)]
  .ok (Text.block ([
    "Active Internet connections (" ++ which ++ ")",
    "Proto Recv-Q Send-Q Local Address           Foreign Address         State      " ++
      if style.programs then " PID/Program name" else ""] ++ servers ++ own))

/-- Prints the sockets of the device. -/
def ss (c : Context) (inv : Invocation) : Except Fault String := do
  let style := ConnectionStyle.of c inv
  let shell ← processOf c.sessionId
  let program (number : Int) (descriptor : String) : String :=
    if style.programs then
      " users:((\"sshd\",pid=" ++ ofInt number ++ ",fd=" ++ descriptor ++ "))"
    else ""
  let servers :=
    if style.listening || style.all then
      ["tcp   LISTEN 0      128          0.0.0.0:" ++ padRight 5 serverPort ++
          "         0.0.0.0:*    " ++ program 412 "3",
        "tcp   LISTEN 0      128             [::]:" ++ padRight 5 serverPort ++
          "            [::]:*    " ++ program 412 "3"]
    else []
  let own :=
    if style.listening then []
    else
      ["tcp   ESTAB  0      0      " ++ padLeft 20 (localEnd c) ++ " " ++
        padLeft 21 (peerEnd c) ++ program (shell - 7) "4"]
  .ok (Text.block
    ("Netid State  Recv-Q Send-Q   Local Address:Port     Peer Address:Port Process" ::
      servers ++ own))

/-! ## Pinging -/

/-- Whether a text looks like a name in the domain name system. -/
def isDomainName (s : String) : Bool :=
  Text.hasChar s '.' &&
    s.toList.all fun c => c.toNat < 128 && (c.isAlphanum || c == '.' || c == '-')

/-- The address of a host: the host itself if it is an address, otherwise a drawn one. -/
def addressOf (host : String) : Draws String :=
  match Address.parse? host with
  | some x => pure x.text
  | none => Draws.dotted 11 223

/-- The number of packets that an invocation asks for; an option that is no number is handed
back. -/
def packetCount (inv : Invocation) : Except String Nat :=
  match optionValue? "-c" inv.tokens with
  | none => .ok 4
  | some value =>
    match Number.readInt? value with
    | some n => .ok (max 1 (min n 10)).toNat
    | none => .error value

/-- The sum of a list of numbers, from the first to the last. -/
def total (times : List Float) : Float := times.foldl (· + ·) 0.0

/-- The least, mean and greatest of some times and their deviation from the mean. -/
def timesLine (times : List Float) : String :=
  let count := Float.ofNat times.length
  let mean := total times / count
  let deviation := Float.sqrt (total (times.map fun t => (t - mean) * (t - mean)) / count)
  let least := times.foldl (fun a b => if b < a then b else a) (times.headD 0.0)
  let greatest := times.foldl (fun a b => if a < b then b else a) (times.headD 0.0)
  "rtt min/avg/max/mdev = " ++
    Text.join "/" ([least, mean, greatest, deviation].map (fixed 3)) ++ " ms"

/-- Draws one number after the other. -/
def drawTimes (base : Float) : Nat → Draws (List Float)
  | 0 => pure []
  | n + 1 => do
    let t ← Draws.uniform (-1.5) 3.5
    let rest ← drawTimes base n
    pure ((base + t) :: rest)

/-- The answers to packets, of which the first has a given number. -/
def answerLines (address : String) (number : Nat) : List Float → Draws (List String)
  | [] => pure []
  | t :: rest => do
    let hops ← Draws.pick (54 : Int) [55, 56, 117]
    let line :=
      "64 bytes from " ++ address ++ ": icmp_seq=" ++ Text.ofNat number ++ " ttl=" ++ ofInt hops ++
        " time=" ++ fixed 1 t ++ " ms"
    let lines ← answerLines address (number + 1) rest
    pure (line :: lines)

/-- Prints the answers of a host at an address. -/
def pingHost (host address : String) (count : Nat) : Draws String := do
  let base ← Draws.uniform 8.0 40.0
  let times ← drawTimes base count
  let answers ← answerLines address 1 times
  let rest ← Draws.between 0 9
  let n := Text.ofNat count
  pure (Text.block
    (("PING " ++ host ++ " (" ++ address ++ ") 56(84) bytes of data.") :: answers ++ [
      "",
      "--- " ++ host ++ " ping statistics ---",
      n ++ " packets transmitted, " ++ n ++ " received, 0% packet loss, time " ++
        ofInt (((count : Int) - 1) * 1001 + rest) ++ "ms",
      timesLine times]))

def ping (inv : Invocation) : Draws String :=
  match inv.args.getLast? with
  | none => pure "ping: usage error: Destination address required\n"
  | some host =>
    match packetCount inv with
    | .error value => pure ("ping: invalid argument: '" ++ value ++ "'\n")
    | .ok count =>
      if (Address.parse? host).isSome || isDomainName host then do
        let address ← addressOf host
        pingHost host address count
      else pure ("ping: " ++ host ++ ": Name or service not known\n")

end Honeypot.Shell
