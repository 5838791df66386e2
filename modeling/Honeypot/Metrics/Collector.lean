import Honeypot.Assoc
import Honeypot.Metrics.Exposition
import Honeypot.Number.Sum

/-!
# The collector of measurements

Connections, authentication attempts, commands and downloads are counted by what became of them.
Sessions are counted twice, by a number that stops at zero and by a gauge that does not, and their
durations are sorted into buckets.
-/

namespace Honeypot.Metrics

/-! ## Counts by label -/

/-- Counts in the order in which their labels were first used. -/
abbrev Tally := List (String × Nat)

def Tally.count (t : Tally) (name : String) : Nat := (t.lookup name).getD 0

def Tally.add (t : Tally) (name : String) : Tally := Assoc.put name (t.count name + 1) t

theorem Tally.count_add (t : Tally) (name other : String) :
    (t.add name).count other = if other = name then t.count name + 1 else t.count other := by
  unfold Tally.add Tally.count
  rw [Assoc.lookup_put]
  split <;> rfl

def Tally.samples (t : Tally) (label : String) : List Sample :=
  t.map fun (name, n) => ⟨"", [(label, name)], Float.ofNat n⟩

/-! ## Durations -/

/-- The upper bounds of the buckets, in seconds. -/
def bounds : List Float := [10, 30, 60, 300, 600, 1800, 3600, 7200, 1.0 / 0.0]

/-- Counts of durations by the first bound that they do not exceed, and their sum. -/
structure Durations where
  counts : List Nat
  sum : Float

def Durations.none : Durations := ⟨bounds.map fun _ => 0, 0⟩

/-- The counts with one more in the first bucket whose bound is not exceeded. -/
def tallied (x : Float) : List Float → List Nat → List Nat
  | bound :: above, n :: more => if x ≤ bound then (n + 1) :: more else n :: tallied x above more
  | _, counts => counts

def Durations.add (d : Durations) (x : Float) : Durations :=
  ⟨tallied x bounds d.counts, d.sum + x⟩

/-- The sums of the first one, two, … counts. -/
def runningSums (before : Nat) : List Nat → List Nat
  | [] => []
  | n :: more => (before + n) :: runningSums (before + n) more

/-- The samples of durations: what lies below each bound, then how many there are, and their
sum. -/
def Durations.samples (d : Durations) : List Sample :=
  List.zipWith
      (fun bound n => ⟨"_bucket", [("le", writtenValue bound)], Float.ofNat n⟩)
      bounds (runningSums 0 d.counts) ++
    [⟨"_count", [], Float.ofNat (Number.sum d.counts)⟩, ⟨"_sum", [], d.sum⟩]

/-! ## The collector -/

/-- What became of a connection. -/
def accepted : String := "accepted"

/-- A connection from the device itself. -/
def rejectedFilter : String := "rejected_filter"

/-- A connection beyond what is admitted. -/
def rejectedCapacity : String := "rejected_capacity"

/-- The outcome of a command that the shell has. -/
def known : String := "known"

/-- The outcome of a command that the shell does not have. -/
def unknown : String := "unknown"

/-- The outcome of a command on which the shell failed. -/
def erroneous : String := "error"

/-- All measurements of a running program. -/
structure Collector where
  profile : String
  /-- When the program began, in seconds. -/
  begun : Float
  /-- The number of sessions, which stops at zero. -/
  active : Nat
  /-- The number of sessions begun less the number ended. -/
  gauge : Int
  connections : Tally
  methods : Tally
  outcomes : Tally
  tools : Tally
  durations : Durations

namespace Collector

def fresh (profile : String) (now : Float) : Collector :=
  ⟨profile, now, 0, 0, [], [], [], [], .none⟩

/-- A connection was accepted or rejected. -/
def connected (c : Collector) (verdict : String) : Collector :=
  { c with connections := c.connections.add verdict }

def started (c : Collector) : Collector := { c with active := c.active + 1, gauge := c.gauge + 1 }

/-- A session ended, and nothing is known about how long it was. -/
def left (c : Collector) : Collector := { c with active := c.active - 1, gauge := c.gauge - 1 }

/-- A session ended after a number of seconds. -/
def ended (c : Collector) (duration : Float) : Collector :=
  { c.left with durations := c.durations.add duration }

/-- Someone tried to authenticate by a method. -/
def authenticated (c : Collector) (method : String) : Collector :=
  { c with methods := c.methods.add method }

def ran (c : Collector) (outcome : String) : Collector :=
  { c with outcomes := c.outcomes.add outcome }

/-- A tool was asked to fetch a file. -/
def downloaded (c : Collector) (tool : String) : Collector := { c with tools := c.tools.add tool }

def families (c : Collector) (now : Float) : List Family :=
  [⟨"sshmon_connections_total", "Total number of connection attempts", .counter,
      c.connections.samples "result"⟩,
    ⟨"sshmon_sessions_active", "Currently active sessions", .gauge,
      [⟨"", [], Float.ofInt c.gauge⟩]⟩,
    ⟨"sshmon_session_duration_seconds", "Session duration in seconds", .histogram,
      c.durations.samples⟩,
    ⟨"sshmon_auth_attempts_total", "Total authentication attempts", .counter,
      c.methods.samples "method"⟩,
    ⟨"sshmon_commands_total", "Total number of commands executed", .counter,
      c.outcomes.samples "outcome"⟩,
    ⟨"sshmon_malware_downloads_total", "Download attempts captured from wget/curl", .counter,
      c.tools.samples "tool"⟩,
    ⟨"sshmon_system_info", "sshmon system information", .gauge,
      [⟨"", [("profile", c.profile), ("version", "1.0.0")], 1⟩]⟩,
    ⟨"sshmon_uptime_seconds", "Honeypot uptime in seconds", .gauge, [⟨"", [], now - c.begun⟩]⟩]

/-- The text of all measurements at a time. -/
def text (c : Collector) (now : Float) : String := exposition (c.families now)

end Collector

/-! ## Pages -/

structure Page where
  status : Nat
  contentType : Option String
  body : String

def page (c : Collector) (now : Float) (path : String) : Page :=
  if path = "/metrics" then
    ⟨200, some "text/plain; version=1.0.0; charset=utf-8", c.text now⟩
  else if path = "/health" then ⟨200, some "text/plain", "OK\n"⟩
  else ⟨404, none, "Not Found\n"⟩

end Honeypot.Metrics
