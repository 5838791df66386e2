/-!
# Channels

A channel carries text to the peer. Each of its operations may fail, and it may carry some texts
before it fails to; a closed channel carries no more text.
-/

namespace Honeypot

structure Channel where
  failsToSend : Bool
  /-- How many more texts are carried before the channel fails to; without it there is no end. -/
  lasts? : Option Nat
  failsToClose : Bool
  failsToExit : Bool
  closed : Bool
  /-- All text that was carried. -/
  sent : String
  exitStatus? : Option Nat
  deriving Repr, DecidableEq

namespace Channel

/-- A channel that does not fail. -/
def fresh : Channel := ⟨false, none, false, false, false, "", none⟩

/-- Carries text, unless the channel fails to. -/
def send? (c : Channel) (text : String) : Option Channel :=
  if c.failsToSend || c.lasts? == some 0 || c.closed then none
  else some { c with lasts? := c.lasts?.map (· - 1), sent := c.sent ++ text }

/-- Closes the channel, unless it fails to. -/
def close (c : Channel) : Channel := if c.failsToClose then c else { c with closed := true }

/-- Tells the exit status, unless the channel fails to. -/
def exit (c : Channel) (status : Nat) : Channel :=
  if c.failsToExit then c else { c with exitStatus? := some status }

end Channel

end Honeypot
