import Honeypot.Calendar
import Honeypot.Url

/-!
# Faults

What can go wrong inside a command or a file that is made up on reading. A fault is a cause and
carries no text: whoever meets it decides what to print.
-/

namespace Honeypot

/-- Why a command or a made-up file has no text. -/
inductive Fault where
  /-- The identification of the kernel has fewer than three words. -/
  | shortKernel
  /-- The device's own address is no address. -/
  | badDeviceAddress
  /-- An octet of the hardware address is not hexadecimal. -/
  | badHardwareOctet
  /-- The hardware address has fewer than six octets. -/
  | shortHardwareAddress
  /-- Two octets of the hardware address do not make a group of an address. -/
  | wideHardwareOctet
  /-- The session's identifier does not begin with hexadecimal digits. -/
  | badSessionId
  /-- A locator cannot be cut into parts. -/
  | badUrl (cause : Url.Fault)
  /-- A pattern asks for more repetitions than can be counted. -/
  | hugeRepetition
  /-- A number in a pattern has more digits than are read. -/
  | longNumber
  /-- A pattern asks for characters of ASCII and for those of all scripts. -/
  | clashingScripts
  /-- A number of kilobytes is beyond the reals that shares of it are computed with. -/
  | hugeQuantity
  /-- The clock, or a moment that is reckoned from it, has no date. -/
  | noDate (cause : Calendar.Fault)
  /-- Commands, groups of a pattern or directories lie in one another too deeply. -/
  | tooDeep
  /-- An entry of a directory is not where the directory says. -/
  | lostEntry (path : String)
  deriving Repr, DecidableEq

/-- A moment or the fault of having none. -/
def Fault.ofDate {α : Type} (result : Except Calendar.Fault α) : Except Fault α :=
  result.mapError .noDate

end Honeypot
