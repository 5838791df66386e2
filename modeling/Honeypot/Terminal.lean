import Honeypot.Text.Blank

/-!
# Terminal input

A terminal sends its keys byte by byte. The decoder keeps the line that is being typed and turns
every byte into the next decoder and, unless the byte is swallowed, the key that took effect.
Escape sequences are swallowed: an escape, a bracket or an `O`, and everything up to the first byte
from 0x40 to 0x7E. A line feed directly after a carriage return belongs to the same key.
-/

namespace Honeypot.Terminal

/-- Where the decoder is in an escape sequence. -/
inductive Mode where
  | plain
  /-- After the escape. -/
  | escape
  /-- After the byte that begins the parameters. -/
  | sequence
  deriving Repr, DecidableEq

/-- What the decoder keeps between two bytes. -/
structure Decoder where
  /-- The characters typed so far. -/
  line : List Char
  mode : Mode
  /-- Whether the byte before was a carriage return. -/
  afterReturn : Bool
  deriving Repr, DecidableEq

def Decoder.fresh : Decoder := ⟨[], .plain, false⟩

/-- A key that took effect. -/
inductive Key where
  /-- A line was entered; it is not blank and has no blanks around it. -/
  | entered (line : String)
  /-- A blank line was entered. -/
  | enteredBlank
  /-- The last character was taken back. -/
  | erased
  /-- The line was given up. -/
  | interrupted
  /-- The session is to end. -/
  | loggedOut
  /-- A tab, which is shown and not kept. -/
  | tab
  /-- A character was typed. -/
  | typed (c : Char)
  deriving Repr, DecidableEq

namespace Key

/-- What the terminal is to show for a key. -/
def echo : Key → String
  | .entered _ => "\r\n"
  | .enteredBlank => "\r\n"
  | .erased => "\x08 \x08"
  | .interrupted => "^C\r\n"
  | .loggedOut => "logout\r\n"
  | .tab => "  "
  | .typed c => String.singleton c

/-- The line that was entered with a key. -/
def line? : Key → Option String
  | .entered line => some line
  | _ => none

/-- Whether a new prompt is to follow at once. -/
def wantsPrompt : Key → Bool
  | .enteredBlank => true
  | .interrupted => true
  | _ => false

end Key

namespace Decoder

def enter (d : Decoder) : Decoder × Option Key :=
  let line := Text.strip (String.ofList d.line)
  ({ d with line := [] }, some (if line.isEmpty then .enteredBlank else .entered line))

/-- Handles a byte outside escape sequences; `afterReturn` tells whether the byte before was
a carriage return. -/
def key (d : Decoder) (afterReturn : Bool) (byte : UInt8) : Decoder × Option Key :=
  if byte = 0x1B then ({ d with mode := .escape }, none)
  else if byte = 0x0D then d.enter
  else if byte = 0x0A then if afterReturn then (d, none) else d.enter
  else if byte = 0x08 ∨ byte = 0x7F then
    if d.line.isEmpty then (d, none) else ({ d with line := d.line.dropLast }, some .erased)
  else if byte = 0x03 then ({ d with line := [] }, some .interrupted)
  else if byte = 0x04 then ({ d with line := [] }, some .loggedOut)
  else if byte = 0x09 then (d, some .tab)
  else if 0x20 ≤ byte ∧ byte ≤ 0x7E then
    let c := Char.ofNat byte.toNat
    ({ d with line := d.line ++ [c] }, some (.typed c))
  else (d, none)

def step (d : Decoder) (byte : UInt8) : Decoder × Option Key :=
  let next : Decoder := { d with afterReturn := byte == 0x0D }
  match d.mode with
  | .escape =>
    ({ next with mode := if byte = 0x5B ∨ byte = 0x4F then .sequence else .plain }, none)
  | .sequence =>
    ({ next with mode := if 0x40 ≤ byte ∧ byte ≤ 0x7E then .plain else .sequence }, none)
  | .plain => next.key d.afterReturn byte

/-- Handles bytes in order: the decoder after them and the keys that took effect. -/
def feed (d : Decoder) : List UInt8 → Decoder × List Key
  | [] => (d, [])
  | byte :: rest =>
    let (d, key?) := d.step byte
    let (d, keys) := d.feed rest
    (d, key?.toList ++ keys)

end Decoder

end Honeypot.Terminal
