import Honeypot.Text.Basic
import Honeypot.Text.Digit
import Honeypot.Text.Word

/-!
# Variables, quotes and escapes

What the shell does to the text of an argument: variables are replaced by their values, one pair
of quotes around the whole text is taken off, and backslash escapes are decoded.
-/

namespace Honeypot.Shell

/-- The variables of a session in the order in which they were first set. -/
abbrev Env := List (String × String)

/-! ## Variables -/

/-- A reference to a variable at the start of a text, without its dollar sign: its name and the
text after it. The name stands in braces or is a run of word characters or a question mark. -/
def reference? (cs : List Char) : Option (List Char × List Char) :=
  match cs with
  | '\x7b' :: rest =>
    let name := rest.takeWhile Text.isWordChar
    match rest.drop name.length with
    | '\x7d' :: more => if name.isEmpty then none else some (name, more)
    | _ => none
  | '?' :: rest => some (['?'], rest)
  | _ =>
    let name := cs.takeWhile Text.isWordChar
    if name.isEmpty then none else some (name, cs.drop name.length)

/-- The value of a reference: the last exit status is always zero, and an unknown name has an
empty value. -/
def valueOf (env : Env) (name : String) : String :=
  if name = "?" then "0" else (env.lookup name).getD ""

theorem length_of_reference? {cs name rest : List Char} (h : reference? cs = some (name, rest)) :
    rest.length ≤ cs.length := by
  unfold reference? at h
  split at h
  · simp only at h
    split at h
    · next more heq =>
      split at h
      · simp at h
      · simp only [Option.some.injEq, Prod.mk.injEq] at h
        obtain ⟨_, rfl⟩ := h
        have := congrArg List.length heq
        simp only [List.length_drop, List.length_cons] at this ⊢
        omega
    · simp at h
  · simp only [Option.some.injEq, Prod.mk.injEq] at h
    obtain ⟨_, rfl⟩ := h
    simp
  · simp only at h
    split at h
    · simp at h
    · simp only [Option.some.injEq, Prod.mk.injEq] at h
      obtain ⟨_, rfl⟩ := h
      simp

/-- A text with its references replaced. -/
def expandChars (env : Env) : List Char → List Char
  | [] => []
  | c :: rest =>
    if c = '$' then
      match _h : reference? rest with
      | some (name, more) => (valueOf env (String.ofList name)).toList ++ expandChars env more
      | none => c :: expandChars env rest
    else c :: expandChars env rest
  termination_by cs => cs.length
  decreasing_by
    · have := length_of_reference? _h
      simp only [List.length_cons]
      omega
    · simp
    · simp

/-- A text with its references to variables replaced by their values. -/
def expand (env : Env) (text : String) : String := String.ofList (expandChars env text.toList)

/-! ## Quotes -/

/-- A text without the quotes around it, if it begins and ends with the same quote. -/
def unquote (text : String) : String :=
  match text.toList with
  | first :: second :: rest =>
    if (first = '\'' ∨ first = '"') ∧ (second :: rest).getLast? = some first then
      String.ofList (second :: rest).dropLast
    else text
  | _ => text

/-! ## Escapes -/

def letterEscape? (c : Char) : Option Char :=
  if c = '\\' then some '\\'
  else if c = 'a' then some '\x07'
  else if c = 'b' then some '\x08'
  else if c = 'e' then some '\x1b'
  else if c = 'f' then some '\x0c'
  else if c = 'n' then some '\n'
  else if c = 'r' then some '\r'
  else if c = 't' then some '\t'
  else if c = 'v' then some '\x0b'
  else none

/-- The value of up to `most` digits at the start of a text, and the text after them. -/
def leadingDigits (base most value : Nat) : List Char → Nat × List Char
  | [] => (value, [])
  | c :: rest =>
    match most, Text.hexValue? c with
    | left + 1, some d =>
      if d < base then leadingDigits base left (value * base + d) rest else (value, c :: rest)
    | _, _ => (value, c :: rest)

/-- What an escape stands for. -/
inductive Escape where
  /-- A character. -/
  | char (c : Char)
  /-- The end of all output. -/
  | stop
  deriving Repr, DecidableEq

/-- The escape at the start of a text, without its backslash, and the text after it: `x` with one
or two hexadecimal digits, `0` with up to three octal digits taken modulo 256, or a letter. -/
def escape? (cs : List Char) : Option (Escape × List Char) :=
  match cs with
  | [] => none
  | c :: rest =>
    if c = 'x' then
      let (value, more) := leadingDigits 16 2 0 rest
      if more.length < rest.length then some (.char (Char.ofNat value), more) else none
    else if c = '0' then
      let (value, more) := leadingDigits 8 3 0 rest
      some (.char (Char.ofNat (value % 256)), more)
    else if c = 'c' then some (.stop, rest)
    else (letterEscape? c).map fun d => (.char d, rest)

theorem length_leadingDigits (base most value : Nat) (cs : List Char) :
    (leadingDigits base most value cs).2.length ≤ cs.length := by
  induction cs generalizing most value with
  | nil => simp [leadingDigits]
  | cons c rest ih =>
    unfold leadingDigits
    split
    · split
      · exact Nat.le_succ_of_le (ih _ _)
      · simp
    · simp

theorem length_of_escape? {cs rest : List Char} {e : Escape} (h : escape? cs = some (e, rest)) :
    rest.length < cs.length := by
  unfold escape? at h
  split at h
  · simp at h
  · next c more =>
    have hex := length_leadingDigits 16 2 0 more
    have octal := length_leadingDigits 8 3 0 more
    simp only at h
    split at h
    · split at h
      · simp only [Option.some.injEq, Prod.mk.injEq] at h
        obtain ⟨_, rfl⟩ := h
        simp only [List.length_cons]
        omega
      · simp at h
    · split at h
      · simp only [Option.some.injEq, Prod.mk.injEq] at h
        obtain ⟨_, rfl⟩ := h
        simp only [List.length_cons]
        omega
      · split at h
        · simp only [Option.some.injEq, Prod.mk.injEq] at h
          obtain ⟨_, rfl⟩ := h
          simp
        · simp only [Option.map_eq_some_iff, Prod.mk.injEq] at h
          obtain ⟨_, _, _, rfl⟩ := h
          simp

/-- The text that escapes stand for, and whether it was cut short. -/
def decodeChars : List Char → List Char × Bool
  | [] => ([], false)
  | c :: rest =>
    if c = '\\' then
      match _h : escape? rest with
      | some (.char d, more) =>
        let (out, stopped) := decodeChars more
        (d :: out, stopped)
      | some (.stop, _) => ([], true)
      | none =>
        let (out, stopped) := decodeChars rest
        (c :: out, stopped)
    else
      let (out, stopped) := decodeChars rest
      (c :: out, stopped)
  termination_by cs => cs.length
  decreasing_by
    · have := length_of_escape? _h
      simp only [List.length_cons]
      omega
    · simp
    · simp

/-- The text that the escapes of a text stand for, and whether it was cut short. -/
def decodeEscapes (text : String) : String × Bool :=
  let (out, stopped) := decodeChars text.toList
  (String.ofList out, stopped)

end Honeypot.Shell
