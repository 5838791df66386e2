import Honeypot.Number.Reading
import Honeypot.Regex.Escape
import Honeypot.Text.Identifier

/-!
# Reading patterns

The grammar of patterns. Repetitions follow what they repeat; groups may be named, silent, atomic
or conditions; flags may be set for the whole pattern at its start or for a group.
-/

namespace Honeypot.Regex

/-! ## Sets -/

/-- A part of a set, without a range. -/
def setItem (c : Char) : Read Item :=
  if c = '\\' then setEscape else pure (.char c.toNat)

/-- The single character of a part of a set. -/
def single? : Item → Option Nat
  | .char n => some n
  | _ => none

/-- Reads the parts of a set up to its closing bracket. -/
def setItems : Nat → List Item → Read (List Item)
  | 0, _ => refuse
  | steps + 1, done => do
    match ← take? with
    | none => refuse
    | some c =>
      if c = ']' ∧ !done.isEmpty then pure done.reverse
      else
        let first ← setItem c
        if ← accept '-' then
          match ← take? with
          | none => refuse
          | some d =>
            if d = ']' then pure (.char 45 :: first :: done).reverse
            else
              let last ← setItem d
              match single? first, single? last with
              | some low, some high =>
                if high < low then refuse else setItems steps (.range low high :: done)
              | _, _ => refuse
        else setItems steps (first :: done)

/-! ## Repetitions -/

/-- A number of repetitions; numbers from 2^32 - 1 on are refused. -/
def bounded (digits : List Char) : Read Nat :=
  if digits.length > Number.maxDigits then throw .longNumber
  else
    let n := valueIn 10 digits
    if n < 4294967295 then pure n else throw .tooLarge

/-- The numbers of repetitions that follow an opening brace; without a closing brace, or with
nothing between the braces, the opening brace stands for itself. -/
def counts? : Read (Option (Nat × Option Nat)) := do
  let before ← get
  if ← accept '\x7d' then
    set before
    pure none
  else
    let low ← takeWhile before.rest.length isAsciiDigit
    let comma ← accept ','
    let high ← if comma then takeWhile before.rest.length isAsciiDigit else pure low
    if ← accept '\x7d' then
      if (← get).rest = ['\\'] then refuse
      let least ← if low.isEmpty then pure 0 else bounded low
      if high.isEmpty then pure (some (least, none))
      else
        let most ← bounded high
        if most < least then refuse else pure (some (least, some most))
    else
      set before
      pure none

/-- The mark after a repetition tells which number is preferred. -/
def manner : Read Manner := do
  if ← accept '?' then pure .lazy
  else if ← accept '+' then pure .possessive
  else pure .greedy

/-- Puts a repetition in the place of the last node of a sequence that is held in reverse. -/
def repeatLast (least : Nat) (most : Option Nat) :
    List (Kind × Node) → Read (List (Kind × Node))
  | (.other, body) :: before => do
    if (← get).flags.plain then spoil
    pure ((.repetition, .repeated least most (← manner) body) :: before)
  | _ => refuse

/-! ## Groups -/

/-- A node that stands for any one character, a line feed apart unless flags include it. -/
def dot (flags : Flags) : Node :=
  .one ⟨if flags.dotAll then [] else [.char 10], true, ⟨false, false⟩⟩

/-- What flags in parentheses hold for. -/
inductive Scope where
  /-- The whole pattern. -/
  | everywhere (flags : Flags)
  /-- The group that follows. -/
  | inside (flags : Flags)

/-- Whether letters ask for characters of ASCII and for those of all scripts. -/
def clashing (letters : List Char) : Bool := letters.contains 'a' && letters.contains 'u'

/-- Reads the letters of flags after the first one, which were found where given flags hold. -/
def flagGroup (flags : Flags) (first : Char) : Read Scope := do
  let p ← get
  let letters ←
    if first = '-' then pure []
    else do
      let more ← takeWhile p.rest.length Flags.isLetter
      pure (first :: more)
  let next ← if first = '-' then pure (some '-') else take?
  if clashing letters then refuse
  else
    match next with
    | some ')' => pure (.everywhere (p.flags.set letters))
    | some ':' =>
      if letters.contains 't' then refuse else pure (.inside (flags.setInside letters))
    | some '-' =>
      let cleared ← takeWhile p.rest.length Flags.isLetter
      if letters.contains 't' || cleared.isEmpty || cleared.any letters.contains ||
          cleared.any ['a', 'u', 't'].contains then refuse
      else if ← accept ':' then pure (.inside ((flags.setInside letters).clear cleared))
      else refuse
    | _ => refuse

/-- The greatest number of characters that a condition on the text before a place goes back. -/
def farthest : Nat := 4294967295

/-- A condition on the text before a place; it needs a fixed length. -/
def lookBehind (negated : Bool) (body : Node) : Read Node := do
  let p ← get
  let (least, most) := body.width p.width
  if most != some least || farthest < least then spoil
  pure (.look (some least) negated body)

/-- Reads what a condition on the text before a place consists of. -/
def behind (body : Read Node) : Read Node := do
  let before := (← get).behindFrom
  modify fun p => { p with behindFrom := p.behindFrom.or (some p.nextGroup) }
  let node ← body
  modify fun p => { p with behindFrom := before }
  pure node

/-- The group that an alternative depends on. -/
def condition (text : List Char) : Read Nat := do
  let p ← get
  if Text.isIdentifier text then
    match p.names.lookup (String.ofList text) with
    | some index => pure index
    | none => refuse
  else
    match Number.readInt? (String.ofList text) with
    | some n =>
      if 0 < n then
        modify fun p => { p with required := n.toNat :: p.required }
        pure n.toNat
      else refuse
    | none => refuse

/-! ## Patterns -/

/-- A sequence that is held in reverse, as one node. -/
def sequenceOf (done : List (Kind × Node)) : Node := .sequence (done.reverse.map (·.2))

mutual

def alternatives : Nat → Flags → Bool → Read Node
  | 0, _, _ => refuse
  | steps + 1, flags, outer => do
    let first ← items steps flags outer []
    if ← accept '|' then
      let p ← get
      let flags := if outer then p.flags else flags
      pure (.oneOf (first :: (← moreAlternatives steps flags)))
    else pure first

def moreAlternatives : Nat → Flags → Read (List Node)
  | 0, _ => refuse
  | steps + 1, flags => do
    let first ← items steps flags false []
    if ← accept '|' then pure (first :: (← moreAlternatives steps flags)) else pure [first]

/-- Reads a sequence after what was read of it, which is held in reverse. -/
def items : Nat → Flags → Bool → List (Kind × Node) → Read Node
  | 0, _, _, _ => refuse
  | steps + 1, flags, outer, done => do
    match ← peek with
    | none => pure (sequenceOf done)
    | some c =>
      if c = '|' || c = ')' then pure (sequenceOf done)
      else
        let _ ← take?
        let next (item : Kind × Node) : Read Node := items steps flags outer (item :: done)
        let other (node : Node) : Read Node := next (.other, node)
        if flags.verbose && (c = ' ' || (9 ≤ c.toNat && c.toNat ≤ 13)) then
          items steps flags outer done
        else if flags.verbose && c = '#' then
          skipComment '\n'
          items steps flags outer done
        else if c = '\\' then next (← escape flags)
        else if c = '[' then
          let negated ← accept '^'
          let p ← get
          let parts ← setItems (p.rest.length + 1) []
          other (.one (.ofItems flags.letters negated parts))
        else if c = '*' then
          items steps flags outer (← repeatLast 0 none done)
        else if c = '+' then
          items steps flags outer (← repeatLast 1 none done)
        else if c = '?' then
          items steps flags outer (← repeatLast 0 (some 1) done)
        else if c = '\x7b' then
          match ← counts? with
          | some (least, most) => items steps flags outer (← repeatLast least most done)
          | none => other (literal flags c.toNat)
        else if c = '.' then other (dot flags)
        else if c = '^' then
          next (.anchor, .anchor (if flags.multiLine then .lineStart else .textStart))
        else if c = '$' then
          next (.anchor, .anchor (if flags.multiLine then .lineEnd else .lastLineEnd))
        else if c = '(' then
          if ← accept '?' then
            match ← take? with
            | none => refuse
            | some ':' => other (← silent steps flags)
            | some '>' => other (.atomic (← silent steps flags))
            | some '#' =>
              skipComment ')'
              closing
              items steps flags outer done
            | some '=' => other (.look none false (← silent steps flags))
            | some '!' => other (.look none true (← silent steps flags))
            | some '<' =>
              match ← take? with
              | some '=' => other (← lookBehind false (← behind (silent steps flags)))
              | some '!' => other (← lookBehind true (← behind (silent steps flags)))
              | _ => refuse
            | some 'P' =>
              if ← accept '<' then
                let name ← takeUntil '>'
                if Text.isIdentifier name then
                  other (← captured steps flags (some (String.ofList name)))
                else refuse
              else if ← accept '=' then
                let name ← takeUntil ')'
                match (← get).names.lookup (String.ofList name) with
                | some index => other (.again (← checkedGroup index) flags.letters)
                | none => refuse
              else refuse
            | some '(' =>
              let index ← condition (← takeUntil ')')
              checkCondition index
              let yes ← deeper 1 (items steps flags false [])
              let no ←
                if ← accept '|' then deeper 1 (items steps flags false []) else pure .empty
              closing
              other (.choice index yes no)
            | some d =>
              if Flags.isLetter d || d = '-' then
                match ← flagGroup flags d with
                | .everywhere all =>
                  if outer && done.isEmpty then
                    modify fun p => { p with flags := all }
                    items steps all outer done
                  else refuse
                | .inside own => other (.flagged (← silent steps own))
              else refuse
          else other (← captured steps flags none)
        else other (literal flags c.toNat)

/-- Reads the inside of a group that is not numbered, and its closing parenthesis. -/
def silent : Nat → Flags → Read Node
  | 0, _ => refuse
  | steps + 1, flags => do
    let body ← deeper 2 (alternatives steps flags false)
    closing
    pure body

/-- Reads the inside of a numbered group, and its closing parenthesis. -/
def captured : Nat → Flags → Option String → Read Node
  | 0, _, _ => refuse
  | steps + 1, flags, name? => do
    let index ← openGroup name?
    let body ← deeper 2 (alternatives steps flags false)
    closing
    closeGroup index body
    pure (.capture index body)

end

/-- What of the room goes into a pattern without groups. -/
def ownRoom : Nat := 8

/-- Reads a pattern, with some room for groups to lie in one another. -/
def parse (room : Nat) (pattern : String) (anyCase : Bool) : Except Fault Pattern := do
  if room < ownRoom then throw .tooDeep
  let flags : Flags := { Flags.none with anyCase := anyCase }
  let cs := pattern.toList
  let (node, p) ← (alternatives (3 * cs.length + 3) flags true).run
    ⟨cs, 1, [], [], none, [], flags, room - ownRoom, false⟩
  if p.flags.ascii && p.flags.everyScript then throw .clash
  if p.rest.isEmpty && !p.spoiled && p.required.all (· < p.nextGroup) then
    pure (.ofNode p.flags.ascii node)
  else throw .malformed

/-- The pattern that matches a text alone. -/
def ofText (text : String) (anyCase : Bool) : Pattern :=
  .ofNode false (.sequence (text.toList.map fun c => .one (.single ⟨anyCase, false⟩ c.toNat)))

end Honeypot.Regex
