import Honeypot.Regex.CharSet

/-!
# Regular expressions

A pattern is a tree of nodes. `Node.run` follows a pattern through a text from a place on, trying
alternatives in the order in which they are preferred, and hands every place that it reaches to a
continuation until that accepts. `Pattern.occursIn` asks for an occurrence anywhere in a text.
-/

namespace Honeypot.Regex

/-! ## Patterns -/

/-- A condition on a place in a text. -/
inductive Anchor where
  | textStart
  | textEnd
  /-- The end of the text, or before a line feed that ends it. -/
  | lastLineEnd
  | lineStart
  | lineEnd
  | wordEdge (ascii negated : Bool)
  deriving Repr, DecidableEq

/-- Which number of repetitions is preferred. -/
inductive Manner where
  | greedy
  | lazy
  /-- As many as possible, and no fewer if the rest does not match. -/
  | possessive
  deriving Repr, DecidableEq

/-- A pattern. -/
inductive Node where
  | empty
  | one (set : CharSet)
  | anchor (a : Anchor)
  | both (first second : Node)
  | either (first second : Node)
  | repeated (least : Nat) (most : Option Nat) (manner : Manner) (body : Node)
  | capture (index : Nat) (body : Node)
  /-- A group with flags of its own. -/
  | flagged (body : Node)
  /-- Matches as its body does when it is alone. -/
  | atomic (body : Node)
  /-- A condition on the text after a place, or on so many characters before it. -/
  | look (behind : Option Nat) (negated : Bool) (body : Node)
  /-- The text of a group once more. -/
  | again (index : Nat) (letters : Letters)
  /-- One pattern if a group has matched, another if not. -/
  | choice (index : Nat) (yes no : Node)
  deriving Repr, DecidableEq

/-- A place in a text and the groups that have matched, the latest first. -/
structure Place where
  pos : Nat
  groups : List (Nat × Nat × Nat)

/-- What follows a place: whether and where the rest of a pattern ends. -/
abbrev Rest := Place → Option Place

/-- Whether the character at a position is part of a word. -/
def wordAt (ascii : Bool) (text : Array Char) (pos : Nat) : Bool :=
  (text[pos]?).any (Class.word.holds ascii)

/-- Whether a place satisfies a condition. -/
def Anchor.holds (text : Array Char) (pos : Nat) : Anchor → Bool
  | .textStart => pos == 0
  | .textEnd => pos == text.size
  | .lastLineEnd =>
    pos == text.size || (pos + 1 == text.size && text[pos]? == some '\n')
  | .lineStart => pos == 0 || text[pos - 1]? == some '\n'
  | .lineEnd => pos == text.size || text[pos]? == some '\n'
  | .wordEdge ascii negated =>
    if text.isEmpty then false
    else ((0 < pos && wordAt ascii text (pos - 1)) != wordAt ascii text pos) != negated

/-- The number of characters of a set from a position on. -/
def runLength (text : Array Char) (set : CharSet) : Nat → Nat → Nat
  | 0, _ => 0
  | left + 1, pos =>
    if (text[pos]?).any set.holds then runLength text set left (pos + 1) + 1 else 0

/-- The first of the places so many characters further on that the rest accepts. -/
def firstOf (k : Rest) (s : Place) : List Nat → Option Place
  | [] => none
  | n :: more =>
    match k { s with pos := s.pos + n } with
    | some e => some e
    | none => firstOf k s more

/-- Repeats a step. `made` counts the repetitions so far and `last` is where the one before the
latest ended: a repetition that does not move on is the last one. The first number bounds how many
more there can be. -/
def repeatStep (step : Rest → Rest) (least : Nat) (most : Option Nat) (eager : Bool) (k : Rest) :
    Nat → Nat → Option Nat → Rest
  | 0, _, _, s => k s
  | left + 1, made, last, s =>
    if made < least then step (repeatStep step least most eager k left (made + 1) last) s
    else
      let more (_ : Unit) : Option Place :=
        if most.all (made < ·) && last != some s.pos then
          step (repeatStep step least most eager k left (made + 1) (some s.pos)) s
        else none
      if eager then (more ()).orElse fun _ => k s else (k s).orElse more

/-- Repeats a step as often as possible, every repetition on its own. -/
def repeatAlone (step : Rest → Rest) (least : Nat) (most : Option Nat) :
    Nat → Nat → Place → Option Place
  | 0, _, s => some s
  | left + 1, made, s =>
    if most.all (made < ·) then
      match step some s with
      | some t =>
        if least ≤ made && t.pos == s.pos then some t
        else repeatAlone step least most left (made + 1) t
      | none => if made < least then none else some s
    else some s

/-- The text of a group, if it has matched. -/
def groupText? (text : Array Char) (s : Place) (index : Nat) : Option (List Char) :=
  (s.groups.lookup index).map fun (first, last) => (text.extract first last).toList

def standsAt (text : Array Char) (letters : Letters) : List Char → Nat → Bool
  | [], _ => true
  | c :: rest, pos =>
    (text[pos]?).any (fun d => letters.fold c == letters.fold d) &&
      standsAt text letters rest (pos + 1)

/-- Follows a pattern from a place on, and the rest from where it leads. -/
def Node.run (text : Array Char) : Node → Rest → Rest
  | .empty, k, s => k s
  | .one set, k, s =>
    if (text[s.pos]?).any set.holds then k { s with pos := s.pos + 1 } else none
  | .anchor a, k, s => if a.holds text s.pos then k s else none
  | .both first second, k, s => first.run text (fun t => second.run text k t) s
  | .either first second, k, s => (first.run text k s).orElse fun _ => second.run text k s
  | .repeated least most manner (.one set), k, s =>
    let limit := (most.map (min (text.size - s.pos))).getD (text.size - s.pos)
    let count := runLength text set limit s.pos
    if count < least then none
    else
      match manner with
      | .greedy => firstOf k s ((List.range' least (count + 1 - least)).reverse)
      | .lazy => firstOf k s (List.range' least (count + 1 - least))
      | .possessive => k { s with pos := s.pos + count }
  | .repeated least most manner body, k, s =>
    let step : Rest → Rest := fun rest t => body.run text rest t
    let bound := least + text.size + 2
    match manner with
    | .greedy => repeatStep step least most true k bound 0 none s
    | .lazy => repeatStep step least most false k bound 0 none s
    | .possessive => (repeatAlone step least most bound 0 s).bind k
  | .capture index body, k, s =>
    body.run text (fun t => k { t with groups := (index, s.pos, t.pos) :: t.groups }) s
  | .flagged body, k, s => body.run text k s
  | .atomic body, k, s => (body.run text some s).bind k
  | .look behind negated body, k, s =>
    let found : Option Place :=
      match behind with
      | none => body.run text some s
      | some width =>
        if width ≤ s.pos then body.run text some { s with pos := s.pos - width } else none
    match found with
    | some t => if negated then none else k { s with groups := t.groups }
    | none => if negated then k s else none
  | .again index letters, k, s =>
    match groupText? text s index with
    | some cs =>
      if standsAt text letters cs s.pos then k { s with pos := s.pos + cs.length } else none
    | none => none
  | .choice index yes no, k, s =>
    if (s.groups.lookup index).isSome then yes.run text k s else no.run text k s

/-! ## Lengths -/

/-- The least and the greatest length of what a pattern matches, `widths` being those of the
groups. -/
def Node.width (widths : Nat → Nat × Option Nat) : Node → Nat × Option Nat
  | .empty => (0, some 0)
  | .one _ => (1, some 1)
  | .anchor _ => (0, some 0)
  | .both first second =>
    let (a, b) := first.width widths
    let (c, d) := second.width widths
    (a + c, b.bind fun b => d.map (b + ·))
  | .either first second =>
    let (a, b) := first.width widths
    let (c, d) := second.width widths
    (min a c, b.bind fun b => d.map (max b ·))
  | .repeated least most _ body =>
    let (a, b) := body.width widths
    (a * least, if b = some 0 ∨ most = some 0 then some 0 else b.bind fun b => most.map (b * ·))
  | .capture _ body => body.width widths
  | .flagged body => body.width widths
  | .atomic body => body.width widths
  | .look .. => (0, some 0)
  | .again index _ => widths index
  | .choice _ yes no =>
    let (a, b) := yes.width widths
    let (c, d) := no.width widths
    (min a c, b.bind fun b => d.map (max b ·))

/-! ## Alternatives -/

namespace Node

/-- Nodes one after the other, as one. -/
def sequence : List Node → Node
  | [] => .empty
  | [node] => node
  | node :: more => .both node (sequence more)

/-- The nodes that a node puts one after the other. -/
def parts : Node → List Node
  | .empty => []
  | .both first second => first.parts ++ second.parts
  | node => [node]

/-- Whether a node has no nodes inside it. -/
def isSimple : Node → Bool
  | .one _ => true
  | .anchor _ => true
  | .again .. => true
  | _ => false

/-- What a sequence and some others begin with alike, and what is left of them. -/
def splitAlike : List Node → List (List Node) → List Node × List (List Node)
  | [], others => ([], [] :: others)
  | node :: more, others =>
    if node.isSimple && others.all (·.head? == some node) then
      let (alike, left) := splitAlike more (others.map List.tail)
      (node :: alike, left)
    else ([], (node :: more) :: others)

/-- The set of a sequence that is one character of it. -/
def setOf? : List Node → Option CharSet
  | [.one set] => some set
  | _ => none

/-- One of several nodes, the earlier ones preferred. Nodes that differ in one character at their
ends make a set of it. -/
def oneOf : List Node → Node
  | [] => .empty
  | [node] => node
  | first :: second :: more =>
    let (alike, left) := splitAlike first.parts ((second :: more).map parts)
    match (left.mapM setOf?).bind CharSet.union? with
    | some set => sequence (alike ++ [.one set])
    | none => .either first (eitherOf second more)
where
  /-- One of several nodes, the earlier ones preferred. -/
  eitherOf (first : Node) : List Node → Node
    | [] => first
    | second :: more => .either first (eitherOf second more)

end Node

/-! ## Occurrences -/

/-- The set of the first character of what a node matches, where the node begins with a set that
stands for no more than is written. -/
def Node.firstSet? : Node → Option CharSet
  | .one set => if set.isFolded then none else some set
  | .both first second => if first.parts.isEmpty then second.firstSet? else first.firstSet?
  | .capture _ body => body.firstSet?
  | .flagged body => body.firstSet?
  | _ => none

/-- A pattern that is looked for in texts. -/
structure Pattern where
  node : Node
  /-- The set in which occurrences begin. -/
  start? : Option CharSet
  deriving Repr, DecidableEq

namespace Pattern

/-- The pattern of a node. The set in which occurrences begin has the letters of the whole pattern,
also where it stands in a group with flags of its own. -/
def ofNode (ascii : Bool) (node : Node) : Pattern :=
  ⟨node, node.firstSet?.map fun set => { set with letters := ⟨false, ascii⟩ }⟩

/-- Whether a pattern occurs in a text. -/
def occursIn (pattern : Pattern) (text : String) : Bool :=
  let chars := text.toList.toArray
  (List.range (chars.size + 1)).any fun pos =>
    pattern.start?.all (fun set => (chars[pos]?).any set.holds) &&
      (pattern.node.run chars some ⟨pos, []⟩).isSome

end Pattern

end Honeypot.Regex
