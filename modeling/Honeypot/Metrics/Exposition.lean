import Honeypot.Number.Shortest
import Honeypot.Text.Basic

/-!
# The exposition of measurements

Measurements are shown as families of samples: two lines that describe the family and a line for
each sample with its labels and its value.
-/

namespace Honeypot.Metrics

/-- What the samples of a family are. -/
inductive Kind where
  | counter
  | gauge
  | histogram
  deriving Repr, DecidableEq

def Kind.name : Kind → String
  | .counter => "counter"
  | .gauge => "gauge"
  | .histogram => "histogram"

/-- A value with its labels. -/
structure Sample where
  /-- What follows the name of the family. -/
  part : String
  labels : List (String × String)
  value : Float

/-- Samples that belong together. -/
structure Family where
  name : String
  about : String
  kind : Kind
  samples : List Sample

/-! ## Values -/

/-- The layout of values: a positive one has an exponent from seven digits before the point, any
other from seventeen. -/
def layout (x : Float) : Number.Layout := ⟨-4, if x ≤ 0 then 16 else 6, 2, "Inf", "NaN"⟩

/-- A value in the fewest digits that read back; an infinite one always has a sign. -/
def writtenValue (x : Float) : String :=
  (if x.isInf && 0 < x then "+" else "") ++ (layout x).written x

/-! ## Lines -/

/-- A character of the value of a label. -/
def escaped : Char → List Char
  | '\\' => ['\\', '\\']
  | '\n' => ['\\', 'n']
  | '"' => ['\\', '"']
  | c => [c]

def writtenLabel (pair : String × String) : String :=
  pair.1 ++ "=\"" ++ String.ofList (pair.2.toList.flatMap escaped) ++ "\""

/-- The labels of a sample in braces, if it has any. -/
def writtenLabels : List (String × String) → String
  | [] => ""
  | pairs => "\x7b" ++ Text.join "," (pairs.map writtenLabel) ++ "\x7d"

def Sample.line (name : String) (s : Sample) : String :=
  name ++ s.part ++ writtenLabels s.labels ++ " " ++ writtenValue s.value

def Family.lines (f : Family) : List String :=
  ("# HELP " ++ f.name ++ " " ++ f.about) :: ("# TYPE " ++ f.name ++ " " ++ f.kind.name) ::
    f.samples.map (Sample.line f.name)

def exposition (families : List Family) : String :=
  String.join ((families.flatMap Family.lines).map (· ++ "\n"))

end Honeypot.Metrics
