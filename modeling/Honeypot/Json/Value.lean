import Honeypot.Assoc
import Honeypot.Number.Parts

/-!
# Structured values

The values of event records and of service replies. Whole numbers are told apart from numbers
with a fraction, and the fields of an object keep their order.
-/

namespace Honeypot

inductive Json where
  | null
  | bool (b : Bool)
  | int (n : Int)
  | float (x : Float)
  | text (s : String)
  | list (items : List Json)
  | object (fields : List (String × Json))
  deriving Inhabited

namespace Json

/-- The field of a list of fields with a given name. -/
def field? (fields : List (String × Json)) (name : String) : Option Json := fields.lookup name

theorem mem_of_field? {fields : List (String × Json)} {name : String} {value : Json}
    (h : field? fields name = some value) : (name, value) ∈ fields := by
  obtain ⟨before, after, hfields, -⟩ := List.lookup_eq_some_iff.mp h
  rw [hfields]
  exact List.mem_append_right _ (List.mem_cons_self ..)

/-- Fields with others put over them, one after the other. -/
def setFields (fields others : List (String × Json)) : List (String × Json) :=
  others.foldl (fun acc (name, value) => Assoc.put name value acc) fields

/-- Whether a value says nothing: null, false, zero, and what is empty. -/
def isVoid : Json → Bool
  | .null => true
  | .bool b => !b
  | .int n => n == 0
  | .float x => x == 0.0
  | .text s => s.isEmpty
  | .list items => items.isEmpty
  | .object fields => fields.isEmpty

/-- The value, or another if it says nothing. -/
def orElse (value other : Json) : Json := if value.isVoid then other else value

/-! ## Keys -/

/-- The whole number that a value stands for among keys; truth values stand for one and zero. -/
def wholeKey? : Json → Option Int
  | .bool b => some (if b then 1 else 0)
  | .int n => some n
  | .float x => (Number.truncate? x).filter fun n => Float.ofInt n == x
  | _ => none

/-- Whether two values are the same as keys: texts that are equal, or numbers of one value. Lists
and objects are no keys. -/
def sameKey (a b : Json) : Bool :=
  match a, b with
  | .null, .null => true
  | .text s, .text t => s == t
  | .float x, .float y => x == y
  | a, b =>
    match a.wholeKey?, b.wholeKey? with
    | some m, some n => m == n
    | _, _ => false

end Json

end Honeypot
