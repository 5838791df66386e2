import Honeypot.Json.Value
import Honeypot.Number.Reading

/-!
# Values that can be written

A value is refused as a whole if one of its whole numbers is too long, or if lists and objects lie
in one another too deeply.
-/

namespace Honeypot.Json

mutual

/-- Whether a value can be written where lists and objects may lie in one another only so deep. -/
def fits : Nat → Json → Bool
  | _, .int n => (Nat.toDigits 10 n.natAbs).length ≤ Number.maxDigits
  | 0, .list _ => false
  | 0, .object _ => false
  | room + 1, .list items => itemsFit room items
  | room + 1, .object fields => fieldsFit room fields
  | _, _ => true

def itemsFit : Nat → List Json → Bool
  | _, [] => true
  | room, item :: rest => fits room item && itemsFit room rest

def fieldsFit : Nat → List (String × Json) → Bool
  | _, [] => true
  | room, (_, value) :: rest => fits room value && fieldsFit room rest

end

@[simp] theorem fits_null (room : Nat) : fits room .null = true := by
  unfold fits
  rfl

@[simp] theorem fits_text (room : Nat) (s : String) : fits room (.text s) = true := by
  unfold fits
  rfl

mutual

theorem fits_succ {room : Nat} {v : Json} (h : fits room v = true) : fits (room + 1) v = true := by
  cases v with
  | list items =>
    cases room with
    | zero => cases h
    | succ room => exact itemsFit_succ h
  | object fields =>
    cases room with
    | zero => cases h
    | succ room => exact fieldsFit_succ h
  | int n => exact h
  | _ => rfl
termination_by structural v

theorem itemsFit_succ {room : Nat} {items : List Json} (h : itemsFit room items = true) :
    itemsFit (room + 1) items = true := by
  match items with
  | [] => rfl
  | item :: rest =>
    rw [itemsFit, Bool.and_eq_true] at h ⊢
    exact ⟨fits_succ h.1, itemsFit_succ h.2⟩
termination_by structural items

theorem fieldsFit_succ {room : Nat} {fields : List (String × Json)}
    (h : fieldsFit room fields = true) : fieldsFit (room + 1) fields = true := by
  match fields with
  | [] => rfl
  | (_, value) :: rest =>
    rw [fieldsFit, Bool.and_eq_true] at h ⊢
    exact ⟨fits_succ h.1, fieldsFit_succ h.2⟩
termination_by structural fields

end

theorem fits_of_mem {room : Nat} {fields : List (String × Json)}
    (h : (Json.object fields).fits room = true) {field : String × Json} (hfield : field ∈ fields) :
    field.2.fits room = true := by
  cases room with
  | zero => cases h
  | succ room =>
    refine fits_succ ?_
    change fieldsFit room fields = true at h
    induction fields with
    | nil => cases hfield
    | cons first rest ih =>
      rw [fieldsFit, Bool.and_eq_true] at h
      obtain rfl | hfield := List.mem_cons.mp hfield
      · exact h.1
      · exact ih hfield h.2

end Honeypot.Json
