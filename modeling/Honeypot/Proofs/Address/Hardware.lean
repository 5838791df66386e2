import Mathlib.Data.List.Forall2
import Mathlib.Data.Nat.Digits.Defs
import Honeypot.Address.Hardware
import Honeypot.Proofs.Address.Text
import Honeypot.Proofs.Shell.Escapes

/-!
# Addresses from hardware addresses

A hardware address of six octets makes one link-local address: its upper half is `fe80::`, and its
lower half holds the octets, the first of them with a bit flipped, around `ff fe`. Its text is
canonical and is read as the address, so that the octets can be found again in it
(`linkLocal_of_spelled`).
-/

namespace Honeypot.Address

open Shell (IsDigit)

/-! ## Hardware addresses -/

structure Hardware where
  a : UInt8
  b : UInt8
  c : UInt8
  d : UInt8
  e : UInt8
  f : UInt8
  deriving Repr, DecidableEq

def Hardware.octets (h : Hardware) : List UInt8 := [h.a, h.b, h.c, h.d, h.e, h.f]

/-- Whether a text is an octet in two hexadecimal digits of either case. -/
inductive IsOctetText (octet : UInt8) : List Char → Prop
  | intro {high low : Char} (hhigh : IsDigit 16 high (octet.toNat / 16))
      (hlow : IsDigit 16 low (octet.toNat % 16)) : IsOctetText octet [high, low]

/-- Whether a text is a hardware address: the six octets with colons between them. -/
def Hardware.Spelled (h : Hardware) (mac : String) : Prop :=
  ∃ texts, List.Forall₂ IsOctetText h.octets texts ∧ mac.toList = [':'].intercalate texts

/-- The octets of a link-local address: those of its lower half, from the last. -/
def V6.octet (x : V6) (i : Nat) : UInt8 := UInt8.ofNat (x.value / 256 ^ i % 256)

/-- The hardware address that is found in an address. -/
def V6.hardware (x : V6) : Hardware :=
  ⟨x.octet 7 ^^^ 2, x.octet 6, x.octet 5, x.octet 2, x.octet 1, x.octet 0⟩

/-! ## Reading octets -/

/-- What reading a number asks of a digit. -/
structure IsPlainDigit (c : Char) (value : Nat) : Prop where
  noMargin : Number.isMargin c = false
  ascii : Number.asciiDigit c = c
  noMark : c ∉ ['-', '+', 'x', 'X', '_', ':']
  value : Text.digitValue? c = some value

instance (c : Char) (value : Nat) : Decidable (IsPlainDigit c value) :=
  decidable_of_iff (Number.isMargin c = false ∧ Number.asciiDigit c = c ∧
      c ∉ ['-', '+', 'x', 'X', '_', ':'] ∧ Text.digitValue? c = some value)
    ⟨fun h => ⟨h.1, h.2.1, h.2.2.1, h.2.2.2⟩, fun h => ⟨h.noMargin, h.ascii, h.noMark, h.value⟩⟩

theorem isPlainDigit {c : Char} {value : Nat} (h : IsDigit 16 c value) : IsPlainDigit c value := by
  have hall : ∀ value < 16, IsPlainDigit value.digitChar value ∧
      IsPlainDigit value.digitChar.toUpper value := by decide
  obtain ⟨hvalue, rfl | rfl⟩ := h
  · exact (hall value hvalue).1
  · exact (hall value hvalue).2

theorem digitsValue?_cons {c : Char} {value before : Nat} (hc : IsPlainDigit c value)
    (hvalue : value < 16) (digitNext : Bool) (rest : List Char) :
    Number.digitsValue? 16 before digitNext (c :: rest) =
      Number.digitsValue? 16 (before * 16 + value) false rest := by
  have hne : c ≠ '_' := by
    rintro rfl
    exact hc.noMark (by decide)
  rw [Number.digitsValue?, hc.value]
  · exact if_pos hvalue
  · exact hne

theorem signed_of_digit {c : Char} {value : Nat} (hc : IsPlainDigit c value) (rest : List Char) :
    Number.signed (c :: rest) = (false, c :: rest) := by
  have hmark := hc.noMark
  unfold Number.signed
  split
  · next heq =>
    obtain ⟨rfl, -⟩ := List.cons.inj heq
    exact absurd (by decide) hmark
  · next heq =>
    obtain ⟨rfl, -⟩ := List.cons.inj heq
    exact absurd (by decide) hmark
  · rfl

theorem unmarked_of_digits {c c' : Char} {value : Nat} (hc : IsPlainDigit c' value)
    (rest : List Char) : Number.unmarked (c :: c' :: rest) = c :: c' :: rest := by
  have hmark := hc.noMark
  unfold Number.unmarked
  split
  · next x more heq =>
    obtain ⟨rfl, htail⟩ := List.cons.inj heq
    obtain ⟨rfl, rfl⟩ := List.cons.inj htail
    have hx : ¬(c' == 'x' || c' == 'X') = true := by
      simp only [Bool.or_eq_true, beq_iff_eq]
      rintro (rfl | rfl) <;> exact absurd (by decide) hmark
    rw [if_neg hx]
  · rfl

/-- **Two digits** are read as the octet that they are. -/
theorem readHex?_of_isOctetText {octet : UInt8} {t : List Char} (h : IsOctetText octet t) :
    Number.readHex? (String.ofList t) = some (octet.toNat : Int) := by
  obtain ⟨hhigh, hlow⟩ := h
  have hplain := isPlainDigit hhigh
  have hplain' := isPlainDigit hlow
  rename_i high low
  have hends : Text.dropEnds Number.isMargin [high, low] = [high, low] := by
    simp [Text.dropEnds, Text.dropEnd, hplain.noMargin, hplain'.noMargin]
  have hascii : [high, low].map Number.asciiDigit = [high, low] := by
    rw [List.map_cons, List.map_singleton, hplain.ascii, hplain'.ascii]
  have hvalue : octet.toNat / 16 * 16 + octet.toNat % 16 = octet.toNat := by omega
  unfold Number.readHex?
  rw [String.toList_ofList, hends, hascii, signed_of_digit hplain]
  dsimp only
  rw [unmarked_of_digits hplain', digitsValue?_cons hplain hhigh.1,
    digitsValue?_cons hplain' hlow.1, Nat.zero_mul, Nat.zero_add, hvalue]
  rfl

theorem mapM_readHex? {octets : List UInt8} {texts : List (List Char)}
    (h : List.Forall₂ IsOctetText octets texts) :
    (texts.map String.ofList).mapM Number.readHex? =
      some (octets.map fun octet => (octet.toNat : Int)) := by
  induction h with
  | nil => rfl
  | cons hfirst _ ih =>
    rw [List.map_cons, List.mapM_cons, readHex?_of_isOctetText hfirst, ih]
    rfl

theorem IsOctetText.no_colon {octet : UInt8} {t : List Char} (h : IsOctetText octet t) :
    ':' ∉ t := by
  obtain ⟨hhigh, hlow⟩ := h
  intro hmem
  obtain rfl | hmem := List.mem_cons.mp hmem
  · exact (isPlainDigit hhigh).noMark (by decide)
  · obtain rfl := List.mem_singleton.mp hmem
    exact (isPlainDigit hlow).noMark (by decide)

theorem no_colon_of_octets {octets : List UInt8} {texts : List (List Char)}
    (h : List.Forall₂ IsOctetText octets texts) : ∀ t ∈ texts, ':' ∉ t := by
  induction h with
  | nil => exact nofun
  | cons hfirst _ ih => exact List.forall_mem_cons.mpr ⟨hfirst.no_colon, ih⟩

theorem hardwareOctets_of_spelled {h : Hardware} {mac : String} (hmac : h.Spelled mac) :
    hardwareOctets mac = .ok (h.octets.map fun octet => (octet.toNat : Int)) := by
  obtain ⟨texts, htexts, hjoin⟩ := hmac
  have hsome : texts ≠ [] := by
    rintro rfl
    cases htexts
  have hfields : Text.fields ':' mac = texts.map String.ofList := by
    unfold Text.fields
    rw [hjoin, List.splitOn_intercalate ':' (no_colon_of_octets htexts) hsome]
  unfold hardwareOctets
  rw [hfields, mapM_readHex? htexts]

/-! ## The address -/

def pairGroup (high low : UInt8) : UInt16 := UInt16.ofNat (high.toNat * 256 + low.toNat)

theorem toNat_pairGroup (high low : UInt8) :
    (pairGroup high low).toNat = high.toNat * 256 + low.toNat := by
  have hhigh := high.toNat_lt
  have hlow := low.toNat_lt
  exact UInt16.toNat_ofNat_of_lt' (by simp only [UInt16.size]; omega)

theorem octetPair_octets (high low : UInt8) :
    octetPair (high.toNat : Int) (low.toNat : Int) = .ok (pairGroup high low) := by
  have hhigh := high.toNat_lt
  have hlow := low.toNat_lt
  have hor : high.toNat * 256 ||| low.toNat = high.toNat * 256 + low.toNat := by
    rw [Nat.mul_comm, show 256 = 2 ^ 8 by decide, Nat.two_pow_add_eq_or_of_lt hlow]
  unfold octetPair pairGroup
  rw [if_neg (by omega), Int.toNat_natCast, Int.toNat_natCast, hor]
  exact if_pos (by omega)

theorem flipLocalBit_octet (octet : UInt8) :
    flipLocalBit (octet.toNat : Int) = ((octet ^^^ 2).toNat : Int) := by
  unfold flipLocalBit
  rw [if_neg (by omega), Int.toNat_natCast, UInt8.toNat_xor]
  rfl

def Hardware.address (h : Hardware) : V6 :=
  ⟨[0xFE80, 0, 0, 0, pairGroup (h.a ^^^ 2) h.b, pairGroup h.c 0xFF, pairGroup 0xFE h.d,
    pairGroup h.e h.f], none, rfl⟩

/-- **The octets make the address.** -/
theorem ofHardware_of_spelled {h : Hardware} {mac : String} (hmac : h.Spelled mac) :
    ofHardware mac = .ok h.address := by
  have hmiddle : octetPair (h.c.toNat : Int) 0xFF = .ok (pairGroup h.c 0xFF) :=
    octetPair_octets h.c 0xFF
  have hmiddle' : octetPair 0xFE (h.d.toNat : Int) = .ok (pairGroup 0xFE h.d) :=
    octetPair_octets 0xFE h.d
  unfold ofHardware
  rw [hardwareOctets_of_spelled hmac]
  unfold Hardware.octets
  show (do
    let g ← octetPair (flipLocalBit (h.a.toNat : Int)) (h.b.toNat : Int)
    let i ← octetPair (h.c.toNat : Int) 0xFF
    let j ← octetPair 0xFE (h.d.toNat : Int)
    let k ← octetPair (h.e.toNat : Int) (h.f.toNat : Int)
    Except.ok (⟨[0xFE80, 0, 0, 0, g, i, j, k], none, rfl⟩ : V6)) = _
  rw [flipLocalBit_octet, octetPair_octets, hmiddle, hmiddle', octetPair_octets]
  rfl

/-- The octets of the lower half of an address, the last of them first. -/
def Hardware.lower (h : Hardware) : List UInt8 :=
  [h.f, h.e, h.d, 0xFE, 0xFF, h.c, h.b, h.a ^^^ 2]

theorem value_address (h : Hardware) : h.address.value =
    0xFE80 * 2 ^ 112 + Nat.ofDigits 256 (h.lower.map UInt8.toNat) := by
  have hzero : (0 : UInt16).toNat = 0 := rfl
  have htop : (0xFE80 : UInt16).toNat = 0xFE80 := rfl
  have hff : (0xFF : UInt8).toNat = 0xFF := rfl
  have hfe : (0xFE : UInt8).toNat = 0xFE := rfl
  unfold V6.value Hardware.address Hardware.lower
  simp only [List.foldl_cons, List.foldl_nil, List.map_cons, List.map_nil, Nat.ofDigits_cons,
    Nat.ofDigits_nil, toNat_pairGroup, hzero, htop, hff, hfe]
  omega

theorem lower_lt (h : Hardware) : Nat.ofDigits 256 (h.lower.map UInt8.toNat) < 2 ^ 64 := by
  have hsmall : ∀ n ∈ h.lower.map UInt8.toNat, n < 256 := by
    intro n hn
    obtain ⟨octet, -, rfl⟩ := List.mem_map.mp hn
    exact octet.toNat_lt
  have hlt := Nat.ofDigits_lt_base_pow_length (by decide) hsmall
  rw [List.length_map, show h.lower.length = 8 from rfl] at hlt
  omega

theorem halves_address (h : Hardware) : h.address.value / 2 ^ 64 = 0xFE80 * 2 ^ 48 ∧
    h.address.value % 2 ^ 64 = Nat.ofDigits 256 (h.lower.map UInt8.toNat) := by
  have hlower := lower_lt h
  rw [value_address]
  omega

/-- **The octets are found again** in the address. -/
theorem hardware_address (h : Hardware) : h.address.hardware = h := by
  have hoctet (i : Nat) (octet : UInt8) (hi : h.address.value / 256 ^ i % 256 = octet.toNat) :
      h.address.octet i = octet := by
    unfold V6.octet
    rw [hi, UInt8.ofNat_toNat]
  have hvalue := value_address h
  unfold Hardware.lower at hvalue
  simp only [List.map_cons, List.map_nil, Nat.ofDigits_cons, Nat.ofDigits_nil,
    show (0xFF : UInt8).toNat = 0xFF from rfl, show (0xFE : UInt8).toNat = 0xFE from rfl] at hvalue
  have ha := (h.a ^^^ 2).toNat_lt
  have hb := h.b.toNat_lt
  have hc := h.c.toNat_lt
  have hd := h.d.toNat_lt
  have he := h.e.toNat_lt
  have hf := h.f.toNat_lt
  have hflip : h.a ^^^ 2 ^^^ 2 = h.a := by
    rw [UInt8.xor_assoc, UInt8.xor_self, UInt8.xor_zero]
  unfold V6.hardware
  rw [hoctet 7 (h.a ^^^ 2) (by omega), hoctet 6 h.b (by omega), hoctet 5 h.c (by omega),
    hoctet 2 h.d (by omega), hoctet 1 h.e (by omega), hoctet 0 h.f (by omega), hflip]

/-! ## Text -/

/-- The address is also what is read where `fe80::` stands before its last four groups. -/
theorem parse?_prefixed (h : Hardware) :
    V6.parse? ("fe80::" ++ V6.groupsText (h.address.groups.drop 4)).toList = some h.address := by
  have hfirst : V6.groupsText [0xFE80] = "fe80" := by decide
  have hroom : [(0xFE80 : UInt16)].length + (h.address.groups.drop 4).length < 8 := by
    show 1 + 4 < 8
    decide
  have hread := V6.parse?_gap hroom (rfl : h.address.groups = _)
  rw [hfirst] at hread
  exact hread

theorem linkLocal_eq {h : Hardware} {mac : String} (hmac : h.Spelled mac) :
    linkLocal mac = .ok h.address.text := by
  unfold linkLocal
  rw [ofHardware_of_spelled hmac]
  rfl

/-- **The link-local address of a hardware address.** The text is the canonical one of an address
whose upper half is `fe80::` and whose lower half holds the octets, the first with its second lowest
bit flipped, around `ff fe`. The text is read as this address, and so is `fe80::` with the last
four groups behind it; the hardware address is found again in it, so that no other one has the same
text. -/
theorem linkLocal_of_spelled {h : Hardware} {mac : String} (hmac : h.Spelled mac) :
    ∃ x text, linkLocal mac = .ok text ∧ x.scope = none ∧ V6.IsCanonical x.groups text ∧
      x.value / 2 ^ 64 = 0xFE80 * 2 ^ 48 ∧
      x.value % 2 ^ 64 = Nat.ofDigits 256
        ([h.f, h.e, h.d, 0xFE, 0xFF, h.c, h.b, h.a ^^^ 2].map UInt8.toNat) ∧
      V6.parse? text.toList = some x ∧
      V6.parse? ("fe80::" ++ V6.groupsText (x.groups.drop 4)).toList = some x ∧
      x.hardware = h ∧
      ∀ h' mac', Hardware.Spelled h' mac' → linkLocal mac' = .ok text → h' = h := by
  obtain ⟨hupper, hlower⟩ := halves_address h
  have hread : V6.parse? h.address.text.toList = some h.address := V6.parse?_text rfl
  have hcanonical : V6.IsCanonical h.address.groups h.address.text := by
    rw [V6.text_of_no_scope rfl]
    exact V6.isCanonical_compressed _
  refine ⟨h.address, h.address.text, linkLocal_eq hmac, rfl, hcanonical, hupper, hlower, hread,
    parse?_prefixed h, hardware_address h, fun h' mac' hmac' hsame => ?_⟩
  have htext : h'.address.text = h.address.text := by
    rw [linkLocal_eq hmac'] at hsame
    exact Except.ok.inj hsame
  have haddress : h'.address = h.address := by
    have hread' : V6.parse? h'.address.text.toList = some h'.address := V6.parse?_text rfl
    rw [htext, hread] at hread'
    exact (Option.some.inj hread').symm
  rw [← hardware_address h', haddress, hardware_address h]

/-- A first octet that is zero when its bit is flipped makes the gap longer; the digits are of
either case. -/
theorem linkLocal_of_spelled_example :
    Hardware.Spelled ⟨0x02, 0x00, 0x0A, 0x00, 0x00, 0x1F⟩ "02:00:0A:00:00:1f" ∧
      linkLocal "02:00:0A:00:00:1f" = .ok "fe80::aff:fe00:1f" ∧
      ∀ h' mac', Hardware.Spelled h' mac' → linkLocal mac' = .ok "fe80::aff:fe00:1f" →
        h' = ⟨0x02, 0x00, 0x0A, 0x00, 0x00, 0x1F⟩ := by
  have hspelled : Hardware.Spelled ⟨0x02, 0x00, 0x0A, 0x00, 0x00, 0x1F⟩ "02:00:0A:00:00:1f" := by
    have hoctet (octet : UInt8) (high low : Char)
        (h : IsDigit 16 high (octet.toNat / 16) ∧ IsDigit 16 low (octet.toNat % 16)) :
        IsOctetText octet [high, low] := .intro h.1 h.2
    refine ⟨[['0', '2'], ['0', '0'], ['0', 'A'], ['0', '0'], ['0', '0'], ['1', 'f']], ?_, by decide⟩
    exact .cons (hoctet _ _ _ (by decide)) (.cons (hoctet _ _ _ (by decide))
      (.cons (hoctet _ _ _ (by decide)) (.cons (hoctet _ _ _ (by decide))
        (.cons (hoctet _ _ _ (by decide)) (.cons (hoctet _ _ _ (by decide)) .nil)))))
  obtain ⟨x, text, hlink, -, -, -, -, -, -, -, honly⟩ := linkLocal_of_spelled hspelled
  have htext : text = "fe80::aff:fe00:1f" := by
    have hshown : linkLocal "02:00:0A:00:00:1f" = .ok "fe80::aff:fe00:1f" := by decide
    exact Except.ok.inj (hlink.symm.trans hshown)
  subst htext
  exact ⟨hspelled, hlink, honly⟩

end Honeypot.Address
