import Mathlib.Data.List.Forall2
import Honeypot.Shell.Expansion

/-!
# Spellings

A character can be spelled in several ways: as itself, by the digits of its code, by a letter that
stands for it. No spelling takes anything of what follows it, nor leaves anything of itself
(`decodeChars_spelling`). So a text that is spelled character by character, each in a way of its
own, is decoded to its characters, and to those before the end where an end of all output stands
between two of them (`decodeEscapes_spelled`).
-/

namespace Honeypot.Shell

/-! ## Spellings of a character -/

/-- Whether a character is the digit of a value in a base, in either case. -/
def IsDigit (base : Nat) (d : Char) (value : Nat) : Prop :=
  value < base ∧ (d = value.digitChar ∨ d = value.digitChar.toUpper)

instance (base : Nat) (d : Char) (value : Nat) : Decidable (IsDigit base d value) :=
  inferInstanceAs (Decidable (_ ∧ _))

inductive Spells (c : Char) : List Char → Prop where
  | itself (h : c ≠ '\\') : Spells c [c]
  /-- Two hexadecimal digits. -/
  | hex {d₁ d₀ : Char} {n₁ n₀ : Nat} (h₁ : IsDigit 16 d₁ n₁) (h₀ : IsDigit 16 d₀ n₀)
      (hcode : n₁ * 16 + n₀ = c.toNat) : Spells c ['\\', 'x', d₁, d₀]
  /-- Three octal digits, of a number that is taken modulo 256. -/
  | octal {d₂ d₁ d₀ : Char} {n₂ n₁ n₀ : Nat} (h₂ : IsDigit 8 d₂ n₂) (h₁ : IsDigit 8 d₁ n₁)
      (h₀ : IsDigit 8 d₀ n₀) (hcode : (n₂ * 64 + n₁ * 8 + n₀) % 256 = c.toNat) :
      Spells c ['\\', '0', d₂, d₁, d₀]
  | letter {l : Char} (h : letterEscape? l = some c) : Spells c ['\\', l]

theorem isDigit_digitChar {base value : Nat} (h : value < base) :
    IsDigit base value.digitChar value := ⟨h, .inl rfl⟩

theorem spells_hex {c : Char} (h : c.toNat < 256) :
    Spells c ['\\', 'x', (c.toNat / 16).digitChar, (c.toNat % 16).digitChar] :=
  .hex (isDigit_digitChar (by omega)) (isDigit_digitChar (by omega)) (by omega)

/-- A character with a code below 256 has its three octal digits as a spelling. -/
theorem spells_octal {c : Char} (h : c.toNat < 256) :
    Spells c ['\\', '0', (c.toNat / 64).digitChar, (c.toNat / 8 % 8).digitChar,
      (c.toNat % 8).digitChar] :=
  .octal (isDigit_digitChar (by omega)) (isDigit_digitChar (by omega))
    (isDigit_digitChar (by omega)) (by omega)

/-! ## Reading digits -/

theorem hexValue?_of_isDigit {base value : Nat} {d : Char} (hbase : base ≤ 16)
    (h : IsDigit base d value) : Text.hexValue? d = some value := by
  have hall : ∀ value < 16, Text.hexValue? value.digitChar = some value ∧
      Text.hexValue? value.digitChar.toUpper = some value := by decide
  obtain ⟨hvalue, rfl | rfl⟩ := h
  · exact (hall value (by omega)).1
  · exact (hall value (by omega)).2

/-- A digit is read if there is room for one more. -/
theorem leadingDigits_cons {base value : Nat} {d : Char} (hbase : base ≤ 16)
    (h : IsDigit base d value) (left before : Nat) (rest : List Char) :
    leadingDigits base (left + 1) before (d :: rest) =
      leadingDigits base left (before * base + value) rest := by
  rw [leadingDigits]
  · exact if_pos h.1
  · exact hexValue?_of_isDigit hbase h

theorem leadingDigits_zero (base value : Nat) (cs : List Char) :
    leadingDigits base 0 value cs = (value, cs) := by
  cases cs with
  | nil => rfl
  | cons c rest =>
    rw [leadingDigits]
    exact fun left _ hroom _ => Nat.succ_ne_zero left hroom.symm

/-! ## Decoding -/

section Decoding

variable {c d : Char} {text rest more : List Char}

theorem decodeChars_plain (h : c ≠ '\\') :
    decodeChars (c :: rest) = (c :: (decodeChars rest).1, (decodeChars rest).2) := by
  rw [decodeChars, if_neg h]

theorem decodeChars_escape (h : escape? rest = some (.char d, more)) :
    decodeChars ('\\' :: rest) = (d :: (decodeChars more).1, (decodeChars more).2) := by
  rw [decodeChars, if_pos rfl]
  split
  · next heq =>
    cases h.symm.trans heq
    rfl
  · next heq => cases h.symm.trans heq
  · next heq => cases h.symm.trans heq

theorem decodeChars_stop (rest : List Char) : decodeChars ('\\' :: 'c' :: rest) = ([], true) := by
  have hstop : escape? ('c' :: rest) = some (.stop, rest) := rfl
  rw [decodeChars, if_pos rfl]
  split
  · next heq => cases hstop.symm.trans heq
  · rfl
  · next heq => cases hstop.symm.trans heq

theorem escape?_hex {d₁ d₀ : Char} {n₁ n₀ : Nat} (h₁ : IsDigit 16 d₁ n₁) (h₀ : IsDigit 16 d₀ n₀)
    (rest : List Char) :
    escape? ('x' :: d₁ :: d₀ :: rest) = some (.char (Char.ofNat (n₁ * 16 + n₀)), rest) := by
  have hdigits : leadingDigits 16 2 0 (d₁ :: d₀ :: rest) = (n₁ * 16 + n₀, rest) := by
    rw [leadingDigits_cons (Nat.le_refl 16) h₁, leadingDigits_cons (Nat.le_refl 16) h₀,
      leadingDigits_zero, Nat.zero_mul, Nat.zero_add]
  have hshorter : rest.length < (d₁ :: d₀ :: rest).length := by
    rw [List.length_cons, List.length_cons]
    omega
  unfold escape?
  dsimp only
  rw [if_pos rfl, hdigits]
  exact if_pos hshorter

theorem escape?_octal {d₂ d₁ d₀ : Char} {n₂ n₁ n₀ : Nat} (h₂ : IsDigit 8 d₂ n₂)
    (h₁ : IsDigit 8 d₁ n₁) (h₀ : IsDigit 8 d₀ n₀) (rest : List Char) :
    escape? ('0' :: d₂ :: d₁ :: d₀ :: rest) =
      some (.char (Char.ofNat ((n₂ * 64 + n₁ * 8 + n₀) % 256)), rest) := by
  have hbase : 8 ≤ 16 := by decide
  have hvalue : ((0 * 8 + n₂) * 8 + n₁) * 8 + n₀ = n₂ * 64 + n₁ * 8 + n₀ := by omega
  have hdigits : leadingDigits 8 3 0 (d₂ :: d₁ :: d₀ :: rest) =
      (n₂ * 64 + n₁ * 8 + n₀, rest) := by
    rw [leadingDigits_cons hbase h₂, leadingDigits_cons hbase h₁, leadingDigits_cons hbase h₀,
      leadingDigits_zero, hvalue]
  unfold escape?
  dsimp only
  rw [if_neg (by decide), if_pos rfl, hdigits]

theorem escape?_letter {l : Char} (h : letterEscape? l = some c) (rest : List Char) :
    escape? (l :: rest) = some (.char c, rest) := by
  have hne : l ≠ 'x' ∧ l ≠ '0' ∧ l ≠ 'c' := by
    refine ⟨?_, ?_, ?_⟩ <;> (rintro rfl; cases h)
  unfold escape?
  dsimp only
  rw [if_neg hne.1, if_neg hne.2.1, if_neg hne.2.2, h]
  rfl

/-- **A spelling is decoded to its character** whatever follows: it takes nothing of that, and
leaves nothing of itself. -/
theorem decodeChars_spelling (h : Spells c text) (rest : List Char) :
    decodeChars (text ++ rest) = (c :: (decodeChars rest).1, (decodeChars rest).2) := by
  cases h with
  | itself h => exact decodeChars_plain h
  | hex h₁ h₀ hcode =>
    refine decodeChars_escape ((escape?_hex h₁ h₀ rest).trans ?_)
    rw [hcode, Char.ofNat_toNat]
  | octal h₂ h₁ h₀ hcode =>
    refine decodeChars_escape ((escape?_octal h₂ h₁ h₀ rest).trans ?_)
    rw [hcode, Char.ofNat_toNat]
  | letter h => exact decodeChars_escape (escape?_letter h rest)

end Decoding

/-! ## Spelled texts -/

variable {cs : List Char} {texts : List (List Char)}

theorem decodeChars_spelled_append (h : List.Forall₂ Spells cs texts) (rest : List Char) :
    decodeChars (texts.flatten ++ rest) = (cs ++ (decodeChars rest).1, (decodeChars rest).2) := by
  induction h with
  | nil => rfl
  | cons hfirst _ ih =>
    rw [List.flatten_cons, List.append_assoc, decodeChars_spelling hfirst, ih]
    rfl

theorem decodeEscapes_ofList (cs : List Char) :
    decodeEscapes (String.ofList cs) = (String.ofList (decodeChars cs).1, (decodeChars cs).2) := by
  unfold decodeEscapes
  rw [String.toList_ofList]

/-- **Decoding undoes spelling**: a text that is spelled character by character is decoded to its
characters, and with an end of all output behind some of them to those and no others. -/
theorem decodeEscapes_spelled (h : List.Forall₂ Spells cs texts) :
    decodeEscapes (String.ofList texts.flatten) = (String.ofList cs, false) ∧
    ∀ k, decodeEscapes
        (String.ofList ((texts.take k).flatten ++ '\\' :: 'c' :: (texts.drop k).flatten)) =
      (String.ofList (cs.take k), true) := by
  constructor
  · have hdecode := decodeChars_spelled_append h []
    rw [List.append_nil] at hdecode
    rw [decodeEscapes_ofList, hdecode, decodeChars, List.append_nil]
  · intro k
    rw [decodeEscapes_ofList, decodeChars_spelled_append (List.forall₂_take k h),
      decodeChars_stop, List.append_nil]

/-- A code before a digit that it could take, a letter behind its own backslash, and an end of all
output before the last character. -/
theorem decodeEscapes_spelled_example :
    List.Forall₂ Spells ['A', '1', '\\', '\n', '7']
        ["\\x41".toList, "1".toList, "\\\\".toList, "\\0012".toList, "7".toList] ∧
      decodeEscapes "\\x411\\\\\\00127" = ("A1\\\n7", false) ∧
      decodeEscapes "\\x411\\\\\\0012\\c7" = ("A1\\\n", true) := by
  have hspelled : List.Forall₂ Spells ['A', '1', '\\', '\n', '7']
      ["\\x41".toList, "1".toList, "\\\\".toList, "\\0012".toList, "7".toList] :=
    .cons (spells_hex (by decide)) (.cons (.itself (by decide)) (.cons (.letter rfl)
      (.cons (spells_octal (by decide)) (.cons (.itself (by decide)) .nil))))
  obtain ⟨hwhole, hcut⟩ := decodeEscapes_spelled hspelled
  exact ⟨hspelled, hwhole, hcut 4⟩

end Honeypot.Shell
