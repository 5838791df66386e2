import Mathlib.Algebra.Group.Nat.Defs
import Mathlib.Data.List.TakeWhile
import Mathlib.Data.Nat.Digits.Defs
import Honeypot.Json.Reader
import Honeypot.Json.Writer
import Honeypot.Proofs.Digits

/-!
# Values read back

A value that can be written on a line is read back as it was, whatever characters its texts hold, by
a reader that has the bounds of the writer (`read_line`). Numbers with a fraction are left out. A
line holds visible characters of ASCII and blanks only (`all_chars`), so that nothing in it breaks
it.
-/

namespace Honeypot.Json

/-! ## Plain values -/

/-- Whether there are no numbers with a fraction in a value, and every name in an object once. -/
inductive Plain : Json → Prop
  | null : Plain .null
  | bool (b : Bool) : Plain (.bool b)
  | int (n : Int) : Plain (.int n)
  | text (s : String) : Plain (.text s)
  | list {items : List Json} (h : ∀ item ∈ items, Plain item) : Plain (.list items)
  | object {fields : List (String × Json)} (hnames : (fields.map Prod.fst).Nodup)
      (h : ∀ field ∈ fields, Plain field.2) : Plain (.object fields)

/-! ## Texts -/

/-- The last hexadecimal digits of a number, with zeros in front. -/
def hexNumeral : Nat → Nat → List Char
  | 0, _ => []
  | width + 1, n => hexNumeral width (n / 16) ++ [(n % 16).digitChar]

theorem hexNumeral_zero (width : Nat) : hexNumeral width 0 = List.replicate width '0' := by
  induction width with
  | zero => rfl
  | succ width ih =>
    rw [hexNumeral, Nat.zero_div, ih, List.replicate_succ']
    rfl

theorem replicate_append_toDigits {width n : Nat} (hn : n < 16 ^ (width + 1)) :
    List.replicate (width + 1 - (Nat.toDigits 16 n).length) '0' ++ Nat.toDigits 16 n =
      hexNumeral (width + 1) n := by
  induction width generalizing n with
  | zero =>
    have hsmall : n < 16 := by omega
    rw [Nat.toDigits_of_lt_base hsmall, hexNumeral, hexNumeral, Nat.mod_eq_of_lt hsmall]
    rfl
  | succ width ih =>
    by_cases hsmall : n < 16
    · rw [Nat.toDigits_of_lt_base hsmall, hexNumeral, Nat.div_eq_of_lt hsmall, hexNumeral_zero,
        Nat.mod_eq_of_lt hsmall]
      rfl
    · have hrest : n / 16 < 16 ^ (width + 1) := by
        rw [Nat.div_lt_iff_lt_mul (by decide), ← Nat.pow_succ]
        exact hn
      rw [Nat.toDigits_of_base_le (by decide) (by omega), hexNumeral, ← ih hrest,
        List.length_append, List.length_singleton, Nat.add_sub_add_right, List.append_assoc]

theorem unitEscape_eq {n : Nat} (h : n < 65536) : unitEscape n = ['\\', 'u',
    (n / 16 / 16 / 16 % 16).digitChar, (n / 16 / 16 % 16).digitChar, (n / 16 % 16).digitChar,
    (n % 16).digitChar] := by
  unfold unitEscape Text.fillLeft Text.copies Text.inBase
  rw [String.toList_append, String.toList_ofList, String.toList_ofList, String.length_ofList,
    replicate_append_toDigits h]
  rfl

theorem unit?_digitChar {n : Nat} (h : n < 65536) : unit? (n / 16 / 16 / 16 % 16).digitChar
    (n / 16 / 16 % 16).digitChar (n / 16 % 16).digitChar (n % 16).digitChar = some n := by
  unfold unit?
  rw [Text.hexValue?_digitChar _ (by omega), Text.hexValue?_digitChar _ (by omega),
    Text.hexValue?_digitChar _ (by omega), Text.hexValue?_digitChar _ (by omega)]
  change some _ = some n
  rw [Option.some.injEq]
  omega

/-- A unit that is not the first of a pair is a character of its own, whatever follows. -/
theorem string?_unitEscape {n : Nat} (h : n < 65536) (hsingle : n < 0xD800 ∨ 0xDC00 ≤ n)
    (done rest : List Char) :
    string? done (unitEscape n ++ rest) = string? (Char.ofNat n :: done) rest := by
  rw [unitEscape_eq h]
  by_cases hpair : ∃ e f g h more, rest = '\\' :: 'u' :: e :: f :: g :: h :: more
  · obtain ⟨e, f, g, h', more, rfl⟩ := hpair
    simp only [List.cons_append, List.nil_append]
    rw [string?.eq_3, unit?_digitChar h]
    cases unit? e f g h' with
    | none => rfl
    | some low =>
      have hhigh : ¬ ((decide (0xD800 ≤ n) && decide (n < 0xDC00) && decide (0xDC00 ≤ low) &&
          decide (low < 0xE000)) = true) := by
        simp only [Bool.and_eq_true, decide_eq_true_eq]
        omega
      dsimp only
      rw [if_neg hhigh]
  · simp only [List.cons_append, List.nil_append]
    rw [string?.eq_4 _ _ _ _ _ _ fun e f g h more hrest => hpair ⟨e, f, g, h, more, hrest⟩,
      unit?_digitChar h]

theorem string?_pair {high low : Nat} (hhigh : 0xD800 ≤ high ∧ high < 0xDC00)
    (hlow : 0xDC00 ≤ low ∧ low < 0xE000) (done rest : List Char) :
    string? done (unitEscape high ++ unitEscape low ++ rest) =
      string? (Char.ofNat (65536 + (high - 0xD800) * 1024 + (low - 0xDC00)) :: done) rest := by
  rw [unitEscape_eq (by omega), unitEscape_eq (by omega)]
  simp only [List.cons_append, List.nil_append]
  rw [string?.eq_3, unit?_digitChar (by omega), unit?_digitChar (by omega)]
  dsimp only
  rw [if_pos (by simp only [Bool.and_eq_true, decide_eq_true_eq]; omega)]

theorem string?_escape {e c : Char} (h : escape? e = some c) (done rest : List Char) :
    string? done ('\\' :: e :: rest) = string? (c :: done) rest := by
  have hne : e ≠ 'u' := by
    rintro rfl
    cases h
  rw [string?.eq_5 _ _ _ (fun _ _ _ _ _ _ _ _ _ hu => absurd hu hne)
    (fun _ _ _ _ _ hu => absurd hu hne), h]

theorem string?_plain {c : Char} (hquote : c ≠ '"') (hslash : c ≠ '\\') (h : ¬ c.toNat < 32)
    (done rest : List Char) : string? done (c :: rest) = string? (c :: done) rest := by
  rw [string?.eq_6 _ _ _ (fun hc => absurd hc hquote)
    (fun _ _ _ _ _ _ _ _ _ hc => absurd hc hslash) (fun _ _ _ _ _ hc => absurd hc hslash)
    (fun _ _ hc => absurd hc hslash), if_neg h]

/-- Whether a character is a visible one of ASCII or a blank. -/
def isVisible (c : Char) : Bool := 32 ≤ c.toNat && c.toNat < 127

/-- **How a character stands between quotes**: behind a backslash or as its name there, as it is, as
a unit or as a pair of units. -/
theorem escaped_cases (c : Char) :
    (∃ e, escape? e = some c ∧ isVisible e = true ∧ escaped c = ['\\', e]) ∨
      (c ≠ '"' ∧ c ≠ '\\' ∧ isVisible c = true ∧ escaped c = [c]) ∨
      (c.toNat < 65536 ∧ escaped c = unitEscape c.toNat) ∨
      (65536 ≤ c.toNat ∧ escaped c = unitEscape (0xD800 + (c.toNat - 65536) / 1024) ++
        unitEscape (0xDC00 + (c.toNat - 65536) % 1024)) := by
  have hnamed {e : Char} {n : Nat} (hn : c.toNat = n) (h : escape? e = some (Char.ofNat n)) :
      escape? e = some c := by rw [h, ← hn, Char.ofNat_toNat]
  unfold escaped
  dsimp only
  by_cases hquote : c = '"'
  · exact .inl ⟨'"', by rw [hquote]; rfl, rfl, if_pos hquote⟩
  rw [if_neg hquote]
  by_cases hslash : c = '\\'
  · exact .inl ⟨'\\', by rw [hslash]; rfl, rfl, if_pos hslash⟩
  rw [if_neg hslash]
  by_cases hfeed : c = '\n'
  · exact .inl ⟨'n', by rw [hfeed]; rfl, rfl, if_pos hfeed⟩
  rw [if_neg hfeed]
  by_cases hreturn : c = '\r'
  · exact .inl ⟨'r', by rw [hreturn]; rfl, rfl, if_pos hreturn⟩
  rw [if_neg hreturn]
  by_cases htab : c = '\t'
  · exact .inl ⟨'t', by rw [htab]; rfl, rfl, if_pos htab⟩
  rw [if_neg htab]
  by_cases hpage : c.toNat = 12
  · exact .inl ⟨'f', hnamed hpage rfl, rfl, if_pos hpage⟩
  rw [if_neg hpage]
  by_cases hbackspace : c.toNat = 8
  · exact .inl ⟨'b', hnamed hbackspace rfl, rfl, if_pos hbackspace⟩
  rw [if_neg hbackspace]
  refine .inr ?_
  by_cases hplain : 32 ≤ c.toNat ∧ c.toNat < 127
  · refine .inl ⟨hquote, hslash, ?_, if_pos hplain⟩
    rw [isVisible, decide_eq_true hplain.1, decide_eq_true hplain.2]
    rfl
  rw [if_neg hplain]
  by_cases hunit : c.toNat < 65536
  · exact .inr (.inl ⟨hunit, if_pos hunit⟩)
  · exact .inr (.inr ⟨not_lt.mp hunit, if_neg hunit⟩)

theorem bounds_of_isVisible {c : Char} (h : isVisible c = true) :
    32 ≤ c.toNat ∧ c.toNat < 127 := by
  unfold isVisible at h
  rwa [Bool.and_eq_true, decide_eq_true_iff, decide_eq_true_iff] at h

/-- **A character reads back from the way it stands between quotes.** -/
theorem string?_escaped (c : Char) (done rest : List Char) :
    string? done (escaped c ++ rest) = string? (c :: done) rest := by
  have hscalar : c.toNat < 0xD800 ∨ 0xDFFF < c.toNat ∧ c.toNat < 0x110000 := c.valid
  have hback : Char.ofNat c.toNat = c := Char.ofNat_toNat c
  obtain ⟨e, he, -, heq⟩ | ⟨hquote, hslash, hvisible, heq⟩ | ⟨hunit, heq⟩ | ⟨hpair, heq⟩ :=
    escaped_cases c
  · rw [heq]
    exact string?_escape he done rest
  · have hbounds := bounds_of_isVisible hvisible
    rw [heq]
    exact string?_plain hquote hslash (by omega) done rest
  · rw [heq, string?_unitEscape hunit (by omega), hback]
  · have hwhole : 65536 + (0xD800 + (c.toNat - 65536) / 1024 - 0xD800) * 1024 +
        (0xDC00 + (c.toNat - 65536) % 1024 - 0xDC00) = c.toNat := by omega
    rw [heq, string?_pair (by omega) (by omega), hwhole, hback]

theorem string?_quoted (cs done rest : List Char) :
    string? done (cs.flatMap escaped ++ '"' :: rest) = some (done.reverse ++ cs, rest) := by
  induction cs generalizing done with
  | nil => rw [List.flatMap_nil, List.nil_append, string?.eq_2, List.append_nil]
  | cons c cs ih =>
    rw [List.flatMap_cons, List.append_assoc, string?_escaped, ih, List.reverse_cons,
      List.append_assoc]
    rfl

/-! ## Numbers and words -/

/-- Whether a text can stand behind a value: it is empty or goes on with the next member or with
the end of a list or an object. -/
def Follows (rest : List Char) : Prop :=
  ∀ c more, rest = c :: more → c = ',' ∨ c = ']' ∨ c = '\x7d'

theorem Follows.nil : Follows [] := nofun

theorem Follows.cons {c : Char} (h : c = ',' ∨ c = ']' ∨ c = '\x7d') (more : List Char) :
    Follows (c :: more) := by
  rintro _ _ ⟨⟩
  exact h

theorem takeWhile_digits {digits rest : List Char} (hdigits : ∀ c ∈ digits, c.isDigit = true)
    (hrest : Follows rest) : (digits ++ rest).takeWhile Char.isDigit = digits := by
  rw [List.takeWhile_append_of_pos hdigits]
  cases rest with
  | nil => exact List.append_nil _
  | cons c more =>
    have hc : c.isDigit = false := by
      obtain rfl | rfl | rfl := hrest c more rfl <;> decide
    rw [List.takeWhile_cons_of_neg (by simp [hc]), List.append_nil]

theorem exists_toDigits_eq (n : Nat) : ∃ c cs, Nat.toDigits 10 n = c :: cs ∧ c.isDigit = true ∧
    (c = '0' → n = 0) := by
  induction n using Nat.strongRecOn with
  | ind n ih =>
    by_cases hsmall : n < 10
    · have hdigit : ∀ k < 10, k.digitChar.isDigit = true ∧ (k.digitChar = '0' → k = 0) := by decide
      exact ⟨_, [], Nat.toDigits_of_lt_base hsmall, hdigit n hsmall⟩
    · obtain ⟨c, cs, hdigits, hc, hzero⟩ := ih (n / 10) (by omega)
      refine ⟨c, cs ++ [(n % 10).digitChar], ?_, hc, fun h => ?_⟩
      · rw [Nat.toDigits_of_base_le (by decide) (by omega), hdigits, List.cons_append]
      · have := hzero h
        omega

theorem wholeDigits_toDigits (n : Nat) {rest : List Char} (hrest : Follows rest) :
    wholeDigits (Nat.toDigits 10 n ++ rest) = Nat.toDigits 10 n := by
  have hall : ∀ c ∈ Nat.toDigits 10 n, c.isDigit = true :=
    fun c hc => Nat.isDigit_of_mem_toDigits (by decide) (by decide) hc
  obtain ⟨c, cs, hdigits, -, hzero⟩ := exists_toDigits_eq n
  by_cases hc : c = '0'
  · rw [hzero hc]
    rfl
  · have hstart : wholeDigits (c :: (cs ++ rest)) =
        (c :: (cs ++ rest)).takeWhile Char.isDigit := by
      unfold wholeDigits
      split
      · next heq => exact absurd (List.cons.inj heq).1 hc
      · rfl
    rw [hdigits, List.cons_append, hstart, ← List.cons_append, takeWhile_digits (hdigits ▸ hall)
      hrest]

theorem Follows.no_fraction {rest : List Char} (h : Follows rest) :
    placeDigits rest = [] ∧ exponentChars rest = [] := by
  cases rest with
  | nil => exact ⟨rfl, rfl⟩
  | cons c more => obtain rfl | rfl | rfl := h c more rfl <;> exact ⟨rfl, rfl⟩

theorem runValue_toDigits (n : Nat) : Number.runValue (Nat.toDigits 10 n) = n := by
  have hfold : Number.runValue (Nat.toDigits 10 n) =
      Nat.ofDigitChars 10 (Nat.toDigits 10 n) 0 := by
    unfold Number.runValue Nat.ofDigitChars
    simp only [Nat.mul_comm]
    rfl
  rw [hfold, Nat.ofDigitChars_ten_toDigits]

theorem magnitude?_toDigits {n : Nat}
    (hshort : (Nat.toDigits 10 n).length ≤ Number.maxDigits) (negative : Bool) {rest : List Char}
    (hrest : Follows rest) :
    magnitude? negative (Nat.toDigits 10 n ++ rest) =
      some (.int (if negative then -(n : Int) else n), rest) := by
  have hne : (Nat.toDigits 10 n).isEmpty = false := by
    rw [List.isEmpty_eq_false_iff]
    exact Nat.toDigits_ne_nil
  unfold magnitude?
  simp only [wholeDigits_toDigits n hrest, List.drop_left, hrest.no_fraction, hne,
    runValue_toDigits, List.isEmpty_nil, List.length_nil, List.drop_zero, Bool.and_self, if_true,
    Bool.false_eq_true, if_false, not_lt.mpr hshort]

theorem after?_append (word : String) (rest : List Char) :
    after? word (word.toList ++ rest) = some rest := by
  unfold after?
  rw [if_pos (List.isPrefixOf_iff_prefix.mpr (List.prefix_append _ _)), ← String.length_toList,
    List.drop_left]

theorem after?_of_ne {word : String} {w c : Char} {ws cs : List Char}
    (hword : word.toList = w :: ws) (h : w ≠ c) : after? word (c :: cs) = none := by
  unfold after?
  rw [if_neg]
  rw [hword, List.isPrefixOf_iff_prefix]
  exact fun hprefix => h (List.cons_prefix_cons.mp hprefix).1

/-- Whether a character can be the first one of a number. -/
def beginsNumber (c : Char) : Bool := c.isDigit || c == '-'

theorem ne_of_beginsNumber {c d : Char} (hc : beginsNumber c = true)
    (hd : beginsNumber d = false) : d ≠ c := by
  rintro rfl
  rw [hc] at hd
  cases hd

theorem simple?_eq_number? {c : Char} {cs : List Char}
    (hc : beginsNumber c = true) (hminus : c = '-' → ∃ d ds, cs = d :: ds ∧ d.isDigit = true) :
    simple? (c :: cs) = number? (c :: cs) := by
  have hinfinity : after? "-Infinity" (c :: cs) = none := by
    by_cases hsign : c = '-'
    · obtain ⟨d, ds, rfl, hd⟩ := hminus hsign
      unfold after?
      rw [if_neg]
      rw [List.isPrefixOf_iff_prefix]
      intro hprefix
      have hsecond : 'I' = d :=
        (List.cons_prefix_cons.mp (List.cons_prefix_cons.mp hprefix).2).1
      rw [← hsecond] at hd
      cases hd
    · exact after?_of_ne rfl (Ne.symm hsign)
  unfold simple?
  rw [after?_of_ne (w := 'n') rfl (ne_of_beginsNumber hc rfl),
    after?_of_ne (w := 't') rfl (ne_of_beginsNumber hc rfl),
    after?_of_ne (w := 'f') rfl (ne_of_beginsNumber hc rfl),
    after?_of_ne (w := 'N') rfl (ne_of_beginsNumber hc rfl),
    after?_of_ne (w := 'I') rfl (ne_of_beginsNumber hc rfl), hinfinity]

theorem toList_ofInt (n : Int) : (Text.ofInt n).toList =
    if n < 0 then '-' :: Nat.toDigits 10 n.natAbs else Nat.toDigits 10 n.natAbs := by
  cases n with
  | ofNat n => exact String.toList_ofList
  | negSucc n =>
    unfold Text.ofInt Text.ofNat Text.inBase
    rw [if_pos (Int.negSucc_lt_zero n), String.toList_append]
    exact congrArg ('-' :: ·) String.toList_ofList

theorem exists_ofInt_eq (n : Int) :
    ∃ c cs, (Text.ofInt n).toList = c :: cs ∧ beginsNumber c = true := by
  obtain ⟨c, cs, hdigits, hc, -⟩ := exists_toDigits_eq n.natAbs
  rw [toList_ofInt, hdigits]
  split
  · exact ⟨_, _, rfl, rfl⟩
  · exact ⟨c, cs, rfl, Bool.or_eq_true_iff.mpr (.inl hc)⟩

theorem simple?_ofInt (n : Int)
    (hshort : (Nat.toDigits 10 n.natAbs).length ≤ Number.maxDigits) {rest : List Char}
    (hrest : Follows rest) :
    simple? ((Text.ofInt n).toList ++ rest) = some (.int n, rest) := by
  obtain ⟨c, cs, hdigits, hc, -⟩ := exists_toDigits_eq n.natAbs
  rw [toList_ofInt]
  by_cases hneg : n < 0
  · rw [if_pos hneg, List.cons_append,
      simple?_eq_number? rfl fun _ => ⟨c, cs ++ rest, by rw [hdigits]; rfl, hc⟩, number?,
      magnitude?_toDigits hshort true hrest, if_pos rfl]
    congr 3
    omega
  · have hsign : c ≠ '-' := by
      rintro rfl
      cases hc
    have hplain : number? (c :: (cs ++ rest)) = magnitude? false (c :: (cs ++ rest)) := by
      unfold number?
      split
      · next heq => exact absurd (List.cons.inj heq).1 hsign
      · rfl
    have hmagnitude := magnitude?_toDigits hshort false hrest
    rw [if_neg hneg]
    rw [hdigits, List.cons_append] at hmagnitude ⊢
    rw [simple?_eq_number? (Bool.or_eq_true_iff.mpr (.inl hc)) fun h => absurd h hsign, hplain,
      hmagnitude, if_neg Bool.false_ne_true]
    congr 3
    omega

theorem simple?_null (rest : List Char) :
    simple? ("null".toList ++ rest) = some (.null, rest) := by
  unfold simple?
  rw [after?_append]

theorem simple?_bool (b : Bool) (rest : List Char) :
    simple? ((if b then "true" else "false").toList ++ rest) = some (.bool b, rest) := by
  have hnone {word : String} (text : String) {w c : Char} {ws cs : List Char}
      (hword : word.toList = w :: ws) (htext : text.toList = c :: cs) (hne : w ≠ c) :
      after? word (text.toList ++ rest) = none := by
    rw [htext]
    exact after?_of_ne hword hne
  unfold simple?
  cases b with
  | true => rw [if_pos rfl, hnone "true" (w := 'n') rfl rfl (by decide), after?_append]
  | false =>
    rw [if_neg Bool.false_ne_true, hnone "false" (w := 'n') rfl rfl (by decide),
      hnone "false" (w := 't') rfl rfl (by decide), after?_append]

/-! ## Values -/

/-- Whether a character can be the first one of a value. -/
def Begins (c : Char) : Prop := isSpace c = false ∧ c ≠ ']'

theorem exists_chars_eq {v : Json} (h : Plain v) : ∃ c cs, chars v = c :: cs ∧ Begins c := by
  cases h with
  | null => exact ⟨'n', _, rfl, by unfold Begins; decide⟩
  | bool b => cases b <;> exact ⟨_, _, rfl, by unfold Begins; decide⟩
  | int n =>
    obtain ⟨c, cs, hn, hc⟩ := exists_ofInt_eq n
    have hne {d : Char} (hd : beginsNumber d = false) : c ≠ d := (ne_of_beginsNumber hc hd).symm
    refine ⟨c, cs, hn, ?_, hne rfl⟩
    unfold isSpace
    rw [beq_false_of_ne (hne rfl), beq_false_of_ne (hne rfl), beq_false_of_ne (hne rfl),
      beq_false_of_ne (hne rfl)]
    rfl
  | text s => exact ⟨'"', _, rfl, by unfold Begins; decide⟩
  | list => exact ⟨'[', _, rfl, by unfold Begins; decide⟩
  | object => exact ⟨'\x7b', _, rfl, by unfold Begins; decide⟩

theorem skip_cons {c : Char} (h : isSpace c = false) (cs : List Char) :
    skip (c :: cs) = c :: cs := List.dropWhile_cons_of_neg (by simp [h])

theorem skip_blank (cs : List Char) : skip (' ' :: cs) = skip cs := rfl

/-- Whether a value that stands at the start of a text is read up to its end, if it can be written
and there are more steps than characters. -/
def ReadsBack (v : Json) : Prop :=
  ∀ {room steps : Nat} {rest : List Char}, v.fits room = true → (chars v).length < steps →
    Follows rest → value room steps (chars v ++ rest) = .ok (v, rest)

variable {room steps : Nat} {rest : List Char}

theorem value_simple {c : Char} {cs : List Char} (hc : c ≠ '"' ∧ c ≠ '[' ∧ c ≠ '\x7b') :
    value room (steps + 1) (c :: cs) = orMalformed (simple? (c :: cs)) :=
  value.eq_7 _ _ _ (fun _ h => hc.1 (List.cons.inj h).1)
    (fun _ _ h => hc.2.1 (List.cons.inj h).1) (fun _ _ h => hc.2.2 (List.cons.inj h).1)
    (fun _ _ _ h => hc.2.1 (List.cons.inj h).1) (fun _ _ _ h => hc.2.2 (List.cons.inj h).1)

theorem quoted_append (cs rest : List Char) :
    quoted cs ++ rest = '"' :: (cs.flatMap escaped ++ '"' :: rest) := by
  unfold quoted
  rw [List.append_assoc]
  rfl

theorem itemChars_cons_cons (item second : Json) (items : List Json) :
    itemChars (item :: second :: items) =
      chars item ++ ',' :: ' ' :: itemChars (second :: items) := by
  rw [itemChars.eq_3 _ _ (List.cons_ne_nil _ _), List.append_assoc]
  rfl

theorem exists_itemChars_eq {item : Json} (h : Plain item) (items : List Json) :
    ∃ c cs, itemChars (item :: items) = c :: cs ∧ Begins c := by
  obtain ⟨c, cs, hitem, hc⟩ := exists_chars_eq h
  cases items with
  | nil => exact ⟨c, cs, hitem, hc⟩
  | cons second items => exact ⟨c, _, by rw [itemChars_cons_cons, hitem, List.cons_append], hc⟩

/-- Members are read up to the bracket behind them. -/
theorem items_itemChars {list : List Json} (hne : list ≠ [])
    (hplain : ∀ item ∈ list, Plain item) (hback : ∀ item ∈ list, ReadsBack item)
    (hfit : itemsFit room list = true) (hsteps : (itemChars list).length + 1 < steps) :
    items room steps (itemChars list ++ ']' :: rest) = .ok (list, rest) := by
  induction list generalizing steps with
  | nil => exact absurd rfl hne
  | cons item list ih =>
    obtain ⟨-, hplain⟩ := List.forall_mem_cons.mp hplain
    obtain ⟨hitem, hlist⟩ := List.forall_mem_cons.mp hback
    rw [itemsFit, Bool.and_eq_true] at hfit
    -- A step is taken for the member; its comma and the blank behind it pay for it.
    obtain ⟨steps, rfl⟩ : ∃ k, steps = k + 1 := ⟨steps - 1, by omega⟩
    rw [items.eq_2]
    cases list with
    | nil =>
      rw [itemChars.eq_2] at hsteps ⊢
      rw [hitem hfit.1 (by omega) (.cons (.inr (.inl rfl)) rest)]
      rfl
    | cons second list =>
      obtain ⟨c, cs, hmore, hc⟩ := exists_itemChars_eq (hplain second (List.mem_cons_self ..)) list
      have hskip : skip (' ' :: (itemChars (second :: list) ++ ']' :: rest)) =
          itemChars (second :: list) ++ ']' :: rest := by
        rw [skip_blank, hmore, List.cons_append, skip_cons hc.1]
      rw [itemChars_cons_cons, List.length_append, List.length_cons, List.length_cons] at hsteps
      rw [itemChars_cons_cons, List.append_assoc, List.cons_append, List.cons_append,
        hitem hfit.1 (by omega) (.cons (.inl rfl) _)]
      dsimp only
      rw [skip_cons rfl]
      change Except.map _ (items room steps (skip (' ' :: _))) = _
      rw [hskip, ih (List.cons_ne_nil _ _) hplain hlist hfit.2 (by omega)]
      rfl

theorem fieldChars_cons_cons (name : String) (v : Json) (second : String × Json)
    (fields : List (String × Json)) :
    fieldChars ((name, v) :: second :: fields) = quoted name.toList ++
      ':' :: ' ' :: (chars v ++ ',' :: ' ' :: fieldChars (second :: fields)) := by
  rw [fieldChars.eq_3 _ _ _ (List.cons_ne_nil _ _)]
  simp only [List.append_assoc, List.cons_append, List.nil_append]

theorem fieldChars_singleton (name : String) (v : Json) :
    fieldChars [(name, v)] = quoted name.toList ++ ':' :: ' ' :: chars v := by
  rw [fieldChars.eq_2]
  simp only [List.append_assoc, List.cons_append, List.nil_append]

theorem exists_fieldChars_eq (field : String × Json) (fields : List (String × Json)) :
    ∃ cs, fieldChars (field :: fields) = '"' :: cs := by
  obtain ⟨name, v⟩ := field
  cases fields with
  | nil => exact ⟨_, by rw [fieldChars_singleton, quoted_append]⟩
  | cons second fields => exact ⟨_, by rw [fieldChars_cons_cons, quoted_append]⟩

/-- A field is read up to the end of its value. -/
theorem fields_cons {name : String} {v : Json} (hplain : Plain v) (hback : ReadsBack v)
    (hfit : v.fits room = true) (hsteps : (chars v).length < steps) (hrest : Follows rest)
    (done : List (String × Json)) (hnew : name ∉ done.map Prod.fst) :
    fields room (steps + 1) done (quoted name.toList ++ ':' :: ' ' :: (chars v ++ rest)) =
      match skip rest with
      | '\x7d' :: last => .ok (done ++ [(name, v)], last)
      | ',' :: next => fields room steps (done ++ [(name, v)]) (skip next)
      | _ => .error .malformed := by
  obtain ⟨c, cs, hv, hc⟩ := exists_chars_eq hplain
  have hskip : skip (' ' :: (chars v ++ rest)) = chars v ++ rest := by
    rw [skip_blank, hv, List.cons_append, skip_cons hc.1]
  rw [quoted_append, fields.eq_2, string?_quoted]
  dsimp only
  rw [skip_cons rfl]
  split
  · next more hcolon =>
    have hput : Assoc.put (String.ofList ([].reverse ++ name.toList)) v done =
        done ++ [(name, v)] := by
      rw [List.reverse_nil, List.nil_append, String.ofList_toList, Assoc.put_of_not_mem hnew]
    rw [← (List.cons.inj hcolon).2, hskip, hback hfit hsteps hrest]
    dsimp only
    generalize Assoc.put (String.ofList ([].reverse ++ name.toList)) v done = known at hput ⊢
    subst hput
    rfl
  · next hcolon => exact absurd rfl (hcolon _)

/-- Fields go behind those that were read before, whose names are others. -/
theorem fields_fieldChars {list : List (String × Json)} (hne : list ≠ [])
    {done : List (String × Json)} (hnames : ((done ++ list).map Prod.fst).Nodup)
    (hplain : ∀ field ∈ list, Plain field.2) (hback : ∀ field ∈ list, ReadsBack field.2)
    (hfit : fieldsFit room list = true) (hsteps : (fieldChars list).length + 1 < steps) :
    fields room steps done (fieldChars list ++ '\x7d' :: rest) = .ok (done ++ list, rest) := by
  induction list generalizing steps done with
  | nil => exact absurd rfl hne
  | cons field list ih =>
    obtain ⟨name, v⟩ := field
    obtain ⟨hv : Plain v, hplain⟩ := List.forall_mem_cons.mp hplain
    obtain ⟨hvalue : ReadsBack v, hlist⟩ := List.forall_mem_cons.mp hback
    rw [fieldsFit, Bool.and_eq_true] at hfit
    obtain ⟨steps, rfl⟩ : ∃ k, steps = k + 1 := ⟨steps - 1, by omega⟩
    have hnew : name ∉ done.map Prod.fst := by
      rw [List.map_append, List.map_cons] at hnames
      exact fun hmem => (List.nodup_append.mp hnames).2.2 name hmem name (List.mem_cons_self ..) rfl
    cases list with
    | nil =>
      rw [fieldChars_singleton, List.length_append, List.length_cons, List.length_cons] at hsteps
      rw [fieldChars_singleton, List.append_assoc, List.cons_append, List.cons_append,
        fields_cons hv hvalue hfit.1 (by omega) (.cons (.inr (.inr rfl)) rest) done hnew]
      rfl
    | cons second list =>
      obtain ⟨cs, hmore⟩ := exists_fieldChars_eq second list
      have hskip : skip (' ' :: (fieldChars (second :: list) ++ '\x7d' :: rest)) =
          fieldChars (second :: list) ++ '\x7d' :: rest := by
        rw [skip_blank, hmore, List.cons_append, skip_cons rfl]
      rw [List.append_cons] at hnames
      rw [fieldChars_cons_cons] at hsteps
      simp only [List.length_append, List.length_cons] at hsteps
      rw [fieldChars_cons_cons]
      simp only [List.append_assoc, List.cons_append]
      rw [fields_cons hv hvalue hfit.1 (by omega) (.cons (.inl rfl) _) done hnew, skip_cons rfl]
      change fields room steps _ (skip (' ' :: _)) = _
      rw [hskip, ih (List.cons_ne_nil _ _) hnames hplain hlist hfit.2 (by omega), List.append_assoc]
      rfl

theorem readsBack_null : ReadsBack .null := by
  intro room steps rest _ hsteps _
  obtain ⟨steps, rfl⟩ : ∃ k, steps = k + 1 := ⟨steps - 1, by omega⟩
  exact (value_simple (by decide)).trans (congrArg orMalformed (simple?_null rest))

theorem readsBack_bool (b : Bool) : ReadsBack (.bool b) := by
  intro room steps rest _ hsteps _
  obtain ⟨steps, rfl⟩ : ∃ k, steps = k + 1 := ⟨steps - 1, by omega⟩
  have hvalue := congrArg orMalformed (simple?_bool b rest)
  cases b with
  | true => exact (value_simple (by decide)).trans hvalue
  | false => exact (value_simple (by decide)).trans hvalue

theorem readsBack_int (n : Int) : ReadsBack (.int n) := by
  intro room steps rest hfit hsteps hrest
  obtain ⟨steps, rfl⟩ : ∃ k, steps = k + 1 := ⟨steps - 1, by omega⟩
  obtain ⟨c, cs, hn, hc⟩ := exists_ofInt_eq n
  have hne {d : Char} (hd : beginsNumber d = false) : c ≠ d := (ne_of_beginsNumber hc hd).symm
  unfold fits at hfit
  rw [chars]
  have hvalue := congrArg orMalformed (simple?_ofInt n (of_decide_eq_true hfit) hrest)
  rw [hn] at hvalue ⊢
  exact (value_simple ⟨hne rfl, hne rfl, hne rfl⟩).trans hvalue

theorem readsBack_text (s : String) : ReadsBack (.text s) := by
  intro room steps rest _ hsteps _
  obtain ⟨steps, rfl⟩ : ∃ k, steps = k + 1 := ⟨steps - 1, by omega⟩
  rw [chars, quoted_append, value.eq_2, string?_quoted, List.reverse_nil, List.nil_append]
  change Except.ok (Json.text (String.ofList s.toList), rest) = _
  rw [String.ofList_toList]

theorem readsBack_list {items : List Json} (hplain : ∀ item ∈ items, Plain item)
    (hback : ∀ item ∈ items, ReadsBack item) : ReadsBack (.list items) := by
  intro room steps rest hfit hsteps hrest
  have hlength : (chars (.list items)).length = (itemChars items).length + 2 := by
    rw [chars, List.length_append, List.length_cons]
    rfl
  have happend : chars (.list items) ++ rest = '[' :: (itemChars items ++ ']' :: rest) := by
    rw [chars, List.append_assoc]
    rfl
  rw [hlength] at hsteps
  obtain ⟨steps, rfl⟩ : ∃ k, steps = k + 1 := ⟨steps - 1, by omega⟩
  obtain ⟨room, rfl⟩ : ∃ k, room = k + 1 :=
    Nat.exists_eq_succ_of_ne_zero (by rintro rfl; cases hfit)
  rw [happend, value.eq_5]
  cases items with
  | nil => rfl
  | cons item items =>
    obtain ⟨c, cs, hitems, hc⟩ := exists_itemChars_eq (hplain item (List.mem_cons_self ..)) items
    have hskip : skip (itemChars (item :: items) ++ ']' :: rest) =
        itemChars (item :: items) ++ ']' :: rest := by
      rw [hitems, List.cons_append, skip_cons hc.1]
    rw [hskip]
    split
    · next hend =>
      rw [hitems] at hend
      exact absurd (List.cons.inj hend).1 hc.2
    · rw [items_itemChars (List.cons_ne_nil _ _) hplain hback hfit (by omega)]
      rfl

theorem readsBack_object {fields : List (String × Json)} (hnames : (fields.map Prod.fst).Nodup)
    (hplain : ∀ field ∈ fields, Plain field.2)
    (hback : ∀ field ∈ fields, ReadsBack field.2) :
    ReadsBack (.object fields) := by
  intro room steps rest hfit hsteps hrest
  have hlength : (chars (.object fields)).length = (fieldChars fields).length + 2 := by
    rw [chars, List.length_append, List.length_cons]
    rfl
  have happend : chars (.object fields) ++ rest =
      '\x7b' :: (fieldChars fields ++ '\x7d' :: rest) := by
    rw [chars, List.append_assoc]
    rfl
  rw [hlength] at hsteps
  obtain ⟨steps, rfl⟩ : ∃ k, steps = k + 1 := ⟨steps - 1, by omega⟩
  obtain ⟨room, rfl⟩ : ∃ k, room = k + 1 :=
    Nat.exists_eq_succ_of_ne_zero (by rintro rfl; cases hfit)
  rw [happend, value.eq_6]
  cases fields with
  | nil => rfl
  | cons field fields =>
    obtain ⟨cs, hfields⟩ := exists_fieldChars_eq field fields
    have hskip : skip (fieldChars (field :: fields) ++ '\x7d' :: rest) =
        fieldChars (field :: fields) ++ '\x7d' :: rest := by
      rw [hfields, List.cons_append, skip_cons rfl]
    rw [hskip]
    split
    · next hend =>
      rw [hfields] at hend
      exact absurd (List.cons.inj hend).1 (by decide)
    · rw [fields_fieldChars (List.cons_ne_nil _ _) hnames hplain hback hfit (by omega)]
      rfl

/-- **Every value is read up to its end.** -/
theorem readsBack {v : Json} (h : Plain v) : ReadsBack v := by
  induction h with
  | null => exact readsBack_null
  | bool b => exact readsBack_bool b
  | int n => exact readsBack_int n
  | text s => exact readsBack_text s
  | list h ih => exact readsBack_list h ih
  | object hnames h ih => exact readsBack_object hnames h ih

/-- **A line reads back as the value that was written.** -/
theorem read_line {v : Json} (h : Plain v) (hfit : v.fits room = true) :
    read room (line v) = .ok v := by
  have hchars : (line v).toList = chars v := String.toList_ofList
  obtain ⟨c, cs, hv, hc⟩ := exists_chars_eq h
  have hskip : skip (chars v) = chars v := by rw [hv, skip_cons hc.1]
  have hvalue : value room ((chars v).length + 1) (chars v) = .ok (v, []) := by
    have hback := readsBack h hfit (Nat.lt_succ_self _) Follows.nil
    rwa [List.append_nil] at hback
  unfold read
  rw [hchars, hskip]
  dsimp only
  rw [hvalue]
  rfl

/-! ## Lines -/

theorem all_unitEscape {n : Nat} (h : n < 65536) : (unitEscape n).all isVisible = true := by
  have hdigit : ∀ k < 16, isVisible k.digitChar = true := by decide
  have hlast (k : Nat) : isVisible (k % 16).digitChar = true :=
    hdigit _ (Nat.mod_lt _ (Nat.succ_pos 15))
  rw [unitEscape_eq h]
  simp only [List.all_cons, List.all_nil, hlast]
  rfl

theorem all_escaped (c : Char) : (escaped c).all isVisible = true := by
  have hscalar : c.toNat < 0xD800 ∨ 0xDFFF < c.toNat ∧ c.toNat < 0x110000 := c.valid
  obtain ⟨e, -, he, heq⟩ | ⟨-, -, hvisible, heq⟩ | ⟨hunit, heq⟩ | ⟨hpair, heq⟩ := escaped_cases c
  · rw [heq, List.all_cons, List.all_cons, he]
    rfl
  · rw [heq, List.all_cons, hvisible]
    rfl
  · rw [heq]
    exact all_unitEscape hunit
  · rw [heq, List.all_append, all_unitEscape (by omega), all_unitEscape (by omega)]
    rfl

theorem all_quoted (cs : List Char) : (quoted cs).all isVisible = true := by
  have hinside : (cs.flatMap escaped).all isVisible = true := by
    rw [List.all_flatMap, List.all_eq_true]
    exact fun c _ => all_escaped c
  unfold quoted
  rw [List.all_append, List.all_cons, hinside]
  rfl

theorem all_itemChars {items : List Json} (h : ∀ item ∈ items, (chars item).all isVisible = true) :
    (itemChars items).all isVisible = true := by
  induction items with
  | nil => rfl
  | cons item items ih =>
    obtain ⟨hitem, hitems⟩ := List.forall_mem_cons.mp h
    cases items with
    | nil => exact hitem
    | cons second items =>
      rw [itemChars_cons_cons, List.all_append, hitem, List.all_cons, List.all_cons, ih hitems]
      rfl

theorem all_fieldChars {fields : List (String × Json)}
    (h : ∀ field ∈ fields, (chars field.2).all isVisible = true) :
    (fieldChars fields).all isVisible = true := by
  induction fields with
  | nil => rfl
  | cons field fields ih =>
    obtain ⟨name, v⟩ := field
    obtain ⟨hv, hfields⟩ := List.forall_mem_cons.mp h
    cases fields with
    | nil =>
      rw [fieldChars_singleton, List.all_append, all_quoted, List.all_cons, List.all_cons, hv]
      rfl
    | cons second fields =>
      rw [fieldChars_cons_cons, List.all_append, all_quoted, List.all_cons, List.all_cons,
        List.all_append, hv, List.all_cons, List.all_cons, ih hfields]
      rfl

/-- **Nothing in a line breaks it.** -/
theorem all_chars {v : Json} (h : Plain v) : (chars v).all isVisible = true := by
  induction h with
  | null => rfl
  | bool b => cases b <;> rfl
  | int n =>
    have hdigits : (Nat.toDigits 10 n.natAbs).all isVisible = true := by
      refine List.all_eq_true.mpr fun c hc => ?_
      have hdigit := Nat.isDigit_of_mem_toDigits (by decide) (by decide) hc
      unfold Char.isDigit at hdigit
      unfold isVisible
      simp only [Bool.and_eq_true, decide_eq_true_eq] at hdigit ⊢
      have hrange : 48 ≤ c.toNat ∧ c.toNat ≤ 57 := hdigit
      omega
    rw [chars, toList_ofInt]
    split
    · rw [List.all_cons, hdigits]
      rfl
    · exact hdigits
  | text s => exact all_quoted s.toList
  | list _ ih =>
    rw [chars, List.all_append, List.all_cons, all_itemChars ih]
    rfl
  | object _ _ ih =>
    rw [chars, List.all_append, List.all_cons, all_fieldChars ih]
    rfl

end Honeypot.Json
