import Mathlib.Data.List.TakeWhile
import Mathlib.Data.Nat.Bitwise
import Mathlib.Data.Nat.Digits.Lemmas
import Mathlib.Data.Set.List
import Honeypot.Proofs.Words
import Honeypot.Shell.Mode

/-!
# Changes of mode, right by right

What a change of mode means, said of every right by itself: a clause gives, takes or sets the
rights that it names, of the classes that it names, and leaves all other bits as they are. A change
is valid or not whatever the mode is, and what it makes of a mode is what its clauses make of it
from left to right (`mode_changes_iff`).
-/

namespace Honeypot.Shell

/-! ## Rights -/

inductive UserClass where
  | owner
  | group
  | others
  deriving Repr, DecidableEq

/-- The permissions that a class may have. -/
inductive Permission where
  | read
  | write
  | execute
  deriving Repr, DecidableEq

def UserClass.letter : UserClass → Char
  | .owner => 'u'
  | .group => 'g'
  | .others => 'o'

def Permission.letters : Permission → List Char
  | .read => ['r']
  | .write => ['w']
  | .execute => ['x', 'X']

/-- The lowest bit of a class. -/
def UserClass.base : UserClass → Nat
  | .owner => 6
  | .group => 3
  | .others => 0

/-- The place of a permission among the bits of a class. -/
def Permission.offset : Permission → Nat
  | .read => 2
  | .write => 1
  | .execute => 0

/-- The bit of a mode that gives a permission to a class. -/
def rightBit (k : UserClass) (p : Permission) : Nat := k.base + p.offset

theorem exists_rightBit {n : Nat} (h : n < 9) : ∃ k p, n = rightBit k p := by
  have hall : ∀ n < 9, n ∈ [UserClass.owner, .group, .others].flatMap fun k =>
      [Permission.read, .write, .execute].map (rightBit k) := by decide
  obtain ⟨k, -, hk⟩ := List.mem_flatMap.mp (hall n h)
  obtain ⟨p, -, hp⟩ := List.mem_map.mp hk
  exact ⟨k, p, hp.symm⟩

theorem Permission.offset_lt (p : Permission) : p.offset < 3 := by
  cases p <;> decide

/-! ## Clauses as they are written -/

def ModeOperator.sign : ModeOperator → Char
  | .grant => '+'
  | .revoke => '-'
  | .assign => '='

/-- A clause as it is written: letters of classes, a sign and letters of permissions. -/
structure WrittenClause where
  who : List Char
  operator : ModeOperator
  named : List Char
  who_letters : ∀ c ∈ who, c ∈ ['u', 'g', 'o', 'a']
  named_letters : ∀ c ∈ named, c ∈ ['r', 'w', 'x', 'X', 's', 't']

namespace WrittenClause

def text (w : WrittenClause) : List Char := w.who ++ w.operator.sign :: w.named

/-- Whether a clause is about a class: it names the class, or all of them, or none. -/
def concerns (w : WrittenClause) (k : UserClass) : Bool :=
  decide (w.who = [] ∨ 'a' ∈ w.who ∨ k.letter ∈ w.who)

def names (w : WrittenClause) (p : Permission) : Bool := p.letters.any fun c => w.named.contains c

/-- Whether a class has a permission after a clause, `had` telling whether it had it before. -/
def leaves (w : WrittenClause) (k : UserClass) (p : Permission) (had : Bool) : Bool :=
  if w.concerns k then
    match w.operator with
    | .grant => had || w.names p
    | .revoke => had && !w.names p
    | .assign => w.names p
  else had

/-- Whether a clause turns a mode into another: the rights are those that it leaves, and the bits
that are no rights are the same. -/
structure Turns (w : WrittenClause) (before after : Nat) : Prop where
  rights : ∀ k p, after.testBit (rightBit k p) = w.leaves k p (before.testBit (rightBit k p))
  others : ∀ n, 9 ≤ n → after.testBit n = before.testBit n

end WrittenClause

/-- Whether clauses turn a mode into another, one after the other. -/
inductive Turns : List WrittenClause → Nat → Nat → Prop
  | nil (mode : Nat) : Turns [] mode mode
  | cons {w : WrittenClause} {rest : List WrittenClause} {before between after : Nat}
      (h : w.Turns before between) (hrest : Turns rest between after) :
      Turns (w :: rest) before after

/-- Whether a text is a number of one to four octal digits, the last of them first. -/
structure IsOctal (change : String) (digits : List Nat) : Prop where
  small : ∀ d ∈ digits, d < 8
  some : 1 ≤ digits.length
  few : digits.length ≤ 4
  text : change.toList = (digits.map Nat.digitChar).reverse

/-- Whether a text is a change, whatever it is applied to: an octal number, or clauses with commas
between them. -/
def IsChange (change : String) : Prop :=
  (∃ digits, IsOctal change digits) ∨
    ∀ piece ∈ change.toList.splitOn ',', ∃ w : WrittenClause, piece = w.text

/-- Whether a change makes one mode of another: its number, or what its clauses turn the mode
into. -/
inductive Changes (change : String) (before : Nat) : Nat → Prop
  | octal {digits : List Nat} (h : IsOctal change digits) :
      Changes change before (Nat.ofDigits 8 digits)
  | clauses {written : List WrittenClause} {after : Nat}
      (htext : change.toList.splitOn ',' = written.map WrittenClause.text)
      (h : Turns written before after) : Changes change before after

/-! ## Reading clauses -/

theorem isClassLetter_iff {c : Char} : isClassLetter c = true ↔ c ∈ ['u', 'g', 'o', 'a'] := by
  simp [isClassLetter, or_assoc]

theorem isPermissionLetter_iff {c : Char} :
    isPermissionLetter c = true ↔ c ∈ ['r', 'w', 'x', 'X', 's', 't'] := by
  simp [isPermissionLetter, or_assoc]

theorem modeOperator?_eq_some_iff {c : Char} {operator : ModeOperator} :
    modeOperator? c = some operator ↔ c = operator.sign := by
  unfold modeOperator?
  constructor
  · intro h
    split at h
    · next hc => cases h; exact hc
    split at h
    · next hc => cases h; exact hc
    split at h
    · next hc => cases h; exact hc
    · cases h
  · rintro rfl
    cases operator <;> rfl

theorem isClassLetter_sign (operator : ModeOperator) : isClassLetter operator.sign = false := by
  cases operator <;> decide

def WrittenClause.clause (w : WrittenClause) : ModeClause :=
  ⟨spread w.who 7, w.operator, spread w.who (permissionBits w.named)⟩

theorem parse?_text (w : WrittenClause) : ModeClause.parse? w.text = some w.clause := by
  have hwho : w.text.takeWhile isClassLetter = w.who := by
    unfold WrittenClause.text
    rw [List.takeWhile_append_of_pos fun c hc => isClassLetter_iff.mpr (w.who_letters c hc),
      List.takeWhile_cons_of_neg (by rw [isClassLetter_sign]; exact Bool.false_ne_true),
      List.append_nil]
  have hrest : w.text.drop w.who.length = w.operator.sign :: w.named := List.drop_left
  have hnamed : w.named.takeWhile isPermissionLetter = w.named :=
    List.takeWhile_eq_self_iff.mpr fun c hc => isPermissionLetter_iff.mpr (w.named_letters c hc)
  unfold ModeClause.parse?
  simp only [hwho, hrest, hnamed, List.drop_length, true_or, if_true,
    modeOperator?_eq_some_iff.mpr rfl]
  rfl

/-- **Exactly the written clauses are read** of texts without a line feed. -/
theorem parse?_eq_some_iff {cs : List Char} (hline : '\n' ∉ cs) {clause : ModeClause} :
    ModeClause.parse? cs = some clause ↔ ∃ w : WrittenClause, cs = w.text ∧ clause = w.clause := by
  constructor
  · intro h
    have hcs := List.prefix_iff_eq_append.mp (List.takeWhile_prefix isClassLetter (l := cs))
    unfold ModeClause.parse? at h
    dsimp only at h
    split at h
    · cases h
    · next sign rest hrest =>
      have hletters :=
        List.prefix_iff_eq_append.mp (List.takeWhile_prefix isPermissionLetter (l := rest))
      rw [hrest] at hcs
      split at h
      · next htail =>
        obtain ⟨operator, hsign, rfl⟩ := Option.map_eq_some_iff.mp h
        obtain rfl := modeOperator?_eq_some_iff.mp hsign
        have hnone : rest.drop (rest.takeWhile isPermissionLetter).length = [] := by
          refine htail.resolve_right fun hfeed => hline ?_
          rw [← hcs, ← hletters, hfeed]
          simp
        rw [hnone, List.append_nil] at hletters
        let w : WrittenClause := ⟨cs.takeWhile isClassLetter, operator, rest,
          fun c hc => isClassLetter_iff.mp (List.mem_takeWhile_imp hc),
          fun c hc => isPermissionLetter_iff.mp (List.takeWhile_eq_self_iff.mp hletters c hc)⟩
        refine ⟨w, hcs.symm, ?_⟩
        rw [hletters]
        rfl
      · cases h
  · rintro ⟨w, rfl, rfl⟩
    exact parse?_text w

/-- Clauses are read if each of them is written. -/
theorem mapM_parse?_eq_some_iff {pieces : List (List Char)} (hline : ∀ piece ∈ pieces, '\n' ∉ piece)
    {clauses : List ModeClause} :
    pieces.mapM ModeClause.parse? = some clauses ↔ ∃ written : List WrittenClause,
      pieces = written.map WrittenClause.text ∧ clauses = written.map WrittenClause.clause := by
  induction pieces generalizing clauses with
  | nil =>
    constructor
    · intro h
      exact ⟨[], rfl, (Option.some.inj h).symm⟩
    · rintro ⟨written, hnone, rfl⟩
      rw [List.map_eq_nil_iff.mp hnone.symm]
      rfl
  | cons piece pieces ih =>
    obtain ⟨hpiece, hpieces⟩ := List.forall_mem_cons.mp hline
    simp only [List.mapM_cons, Option.bind_eq_bind, Option.bind_eq_some_iff, Option.pure_def,
      Option.some.injEq]
    constructor
    · rintro ⟨clause, hclause, rest, hrest, rfl⟩
      obtain ⟨w, rfl, rfl⟩ := (parse?_eq_some_iff hpiece).mp hclause
      obtain ⟨written, rfl, rfl⟩ := (ih hpieces).mp hrest
      exact ⟨w :: written, rfl, rfl⟩
    · rintro ⟨written, htexts, rfl⟩
      cases written with
      | nil => cases htexts
      | cons w written =>
        obtain ⟨rfl, hmore⟩ := List.cons.inj htexts
        exact ⟨w.clause, parse?_text w, _, (ih hpieces).mpr ⟨written, hmore, rfl⟩, rfl⟩

/-! ## Bits -/

theorem testBit_clearBits (mode bits n : Nat) :
    (clearBits mode bits).testBit n = (mode.testBit n && !bits.testBit n) := by
  unfold clearBits
  induction n generalizing mode bits with
  | zero =>
    have hle : mode &&& bits ≤ mode := Nat.and_le_left
    have hlow : (mode &&& bits) % 2 = 1 ↔ mode % 2 = 1 ∧ bits % 2 = 1 := Nat.and_mod_two_eq_one
    simp only [Nat.testBit_zero]
    grind
  | succ n ih =>
    have hle : mode &&& bits ≤ mode := Nat.and_le_left
    have hlow : (mode &&& bits) % 2 = 1 ↔ mode % 2 = 1 ∧ bits % 2 = 1 := Nat.and_mod_two_eq_one
    have hhalf : (mode - (mode &&& bits)) / 2 = mode / 2 - (mode / 2 &&& bits / 2) := by
      rw [← Nat.and_div_two]
      omega
    rw [Nat.testBit_succ, Nat.testBit_succ, Nat.testBit_succ, hhalf]
    exact ih _ _

theorem testBit_permissionBits (w : WrittenClause) (p : Permission) :
    (permissionBits w.named).testBit p.offset = w.names p := by
  have hbits : ∀ r w x : Bool, ∀ p : Permission,
      ((if r then 4 else 0) + (if w then 2 else 0) + (if x then 1 else 0)).testBit p.offset =
        match p with
        | .read => r
        | .write => w
        | .execute => x := by
    intro r w x p
    revert r w x
    cases p <;> decide
  unfold permissionBits WrittenClause.names
  rw [hbits]
  cases p <;> simp [Permission.letters]

theorem permissionBits_lt (letters : List Char) : permissionBits letters < 8 := by
  unfold permissionBits
  split <;> split <;> split <;> decide

section Spread

variable {bits : Nat}

/-- The bits of one class for a class that is concerned, and none for another. -/
def WrittenClause.row (w : WrittenClause) (k : UserClass) (bits : Nat) : Nat :=
  if w.concerns k then bits else 0

theorem WrittenClause.row_lt (h : bits < 8) (w : WrittenClause) (k : UserClass) :
    w.row k bits < 2 ^ 3 := by
  unfold row
  split
  · exact h
  · decide

theorem spread_eq (w : WrittenClause) (bits : Nat) :
    spread w.who bits =
      2 ^ 3 * (2 ^ 3 * w.row .owner bits + w.row .group bits) + w.row .others bits := by
  have hconcerns (c : Char) : decide (w.who = [] ∨ 'a' ∈ w.who ∨ c ∈ w.who) =
      (w.who.isEmpty || w.who.contains 'a' || w.who.contains c) := by
    grind
  have howner : w.concerns .owner = _ := hconcerns 'u'
  have hgroup : w.concerns .group = _ := hconcerns 'g'
  have hothers : w.concerns .others = _ := hconcerns 'o'
  have hscale (concerned : Bool) (n : Nat) :
      (if concerned then bits * n else 0) = (if concerned then bits else 0) * n := by
    cases concerned
    · exact (Nat.zero_mul n).symm
    · rfl
  unfold spread WrittenClause.row
  dsimp only
  rw [howner, hgroup, hothers, hscale, hscale]
  omega

theorem testBit_row (w : WrittenClause) (k : UserClass) (bits n : Nat) :
    (w.row k bits).testBit n = (w.concerns k && bits.testBit n) := by
  unfold WrittenClause.row
  cases w.concerns k <;> simp

/-- **Copies for the classes that are concerned**: each of them has the bits of one class. -/
theorem testBit_spread (h : bits < 8) (w : WrittenClause) (k : UserClass) (p : Permission) :
    (spread w.who bits).testBit (rightBit k p) = (w.concerns k && bits.testBit p.offset) := by
  have hp := p.offset_lt
  rw [spread_eq, rightBit, Nat.testBit_two_pow_mul_add _ (w.row_lt h .others)]
  cases k with
  | others =>
    rw [if_pos (by simpa [UserClass.base] using hp), testBit_row]
    simp [UserClass.base]
  | group =>
    rw [if_neg (by simp [UserClass.base]), Nat.testBit_two_pow_mul_add _ (w.row_lt h .group),
      if_pos (by simpa [UserClass.base] using hp), testBit_row]
    simp [UserClass.base]
  | owner =>
    rw [if_neg (by simp [UserClass.base]; omega),
      Nat.testBit_two_pow_mul_add _ (w.row_lt h .group),
      if_neg (by simp [UserClass.base]; omega), testBit_row]
    congr 2
    simp [UserClass.base]
    omega

theorem spread_lt (h : bits < 8) (w : WrittenClause) : spread w.who bits < 2 ^ 9 := by
  have howner := w.row_lt h .owner
  have hgroup := w.row_lt h .group
  have hothers := w.row_lt h .others
  rw [spread_eq]
  omega

end Spread

/-! ## Clauses -/

/-- **One clause** makes of a mode what it turns the mode into, and nothing else. -/
theorem turns_iff {w : WrittenClause} {before after : Nat} :
    w.Turns before after ↔ after = w.clause.apply before := by
  have hbits (n : Nat) (hn : 9 ≤ n) {bits : Nat} (h : bits < 8) :
      (spread w.who bits).testBit n = false :=
    Nat.testBit_lt_two_pow ((spread_lt h w).trans_le (Nat.pow_le_pow_right (by decide) hn))
  have hnamed : permissionBits w.named < 8 := permissionBits_lt w.named
  have hall (p : Permission) : (7 : Nat).testBit p.offset = true := by cases p <;> decide
  have happly : w.Turns before (w.clause.apply before) := by
    constructor
    · intro k p
      unfold ModeClause.apply WrittenClause.clause WrittenClause.leaves
      cases w.operator <;> cases hk : w.concerns k <;>
        simp [testBit_clearBits, testBit_spread, hnamed, testBit_permissionBits, hall, hk]
    · intro n hn
      unfold ModeClause.apply WrittenClause.clause
      cases w.operator <;> simp [testBit_clearBits, hbits n hn, hnamed]
  constructor
  · intro h
    refine Nat.eq_of_testBit_eq fun n => ?_
    by_cases hn : n < 9
    · obtain ⟨k, p, rfl⟩ := exists_rightBit hn
      rw [h.rights, happly.rights]
    · rw [h.others n (by omega), happly.others n (by omega)]
  · rintro rfl
    exact happly

/-- **Clauses after one another** make of a mode what they turn it into. -/
theorem turns_written_iff {written : List WrittenClause} {before after : Nat} :
    Turns written before after ↔
      after = (written.map WrittenClause.clause).foldl (fun bits clause => clause.apply bits)
        before := by
  induction written generalizing before with
  | nil =>
    constructor
    · rintro ⟨⟩
      rfl
    · rintro rfl
      exact .nil _
  | cons w rest ih =>
    constructor
    · rintro (_ | ⟨h, hrest⟩)
      obtain rfl := turns_iff.mp h
      exact ih.mp hrest
    · intro h
      exact .cons (turns_iff.mpr rfl) (ih.mpr h)

theorem Turns.lt {written : List WrittenClause} {before after : Nat}
    (h : Turns written before after) (hbefore : before < 2 ^ 12) : after < 2 ^ 12 := by
  induction h with
  | nil => exact hbefore
  | cons hfirst _ ih =>
    refine ih (Nat.lt_pow_two_of_testBit _ fun n hn => ?_)
    rw [hfirst.others n (by omega)]
    exact Nat.testBit_lt_two_pow (hbefore.trans_le (Nat.pow_le_pow_right (by decide) hn))

/-! ## Octal numbers -/

theorem IsOctal.value_lt {change : String} {digits : List Nat} (h : IsOctal change digits) :
    Nat.ofDigits 8 digits < 2 ^ 12 :=
  (Nat.ofDigits_lt_base_pow_length (by decide) h.small).trans_le
    (Nat.pow_le_pow_right (by decide : 0 < 8) h.few)

theorem foldl_digitChars {digits : List Nat} (h : ∀ d ∈ digits, d < 8) :
    (digits.map Nat.digitChar).reverse.foldl (fun n c => n * 8 + (c.toNat - 48)) 0 =
      Nat.ofDigits 8 digits := by
  have hdigit : ∀ d < 8, d.digitChar.toNat - 48 = d := by decide
  rw [List.foldl_reverse, List.foldr_map]
  induction digits with
  | nil => rfl
  | cons d digits ih =>
    obtain ⟨hd, hdigits⟩ := List.forall_mem_cons.mp h
    rw [List.foldr_cons, ih hdigits, hdigit d hd, Nat.ofDigits_cons, Nat.mul_comm, Nat.add_comm]

theorem octalMode?_of_isOctal {change : String} {digits : List Nat} (h : IsOctal change digits) :
    octalMode? change.toList = some (Nat.ofDigits 8 digits) := by
  have hdigit : ∀ d < 8, (decide ('0' ≤ d.digitChar) && decide (d.digitChar ≤ '7')) = true := by
    decide
  have hsome := h.some
  have hfew := h.few
  have hwhole : ¬(change.toList.isEmpty || decide (4 < change.toList.length) ||
      !change.toList.all fun c => decide ('0' ≤ c) && decide (c ≤ '7')) = true := by
    rw [h.text]
    simp only [List.isEmpty_reverse, List.length_reverse, List.all_reverse, List.length_map,
      List.all_map, Bool.or_eq_true, List.isEmpty_iff, List.map_eq_nil_iff, decide_eq_true_iff,
      Bool.not_eq_true', not_or]
    refine ⟨⟨?_, by omega⟩, ?_⟩
    · rintro rfl
      cases hsome
    · rw [Bool.not_eq_false, List.all_eq_true]
      exact fun d hd => hdigit d (h.small d hd)
  unfold octalMode?
  rw [if_neg hwhole, h.text, foldl_digitChars h.small]

theorem digitChar_of_octal {c : Char} (hlow : '0' ≤ c) (hhigh : c ≤ '7') :
    c.toNat - 48 < 8 ∧ (c.toNat - 48).digitChar = c := by
  have hlow : 48 ≤ c.toNat := hlow
  have hhigh : c.toNat ≤ 55 := hhigh
  refine ⟨by omega, Char.toNat_inj.mp ?_⟩
  rw [Nat.toNat_digitChar_of_lt_ten (by omega)]
  omega

theorem exists_isOctal {change : String} {value : Nat}
    (h : octalMode? change.toList = some value) : ∃ digits, IsOctal change digits := by
  unfold octalMode? at h
  split at h
  · cases h
  · next hwhole =>
    simp only [Bool.or_eq_true, List.isEmpty_iff, decide_eq_true_iff, Bool.not_eq_true', not_or,
      Bool.not_eq_false, List.all_eq_true, Bool.and_eq_true] at hwhole
    obtain ⟨⟨hne, hfew⟩, hall⟩ := hwhole
    refine ⟨change.toList.reverse.map fun c => c.toNat - 48, ?_, ?_, ?_, ?_⟩
    · intro d hd
      obtain ⟨c, hc, rfl⟩ := List.mem_map.mp hd
      obtain ⟨hlow, hhigh⟩ := hall c (List.mem_reverse.mp hc)
      exact (digitChar_of_octal hlow hhigh).1
    · rw [List.length_map, List.length_reverse]
      exact List.length_pos_iff.mpr hne
    · rw [List.length_map, List.length_reverse]
      exact Nat.not_lt.mp hfew
    · rw [List.map_map, List.map_reverse, List.reverse_reverse]
      have hsame : change.toList.map (Nat.digitChar ∘ fun c => c.toNat - 48) =
          change.toList.map id :=
        List.map_congr_left fun c hc => (digitChar_of_octal (hall c hc).1 (hall c hc).2).2
      rw [hsame, List.map_id]

theorem IsOctal.not_clauses {change : String} {digits : List Nat} (h : IsOctal change digits)
    (written : List WrittenClause) :
    change.toList.splitOn ',' ≠ written.map WrittenClause.text := by
  intro hclauses
  obtain ⟨piece, pieces, hpieces⟩ :=
    List.exists_cons_of_ne_nil (List.splitOnP_ne_nil (· == ',') change.toList)
  change change.toList.splitOn ',' = piece :: pieces at hpieces
  rw [hpieces] at hclauses
  cases written with
  | nil => cases hclauses
  | cons w written =>
    obtain ⟨rfl, -⟩ := List.cons.inj hclauses
    have hpiece : w.text ∈ change.toList.splitOn ',' := hpieces ▸ List.mem_cons_self
    have hsign : w.operator.sign ∈ change.toList :=
      Text.mem_of_mem_splitOn hpiece (List.mem_append_right _ List.mem_cons_self)
    rw [h.text, List.mem_reverse, List.mem_map] at hsign
    obtain ⟨d, hd, hsame⟩ := hsign
    have hdigit : ∀ d < 8, ∀ operator : ModeOperator, d.digitChar ≠ operator.sign := by
      intro d hd operator
      revert d
      cases operator <;> decide
    exact hdigit d (h.small d hd) _ hsame

/-! ## Changes -/

theorem applyMode?_of_octal {change : String} {value : Nat}
    (h : octalMode? change.toList = some value) (mode : Int) :
    applyMode? change mode = some (value : Int) := by
  unfold applyMode?
  rw [h]

/-- What clauses make of a mode of twelve bits. -/
theorem applyMode?_of_clauses {change : String} (h : octalMode? change.toList = none) {bits : Nat}
    (hbits : bits < 2 ^ 12) :
    applyMode? change bits = ((change.toList.splitOn ',').mapM ModeClause.parse?).map fun clauses =>
      ((clauses.foldl (fun bits clause => clause.apply bits) bits : Nat) : Int) := by
  have hlow : (bits : Int) % 4096 = bits := Int.emod_eq_of_lt (by omega) (by omega)
  unfold applyMode? changeBits
  rw [h, hlow]
  simp

/-- **What becomes of a mode of twelve bits** is what the change makes of it. -/
theorem applyMode?_eq_some_iff {change : String} (hline : '\n' ∉ change.toList) {bits : Nat}
    (hbits : bits < 2 ^ 12) {after : Int} :
    applyMode? change bits = some after ↔
      ∃ result : Nat, after = result ∧ Changes change bits result := by
  have hpieces : ∀ piece ∈ change.toList.splitOn ',', '\n' ∉ piece := fun piece hpiece hfeed =>
    hline (Text.mem_of_mem_splitOn hpiece hfeed)
  cases hoctal : octalMode? change.toList with
  | some value =>
    obtain ⟨digits, hdigits⟩ := exists_isOctal hoctal
    obtain rfl := Option.some.inj (hoctal.symm.trans (octalMode?_of_isOctal hdigits))
    rw [applyMode?_of_octal hoctal]
    constructor
    · intro h
      exact ⟨_, (Option.some.inj h).symm, .octal hdigits⟩
    · rintro ⟨_, rfl, hsame | ⟨hclauses, -⟩⟩
      · have hvalue := Option.some.inj (hoctal.symm.trans (octalMode?_of_isOctal hsame))
        rw [hvalue]
      · exact absurd hclauses (hdigits.not_clauses _)
  | none =>
    rw [applyMode?_of_clauses hoctal hbits, Option.map_eq_some_iff]
    constructor
    · rintro ⟨clauses, hclauses, rfl⟩
      obtain ⟨written, htexts, rfl⟩ := (mapM_parse?_eq_some_iff hpieces).mp hclauses
      exact ⟨_, rfl, .clauses htexts (turns_written_iff.mpr rfl)⟩
    · rintro ⟨_, rfl, hdigits | ⟨htexts, hturns⟩⟩
      · cases hoctal.symm.trans (octalMode?_of_isOctal hdigits)
      · refine ⟨_, (mapM_parse?_eq_some_iff hpieces).mpr ⟨_, htexts, rfl⟩, ?_⟩
        rw [turns_written_iff.mp hturns]

/-- A text is a change exactly if it makes something of a mode, whichever mode that is. -/
theorem isChange_iff {change : String} (before : Nat) :
    IsChange change ↔ ∃ after, Changes change before after := by
  constructor
  · rintro (⟨digits, hdigits⟩ | hclauses)
    · exact ⟨_, .octal hdigits⟩
    · have hwritten : change.toList.splitOn ',' ∈ Set.range (List.map WrittenClause.text) := by
        rw [Set.range_list_map]
        intro piece hpiece
        obtain ⟨w, rfl⟩ := hclauses piece hpiece
        exact ⟨w, rfl⟩
      obtain ⟨written, hwritten⟩ := hwritten
      exact ⟨_, .clauses hwritten.symm (turns_written_iff.mpr rfl)⟩
  · rintro ⟨_, hdigits | ⟨htexts, -⟩⟩
    · exact .inl ⟨_, hdigits⟩
    · refine .inr fun piece hpiece => ?_
      rw [htexts, List.mem_map] at hpiece
      obtain ⟨w, -, rfl⟩ := hpiece
      exact ⟨w, rfl⟩

theorem Changes.lt {change : String} {before after : Nat} (h : Changes change before after)
    (hbefore : before < 2 ^ 12) : after < 2 ^ 12 := by
  cases h with
  | octal hdigits => exact hdigits.value_lt
  | clauses _ hturns => exact hturns.lt hbefore

/-- **A change of mode does what it says, right by right.** For every text of one line and every
mode of twelve bits the result is the number that the text writes, or what the clauses turn the
mode into from left to right; there is one exactly if the text is a number or clauses, whatever the
mode; and it has twelve bits again. -/
theorem mode_changes_iff {change : String} {mode : Int} (hline : '\n' ∉ change.toList)
    (hlow : 0 ≤ mode) (hhigh : mode ≤ 0o7777) :
    (∀ after, applyMode? change mode = some after ↔
      ∃ bits : Nat, after = bits ∧ Changes change mode.toNat bits) ∧
    ((applyMode? change mode).isSome = true ↔ IsChange change) ∧
    ∀ after, applyMode? change mode = some after → 0 ≤ after ∧ after ≤ 0o7777 := by
  obtain ⟨before, rfl⟩ := Int.eq_ofNat_of_zero_le hlow
  have hbefore : before < 2 ^ 12 := by omega
  have hresult (after : Int) : applyMode? change before = some after ↔
      ∃ bits : Nat, after = bits ∧ Changes change before bits :=
    applyMode?_eq_some_iff hline hbefore
  refine ⟨hresult, ?_, fun after hafter => ?_⟩
  · rw [Option.isSome_iff_exists, isChange_iff before]
    constructor
    · rintro ⟨after, hafter⟩
      obtain ⟨bits, -, hbits⟩ := (hresult after).mp hafter
      exact ⟨bits, hbits⟩
    · rintro ⟨bits, hbits⟩
      exact ⟨bits, (hresult bits).mpr ⟨bits, rfl, hbits⟩⟩
  · obtain ⟨bits, rfl, hbits⟩ := (hresult after).mp hafter
    have hlt := hbits.lt hbefore
    omega

/-- A change in which classes and permissions overlap, on a mode with a bit that is no right; and
clauses of which the last one is empty. -/
theorem mode_changes_example :
    ('\n' ∉ "ug=rX,o-s,a+w".toList ∧ (0 : Int) ≤ 0o4751 ∧ (0o4751 : Int) ≤ 0o7777) ∧
      Changes "ug=rX,o-s,a+w" 0o4751 0o4773 ∧ ¬IsChange "u+x," := by
  have hline : '\n' ∉ "ug=rX,o-s,a+w".toList := by decide
  have hlow : (0 : Int) ≤ 0o4751 := by decide
  have hhigh : (0o4751 : Int) ≤ 0o7777 := by decide
  obtain ⟨hresult, -, -⟩ := mode_changes_iff hline hlow hhigh
  obtain ⟨bits, hbits, hchanges⟩ := (hresult 0o4773).mp (by decide)
  obtain rfl : 0o4773 = bits := Int.ofNat.inj hbits
  have hline' : '\n' ∉ "u+x,".toList := by decide
  obtain ⟨-, hvalid, -⟩ := mode_changes_iff hline' (Int.le_refl 0) (by decide)
  exact ⟨⟨hline, hlow, hhigh⟩, hchanges, fun h => absurd (hvalid.mpr h) (by decide)⟩

end Honeypot.Shell
