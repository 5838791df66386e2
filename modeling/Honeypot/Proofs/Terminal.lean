import Mathlib.Algebra.Group.Nat.Even
import Mathlib.Data.List.Basic
import Mathlib.Data.List.Induction
import Honeypot.Terminal

/-!
# Bytes that are keys

Which bytes of a stream the decoder handles as keys and which it swallows. A byte that belongs to
no escape sequence is handled exactly if an even number of escapes stands directly before it
(`key_of_even_escapes`): an escape outside sequences takes the byte behind it with it, whatever
that byte is, and of a run of escapes every second one is taken so. Where every escape begins a
sequence nothing but sequences is swallowed. What the decoder keeps of the bytes before is where
they end (`reached_feed`).
-/

namespace Honeypot.Terminal

/-! ## Escape sequences -/

def escapeByte : UInt8 := 0x1B

/-- Whether a byte behind an escape begins the parameters of a sequence. -/
def Opens (byte : UInt8) : Prop := byte = 0x5B ∨ byte = 0x4F

def Ends (byte : UInt8) : Prop := 0x40 ≤ byte ∧ byte ≤ 0x7E

instance : DecidablePred Opens := fun byte =>
  inferInstanceAs (Decidable (byte = 0x5B ∨ byte = 0x4F))

instance : DecidablePred Ends := fun byte =>
  inferInstanceAs (Decidable (0x40 ≤ byte ∧ byte ≤ 0x7E))

/-- Whether a byte belongs to an escape sequence that the bytes before it begin: an escape, a byte
that opens the parameters, and everything up to the first byte that ends a sequence. -/
def InSequence (before : List UInt8) (byte : UInt8) : Prop :=
  ∃ start opener inside, before ++ [byte] = start ++ escapeByte :: opener :: inside ∧
    Opens opener ∧ ∀ b ∈ inside.dropLast, ¬Ends b

/-- Bytes in which every escape begins a sequence that has come to its end. -/
inductive Whole : List UInt8 → Prop
  | nil : Whole []
  | byte {before : List UInt8} {b : UInt8} (h : Whole before) (hb : b ≠ escapeByte) :
      Whole (before ++ [b])
  | sequence {before inside : List UInt8} {opener last : UInt8} (h : Whole before)
      (hopener : Opens opener) (hinside : ∀ b ∈ inside, ¬Ends b) (hlast : Ends last) :
      Whole (before ++ (escapeByte :: opener :: inside ++ [last]))

/-- How many escapes stand at the end of some bytes. -/
def escapesBehind (before : List UInt8) : Nat :=
  (before.reverse.takeWhile (· == escapeByte)).length

theorem escapesBehind_concat_escape (before : List UInt8) :
    escapesBehind (before ++ [escapeByte]) = escapesBehind before + 1 := by
  simp [escapesBehind]

theorem escapesBehind_concat_of_ne {b : UInt8} (h : b ≠ escapeByte) (before : List UInt8) :
    escapesBehind (before ++ [b]) = 0 := by
  simp [escapesBehind, h]

theorem exists_of_odd_escapesBehind {before : List UInt8} (h : ¬Even (escapesBehind before)) :
    ∃ start, before = start ++ [escapeByte] := by
  obtain rfl | ⟨start, b, rfl⟩ := before.eq_nil_or_concat'
  · exact absurd Even.zero h
  · by_cases hb : b = escapeByte
    · exact ⟨start, by rw [hb]⟩
    · rw [escapesBehind_concat_of_ne hb] at h
      exact absurd Even.zero h

theorem Ends.ne_escape {b : UInt8} (h : Ends b) : b ≠ escapeByte := by
  rintro rfl
  exact absurd h.1 (by decide)

theorem not_inSequence_of_any {before : List UInt8} {byte : UInt8}
    (h : (before ++ [byte]).any (fun b => decide (Opens b)) = false) : ¬InSequence before byte := by
  rintro ⟨start, opener, inside, hbytes, hopener, -⟩
  rw [hbytes] at h
  simp [hopener] at h

/-! ## Single bytes -/

namespace Decoder

variable {d : Decoder} {byte : UInt8}

/-- Whether a byte is handled as a key that comes directly behind a carriage return or not. -/
def Handles (d : Decoder) (afterReturn : Bool) (byte : UInt8) : Prop :=
  d.step byte = ({ d with afterReturn := byte == 0x0D } : Decoder).key afterReturn byte

/-- Whether a byte is swallowed: it has no effect, and what was typed stays as it is. -/
def Swallows (d : Decoder) (byte : UInt8) : Prop :=
  (d.step byte).2 = none ∧ (d.step byte).1.line = d.line

theorem afterReturn_key (d : Decoder) (afterReturn : Bool) (byte : UInt8) :
    (d.key afterReturn byte).1.afterReturn = d.afterReturn := by
  unfold key enter
  repeat' split
  all_goals rfl

theorem afterReturn_step (d : Decoder) (byte : UInt8) :
    (d.step byte).1.afterReturn = (byte == 0x0D) := by
  unfold step
  cases d.mode with
  | plain => exact afterReturn_key _ _ _
  | escape => rfl
  | sequence => rfl

theorem step_of_plain (h : d.mode = .plain) (byte : UInt8) :
    d.Handles d.afterReturn byte := by
  unfold Handles step
  rw [h]

theorem mode_step_of_plain (h : d.mode = .plain) (byte : UInt8) :
    (d.step byte).1.mode = if byte = escapeByte then .escape else .plain := by
  rw [step_of_plain h byte]
  unfold key enter escapeByte
  by_cases hbyte : byte = 0x1B
  · rw [if_pos hbyte, if_pos hbyte]
  · rw [if_neg hbyte, if_neg hbyte]
    repeat' split
    all_goals exact h

theorem step_of_escape (h : d.mode = .escape) (byte : UInt8) : d.Swallows byte ∧
    (d.step byte).1.mode = if Opens byte then .sequence else .plain := by
  unfold Swallows step
  rw [h]
  exact ⟨⟨rfl, rfl⟩, rfl⟩

theorem step_of_sequence (h : d.mode = .sequence) (byte : UInt8) : d.Swallows byte ∧
    (d.step byte).1.mode = if Ends byte then .plain else .sequence := by
  unfold Swallows step
  rw [h]
  exact ⟨⟨rfl, rfl⟩, rfl⟩

theorem isSome_key (d : Decoder) {afterReturn : Bool}
    (h : byte = 0x0D ∨ byte = 0x03 ∨ byte = 0x04 ∨ byte = 0x0A ∧ afterReturn = false) :
    (d.key afterReturn byte).2.isSome = true := by
  obtain rfl | rfl | rfl | ⟨rfl, rfl⟩ := h <;> rfl

/-! ## Streams -/

theorem feed_cons (d : Decoder) (byte : UInt8) (rest : List UInt8) :
    d.feed (byte :: rest) =
      (((d.step byte).1.feed rest).1, (d.step byte).2.toList ++ ((d.step byte).1.feed rest).2) :=
  rfl

theorem feed_append (d : Decoder) (first second : List UInt8) :
    d.feed (first ++ second) =
      (((d.feed first).1.feed second).1, (d.feed first).2 ++ ((d.feed first).1.feed second).2) := by
  induction first generalizing d with
  | nil => rfl
  | cons byte rest ih =>
    rw [List.cons_append, feed_cons, feed_cons, ih, List.append_assoc]

theorem feed_concat (d : Decoder) (before : List UInt8) (byte : UInt8) :
    (d.feed (before ++ [byte])).1 = ((d.feed before).1.step byte).1 := by
  rw [feed_append]
  rfl

/-- Where bytes end, by what a decoder that has taken them keeps. -/
structure Reached (before : List UInt8) (d : Decoder) : Prop where
  plain : d.mode = .plain → Even (escapesBehind before)
  escape : d.mode = .escape → ¬Even (escapesBehind before)
  sequence : d.mode = .sequence → ∃ start opener inside,
    before = start ++ escapeByte :: opener :: inside ∧ Opens opener ∧ ∀ b ∈ inside, ¬Ends b
  afterReturn : d.afterReturn = (before.getLast? == some 0x0D)

theorem Reached.step {before : List UInt8} (h : Reached before d) (byte : UInt8) :
    Reached (before ++ [byte]) (d.step byte).1 := by
  have hreturn : (d.step byte).1.afterReturn = ((before ++ [byte]).getLast? == some 0x0D) := by
    rw [afterReturn_step, List.getLast?_concat]
    rfl
  cases hmode : d.mode with
  | plain =>
    have hnext := mode_step_of_plain hmode byte
    by_cases hbyte : byte = escapeByte
    · rw [if_pos hbyte] at hnext
      refine ⟨by rw [hnext]; nofun, fun _ => ?_, by rw [hnext]; nofun, hreturn⟩
      rw [hbyte, escapesBehind_concat_escape, Nat.even_add_one, not_not]
      exact h.plain hmode
    · rw [if_neg hbyte] at hnext
      refine ⟨fun _ => ?_, by rw [hnext]; nofun, by rw [hnext]; nofun, hreturn⟩
      rw [escapesBehind_concat_of_ne hbyte]
      exact Even.zero
  | escape =>
    have hnext := (step_of_escape hmode byte).2
    by_cases hopens : Opens byte
    · rw [if_pos hopens] at hnext
      refine ⟨by rw [hnext]; nofun, by rw [hnext]; nofun, fun _ => ?_, hreturn⟩
      obtain ⟨start, rfl⟩ := exists_of_odd_escapesBehind (h.escape hmode)
      exact ⟨start, byte, [], by rw [List.append_assoc]; rfl, hopens, nofun⟩
    · rw [if_neg hopens] at hnext
      refine ⟨fun _ => ?_, by rw [hnext]; nofun, by rw [hnext]; nofun, hreturn⟩
      by_cases hbyte : byte = escapeByte
      · rw [hbyte, escapesBehind_concat_escape, Nat.even_add_one]
        exact h.escape hmode
      · rw [escapesBehind_concat_of_ne hbyte]
        exact Even.zero
  | sequence =>
    have hnext := (step_of_sequence hmode byte).2
    by_cases hends : Ends byte
    · rw [if_pos hends] at hnext
      refine ⟨fun _ => ?_, by rw [hnext]; nofun, by rw [hnext]; nofun, hreturn⟩
      rw [escapesBehind_concat_of_ne hends.ne_escape]
      exact Even.zero
    · rw [if_neg hends] at hnext
      refine ⟨by rw [hnext]; nofun, by rw [hnext]; nofun, fun _ => ?_, hreturn⟩
      obtain ⟨start, opener, inside, rfl, hopener, hinside⟩ := h.sequence hmode
      refine ⟨start, opener, inside ++ [byte], by simp, hopener, fun b hb => ?_⟩
      obtain hb | hb := List.mem_append.mp hb
      · exact hinside b hb
      · rwa [List.mem_singleton.mp hb]

/-- **A decoder keeps where the bytes end that it has taken.** -/
theorem reached_feed (before : List UInt8) : Reached before (fresh.feed before).1 := by
  induction before using List.reverseRecOn with
  | nil => exact ⟨fun _ => Even.zero, nofun, nofun, rfl⟩
  | append_singleton before byte ih =>
    rw [feed_concat]
    exact ih.step byte

/-- Behind a sequence that has come to its end a byte is a key again. -/
theorem mode_feed_sequence {opener last : UInt8} {inside : List UInt8} (hmode : d.mode = .plain)
    (hopener : Opens opener) (hinside : ∀ b ∈ inside, ¬Ends b) (hlast : Ends last) :
    (d.feed (escapeByte :: opener :: inside ++ [last])).1.mode = .plain := by
  have hopened : ((d.step escapeByte).1.step opener).1.mode = .sequence := by
    have hescape : (d.step escapeByte).1.mode = .escape := by
      rw [mode_step_of_plain hmode, if_pos rfl]
    rw [(step_of_escape hescape opener).2]
    exact if_pos hopener
  have hgoes {e : Decoder} (he : e.mode = .sequence) : (e.feed inside).1.mode = .sequence := by
    induction inside generalizing e with
    | nil => exact he
    | cons b rest ih =>
      have hstays : (e.step b).1.mode = .sequence := by
        rw [(step_of_sequence he b).2]
        exact if_neg (hinside b (List.mem_cons_self ..))
      exact ih (fun c hc => hinside c (List.mem_cons_of_mem b hc)) hstays
  rw [feed_concat, (step_of_sequence _ last).2]
  · exact if_pos hlast
  · exact hgoes hopened

theorem mode_of_whole {before : List UInt8} (h : Whole before) :
    (fresh.feed before).1.mode = .plain := by
  induction h with
  | nil => rfl
  | byte h hb ih => rw [feed_concat, mode_step_of_plain ih, if_neg hb]
  | sequence h hopener hinside hlast ih =>
    rw [feed_append]
    exact mode_feed_sequence ih hopener hinside hlast

/-- A byte that is in no sequence is not taken for a part of one. -/
theorem mode_of_not_inSequence {before : List UInt8} {byte : UInt8}
    (h : ¬InSequence before byte) : (fresh.feed before).1.mode ≠ .sequence := fun hmode => by
  obtain ⟨start, opener, inside, rfl, hopener, hinside⟩ := (reached_feed before).sequence hmode
  refine h ⟨start, opener, inside ++ [byte], by simp, hopener, ?_⟩
  rwa [List.dropLast_concat]

end Decoder

/-! ## Bytes that take effect -/

/-- **Bytes outside sequences are keys behind an even number of escapes.** A byte of a stream that
belongs to no sequence is handled as a key if the number of escapes directly before it is even, and
swallowed if that number is odd; so a return, an interrupt, a logout and a line feed that does not
follow a return take effect exactly if the number is even. Behind bytes that hold no escapes but
those of complete sequences every byte is handled. -/
theorem key_of_even_escapes (before : List UInt8) (byte : UInt8) :
    let d := (Decoder.fresh.feed before).1
    let afterReturn := before.getLast? == some 0x0D
    (¬InSequence before byte →
      (Even (escapesBehind before) → d.Handles afterReturn byte) ∧
      (¬Even (escapesBehind before) → d.Swallows byte) ∧
      (byte = 0x0D ∨ byte = 0x03 ∨ byte = 0x04 ∨ byte = 0x0A ∧ afterReturn = false →
        ((d.step byte).2.isSome = true ↔ Even (escapesBehind before)))) ∧
      (Whole before → d.Handles afterReturn byte) := by
  intro d afterReturn
  have hreached : d.Reached before := Decoder.reached_feed before
  have hplain (hmode : d.mode = .plain) : d.Handles afterReturn byte := by
    have hhandles := Decoder.step_of_plain hmode byte
    rwa [hreached.afterReturn] at hhandles
  refine ⟨fun hout => ?_, fun hwhole => hplain (Decoder.mode_of_whole hwhole)⟩
  have hkey (heven : Even (escapesBehind before)) : d.Handles afterReturn byte := by
    cases hmode : d.mode with
    | plain => exact hplain hmode
    | escape => exact absurd heven (hreached.escape hmode)
    | sequence => exact absurd hmode (Decoder.mode_of_not_inSequence hout)
  have hlost (hodd : ¬Even (escapesBehind before)) : d.Swallows byte := by
    cases hmode : d.mode with
    | plain => exact absurd (hreached.plain hmode) hodd
    | escape => exact (Decoder.step_of_escape hmode byte).1
    | sequence => exact (Decoder.step_of_sequence hmode byte).1
  refine ⟨hkey, hlost, fun hspecial => ⟨fun heffect => ?_, fun heven => ?_⟩⟩
  · by_contra hodd
    rw [(hlost hodd).1] at heffect
    cases heffect
  · rw [hkey heven]
    exact Decoder.isSome_key _ hspecial

/-- A return behind two escapes, and a letter behind a sequence in which an escape stands. -/
theorem key_of_even_escapes_example :
    ¬InSequence [escapeByte, escapeByte] 0x0D ∧
      Whole [escapeByte, 0x5B, escapeByte, 0x44] ∧
      ((Decoder.fresh.feed [escapeByte, escapeByte]).1.step 0x0D).2.isSome = true ∧
      (Decoder.fresh.feed [escapeByte, 0x5B, escapeByte, 0x44]).1.Handles false 0x74 := by
  have hout : ¬InSequence [escapeByte, escapeByte] 0x0D :=
    not_inSequence_of_any (by decide)
  have hwhole : Whole [escapeByte, 0x5B, escapeByte, 0x44] :=
    @Whole.sequence [] [escapeByte] 0x5B 0x44 .nil (by decide)
      (fun b hb => by rw [List.mem_singleton.mp hb]; decide) (by decide)
  obtain ⟨-, -, heffect⟩ := (key_of_even_escapes [escapeByte, escapeByte] 0x0D).1 hout
  exact ⟨hout, hwhole, (heffect (.inl rfl)).mpr (by decide),
    (key_of_even_escapes [escapeByte, 0x5B, escapeByte, 0x44] 0x74).2 hwhole⟩

/-- A single escape takes the return behind it with it: the line is not entered, though the return
belongs to no sequence. -/
theorem escape_swallows_return :
    (0x0D : UInt8) ≠ escapeByte ∧ ¬InSequence [0x78, escapeByte] 0x0D ∧
      Decoder.fresh.feed [0x78, escapeByte, 0x0D] = (⟨['x'], .plain, true⟩, [.typed 'x']) :=
  ⟨by decide, not_inSequence_of_any (by decide), by decide⟩

end Honeypot.Terminal
