import Mathlib.Data.List.Basic
import Honeypot.Proofs.Terminal

/-!
# Ways to end a line

A terminal ends a line by a carriage return, by a line feed, or by both. The decoder remembers of
the bytes before only whether a return was the last of them, and that tells something only to a
line feed (`step_of_alike`). So a line that is typed behind any end gives the keys that it gives on
a fresh terminal and is then entered once (`feed_line`), and a stream of lines gives the same keys
whichever way the terminal ends them (`line_ends_agree`).
-/

namespace Honeypot.Terminal

/-! ## Lines -/

/-- The ways in which a terminal ends a line. -/
inductive LineEnd where
  | ret
  | feed
  | both
  deriving Repr, DecidableEq

def LineEnd.bytes : LineEnd → List UInt8
  | .ret => [0x0D]
  | .feed => [0x0A]
  | .both => [0x0D, 0x0A]

/-- The bytes of lines that are all ended in one way. -/
def LineEnd.stream (e : LineEnd) (lines : List (List UInt8)) : List UInt8 :=
  lines.flatMap (· ++ e.bytes)

/-- Whether bytes are those of one line: none of them ends a line, and no escape sequence that
begins in them is open behind them. -/
structure IsLine (bytes : List UInt8) : Prop where
  noReturn : 0x0D ∉ bytes
  noFeed : 0x0A ∉ bytes
  closed : (Decoder.fresh.feed bytes).1.mode = .plain

instance : DecidablePred IsLine := fun bytes =>
  decidable_of_iff
    (0x0D ∉ bytes ∧ 0x0A ∉ bytes ∧ (Decoder.fresh.feed bytes).1.mode = .plain)
    ⟨fun h => ⟨h.1, h.2.1, h.2.2⟩, fun h => ⟨h.noReturn, h.noFeed, h.closed⟩⟩

/-- Whether a key enters what was typed. -/
def Key.enters : Key → Bool
  | .entered _ => true
  | .enteredBlank => true
  | _ => false

/-- The keys of a line on a fresh terminal, and the one that enters what they leave. -/
def keysOfLine (bytes : List UInt8) : List Key :=
  let typed := Decoder.fresh.feed bytes
  typed.2 ++ typed.1.enter.2.toList

namespace Decoder

variable {d d' : Decoder} {byte : UInt8} {bytes : List UInt8}

/-! ## Decoders that differ in the last byte alone -/

/-- Whether two decoders differ at most in whether the byte before was a return. -/
def Alike (d d' : Decoder) : Prop := d.line = d'.line ∧ d.mode = d'.mode

theorem Alike.enter (h : Alike d d') : d.enter.2 = d'.enter.2 := by
  unfold Decoder.enter
  rw [h.1]

theorem key_of_ne_feed (h : byte ≠ 0x0A) (d : Decoder) (afterReturn afterReturn' : Bool) :
    d.key afterReturn byte = d.key afterReturn' byte := by
  unfold key
  rw [if_neg h, if_neg h]

/-- **Every byte but a line feed** does the same to decoders that are alike. -/
theorem step_of_alike (h : Alike d d') (hbyte : byte ≠ 0x0A) :
    (d.step byte).2 = (d'.step byte).2 ∧ Alike (d.step byte).1 (d'.step byte).1 := by
  obtain ⟨line, mode, afterReturn⟩ := d
  obtain ⟨line', mode', afterReturn'⟩ := d'
  obtain ⟨rfl, rfl⟩ : line = line' ∧ mode = mode' := h
  cases mode with
  | plain =>
    have hkey := key_of_ne_feed hbyte ⟨line, .plain, byte == 0x0D⟩ afterReturn afterReturn'
    exact ⟨congrArg Prod.snd hkey, congrArg (·.1.line) hkey, congrArg (·.1.mode) hkey⟩
  | escape => exact ⟨rfl, rfl, rfl⟩
  | sequence => exact ⟨rfl, rfl, rfl⟩

theorem feed_of_alike (h : Alike d d') (hbytes : 0x0A ∉ bytes) :
    (d.feed bytes).2 = (d'.feed bytes).2 ∧ Alike (d.feed bytes).1 (d'.feed bytes).1 := by
  induction bytes generalizing d d' with
  | nil => exact ⟨rfl, h⟩
  | cons byte rest ih =>
    obtain ⟨hbyte, hrest⟩ := List.ne_and_not_mem_of_not_mem_cons hbytes
    obtain ⟨hkey, hnext⟩ := step_of_alike h hbyte.symm
    obtain ⟨hkeys, hend⟩ := ih hnext hrest
    rw [feed_cons, feed_cons, hkey, hkeys]
    exact ⟨rfl, hend⟩

theorem afterReturn_feed (h : d.afterReturn = false) (hbytes : 0x0D ∉ bytes) :
    (d.feed bytes).1.afterReturn = false := by
  induction bytes generalizing d with
  | nil => exact h
  | cons byte rest ih =>
    obtain ⟨hbyte, hrest⟩ := List.ne_and_not_mem_of_not_mem_cons hbytes
    have hnext : (d.step byte).1.afterReturn = false :=
      (afterReturn_step d byte).trans (beq_false_of_ne hbyte.symm)
    exact ih hnext hrest

/-! ## Ends of lines -/

/-- Whether a decoder is at the start of a line, where the lines are ended in a given way. A return
just before is no matter unless the lines are ended by line feeds. -/
structure AtStart (e : LineEnd) (d : Decoder) : Prop where
  empty : d.line = []
  plain : d.mode = .plain
  settled : e = .feed → d.afterReturn = false

theorem atStart_fresh (e : LineEnd) : AtStart e fresh := ⟨rfl, rfl, fun _ => rfl⟩

/-- **The bytes of an end** enter the line once and lead to the start of the next. -/
theorem feed_lineEnd {e : LineEnd} (hplain : d.mode = .plain)
    (hsettled : e = .feed → d.afterReturn = false) :
    (d.feed e.bytes).2 = d.enter.2.toList ∧ AtStart e (d.feed e.bytes).1 := by
  obtain ⟨line, mode, afterReturn⟩ := d
  obtain rfl : mode = .plain := hplain
  cases e with
  | ret => exact ⟨List.append_nil _, rfl, rfl, nofun⟩
  | feed =>
    obtain rfl : afterReturn = false := hsettled rfl
    exact ⟨List.append_nil _, rfl, rfl, fun _ => rfl⟩
  | both => exact ⟨List.append_nil _, rfl, rfl, nofun⟩

/-- **A line that is ended** gives the keys that it gives on a fresh terminal, and is entered. -/
theorem feed_line {e : LineEnd} (hstart : AtStart e d) (h : IsLine bytes) :
    (d.feed (bytes ++ e.bytes)).2 = keysOfLine bytes ∧
      AtStart e (d.feed (bytes ++ e.bytes)).1 := by
  have halike : Alike d fresh := ⟨hstart.empty, hstart.plain⟩
  obtain ⟨hkeys, hend⟩ := feed_of_alike halike h.noFeed
  have hplain : (d.feed bytes).1.mode = .plain := hend.2.trans h.closed
  obtain ⟨hentered, hnext⟩ := feed_lineEnd (e := e) hplain fun he =>
    afterReturn_feed (hstart.settled he) h.noReturn
  rw [feed_append]
  refine ⟨?_, hnext⟩
  rw [hkeys, hentered, hend.enter]
  rfl

theorem feed_stream {e : LineEnd} {lines : List (List UInt8)} (hstart : AtStart e d)
    (h : ∀ line ∈ lines, IsLine line) :
    (d.feed (e.stream lines)).2 = lines.flatMap keysOfLine ∧
      AtStart e (d.feed (e.stream lines)).1 := by
  induction lines generalizing d with
  | nil => exact ⟨rfl, hstart⟩
  | cons line rest ih =>
    obtain ⟨hline, hrest⟩ := List.forall_mem_cons.mp h
    obtain ⟨hkeys, hnext⟩ := feed_line hstart hline
    obtain ⟨hmore, hend⟩ := ih hnext hrest
    unfold LineEnd.stream at hmore hend ⊢
    rw [List.flatMap_cons, feed_append, List.flatMap_cons, hkeys, hmore]
    exact ⟨rfl, hend⟩

/-! ## Entering -/

theorem countP_enters_enter (d : Decoder) : d.enter.2.toList.countP Key.enters = 1 := by
  unfold enter
  dsimp only
  split <;> rfl

theorem countP_enters_key (hreturn : byte ≠ 0x0D) (hfeed : byte ≠ 0x0A) (d : Decoder)
    (afterReturn : Bool) : (d.key afterReturn byte).2.toList.countP Key.enters = 0 := by
  unfold key
  rw [if_neg hreturn, if_neg hfeed]
  repeat' split
  all_goals rfl

theorem countP_enters_step (hreturn : byte ≠ 0x0D) (hfeed : byte ≠ 0x0A) (d : Decoder) :
    (d.step byte).2.toList.countP Key.enters = 0 := by
  cases hmode : d.mode with
  | plain =>
    rw [step_of_plain hmode byte]
    exact countP_enters_key hreturn hfeed _ _
  | escape => rw [(step_of_escape hmode byte).1.1, Option.toList_none, List.countP_nil]
  | sequence => rw [(step_of_sequence hmode byte).1.1, Option.toList_none, List.countP_nil]

theorem countP_enters_feed (hreturn : 0x0D ∉ bytes) (hfeed : 0x0A ∉ bytes) (d : Decoder) :
    (d.feed bytes).2.countP Key.enters = 0 := by
  induction bytes generalizing d with
  | nil => rfl
  | cons byte rest ih =>
    obtain ⟨hreturn, hmoreReturn⟩ := List.ne_and_not_mem_of_not_mem_cons hreturn
    obtain ⟨hfeed, hmoreFeed⟩ := List.ne_and_not_mem_of_not_mem_cons hfeed
    rw [feed_cons, List.countP_append, countP_enters_step hreturn.symm hfeed.symm,
      ih hmoreReturn hmoreFeed]

end Decoder

theorem countP_enters_keysOfLine {bytes : List UInt8} (h : IsLine bytes) :
    (keysOfLine bytes).countP Key.enters = 1 := by
  unfold keysOfLine
  rw [List.countP_append, Decoder.countP_enters_feed h.noReturn h.noFeed,
    Decoder.countP_enters_enter]

theorem countP_enters_keysOfLines {lines : List (List UInt8)} (h : ∀ line ∈ lines, IsLine line) :
    (lines.flatMap keysOfLine).countP Key.enters = lines.length := by
  induction lines with
  | nil => rfl
  | cons line rest ih =>
    obtain ⟨hline, hrest⟩ := List.forall_mem_cons.mp h
    rw [List.flatMap_cons, List.countP_append, countP_enters_keysOfLine hline, ih hrest,
      List.length_cons, Nat.add_comm]

/-- **All ways to end a line agree.** Lines give the same keys and leave the same line being typed
whether each of them is ended by a return, by a line feed or by both; every line, be it empty or
not, gives the keys that it gives on a fresh terminal and is entered exactly once. -/
theorem line_ends_agree {lines : List (List UInt8)} (h : ∀ line ∈ lines, IsLine line)
    (e e' : LineEnd) :
    let fed := Decoder.fresh.feed (e.stream lines)
    let fed' := Decoder.fresh.feed (e'.stream lines)
    fed.2 = fed'.2 ∧ fed.1.line = fed'.1.line ∧ fed.2 = lines.flatMap keysOfLine ∧
      fed.2.countP Key.enters = lines.length := by
  intro fed fed'
  obtain ⟨hkeys, hend⟩ := Decoder.feed_stream (Decoder.atStart_fresh e) h
  obtain ⟨hkeys', hend'⟩ := Decoder.feed_stream (Decoder.atStart_fresh e') h
  refine ⟨hkeys.trans hkeys'.symm, hend.empty.trans hend'.empty.symm, hkeys, ?_⟩
  rw [show fed.2 = lines.flatMap keysOfLine from hkeys]
  exact countP_enters_keysOfLines h

/-- Two empty lines around one in which a cursor key is pressed and a character is taken back. -/
theorem line_ends_agree_example :
    (∀ line ∈ [[], [0x6C, 0x78, 0x1B, 0x5B, 0x44, 0x7F, 0x73], []], IsLine line) ∧
      (Decoder.fresh.feed (LineEnd.both.stream [[], [0x6C, 0x78, 0x1B, 0x5B, 0x44, 0x7F, 0x73],
        []])).2 =
        [.enteredBlank, .typed 'l', .typed 'x', .erased, .typed 's', .entered "ls",
          .enteredBlank] := by
  have hlines : ∀ line ∈ [[], [0x6C, 0x78, 0x1B, 0x5B, 0x44, 0x7F, 0x73], []], IsLine line := by
    decide
  obtain ⟨hsame, -⟩ := line_ends_agree hlines .both .ret
  exact ⟨hlines, hsame.trans (by decide)⟩

end Honeypot.Terminal
