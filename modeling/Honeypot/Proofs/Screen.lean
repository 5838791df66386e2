import Mathlib.Data.List.TakeDrop
import Honeypot.Proofs.Terminal
import Honeypot.Proofs.Words

/-!
# What the screen shows

The echo of the keys, played on a screen of one line. As long as no tab is pressed the screen shows
what would be entered (`screen_shows_line`): the line that is being typed stands on it, followed
only by blanks, and the cursor is right behind it; and whatever is entered is the text that was
visible at that moment, without the blanks around it.
-/

namespace Honeypot.Terminal

/-! ## Typed characters -/

/-- Whether a character can be typed: it is printed, and it is a byte. -/
def IsTypable (c : Char) : Prop := 0x20 ≤ c.toNat ∧ c.toNat ≤ 0x7E

theorem isTypable_ofNat {byte : UInt8} (hlow : 0x20 ≤ byte) (hhigh : byte ≤ 0x7E) :
    IsTypable (Char.ofNat byte.toNat) := by
  have hlow : 0x20 ≤ byte.toNat := hlow
  have hhigh : byte.toNat ≤ 0x7E := hhigh
  have hvalid : byte.toNat.isValidChar := .inl (by omega)
  have hnat : (Char.ofNat byte.toNat).toNat = byte.toNat := by
    unfold Char.ofNat
    rw [dif_pos hvalid]
    rfl
  unfold IsTypable
  rw [hnat]
  exact ⟨hlow, hhigh⟩

/-! ## Screens -/

/-- A screen of one line: the characters on it, and the column of the cursor. -/
structure Screen where
  line : List Char
  cursor : Nat
  deriving Repr, DecidableEq

namespace Screen

def blank : Screen := ⟨[], 0⟩

/-- Writes a character at the cursor and moves the cursor right. -/
def write (s : Screen) (c : Char) : Screen :=
  ⟨s.line.takeD s.cursor ' ' ++ c :: s.line.drop (s.cursor + 1), s.cursor + 1⟩

/-- Takes a character of the output: a backspace moves the cursor left, a return moves it to the
first column, a line feed begins another line, and everything else is written. -/
def put (s : Screen) (c : Char) : Screen :=
  if c = '\x08' then { s with cursor := s.cursor - 1 }
  else if c = '\r' then { s with cursor := 0 }
  else if c = '\n' then { s with line := [] }
  else s.write c

/-- Plays a text on a screen. -/
def print (s : Screen) (text : String) : Screen := text.toList.foldl put s

/-- The screen behind the echo of some keys. -/
def replay (keys : List Key) : Screen := blank.print (String.join (keys.map Key.echo))

/-- What can be read on a screen, without the blanks around it. -/
def visible (s : Screen) : String := Text.strip (String.ofList s.line)

/-- Whether a screen reads as a text with only blanks behind it, and the cursor is right behind the
text. -/
structure Shows (s : Screen) (text : List Char) : Prop where
  reads : ∃ n, s.line = text ++ List.replicate n ' '
  cursor : s.cursor = text.length

variable {s : Screen} {text : List Char}

theorem print_append (s : Screen) (a b : String) : s.print (a ++ b) = (s.print a).print b := by
  unfold print
  rw [String.toList_append, List.foldl_append]

theorem print_lineEnd (s : Screen) (a : String) : s.print (a ++ "\r\n") = blank := by
  rw [print_append]
  rfl

theorem replay_concat (keys : List Key) (key : Key) :
    replay (keys ++ [key]) = (replay keys).print key.echo := by
  have hjoin : String.join [key.echo] = key.echo := String.empty_append
  unfold replay
  rw [List.map_append, String.join_append, print_append, List.map_singleton, hjoin]

theorem shows_blank : blank.Shows [] := ⟨⟨0, rfl⟩, rfl⟩

theorem Shows.write (h : s.Shows text) (c : Char) : (s.write c).Shows (text ++ [c]) := by
  obtain ⟨n, hline⟩ := h.reads
  refine ⟨⟨n - 1, ?_⟩, ?_⟩
  · show s.line.takeD s.cursor ' ' ++ c :: s.line.drop (s.cursor + 1) = _
    rw [hline, h.cursor, List.takeD_left, List.drop_length_add_append, List.drop_replicate,
      List.append_assoc, List.singleton_append]
  · show s.cursor + 1 = _
    rw [h.cursor, List.length_append]
    rfl

theorem Shows.erase {c : Char} (h : s.Shows (text ++ [c])) :
    (s.print (Key.echo .erased)).Shows text := by
  obtain ⟨n, hline⟩ := h.reads
  have hback : s.cursor - 1 = text.length := by
    rw [h.cursor, List.length_append]
    rfl
  refine ⟨⟨n + 1, ?_⟩, hback⟩
  show s.line.takeD (s.cursor - 1) ' ' ++ ' ' :: s.line.drop (s.cursor - 1 + 1) = _
  rw [hback, hline, List.append_assoc, List.takeD_left, List.drop_length_add_append]
  rfl

theorem Shows.type {c : Char} (h : s.Shows text) (hc : IsTypable c) :
    (s.print (Key.echo (.typed c))).Shows (text ++ [c]) := by
  have hput : s.put c = s.write c := by
    have hne {d : Char} (hd : d.toNat < 0x20) : c ≠ d := by
      rintro rfl
      exact absurd hc.1 (Nat.not_le.mpr hd)
    unfold put
    rw [if_neg (hne (by decide)), if_neg (hne (by decide)), if_neg (hne (by decide))]
  have hprint : s.print (Key.echo (.typed c)) = s.put c := by
    unfold print Key.echo
    rw [String.toList_singleton]
    rfl
  rw [hprint, hput]
  exact h.write c

theorem Shows.visible_eq (h : s.Shows text) : s.visible = Text.strip (String.ofList text) := by
  obtain ⟨n, hline⟩ := h.reads
  have hblank : ∀ b ∈ List.replicate n ' ', Text.isBlank b = true := by
    intro b hb
    rw [List.eq_of_mem_replicate hb]
    rfl
  unfold visible Text.strip Text.trim
  rw [String.toList_ofList, String.toList_ofList, hline, Text.dropEnds_append hblank]

end Screen

/-! ## Keys -/

namespace Decoder

/-- What a byte may do to the line that is being typed, with the key that it is. -/
inductive Effect (line : List Char) (byte : UInt8) : Option Key → List Char → Prop
  | swallowed : Effect line byte none line
  | enteredBlank (h : Text.strip (String.ofList line) = "") :
      Effect line byte (some .enteredBlank) []
  | entered (h : Text.strip (String.ofList line) ≠ "") :
      Effect line byte (some (.entered (Text.strip (String.ofList line)))) []
  | erased {rest : List Char} {c : Char} (h : line = rest ++ [c]) :
      Effect line byte (some .erased) rest
  | interrupted : Effect line byte (some .interrupted) []
  | loggedOut : Effect line byte (some .loggedOut) []
  | tab (h : byte = 0x09) : Effect line byte (some .tab) line
  | typed {c : Char} (h : IsTypable c) : Effect line byte (some (.typed c)) (line ++ [c])

theorem effect_enter (d : Decoder) (byte : UInt8) :
    Effect d.line byte d.enter.2 d.enter.1.line := by
  unfold enter
  dsimp only
  split
  · next hempty => exact .enteredBlank (String.isEmpty_iff.mp hempty)
  · next hne => exact .entered fun hempty => hne (String.isEmpty_iff.mpr hempty)

theorem effect_key (d : Decoder) (afterReturn : Bool) (byte : UInt8) :
    Effect d.line byte (d.key afterReturn byte).2 (d.key afterReturn byte).1.line := by
  unfold key
  split
  · exact .swallowed
  split
  · exact effect_enter d byte
  split
  · split
    · exact .swallowed
    · exact effect_enter d byte
  split
  · split
    · exact .swallowed
    · next hline =>
      have hne : d.line ≠ [] := fun hnil => hline (List.isEmpty_iff.mpr hnil)
      exact .erased (List.dropLast_concat_getLast hne).symm
  split
  · exact .interrupted
  split
  · exact .loggedOut
  split
  · next htab => exact .tab htab
  split
  · next hbyte => exact .typed (isTypable_ofNat hbyte.1 hbyte.2)
  · exact .swallowed

theorem effect_step (d : Decoder) (byte : UInt8) :
    Effect d.line byte (d.step byte).2 (d.step byte).1.line := by
  cases hmode : d.mode with
  | plain =>
    rw [step_of_plain hmode byte]
    exact effect_key { d with afterReturn := byte == 0x0D } d.afterReturn byte
  | escape =>
    obtain ⟨hkey, hline⟩ := (step_of_escape hmode byte).1
    rw [hkey, hline]
    exact .swallowed
  | sequence =>
    obtain ⟨hkey, hline⟩ := (step_of_sequence hmode byte).1
    rw [hkey, hline]
    exact .swallowed

variable {line line' : List Char} {byte : UInt8} {key : Key} {key? : Option Key}

theorem Effect.line_of_none (h : Effect line byte none line') : line' = line := by
  cases h
  rfl

theorem Effect.typable (h : Effect line byte key? line') (hline : ∀ c ∈ line, IsTypable c) :
    ∀ c ∈ line', IsTypable c := by
  cases h with
  | swallowed => exact hline
  | enteredBlank => exact List.forall_mem_nil _
  | entered => exact List.forall_mem_nil _
  | erased h =>
    rw [h] at hline
    exact (List.forall_mem_append.mp hline).1
  | interrupted => exact List.forall_mem_nil _
  | loggedOut => exact List.forall_mem_nil _
  | tab => exact hline
  | typed h => exact List.forall_mem_append.mpr ⟨hline, List.forall_mem_singleton.mpr h⟩

theorem Effect.shows {s : Screen} (h : Effect line byte (some key) line') (hbyte : byte ≠ 0x09)
    (hs : s.Shows line) : (s.print key.echo).Shows line' := by
  have hfresh (front : String) : (s.print (front ++ "\r\n")).Shows [] := by
    rw [Screen.print_lineEnd]
    exact Screen.shows_blank
  cases h with
  | enteredBlank => exact hfresh ""
  | entered => exact hfresh ""
  | erased h =>
    rw [h] at hs
    exact hs.erase
  | interrupted => exact hfresh "^C"
  | loggedOut => exact hfresh "logout"
  | tab h => exact absurd h hbyte
  | typed h => exact hs.type h

end Decoder

/-! ## Streams -/

/-- What a key may enter where a screen shows something: a line is not empty, has no blanks around
it and is what is visible, and only where nothing is visible a blank line is entered. -/
def Screen.Answers (s : Screen) : Key → Prop
  | .entered line =>
    line ≠ "" ∧ (∀ c ∈ line.toList.head?, Text.isBlank c = false) ∧
      (∀ c ∈ line.toList.getLast?, Text.isBlank c = false) ∧ line = s.visible
  | .enteredBlank => s.visible = ""
  | _ => True

theorem Decoder.Effect.answers {line line' : List Char} {byte : UInt8} {key : Key} {s : Screen}
    (h : Effect line byte (some key) line') (hs : s.Shows line) : s.Answers key := by
  cases h with
  | enteredBlank h => exact hs.visible_eq.trans h
  | entered h =>
    refine ⟨h, fun c hc => ?_, fun c hc => ?_, hs.visible_eq.symm⟩
    · rw [Text.toList_strip_ofList] at hc
      exact Text.head?_dropEnds hc
    · rw [Text.toList_strip_ofList] at hc
      exact Text.getLast?_dropEnds hc
  | _ => trivial

/-- What holds behind some bytes that a fresh decoder has taken. -/
structure Mirrored (d : Decoder) (keys : List Key) : Prop where
  shows : (Screen.replay keys).Shows d.line
  typable : ∀ c ∈ d.line, IsTypable c
  answers : ∀ before key after, keys = before ++ key :: after → (Screen.replay before).Answers key

theorem mirrored_fresh : Mirrored Decoder.fresh [] where
  shows := Screen.shows_blank
  typable := List.forall_mem_nil _
  answers _ _ _ h := absurd h (List.append_ne_nil_of_right_ne_nil _ (List.cons_ne_nil _ _)).symm

theorem Mirrored.concat {d d' : Decoder} {keys : List Key} {byte : UInt8} {key : Key}
    (h : Mirrored d keys) (heffect : Decoder.Effect d.line byte (some key) d'.line)
    (hbyte : byte ≠ 0x09) : Mirrored d' (keys ++ [key]) where
  shows := by
    rw [Screen.replay_concat]
    exact heffect.shows hbyte h.shows
  typable := heffect.typable h.typable
  answers before other after hkeys := by
    obtain rfl | ⟨between, last, rfl⟩ := after.eq_nil_or_concat'
    · obtain ⟨rfl, hkey⟩ := List.append_inj' hkeys rfl
      cases hkey
      exact heffect.answers h.shows
    · rw [← List.cons_append, ← List.append_assoc] at hkeys
      exact h.answers before other between (List.append_inj' hkeys rfl).1

theorem Mirrored.step {d : Decoder} {keys : List Key} {byte : UInt8} (h : Mirrored d keys)
    (hbyte : byte ≠ 0x09) : Mirrored (d.step byte).1 (keys ++ (d.step byte).2.toList) := by
  have heffect := d.effect_step byte
  cases hkey : (d.step byte).2 with
  | some key =>
    rw [hkey] at heffect
    exact h.concat heffect hbyte
  | none =>
    rw [hkey] at heffect
    have hline := heffect.line_of_none
    rw [Option.toList_none, List.append_nil]
    exact ⟨hline ▸ h.shows, hline ▸ h.typable, h.answers⟩

theorem mirrored_feed {bytes : List UInt8} (h : 0x09 ∉ bytes) :
    Mirrored (Decoder.fresh.feed bytes).1 (Decoder.fresh.feed bytes).2 := by
  induction bytes using List.reverseRecOn with
  | nil => exact mirrored_fresh
  | append_singleton before byte ih =>
    obtain ⟨hbefore, hbyte⟩ := not_or.mp (mt List.mem_append.mpr h)
    have hlast : Decoder.feed (Decoder.fresh.feed before).1 [byte] =
        (((Decoder.fresh.feed before).1.step byte).1,
          ((Decoder.fresh.feed before).1.step byte).2.toList) :=
      congrArg _ (List.append_nil _)
    rw [Decoder.feed_append, hlast]
    exact (ih hbefore).step (List.ne_of_not_mem_cons hbyte).symm

/-- **The screen shows what will be entered.** Behind any bytes without a tab the screen reads as
the line that is being typed with only blanks behind it, the cursor is right behind the line, and
the line holds printed bytes only. Whatever was entered so far is not empty, has no blanks around it
and is what was visible on the screen, without the blanks around it, when it was entered; nothing
was visible where a blank line was entered. -/
theorem screen_shows_line {bytes : List UInt8} (h : 0x09 ∉ bytes) :
    (Screen.replay (Decoder.fresh.feed bytes).2).Shows (Decoder.fresh.feed bytes).1.line ∧
      (∀ c ∈ (Decoder.fresh.feed bytes).1.line, 0x20 ≤ c.toNat ∧ c.toNat ≤ 0x7E) ∧
      ∀ before key after, (Decoder.fresh.feed bytes).2 = before ++ key :: after →
        (Screen.replay before).Answers key := by
  have hmirrored := mirrored_feed h
  exact ⟨hmirrored.shows, hmirrored.typable, hmirrored.answers⟩

/-- A character is taken back, the line is entered with a blank behind it, and more is typed. -/
theorem screen_shows_line_example :
    let bytes : List UInt8 := [0x6C, 0x78, 0x7F, 0x73, 0x20, 0x0D, 0x61]
    let before := [Key.typed 'l', .typed 'x', .erased, .typed 's', .typed ' ']
    (0x09 ∉ bytes ∧
      (Decoder.fresh.feed bytes).2 = before ++ .entered "ls" :: [.typed 'a']) ∧
    (Screen.replay (Decoder.fresh.feed bytes).2).Shows ['a'] ∧
    (Screen.replay before).Answers (.entered "ls") := by
  intro bytes before
  have htab : 0x09 ∉ bytes := by decide
  have hkeys : (Decoder.fresh.feed bytes).2 = before ++ .entered "ls" :: [.typed 'a'] := by decide
  obtain ⟨hshows, -, hanswers⟩ := screen_shows_line htab
  exact ⟨⟨htab, hkeys⟩, hshows, hanswers before (.entered "ls") [.typed 'a'] hkeys⟩

end Honeypot.Terminal
