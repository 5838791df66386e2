import Honeypot.Proofs.Events.Ledgers
import Honeypot.Proofs.Path

/-!
# Transcripts line by line

What a reader finds in the transcript of a session: for every event that is told one line with the
time of day and a tag, and behind the line of a command those of its output. This holds exactly if
no text that is shown in a tagged line has a line feed (`framed_iff`): only an output is cut into
lines. What other sessions do and what is written elsewhere does not matter
(`transcript_framed_iff`).
-/

namespace Honeypot

namespace Text

/-! ## Reading lines -/

theorem length_splitOn (sep : Char) (cs : List Char) :
    (cs.splitOn sep).length = cs.count sep + 1 := by
  induction cs with
  | nil => rfl
  | cons c cs ih =>
    rw [List.splitOn_cons_eq_if_modifyHead]
    by_cases hc : c = sep
    · rw [if_pos (beq_iff_eq.mpr hc), List.length_cons, ih, hc, List.count_cons_self]
    · rw [if_neg (mt beq_iff_eq.mp hc), List.length_modifyHead, ih, List.count_cons_of_ne hc]

theorem block_append (lines more : List String) :
    block (lines ++ more) = block lines ++ block more := by
  unfold block
  rw [List.map_append, String.join_append]

/-- The lines of a text in which a line feed ends every line. -/
def endedLines (s : String) : List String := (fields '\n' s).dropLast

theorem endedLines_block_cons (l : String) (lines : List String) :
    endedLines (block (l :: lines)) = fields '\n' l ++ endedLines (block lines) := by
  have hblock : (block (l :: lines)).toList = l.toList ++ '\n' :: (block lines).toList := by
    rw [block_cons, String.toList_append, String.toList_append, List.append_assoc]
    rfl
  have hne : fields '\n' (block lines) ≠ [] :=
    mt List.map_eq_nil_iff.mp (List.splitOn_ne_nil _ _)
  unfold endedLines
  rw [← List.dropLast_append_of_ne_nil hne]
  unfold fields
  rw [hblock, List.splitOn_append_cons_self, List.map_append]

/-- **Lines read back** exactly if none of them has a line feed; if one has, there are more. -/
theorem endedLines_block (lines : List String) :
    ((∀ l ∈ lines, '\n' ∉ l.toList) → endedLines (block lines) = lines) ∧
      ((endedLines (block lines)).length = lines.length → ∀ l ∈ lines, '\n' ∉ l.toList) := by
  have hle (lines : List String) : lines.length ≤ (endedLines (block lines)).length := by
    induction lines with
    | nil => exact Nat.zero_le _
    | cons l lines ih =>
      rw [endedLines_block_cons, List.length_append, List.length_cons]
      unfold fields
      rw [List.length_map, length_splitOn]
      omega
  induction lines with
  | nil => exact ⟨fun _ => rfl, fun _ => nofun⟩
  | cons l lines ih =>
    rw [endedLines_block_cons, List.forall_mem_cons]
    constructor
    · rintro ⟨hl, hlines⟩
      unfold fields
      rw [ih.1 hlines, List.splitOn_eq_singleton hl, List.map_singleton, String.ofList_toList,
        List.singleton_append]
    · intro hlength
      have hrest := hle lines
      unfold fields at hlength
      rw [List.length_append, List.length_map, length_splitOn, List.length_cons] at hlength
      exact ⟨List.count_eq_zero.mp (by omega), ih.2 (by omega)⟩

end Text

namespace Calendar

theorem not_mem_clock (m : Moment) : '\n' ∉ m.clock.toList := by
  have htwo (n : Nat) : '\n' ∉ (twoDigits n).toList := by
    unfold twoDigits Text.fillLeft Text.copies Text.ofNat Text.inBase
    rw [String.toList_append, String.toList_ofList, String.toList_ofList, List.mem_append, not_or]
    refine ⟨fun hmem => ?_, fun hmem => ?_⟩
    · exact absurd (List.eq_of_mem_replicate hmem) (by decide)
    · exact absurd (Nat.isDigit_of_mem_toDigits (by decide) (by decide) hmem) (by decide)
  unfold Moment.clock Moment.shortClock
  simp only [String.toList_append, List.mem_append, not_or]
  exact ⟨⟨⟨⟨htwo _, by decide⟩, htwo _⟩, by decide⟩, htwo _⟩

end Calendar

theorem Json.text_sameKey_iff {s : String} {other : Json} :
    (Json.text s).sameKey other = true ↔ other = .text s := by
  cases other with
  | text t => exact beq_iff_eq.trans (eq_comm.trans (Json.text.injEq t s).to_iff.symm)
  | _ => exact iff_of_false (by simp [sameKey, wholeKey?]) nofun

namespace Events

namespace Transcript

/-! ## The lines of an event -/

/-- What stands behind the time of day in the line of an event. -/
def tag : Kind → String
  | .connection => "CONNECTION: "
  | .authentication => "AUTH: "
  | .command => "CMD: "
  | .download => "DOWNLOAD: "
  | .disconnect => "DISCONNECT "

/-- Whether an event has a line: a connection has none if nothing is known about the peer. -/
def isTold (r : Record) : Bool := r.kind ≠ .connection || !(r.get "intel").isVoid

/-- The texts of an event that are shown behind its tag. -/
def shownTexts (r : Record) : List String :=
  match r.kind with
  | .connection => if isTold r then [(r.get "intel").line] else []
  | .authentication => [(r.getOr "username" (.text "")).shown,
      if r.byPassword then (r.get "password").shown else r.method.shown]
  | .command => [(r.getOr "input" (.text "")).shown]
  | .download => [(r.getOr "url" (.text "")).shown, (r.getOr "tool" (.text "-")).shown]
  | .disconnect => [(r.getOr "reason" (.text "-")).shown, (r.getOr "duration" (.int 0)).shown,
      (r.getOr "command_count" (.int 0)).shown]

/-- The lines of the output of an event. -/
def outLines (r : Record) : List String :=
  match r.kind with
  | .command =>
    match r.get "output" with
    | .text output => if output.isEmpty then [] else outputLines output
    | _ => []
  | _ => []

/-- Whether an event can be told: its values can be written, and what a command has printed is a
text or nothing. -/
structure CanBeTold (r : Record) : Prop where
  values : ∀ field ∈ r.fields, field.2.fits valueRoom = true
  output : r.kind = .command → (r.get "output").isVoid = true ∨ ∃ s, r.get "output" = .text s

/-- An event can be told whatever texts it holds. -/
theorem CanBeTold.of_texts {r : Record} (h : ∀ field ∈ r.fields, ∃ s, field.2 = .text s) :
    CanBeTold r where
  values field hfield := by
    obtain ⟨s, hs⟩ := h field hfield
    rw [hs]
    exact Json.fits_text _ s
  output _ := by
    obtain heq | ⟨field, hfield, heq⟩ := r.getOr_cases "output" .null
    · exact .inl (by rw [Record.get, heq]; rfl)
    · obtain ⟨s, hs⟩ := h field hfield
      exact .inr ⟨s, heq.trans hs⟩

theorem CanBeTold.shown? {r : Record} (h : CanBeTold r) {default : Json}
    (hdefault : default.fits valueRoom = true) (name : String) :
    (r.getOr name default).shown? valueRoom = some (r.getOr name default).shown :=
  if_pos (Record.fits_getOr h.values hdefault name)

theorem not_mem_outputLines (output : String) : ∀ l ∈ outputLines output, '\n' ∉ l.toList := by
  intro l hl
  unfold outputLines Text.fields at hl
  rw [List.map_map] at hl
  obtain ⟨piece, hpiece, rfl⟩ := List.mem_map.mp hl
  have hback : (String.ofList piece).toList = piece := String.toList_ofList
  rw [Function.comp_apply, String.toList_append, List.mem_append, not_or, hback]
  exact ⟨by decide, not_mem_of_mem_splitOn hpiece⟩

theorem not_mem_outLines (r : Record) : ∀ l ∈ outLines r, '\n' ∉ l.toList := by
  unfold outLines
  split
  · split
    · split
      · exact nofun
      · exact not_mem_outputLines _
    · exact nofun
  · exact nofun

/-- An event that is told has one line with its tag, and then those of its output; there is a line
feed behind the tag exactly if one of the shown texts has one. -/
theorem eventLines?_eq {r : Record} (h : CanBeTold r) :
    ∃ text, eventLines? valueRoom r =
        some (if isTold r then (tag r.kind ++ text) :: outLines r else []) ∧
      ('\n' ∈ text.toList ↔ ∃ t ∈ shownTexts r, '\n' ∈ t.toList) := by
  have htext (name s : String) : (r.getOr name (.text s)).shown? valueRoom = _ :=
    h.shown? (Json.fits_text _ s) name
  unfold eventLines? isTold shownTexts outLines isTold
  cases hkind : r.kind with
  | connection =>
    refine ⟨if (r.get "intel").isVoid then "" else (r.get "intel").line, ?_, ?_⟩
    · have hline : (r.get "intel").line? valueRoom = some (r.get "intel").line :=
        if_pos (Record.fits_getOr h.values rfl "intel")
      dsimp only
      rw [hline]
      cases (r.get "intel").isVoid <;> rfl
    · cases (r.get "intel").isVoid <;> simp
  | authentication =>
    have hpassword : (r.get "password").shown? valueRoom = some (r.get "password").shown :=
      h.shown? rfl "password"
    have hmethod : r.method.shown? valueRoom = some r.method.shown := htext "method" "password"
    refine ⟨(r.getOr "username" (.text "")).shown ++ (" / " ++ ((if r.byPassword then
      (r.get "password").shown else "(" ++ r.method.shown ++ ")") ++
        if r.accepted then " [ACCEPTED]" else " [REJECTED]")), ?_, ?_⟩
    · simp only [htext, hpassword, hmethod, tag, String.append_assoc]
      cases r.byPassword <;> rfl
    · cases r.byPassword <;> cases r.accepted <;> simp [String.toList_append]
  | command =>
    refine ⟨(r.getOr "input" (.text "")).shown, ?_, by simp⟩
    have houtput := h.output hkind
    dsimp only
    rw [htext]
    generalize r.get "output" = output at houtput ⊢
    unfold Json.orElse
    by_cases hvoid : output.isVoid = true
    · rw [if_pos hvoid]
      cases output with
      | text s =>
        dsimp only
        rw [if_pos (show s.isEmpty = true from hvoid)]
        rfl
      | _ => rfl
    · rw [if_neg hvoid]
      obtain ⟨s, rfl⟩ := houtput.resolve_left hvoid
      rfl
  | download =>
    refine ⟨(r.getOr "url" (.text "")).shown ++ (" (" ++ ((r.getOr "tool" (.text "-")).shown ++
      ")")), ?_, ?_⟩
    · simp only [htext, tag, String.append_assoc]
      rfl
    · simp [String.toList_append]
  | disconnect =>
    have hzero : (Json.int 0).fits valueRoom = true := by
      unfold Json.fits
      decide
    have hnumber (name : String) : (r.getOr name (.int 0)).shown? valueRoom = _ :=
      h.shown? hzero name
    refine ⟨"(reason: " ++ ((r.getOr "reason" (.text "-")).shown ++ (", duration: " ++
      ((r.getOr "duration" (.int 0)).shown ++ ("s, commands: " ++
        ((r.getOr "command_count" (.int 0)).shown ++ ")"))))), ?_, ?_⟩
    · simp only [htext, hnumber, tag, String.append_assoc]
      rfl
    · simp [String.toList_append]

/-- The lines that an event adds to a transcript that was begun. -/
def linesOf (now : Calendar.Reading) (r : Record) : List String :=
  (stampedLines? valueRoom now r).getD []

/-- What stands in front of the texts of an event. -/
def frontOf (now : Calendar.Reading) (r : Record) : String :=
  "[" ++ now.moment.clock ++ "] " ++ tag r.kind

theorem not_mem_frontOf (now : Calendar.Reading) (r : Record) : '\n' ∉ (frontOf now r).toList := by
  have htag : '\n' ∉ (tag r.kind).toList := by cases r.kind <;> decide
  unfold frontOf
  simp only [String.toList_append, List.mem_append, not_or]
  exact ⟨⟨⟨by decide, Calendar.not_mem_clock _⟩, by decide⟩, htag⟩

theorem stampedLines?_eq (now : Calendar.Reading) {r : Record} (h : CanBeTold r) :
    ∃ text, stampedLines? valueRoom now r =
        some (if isTold r then (frontOf now r ++ text) :: outLines r else []) ∧
      ('\n' ∈ text.toList ↔ ∃ t ∈ shownTexts r, '\n' ∈ t.toList) := by
  obtain ⟨text, hlines, htext⟩ := eventLines?_eq h
  refine ⟨text, ?_, htext⟩
  unfold stampedLines? frontOf
  rw [hlines, Option.map_some]
  cases isTold r
  · rfl
  · rw [if_pos rfl, if_pos rfl]
    simp only [String.append_assoc]

theorem shownTexts_of_not_isTold {r : Record} (h : isTold r = false) : shownTexts r = [] := by
  have hkind : r.kind = .connection := by
    unfold isTold at h
    rw [Bool.or_eq_false_iff] at h
    exact not_not.mp (of_decide_eq_false h.1)
  unfold shownTexts
  rw [hkind, h]
  rfl

/-! ## What a reader finds -/

/-- Whether lines are those of events, one after the other: for an event that is told one line that
begins with the time of day and its tag, and the lines of its output. -/
inductive Framed : List (Calendar.Reading × Record) → List String → Prop
  | nil : Framed [] []
  | untold {now : Calendar.Reading} {r : Record} {events : List (Calendar.Reading × Record)}
      {lines : List String} (hr : isTold r = false) (h : Framed events lines) :
      Framed ((now, r) :: events) lines
  | told {now : Calendar.Reading} {r : Record} {events : List (Calendar.Reading × Record)}
      {lines : List String} {first : String} (hr : isTold r = true)
      (hfirst : Text.startsWith first (frontOf now r) = true) (h : Framed events lines) :
      Framed ((now, r) :: events) (first :: (outLines r ++ lines))

variable {events : List (Calendar.Reading × Record)}

/-- The lines of some events, one event after the other. -/
def bodyOf (events : List (Calendar.Reading × Record)) : List String :=
  events.flatMap fun (now, r) => linesOf now r

theorem framed_bodyOf (h : ∀ e ∈ events, CanBeTold e.2) : Framed events (bodyOf events) := by
  induction events with
  | nil => exact .nil
  | cons e events ih =>
    obtain ⟨now, r⟩ := e
    obtain ⟨hr, hevents⟩ := List.forall_mem_cons.mp h
    obtain ⟨text, hlines, -⟩ := stampedLines?_eq now hr
    have hbody : bodyOf ((now, r) :: events) = linesOf now r ++ bodyOf events := rfl
    rw [hbody, linesOf, hlines, Option.getD_some]
    cases htold : isTold r with
    | false => exact .untold htold (ih hevents)
    | true => exact .told htold (Text.startsWith_append _ _) (ih hevents)

theorem Framed.length_eq {lines lines' : List String} (h : Framed events lines)
    (h' : Framed events lines') : lines.length = lines'.length := by
  induction h generalizing lines' with
  | nil => cases h'; rfl
  | untold hr _ ih =>
    cases h' with
    | untold _ h' => exact ih h'
    | told hr' => rw [hr] at hr'; cases hr'
  | told hr _ _ ih =>
    cases h' with
    | untold hr' => rw [hr] at hr'; cases hr'
    | told _ _ h' => simp only [List.length_cons, List.length_append, ih h']

/-- Whether a line looks like the first one of an event. -/
def isTagged (line : String) : Bool := Text.startsWith line "["

/-- There are as many lines that look like the first one of an event as there are events. -/
theorem Framed.countP_isTagged {lines : List String} (h : Framed events lines) :
    lines.countP isTagged = (events.map Prod.snd).countP isTold := by
  induction h with
  | nil => rfl
  | untold hr _ ih => rw [ih, List.map_cons, List.countP_cons_of_neg (by simp [hr])]
  | @told now r events lines first hr hfirst _ ih =>
    have hout : (outLines r).countP isTagged = 0 := by
      refine List.countP_eq_zero.mpr fun l hl => ?_
      have hindent : ∃ rest, l = "           OUT: " ++ rest := by
        unfold outLines at hl
        split at hl
        · split at hl
          · split at hl
            · cases hl
            · unfold outputLines at hl
              obtain ⟨rest, -, rfl⟩ := List.mem_map.mp hl
              exact ⟨rest, rfl⟩
          · cases hl
        · cases hl
      obtain ⟨rest, rfl⟩ := hindent
      rw [isTagged, Text.startsWith_iff, String.toList_append]
      intro hprefix
      exact absurd hprefix (by simp)
    have hbracket : isTagged first = true := by
      rw [Text.startsWith_iff] at hfirst
      rw [isTagged, Text.startsWith_iff]
      refine List.IsPrefix.trans ?_ hfirst
      unfold frontOf
      rw [String.append_assoc, String.append_assoc, String.toList_append]
      exact List.prefix_append _ _
    rw [List.countP_cons_of_pos hbracket, List.countP_append, hout, Nat.zero_add, ih,
      List.map_cons, List.countP_cons_of_pos hr]

theorem mem_bodyOf_iff (h : ∀ e ∈ events, CanBeTold e.2) :
    (∀ l ∈ bodyOf events, '\n' ∉ l.toList) ↔
      ∀ e ∈ events, ∀ t ∈ shownTexts e.2, '\n' ∉ t.toList := by
  unfold bodyOf
  rw [List.forall_mem_flatMap]
  refine forall₂_congr fun e he => ?_
  obtain ⟨text, hlines, htext⟩ := stampedLines?_eq e.1 (h e he)
  dsimp only
  rw [linesOf, hlines, Option.getD_some]
  cases htold : isTold e.2 with
  | false =>
    rw [shownTexts_of_not_isTold htold]
    exact iff_of_true nofun nofun
  | true =>
    rw [if_pos rfl, List.forall_mem_cons, String.toList_append, List.mem_append, htext,
      or_iff_right (not_mem_frontOf e.1 e.2), and_iff_left (not_mem_outLines e.2)]
    simp only [not_exists, not_and]

/-- **A reader finds the lines of the events exactly if no text that is shown has a line feed.** -/
theorem framed_iff (h : ∀ e ∈ events, CanBeTold e.2) :
    Framed events (Text.endedLines (Text.block (bodyOf events))) ↔
      ∀ e ∈ events, ∀ t ∈ shownTexts e.2, '\n' ∉ t.toList := by
  rw [← mem_bodyOf_iff h]
  obtain ⟨hback, hmore⟩ := Text.endedLines_block (bodyOf events)
  constructor
  · exact fun hframed => hmore (hframed.length_eq (framed_bodyOf h))
  · intro hlines
    rw [hback hlines]
    exact framed_bodyOf h

end Transcript

/-! ## What is written elsewhere -/

section

variable {x : String}

/-- The journal and the ledger leave the transcripts alone. -/
theorem lookup_record (hx : Text.startsWith x "sessions/" = true) (log : Log)
    (now : Calendar.Reading) (r : Record) :
    (log.record now r).1.lookup x = log.directory.lookup x := by
  have hother {name : String} (hshort : "sessions/".toList.length ≤ name.toList.length)
      (hname : ¬ "sessions/".toList <+: name.toList) : Text.startsWith x name = false := by
    rw [← Bool.not_eq_true, Text.startsWith_iff]
    rw [Text.startsWith_iff] at hx
    exact fun h => hname (List.prefix_of_prefix_length_le hx h hshort)
  have hjournal := lookup_journal_write (hother (by decide) (by decide)) log.room log.keep
    log.midnight now log.directory r
  unfold Log.record
  split
  · exact hjournal
  · rw [Ledger.lookup_write_of_not_startsWith (hother (by decide) (by decide)), hjournal]

end

namespace Transcript

/-! ## Events of a session -/

/-- Whether an event is one of a session. -/
def isOf (id : String) (r : Record) : Bool := (Json.text id).sameKey (r.get "session_id")

/-- The event of a session that is written in a step. -/
def eventOf? (id : String) : Log.Step → Option (Calendar.Reading × Record)
  | .emit now r => if isOf id r then some (now, r) else none
  | .reopen _ => none

/-- The events of a session in a history, the first one first. -/
def eventsOf (id : String) (steps : List Log.Step) : List (Calendar.Reading × Record) :=
  steps.filterMap (eventOf? id)

/-- The heading that an event puts above a new transcript. -/
def headingOf (now : Calendar.Reading) (id : String) (r : Record) : List String :=
  ["=== Session " ++ id ++ " ===", "Start: " ++ now.moment.full,
    "IP: " ++ (r.getOr "peer_ip" (.text "-")).shown ++ ":" ++
      (r.getOr "peer_port" (.text "-")).shown, "---"]

/-- What stands above the lines of the events: a heading, unless the transcript was there before. -/
def headOf (id file : String) (d : Directory) :
    List (Calendar.Reading × Record) → List String
  | [] => []
  | (now, r) :: _ => if d.has file then [] else headingOf now id r

/-- Whether a step can be one of a history in which a session goes to a file: its own events are at
a time that has a date and can be told, and those of others go elsewhere. -/
def Fits (p : Place) (id file : String) : Log.Step → Prop
  | .emit now r =>
    if isOf id r then now.instant.isDated = true ∧ CanBeTold r else r.transcript? p ≠ some file
  | .reopen _ => True

variable {p : Place} {room : Nat} {id file : String} {now : Calendar.Reading}
  {begun begun' : List Json} {before d d' : Directory} {r : Record} {log : Log}
  {events : List (Calendar.Reading × Record)}

theorem isOf_iff : isOf id r = true ↔ r.get "session_id" = .text id := Json.text_sameKey_iff

theorem any_sameKey_iff : begun.any (Json.text id).sameKey = true ↔ .text id ∈ begun := by
  rw [List.any_eq_true]
  simp [Json.text_sameKey_iff]

theorem mem_begun_of_mem_write {other : Json} (h : other ∈ (write p room now begun d r).2) :
    other ∈ begun ∨ other = r.get "session_id" := by
  have hcons (h : other ∈ r.get "session_id" :: begun) :
      other ∈ begun ∨ other = r.get "session_id" := (List.mem_cons.mp h).symm
  unfold write at h
  dsimp only at h
  split at h
  · exact .inl h
  · split at h
    · exact .inl h
    · exact hcons h
    · have hwritten : other ∈ if r.kind = .disconnect then
          begun.filter (fun other => !(r.get "session_id").sameKey other)
          else r.get "session_id" :: begun := by
        split at h <;> exact h
      split at hwritten
      · exact .inl (List.mem_filter.mp hwritten).1
      · exact hcons hwritten

theorem heading?_eq (h : CanBeTold r) (now : Calendar.Reading) (id : String) :
    heading? valueRoom now id r = some (headingOf now id r) := by
  have hdash (name : String) : (r.getOr name (.text "-")).shown? valueRoom = _ :=
    h.shown? (Json.fits_text _ _) name
  unfold heading?
  rw [hdash, hdash]
  rfl

/-- **An event is written behind what is there**, and behind a heading if nothing is. -/
theorem write_own (hid : id ≠ "") (hfile : fileOf? p id = some file) (hr : isOf id r = true)
    (htold : CanBeTold r) (hbegun : .text id ∈ begun → d.has file = true)
    (now : Calendar.Reading) :
    (write p valueRoom now begun d r).1.textOf file = d.textOf file ++ Text.block
        ((if d.has file then [] else headingOf now id r) ++ linesOf now r) ∧
      (write p valueRoom now begun d r).1.has file = true := by
  have hname : isName (.text id) = true := by
    simpa [isName, Json.isVoid] using hid
  have hshown : (Json.text id).shown? valueRoom = some id := if_pos (Json.fits_text _ id)
  have hstarted : (begun.any (Json.text id).sameKey || d.has file) = d.has file := by
    rw [Bool.or_eq_right_iff_imp, any_sameKey_iff]
    exact hbegun
  have hhead : (if d.has file = true then some [] else heading? valueRoom now id r) =
      some (if d.has file then [] else headingOf now id r) := by
    rw [heading?_eq htold]
    split <;> rfl
  obtain ⟨text, hlines, -⟩ := stampedLines?_eq now htold
  have hwrite : (write p valueRoom now begun d r).1 =
      let lines := (if d.has file then [] else headingOf now id r) ++ linesOf now r
      if lines.isEmpty then d else d.append now file (Text.block lines) := by
    unfold write
    dsimp only
    rw [isOf_iff.mp hr, hname, if_pos rfl, hshown]
    dsimp only
    rw [hfile, Option.any_some, hstarted, hhead, linesOf, hlines]
    rfl
  rw [hwrite]
  dsimp only
  generalize hall : (if d.has file then [] else headingOf now id r) ++ linesOf now r = lines
  cases lines with
  | nil =>
    refine ⟨String.append_empty.symm, ?_⟩
    by_contra hnone
    change ¬ d.has file = true at hnone
    rw [if_neg hnone] at hall
    cases hall
  | cons line lines =>
    unfold Directory.textOf Directory.has
    rw [List.isEmpty_cons, if_neg Bool.false_ne_true, Directory.lookup_append, if_pos rfl]
    exact ⟨rfl, rfl⟩

/-- How a history leaves a transcript: behind what was there before, its events. -/
structure Carried (id file : String) (before : Directory)
    (events : List (Calendar.Reading × Record)) (d : Directory) (begun : List Json) : Prop where
  text : d.textOf file =
    before.textOf file ++ Text.block (headOf id file before events ++ bodyOf events)
  has : d.has file = (before.has file || !events.isEmpty)
  begun : .text id ∈ begun → d.has file = true

theorem Carried.frame (h : Carried id file before events d begun)
    (hlookup : d'.lookup file = d.lookup file) (hbegun : .text id ∈ begun' → .text id ∈ begun) :
    Carried id file before events d' begun' where
  text := by rw [Directory.textOf, hlookup, ← Directory.textOf, h.text]
  has := by rw [Directory.has, hlookup, ← Directory.has, h.has]
  begun hmem := by
    rw [Directory.has, hlookup]
    exact h.begun (hbegun hmem)

/-- A log that is opened anew leaves the transcripts as they are. -/
theorem Carried.openOn (h : Carried id file before events d begun)
    (hdir : Text.startsWith file "sessions/" = true) (keep : Int) (now : Calendar.Reading) :
    Carried id file before events (Log.openOn p d keep now).directory
      (Log.openOn p d keep now).begun :=
  h.frame (Directory.lookup_touch_of_ne (by rintro rfl; exact absurd hdir (by decide)) now) nofun

theorem Carried.emit_own (h : Carried id file before events log.directory log.begun)
    (hroom : log.room = valueRoom) (hid : id ≠ "") (hfile : fileOf? log.place id = some file)
    (hdir : Text.startsWith file "sessions/" = true) (hr : isOf id r = true)
    (hdated : now.instant.isDated = true) (htold : CanBeTold r) :
    Carried id file before (events ++ [(now, r)]) (log.emit now r).directory
      (log.emit now r).begun := by
  have hframe : Carried id file before events (log.record now r).1 log.begun :=
    h.frame (lookup_record hdir log now r) fun hmem => hmem
  obtain ⟨htext, hhas⟩ := write_own hid hfile hr htold hframe.begun now
  rw [← hroom, ← (log.emit_of_isDated r hdated).1] at htext hhas
  refine ⟨?_, by rw [hhas]; simp, fun _ => hhas⟩
  rw [htext, hframe.text, hframe.has, String.append_assoc, ← Text.block_append]
  cases events with
  | nil => simp [headOf, bodyOf]
  | cons e events => simp [headOf, bodyOf]

theorem Carried.emit_other (h : Carried id file before events log.directory log.begun)
    (hdir : Text.startsWith file "sessions/" = true) (hr : isOf id r = false)
    (hother : r.transcript? log.place ≠ some file) (now : Calendar.Reading) :
    Carried id file before events (log.emit now r).directory (log.emit now r).begun := by
  by_cases hdated : now.instant.isDated = true
  · refine h.frame ?_ fun hmem => ?_
    · rw [log.lookup_emit hdated hother, lookup_record hdir]
    · rw [log.begun_emit r hdated] at hmem
      refine (mem_begun_of_mem_write hmem).resolve_right fun hid => ?_
      exact Bool.false_ne_true (hr.symm.trans (isOf_iff.mpr hid.symm))
  · unfold Log.emit
    rwa [if_neg hdated]

theorem Carried.step (h : Carried id file before events log.directory log.begun)
    (hroom : log.room = valueRoom) (hid : id ≠ "") (hfile : fileOf? log.place id = some file)
    (hdir : Text.startsWith file "sessions/" = true) {step : Log.Step}
    (hstep : Fits log.place id file step) :
    Carried id file before (events ++ (eventOf? id step).toList) (log.after step).directory
      (log.after step).begun := by
  cases step with
  | emit now r =>
    rw [Fits] at hstep
    rw [eventOf?]
    split at hstep
    · next hr =>
      rw [if_pos hr]
      exact h.emit_own hroom hid hfile hdir hr hstep.1 hstep.2
    · next hr =>
      rw [if_neg hr, Option.toList_none, List.append_nil]
      exact h.emit_other hdir (Bool.not_eq_true _ ▸ hr) hstep now
  | reopen now =>
    rw [eventOf?, Option.toList_none, List.append_nil]
    exact h.openOn hdir log.keep now

/-- **Over every history a transcript grows by its heading and the lines of its events.** -/
theorem carried_history (before : Directory) (keep : Int) (start : Calendar.Reading)
    {steps : List Log.Step} (hid : id ≠ "") (hfile : fileOf? p id = some file)
    (hdir : Text.startsWith file "sessions/" = true) (hsteps : ∀ s ∈ steps, Fits p id file s) :
    let log := steps.foldl Log.after (.openOn p before keep start)
    Carried id file before (eventsOf id steps) log.directory log.begun := by
  induction steps using List.reverseRecOn with
  | nil =>
    have hempty : Carried id file before [] before [] :=
      ⟨String.append_empty.symm, (Bool.or_false _).symm, nofun⟩
    exact hempty.openOn hdir keep start
  | append_singleton steps step ih =>
    obtain ⟨hsteps, hstep⟩ := List.forall_mem_append.mp hsteps
    have hevents : eventsOf id (steps ++ [step]) =
        eventsOf id steps ++ (eventOf? id step).toList := by
      unfold eventsOf
      rw [List.filterMap_append, List.filterMap_cons]
      cases eventOf? id step <;> rfl
    have hcarried := ih hsteps
    obtain ⟨hplace, -, hroom⟩ := Log.settings_history p before keep start steps
    rw [List.foldl_concat, hevents]
    generalize steps.foldl Log.after (.openOn p before keep start) = log at hplace hroom hcarried ⊢
    subst hplace
    exact hcarried.step hroom hid hfile hdir (hstep step (List.mem_singleton_self _))

theorem canBeTold_of_mem_eventsOf {steps : List Log.Step}
    (hsteps : ∀ s ∈ steps, Fits p id file s) {e : Calendar.Reading × Record}
    (he : e ∈ eventsOf id steps) : CanBeTold e.2 := by
  obtain ⟨step, hstep, hevent⟩ := List.mem_filterMap.mp he
  have hfits := hsteps step hstep
  cases step with
  | emit now r =>
    rw [eventOf?] at hevent
    split at hevent
    · next hr =>
      rw [Fits, if_pos hr] at hfits
      cases hevent
      exact hfits.2
    · cases hevent
  | reopen => cases hevent

/-- **When a transcript can be read line by line.** In every history, whatever is done for other
sessions in between, the events of a session stand in its transcript behind what was there before
and a heading. There is one line with the time of day and the tag for every event that is told, and
all other lines are those of the outputs, if and only if no text that is shown in a tagged line has
a line feed; there are then as many lines that begin with a bracket as there are such events. -/
theorem transcript_framed_iff {p : Place} {d : Directory} {keep : Int} {start : Calendar.Reading}
    {steps : List Log.Step} {id file : String} (hid : id ≠ "") (hfile : fileOf? p id = some file)
    (hdir : Text.startsWith file "sessions/" = true) (hsteps : ∀ s ∈ steps, Fits p id file s) :
    let events := eventsOf id steps
    let body := Text.block (bodyOf events)
    (steps.foldl Log.after (.openOn p d keep start)).directory.textOf file =
        d.textOf file ++ Text.block (headOf id file d events) ++ body ∧
      (Framed events (Text.endedLines body) ↔
        ∀ e ∈ events, ∀ t ∈ shownTexts e.2, '\n' ∉ t.toList) ∧
      (Framed events (Text.endedLines body) →
        (Text.endedLines body).countP isTagged = (events.map Prod.snd).countP isTold) := by
  intro events body
  refine ⟨?_, framed_iff fun e he => canBeTold_of_mem_eventsOf hsteps he, Framed.countP_isTagged⟩
  have hcarried := carried_history d keep start hid hfile hdir hsteps
  rw [hcarried.text, Text.block_append, String.append_assoc]

/-- An attempt to log in and a command whose output looks like another attempt, with an event of
another session in between and the log opened anew. -/
theorem transcript_framed_iff_example :
    let now : Calendar.Reading := ⟨⟨1700000000000000⟩, 1700000000, 1700000000⟩
    let place : Place := ⟨["logs"], fun _ => false⟩
    let session := ("session_id", Json.text "s1")
    let steps : List Log.Step := [
      .emit now ⟨.authentication, [session, ("username", .text "root"), ("password", .text "x")]⟩,
      .emit now ⟨.command, [("session_id", .text "s2"), ("input", .text "w\nw")]⟩,
      .reopen now,
      .emit now ⟨.command, [session, ("input", .text "cat f"),
        ("output", .text "[22:13:20] AUTH: root / y [ACCEPTED]\n")]⟩]
    let body := Text.block ["[22:13:20] AUTH: root / x [ACCEPTED]", "[22:13:20] CMD: cat f",
      "           OUT: [22:13:20] AUTH: root / y [ACCEPTED]"]
    fileOf? place "s1" = some "sessions/s1.log" ∧
      (steps.foldl Log.after (.openOn place [] 1 now)).directory.textOf "sessions/s1.log" =
        "=== Session s1 ===\nStart: 2023-11-14T22:13:20+00:00\nIP: -:-\n---\n" ++ body ∧
      Framed (eventsOf "s1" steps) (Text.endedLines body) ∧
      (Text.endedLines body).countP isTagged = 2 := by
  intro now place session steps body
  have hfile : fileOf? place "s1" = some "sessions/s1.log" := by decide +kernel
  have hsteps : ∀ s ∈ steps, Fits place "s1" "sessions/s1.log" s := by
    have hother : Record.transcript? place ⟨.command, [("session_id", .text "s2"),
        ("input", .text "w\nw")]⟩ ≠ some "sessions/s1.log" := by decide +kernel
    intro s hs
    obtain rfl | rfl | rfl | rfl : _ ∨ _ ∨ _ ∨ _ := by simpa [steps] using hs
    · exact ⟨by decide, .of_texts (by simp [session])⟩
    · exact hother
    · trivial
    · exact ⟨by decide, .of_texts (by simp [session])⟩
  have hbody : Text.block (bodyOf (eventsOf "s1" steps)) = body := by decide +kernel
  obtain ⟨htext, hframed, hcount⟩ :=
    @transcript_framed_iff place [] 1 now steps _ _ (by decide) hfile (by decide) hsteps
  rw [hbody] at htext hframed hcount
  have hlines := hframed.mpr (by decide +kernel)
  exact ⟨hfile, htext.trans (by decide +kernel), hlines, (hcount hlines).trans (by decide +kernel)⟩

/-- A command with a line feed in it writes a line that looks like an attempt to log in: there are
two tagged lines for one event. -/
theorem command_forges_line :
    let now : Calendar.Reading := ⟨⟨1700000000000000⟩, 1700000000, 1700000000⟩
    let place : Place := ⟨["logs"], fun _ => false⟩
    let steps : List Log.Step := [.emit now ⟨.command, [("session_id", .text "s1"),
      ("input", .text "id\n[22:13:20] AUTH: root / x [ACCEPTED]"), ("output", .text "")]⟩]
    let body := Text.block (bodyOf (eventsOf "s1" steps))
    (steps.foldl Log.after (.openOn place [] 1 now)).directory.textOf "sessions/s1.log" =
        "=== Session s1 ===\nStart: 2023-11-14T22:13:20+00:00\nIP: -:-\n---\n" ++ body ∧
      Text.endedLines body = ["[22:13:20] CMD: id", "[22:13:20] AUTH: root / x [ACCEPTED]"] ∧
      (eventsOf "s1" steps).length = 1 ∧ ¬ Framed (eventsOf "s1" steps) (Text.endedLines body) := by
  intro now place steps body
  have hlines : Text.endedLines body =
      ["[22:13:20] CMD: id", "[22:13:20] AUTH: root / x [ACCEPTED]"] := by decide +kernel
  refine ⟨by decide +kernel, hlines, rfl, fun hframed => ?_⟩
  have hcount := hframed.countP_isTagged
  rw [hlines] at hcount
  exact absurd hcount (by decide +kernel)

end Transcript
end Events
end Honeypot
