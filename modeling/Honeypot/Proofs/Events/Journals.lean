import Honeypot.Proofs.Events.Ledgers
import Honeypot.Proofs.Json.RoundTrip

/-!
# The journal line by line

Every event that can be written adds one line to the journal, and a reader of values takes back from
it what was written: the moment, the kind and the values of the event, with the output cut short
(`journal_reads_back`). An event that cannot be written leaves the journal as it is: the time has no
date, a whole number is too long, or lists and objects lie in one another too deeply
(`journal_misses_events`).
-/

namespace Honeypot

theorem Json.setFields_eq_append {fields others : List (String × Json)}
    (h : ((fields ++ others).map Prod.fst).Nodup) : setFields fields others = fields ++ others := by
  induction others generalizing fields with
  | nil => exact (List.append_nil fields).symm
  | cons other others ih =>
    obtain ⟨name, value⟩ := other
    have hnew : name ∉ fields.map Prod.fst := by
      rw [List.map_append, List.map_cons] at h
      exact fun hmem => (List.nodup_append.mp h).2.2 name hmem name (List.mem_cons_self ..) rfl
    have hstep : setFields fields ((name, value) :: others) =
        setFields (Assoc.put name value fields) others := rfl
    rw [List.append_cons] at h ⊢
    rw [hstep, Assoc.put_of_not_mem hnew, ih h]

theorem length_toDigits_pow (k : Nat) : (Nat.toDigits 10 (10 ^ k)).length = k + 1 := by
  induction k with
  | zero => rfl
  | succ k ih =>
    have hzero : Nat.toDigits 10 0 = ['0'] := rfl
    have hstep : Nat.toDigits 10 (10 ^ k) ++ Nat.toDigits 10 0 = Nat.toDigits 10 (10 * 10 ^ k) :=
      Nat.toDigits_append_toDigits (by decide) (by positivity) (by decide)
    rw [pow_succ', ← hstep, hzero, List.length_append, ih, List.length_singleton]

theorem Json.fits_pow (room : Nat) :
    (Json.int ((10 ^ Number.maxDigits : Nat) : Int)).fits room = false := by
  unfold fits
  rw [Int.natAbs_natCast, length_toDigits_pow]
  exact decide_eq_false (Nat.lt_irrefl _)

/-- A list in a list, as often as told. -/
def Json.nested : Nat → Json
  | 0 => .null
  | n + 1 => .list [nested n]

theorem Json.plain_nested (n : Nat) : Plain (nested n) := by
  induction n with
  | zero => exact .null
  | succ n ih => exact .list fun item hitem => List.mem_singleton.mp hitem ▸ ih

theorem Json.fits_nested {n room : Nat} (h : room < n) : (nested n).fits room = false := by
  induction n generalizing room with
  | zero => cases h
  | succ n ih =>
    cases room with
    | zero => rfl
    | succ room => rw [nested, fits, itemsFit, ih (Nat.lt_of_succ_lt_succ h), Bool.false_and]

namespace Events.Journal

/-! ## Values -/

/-- A field as the journal keeps it: of an output that is a text there are 500 characters. -/
def shortened (field : String × Json) : String × Json :=
  match field.2 with
  | .text s =>
    (field.1, .text (if field.1 = "output" then String.ofList (s.toList.take 500) else s))
  | value => (field.1, value)

theorem shortened_of_ne {field : String × Json} (h : field.1 ≠ "output") :
    shortened field = field := by
  obtain ⟨name, value⟩ := field
  unfold shortened
  cases value <;> simp_all

theorem fst_shortened (field : String × Json) : (shortened field).1 = field.1 := by
  unfold shortened
  split <;> rfl

theorem plain_shortened {field : String × Json} (h : Json.Plain field.2) :
    Json.Plain (shortened field).2 := by
  unfold shortened
  split
  · exact .text _
  · exact h

theorem map_shortened {fields : List (String × Json)} (h : (fields.map Prod.fst).Nodup) :
    (match Json.field? fields "output" with
      | some (.text output) => Assoc.put "output" (.text (Text.take output maxOutput)) fields
      | _ => fields) = fields.map shortened := by
  unfold Json.field?
  induction fields with
  | nil => rfl
  | cons field fields ih =>
    obtain ⟨name, value⟩ := field
    obtain ⟨hname, hfields⟩ := List.nodup_cons.mp h
    by_cases houtput : name = "output"
    · subst houtput
      have hrest : fields.map shortened = fields := by
        rw [List.map_congr_left (g := id), List.map_id]
        exact fun field hfield => shortened_of_ne
          fun hsame => hname (List.mem_map.mpr ⟨field, hfield, hsame⟩)
      rw [List.lookup_cons_self, List.map_cons, hrest]
      cases value <;> rfl
    · have hne : ("output" == name) = false := beq_false_of_ne (Ne.symm houtput)
      rw [List.lookup_cons, hne, List.map_cons, ← ih hfields, shortened_of_ne houtput]
      cases hfound : fields.lookup "output" with
      | none => rfl
      | some found =>
        cases found with
        | text s => simp only [Assoc.put, houtput, if_false]
        | _ => rfl

/-- The values of an event behind the moment and the kind. -/
def entry (now : Calendar.Reading) (r : Record) : List (String × Json) :=
  ("timestamp", .text now.moment.full) :: ("event", .text r.kind.name) :: r.fields.map shortened

section

variable {now : Calendar.Reading} {r : Record}

theorem values_eq_entry (hnames : ("timestamp" :: "event" :: r.fields.map Prod.fst).Nodup) :
    values now r = entry now r := by
  let own : List (String × Json) :=
    [("timestamp", .text now.moment.full), ("event", .text r.kind.name)]
  have hset : Json.setFields own r.fields = own ++ r.fields := Json.setFields_eq_append hnames
  have hcut := @map_shortened (own ++ r.fields) hnames
  rw [← hset] at hcut
  unfold values
  refine hcut.trans ?_
  rw [hset]
  rfl

theorem plain_entry (hnames : ("timestamp" :: "event" :: r.fields.map Prod.fst).Nodup)
    (hplain : ∀ field ∈ r.fields, Json.Plain field.2) : Json.Plain (.object (entry now r)) := by
  refine .object ?_ fun field hfield => ?_
  · have hkeys : (entry now r).map Prod.fst = "timestamp" :: "event" :: r.fields.map Prod.fst := by
      unfold entry
      rw [List.map_cons, List.map_cons, List.map_map]
      simp only [Function.comp_def, fst_shortened]
    rw [hkeys]
    exact hnames
  · obtain rfl | hfield := List.mem_cons.mp hfield
    · exact .text _
    · obtain rfl | hfield := List.mem_cons.mp hfield
      · exact .text _
      · obtain ⟨field, hmem, rfl⟩ := List.mem_map.mp hfield
        exact plain_shortened (hplain field hmem)

end

/-! ## Files -/

/-- **The new journal is empty.** -/
theorem lookup_name_turn (keep midnight : Int) (now : Calendar.Reading) (d : Directory) :
    (turn keep midnight now d).lookup name = some ⟨"", now⟩ := by
  have hlonger : name ≠ name ++ "." ++ dayBefore midnight := fun hsame => by
    have hlength := congrArg (fun s => s.toList.length) hsame
    simp only [String.toList_append, List.length_append] at hlength
    have hdot : ".".toList.length = 1 := rfl
    omega
  have haside : (d.rename name (name ++ "." ++ dayBefore midnight)).lookup name = none := by
    cases hfile : d.lookup name with
    | none => rwa [Directory.rename, hfile]
    | some file => rw [Directory.lookup_rename hfile, if_neg hlonger, if_pos rfl]
  have htouch {d : Directory} (hnone : d.lookup name = none) :
      (d.touch now name).lookup name = some ⟨"", now⟩ := by
    rw [Directory.touch, Directory.has, hnone, Option.isSome_none, if_neg Bool.false_ne_true,
      Assoc.lookup_put, if_pos rfl]
  unfold turn
  dsimp only
  split
  · refine htouch ?_
    rw [Directory.lookup_removeAll, haside, ite_self]
  · exact htouch haside

variable {room : Nat} {now : Calendar.Reading} {r : Record}

theorem lookup_name_write {text : String} (h : line? room now r = some text)
    (keep midnight : Int) (d : Directory) :
    (write room keep midnight now d r).1.lookup name =
      some ⟨(if midnight ≤ now.whole then "" else d.textOf name) ++ text, now⟩ := by
  unfold write
  rw [h]
  dsimp only
  rw [Directory.lookup_append, if_pos rfl]
  split
  · rw [lookup_name_turn]
    rfl
  · rfl

theorem lookup_name_emit (log : Log) (r : Record) (hdated : now.instant.isDated = true) :
    (log.emit now r).directory.lookup name =
      (write log.room log.keep log.midnight now log.directory r).1.lookup name := by
  rw [log.lookup_emit hdated (r.transcript?_ne (by decide))]
  unfold Log.record
  split
  · rfl
  · exact Ledger.lookup_write_of_not_startsWith (by decide) _ _ _ _ _ _

/-- **An event without a line leaves the journal as it is**, at the turn of a day too. -/
theorem lookup_name_emit_of_none {log : Log}
    (h : ¬ (now.instant.isDated = true ∧ (line? log.room now r).isSome = true)) :
    (log.emit now r).directory.lookup name = log.directory.lookup name := by
  by_cases hdated : now.instant.isDated = true
  · have hnone : line? log.room now r = none :=
      Option.not_isSome_iff_eq_none.mp fun hsome => h ⟨hdated, hsome⟩
    rw [lookup_name_emit log r hdated, write, hnone]
  · unfold Log.emit
    rw [if_neg hdated]

theorem line?_eq (hnames : ("timestamp" :: "event" :: r.fields.map Prod.fst).Nodup) (room : Nat) :
    line? room now r = if (Json.object (entry now r)).fits room then
      some (Json.line (.object (entry now r)) ++ "\n") else none := by
  unfold line? Json.line?
  rw [values_eq_entry hnames]
  split <;> rfl

end Events.Journal

namespace Events

open Journal in
/-- **The journal reads back.** An event whose values are texts, whole numbers, truth values,
nothing, and lists and objects of these adds one line to the journal, behind what is there or as the
first line of a new one. There is no line break in it, and it reads back as the moment, the kind and
the values of the event, with the output cut to 500 characters. The journal stays as it is at a time
without a date and if the values cannot be written, and only then. -/
theorem journal_reads_back (log : Log) {now : Calendar.Reading} {r : Record}
    (hfields : (r.fields.map Prod.fst).Nodup) (hmoment : "timestamp" ∉ r.fields.map Prod.fst)
    (hkind : "event" ∉ r.fields.map Prod.fst) (hplain : ∀ field ∈ r.fields, Json.Plain field.2) :
    let told := Json.object (("timestamp", .text now.moment.full) ::
      ("event", .text r.kind.name) :: r.fields.map shortened)
    let journal := (log.emit now r).directory.lookup name
    (now.instant.isDated = true ∧ told.fits log.room = true →
      ∃ body, journal = some ⟨(if log.midnight ≤ now.whole then "" else
          log.directory.textOf name) ++ body ++ "\n", now⟩ ∧
        (∀ c ∈ body.toList, Json.isVisible c = true) ∧ Json.read log.room body = .ok told) ∧
    (¬ (now.instant.isDated = true ∧ told.fits log.room = true) →
      journal = log.directory.lookup name) := by
  intro told journal
  have hnames : ("timestamp" :: "event" :: r.fields.map Prod.fst).Nodup := by
    rw [List.nodup_cons, List.nodup_cons, List.mem_cons]
    exact ⟨not_or.mpr ⟨by decide, hmoment⟩, hkind, hfields⟩
  have htold : Json.Plain told := plain_entry hnames hplain
  have hline : line? log.room now r =
      if told.fits log.room then some (told.line ++ "\n") else none := line?_eq hnames log.room
  constructor
  · rintro ⟨hdated, hfits⟩
    rw [if_pos hfits] at hline
    refine ⟨told.line, ?_, ?_, Json.read_line htold hfits⟩
    · exact (lookup_name_emit log r hdated).trans
        (by rw [lookup_name_write hline, String.append_assoc])
    · have hchars : told.line.toList = told.chars := String.toList_ofList
      rw [hchars]
      exact List.all_eq_true.mp (Json.all_chars htold)
  · intro hneither
    refine lookup_name_emit_of_none fun ⟨hdated, hsome⟩ => hneither ⟨hdated, ?_⟩
    by_contra hunfit
    rw [hline, if_neg hunfit] at hsome
    cases hsome

/-- A command with quotes, a line feed and a character of two units in it and an output that is too
long by one, behind the line of another event. -/
theorem journal_reads_back_example :
    let now : Calendar.Reading := ⟨⟨1700000000000000⟩, 1700000000, 1700000000⟩
    let log := (Log.openOn ⟨["logs"], fun _ => false⟩ [] 30 now).emit now ⟨.disconnect, []⟩
    let r : Record := ⟨.command, [("input", .text "a\"\\\n\x00😀"),
      ("output", .text (Text.copies 501 'x')),
      ("intel", .object [("score", .int (-12)), ("tags", .list [.null, .bool true])])]⟩
    ∃ body, (log.emit now r).directory.lookup Journal.name = some ⟨"\x7b\"timestamp\": \"" ++
          "2023-11-14T22:13:20+00:00\", \"event\": \"disconnect\"\x7d\n" ++ body ++ "\n", now⟩ ∧
      (∀ c ∈ body.toList, Json.isVisible c = true) ∧
      Json.read log.room body = .ok (.object [("timestamp", .text "2023-11-14T22:13:20+00:00"),
        ("event", .text "command"), ("input", .text "a\"\\\n\x00😀"),
        ("output", .text (Text.copies 500 'x')),
        ("intel", .object [("score", .int (-12)), ("tags", .list [.null, .bool true])])]) := by
  intro now log r
  have hplain : ∀ field ∈ r.fields, Json.Plain field.2 := by
    have hscore : Json.Plain (.int (-12)) := .int _
    have htags : Json.Plain (.list [.null, .bool true]) := .list fun item hitem => by
      obtain rfl | rfl : item = .null ∨ item = .bool true := by simpa using hitem
      · exact .null
      · exact .bool _
    intro field hfield
    obtain rfl | rfl | rfl : _ ∨ _ ∨ _ := by simpa [r] using hfield
    · exact .text _
    · exact .text _
    · exact .object (by decide) (by simp [hscore, htags])
  obtain ⟨body, hfile, hvisible, hread⟩ :=
    (@journal_reads_back log now r (by decide) (by decide) (by decide) hplain).1
      (by decide +kernel)
  have hbefore : (if log.midnight ≤ now.whole then "" else log.directory.textOf Journal.name) =
      "\x7b\"timestamp\": \"" ++
        "2023-11-14T22:13:20+00:00\", \"event\": \"disconnect\"\x7d\n" := by decide +kernel
  have hmoment : now.moment.full = "2023-11-14T22:13:20+00:00" := by decide +kernel
  have hcut : String.ofList ((Text.copies 501 'x').toList.take 500) = Text.copies 500 'x' := by
    rw [Text.copies, String.toList_ofList, List.take_replicate]
    rfl
  rw [hbefore] at hfile
  refine ⟨body, hfile, hvisible, hread.trans ?_⟩
  rw [hmoment, ← hcut]
  rfl

/-- There are events that the journal misses: one with a whole number of 4301 digits, one with lists
in one another 2000 times, and one after the last year that has a date. -/
theorem journal_misses_events :
    let now : Calendar.Reading := ⟨⟨1700000000000000⟩, 1700000000, 1700000000⟩
    let late : Calendar.Reading := ⟨⟨253402300800000000⟩, 253402300800, 253402300800⟩
    let log := Log.openOn ⟨["logs"], fun _ => false⟩ [] 30 now
    let told (value : Json) : Record := ⟨.connection, [("extra", value)]⟩
    let long := Json.int ((10 ^ Number.maxDigits : Nat) : Int)
    let deep := Json.nested 2000
    Json.Plain long ∧ Json.Plain deep ∧
      (log.emit now (told long)).directory.lookup Journal.name = some ⟨"", now⟩ ∧
      (log.emit now (told deep)).directory.lookup Journal.name = some ⟨"", now⟩ ∧
      (log.emit late (told .null)).directory.lookup Journal.name = some ⟨"", now⟩ := by
  intro now late log told long deep
  have hempty : log.directory.lookup Journal.name = some ⟨"", now⟩ := rfl
  have hmissed {value : Json} (hunfit : value.fits 986 = false) :
      (log.emit now (told value)).directory.lookup Journal.name = some ⟨"", now⟩ := by
    have hnames : ("timestamp" :: "event" :: (told value).fields.map Prod.fst).Nodup :=
      show ["timestamp", "event", "extra"].Nodup by decide
    have hextra : Journal.shortened ("extra", value) = ("extra", value) :=
      Journal.shortened_of_ne (show "extra" ≠ "output" by decide)
    have htold : (Json.object (Journal.entry now (told value))).fits valueRoom = false := by
      rw [Journal.entry, List.map_cons, hextra, valueRoom, Json.fits, Json.fieldsFit,
        Json.fieldsFit, Json.fieldsFit, hunfit, Bool.false_and, Bool.and_false, Bool.and_false]
    have hnone : Journal.line? log.room now (told value) = none :=
      (Journal.line?_eq hnames _).trans (if_neg (by rw [Bool.not_eq_true]; exact htold))
    rw [← hempty]
    refine Journal.lookup_name_emit_of_none fun ⟨_, hsome⟩ => ?_
    rw [hnone] at hsome
    cases hsome
  have hundated : ¬ (late.instant.isDated = true ∧
      (Journal.line? log.room late (told .null)).isSome = true) :=
    fun h => absurd h.1 (by decide)
  exact ⟨.int _, Json.plain_nested 2000, hmissed (Json.fits_pow _),
    hmissed (Json.fits_nested (by decide)),
    (Journal.lookup_name_emit_of_none hundated).trans hempty⟩

end Events

end Honeypot
