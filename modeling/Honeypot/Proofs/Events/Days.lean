import Mathlib.Data.List.Induction
import Honeypot.Proofs.Calendar
import Honeypot.Proofs.Events.Directory

/-!
# The days of a history

A history of a log is what it is told and when it is opened anew. Its rows are those of days one
after the other (`chronicle_rowsOf`), of which only the latest can get one more row
(`Chronicle.day_cases`). The ledgers that are put aside have the days for names, so that the order
of the names is that of the days (`backup_lt_iff`).
-/

namespace Honeypot.Events

/-! ## Histories of a log -/

/-- What is done with a log: it is told of an event, or opened anew on what it has written. -/
inductive Log.Step where
  | emit (now : Calendar.Reading) (r : Record)
  | reopen (now : Calendar.Reading)

def Log.Step.now : Log.Step → Calendar.Reading
  | .emit now _ => now
  | .reopen now => now

def Log.after (log : Log) : Log.Step → Log
  | .emit now r => log.emit now r
  | .reopen now => .openOn log.place log.directory log.keep now

/-- The directory after an event was written to the journal and to the ledger, and the day of the
ledger. -/
def Log.record (log : Log) (now : Calendar.Reading) (r : Record) : Directory × Option String :=
  let directory := (Journal.write log.room log.keep log.midnight now log.directory r).1
  if r.kind = .disconnect then (directory, log.day?)
  else Ledger.write log.room log.keep now log.day? directory r

theorem Log.record_of_ne (log : Log) (now : Calendar.Reading) {r : Record}
    (hkind : r.kind ≠ .disconnect) :
    log.record now r = Ledger.write log.room log.keep now log.day?
      (Journal.write log.room log.keep log.midnight now log.directory r).1 r := if_neg hkind

theorem Log.emit_of_isDated (log : Log) {now : Calendar.Reading} (r : Record)
    (hdated : now.instant.isDated = true) :
    (log.emit now r).directory =
        (Transcript.write log.place log.room now log.begun (log.record now r).1 r).1 ∧
      (log.emit now r).day? = (log.record now r).2 := by
  unfold Log.emit
  rw [if_pos hdated]
  exact ⟨rfl, rfl⟩

theorem Log.begun_emit (log : Log) {now : Calendar.Reading} (r : Record)
    (hdated : now.instant.isDated = true) :
    (log.emit now r).begun =
      (Transcript.write log.place log.room now log.begun (log.record now r).1 r).2 := by
  unfold Log.emit
  rw [if_pos hdated]
  rfl

/-- Of all files but its transcript an event leaves those alone that the journal and the ledger
do. -/
theorem Log.lookup_emit (log : Log) {now : Calendar.Reading} {r : Record} {x : String}
    (hdated : now.instant.isDated = true) (hx : r.transcript? log.place ≠ some x) :
    (log.emit now r).directory.lookup x = (log.record now r).1.lookup x := by
  rw [(log.emit_of_isDated r hdated).1]
  obtain heq | ⟨file, text, hfile, heq⟩ :=
    transcript_write_cases log.place log.room now log.begun (log.record now r).1 r
  · rw [heq]
  · have hne : x ≠ file := by
      rintro rfl
      exact hx hfile
    rw [heq, Directory.lookup_append, if_neg hne]

theorem Record.transcript?_ne (r : Record) {p : Place} {x : String}
    (hx : Text.endsWith x ".log" = false) : r.transcript? p ≠ some x := fun hfile => by
  rw [endsWith_transcript hfile] at hx
  cases hx

/-- A row of a ledger: the day on which it was written, and its line. -/
structure Row where
  day : String
  line : String

/-- The row that is written for an event: there is none for a disconnection, at a time without a
date, and for an event about a peer of which nothing can be asked. -/
def Record.row? (r : Record) (now : Calendar.Reading) : Option Row :=
  if now.instant.isDated ∧ r.kind ≠ .disconnect then
    (Ledger.row? now r).map fun values =>
      ⟨now.moment.date, Ledger.line (values.map Ledger.cell)⟩
  else none

/-- Whether the row of an event can be written where lists and objects may lie in one another only
so deep. -/
def Record.isShown (room : Nat) (now : Calendar.Reading) (r : Record) : Bool :=
  (r.kind ≠ .authentication || r.method.fits room) &&
    (Ledger.row? now r).all fun values => values.all (Json.fits room)

section

variable {r : Record} {room : Nat}

theorem fits_orElse {value : Json} (h : value.fits room = true) (s : String) :
    (value.orElse (.text s)).fits room = true := by
  unfold Json.orElse
  split
  · exact Json.fits_text _ _
  · exact h

theorem Record.fits_getOrDash (h : ∀ field ∈ r.fields, field.2.fits room = true) (name : String) :
    (r.getOrDash name).fits room = true :=
  fits_orElse (fits_getOr h (Json.fits_null _) name) "-"

theorem Ledger.fits_of_mem_intelFields (h : ∀ field ∈ r.fields, field.2.fits room = true)
    {intel : List (String × Json)} (hintel : intelFields r = some intel) :
    ∀ field ∈ intel, field.2.fits room = true := by
  unfold intelFields Json.orElse at hintel
  by_cases hvoid : (r.get "intel").isVoid = true
  · rw [if_pos hvoid] at hintel
    cases hintel
    exact fun field hfield => absurd hfield List.not_mem_nil
  · rw [if_neg hvoid] at hintel
    have hfits : (r.get "intel").fits room = true :=
      Record.fits_getOr h (Json.fits_null _) "intel"
    cases hobject : r.get "intel" with
    | object fields =>
      rw [hobject] at hintel hfits
      cases hintel
      exact fun field => Json.fits_of_mem hfits
    | _ =>
      rw [hobject] at hintel
      cases hintel

/-- An event whose values can be written has a row that can be written. -/
theorem Record.isShown_of_fits (h : ∀ field ∈ r.fields, field.2.fits room = true)
    (now : Calendar.Reading) : r.isShown room now = true := by
  have hmethod : r.method.fits room = true := fits_getOr h (Json.fits_text _ _) "method"
  unfold isShown
  rw [hmethod, Bool.or_true, Bool.true_and, Option.all_eq_true]
  intro values hvalues
  obtain ⟨intel, hintel, rfl⟩ := Option.map_eq_some_iff.mp hvalues
  have hknown (name : String) {default : Json} (hdefault : default.fits room = true) :
      ((Json.field? intel name).getD default).fits room = true := by
    cases hfound : Json.field? intel name with
    | none => exact hdefault
    | some value => exact Ledger.fits_of_mem_intelFields h hintel _ (Json.mem_of_field? hfound)
  have hpassword : (Ledger.password r).fits room = true := by
    unfold Ledger.password
    split
    · exact fits_getOrDash h _
    · exact Json.fits_text _ _
  have hdetails : (Ledger.details r).fits room = true := by
    unfold Ledger.details
    split <;> first | exact Json.fits_text _ _ | exact fits_getOrDash h _
  simp only [List.all_cons, List.all_nil, Json.fits_text, fits_getOrDash h, hpassword, hdetails,
    fits_orElse (hknown _ (Json.fits_null _)), hknown _ (Json.fits_text _ _), Bool.and_self]

end

/-- Whether the session of an event is named like one file, and not by a longer path. -/
def Record.isNamed (r : Record) : Bool := !Text.hasChar (r.get "session_id").shown '/'

/-- The transcript of a session that is named like one file is none of the ledgers. -/
theorem Record.transcript?_ne_of_isNamed {r : Record} (h : r.isNamed = true) (p : Place)
    {x : String} (hx : Text.startsWith x Ledger.name = true) : r.transcript? p ≠ some x := by
  intro hfile
  have hstarts : Text.startsWith x "sessions/" = true := by
    unfold Record.transcript? at hfile
    split at hfile
    · exact startsWith_of_fileOf? (Bool.not_eq_true' _ ▸ h) hfile
    · cases hfile
  rw [Text.startsWith_iff] at hx hstarts
  exact absurd (List.prefix_of_prefix_length_le hstarts hx (by decide)) (by decide)

def Log.Step.row? : Log.Step → Option Row
  | .emit now r => r.row? now
  | .reopen _ => none

/-- Whether the row of an event that is told can be written by a log that was just opened. -/
def Log.Step.isShown : Log.Step → Bool
  | .emit now r => r.isShown valueRoom now
  | .reopen _ => true

def Log.Step.isNamed : Log.Step → Bool
  | .emit _ r => r.isNamed
  | .reopen _ => true

/-- The rows of a history, the first one first. -/
def rowsOf (steps : List Log.Step) : List Row := steps.filterMap Log.Step.row?

namespace Ledger

/-- The name of the ledger of a day that is put aside. -/
def backup (day : String) : String := name ++ "." ++ day

/-- The text of the ledger of a day: the header and the rows of that day. -/
def page (day : String) (rows : List Row) : String :=
  line header ++ String.join ((rows.filter fun row => row.day = day).map Row.line)

/-- The days on which rows were written, the first one first. -/
def days (rows : List Row) : List String := (rows.map Row.day).eraseDups

/-- All days on which rows were written but the latest. -/
def earlier (rows : List Row) : List String := (days rows).dropLast

/-! ## Days -/

theorem page_concat_same (rows : List Row) (row : Row) :
    page row.day (rows ++ [row]) = page row.day rows ++ row.line := by
  unfold page
  rw [List.filter_append, List.filter_cons_of_pos (by simp), List.filter_nil, List.map_append,
    String.append_assoc]
  congr 1
  exact List.foldl_append

theorem page_concat_other {rows : List Row} {row : Row} {day : String} (h : row.day ≠ day) :
    page day (rows ++ [row]) = page day rows := by
  unfold page
  rw [List.filter_append, List.filter_cons_of_neg (by simpa using h), List.filter_nil,
    List.append_nil]

theorem page_of_not_mem {rows : List Row} {day : String} (h : day ∉ days rows) :
    page day rows = line header := by
  have hnone : rows.filter (fun row => row.day = day) = [] := by
    refine List.filter_eq_nil_iff.mpr fun row hrow hday => h ?_
    rw [← of_decide_eq_true hday]
    exact List.mem_eraseDups.mpr (List.mem_map_of_mem hrow)
  unfold page
  rw [hnone]
  exact String.append_empty

theorem days_concat (rows : List Row) (row : Row) :
    days (rows ++ [row]) =
      if row.day ∈ days rows then days rows else days rows ++ [row.day] := by
  have hmem : row.day ∈ days rows ↔ row.day ∈ rows.map Row.day := List.mem_eraseDups
  have hnew : [row.day].removeAll (rows.map Row.day) =
      if row.day ∈ days rows then [] else [row.day] := by
    simp only [hmem, List.removeAll, List.filter_cons, List.filter_nil, List.elem_eq_mem,
      Bool.not_eq_true', decide_eq_false_iff_not, ite_not]
  have happend : days (rows ++ [row]) =
      days rows ++ ([row.day].removeAll (rows.map Row.day)).eraseDups := by
    unfold days
    rw [List.map_append, List.eraseDups_append, List.map_singleton]
  rw [happend, hnew]
  split
  · exact List.append_nil _
  · rfl

/-- Rows that were written one after the other, at dates of years with four digits. -/
structure Chronicle (rows : List Row) : Prop where
  forward : rows.Pairwise fun a b => a.day = b.day ∨ a.day.toList < b.day.toList
  dated : ∀ row ∈ rows, ∃ t : Calendar.Instant, t.HasFourDigits ∧ row.day = t.moment.date

theorem Chronicle.init {rows more : List Row} (h : Chronicle (rows ++ more)) :
    Chronicle rows where
  forward := (List.pairwise_append.mp h.forward).1
  dated row hrow := h.dated row (List.mem_append_left _ hrow)

/-- The days of a chronicle are in order, and the latest one is that of the last row. -/
theorem Chronicle.days_eq {rows : List Row} {row : Row} (h : Chronicle (rows ++ [row])) :
    days (rows ++ [row]) = earlier (rows ++ [row]) ++ [row.day] ∧
      (days (rows ++ [row])).Pairwise fun a b => a.toList < b.toList := by
  induction rows using List.reverseRecOn generalizing row with
  | nil => exact ⟨rfl, List.pairwise_singleton _ _⟩
  | append_singleton rows last ih =>
    obtain ⟨hdays, hordered⟩ := ih h.init
    have hlast : last.day = row.day ∨ last.day.toList < row.day.toList :=
      (List.pairwise_append.mp h.forward).2.2 last
        (List.mem_append_right _ (List.mem_singleton_self _)) row (List.mem_singleton_self _)
    have hpast {day : String} (hday : day ∈ days (rows ++ [last])) :
        day.toList ≤ last.day.toList := by
      rw [hdays] at hday hordered
      obtain hday | hday := List.mem_append.mp hday
      · exact ((List.pairwise_append.mp hordered).2.2 day hday _ (List.mem_singleton_self _)).le
      · rw [List.mem_singleton.mp hday]
    unfold earlier
    rw [days_concat]
    split
    · next hold =>
      obtain heq | hlt := hlast
      · rw [← heq]
        exact ⟨hdays, hordered⟩
      · exact absurd (hpast hold) (not_le.mpr hlt)
    · next hnew =>
      rw [List.dropLast_concat]
      refine ⟨rfl, List.pairwise_append.mpr ⟨hordered, List.pairwise_singleton _ _, ?_⟩⟩
      intro day hday _ hrow
      rw [List.mem_singleton.mp hrow]
      obtain heq | hlt := hlast
      · refine absurd ?_ hnew
        rw [← heq, hdays]
        exact List.mem_append_right _ (List.mem_singleton_self _)
      · exact (hpast hday).trans_lt hlt

theorem Chronicle.not_mem_earlier {rows : List Row} {row : Row}
    (h : Chronicle (rows ++ [row])) : row.day ∉ earlier (rows ++ [row]) := by
  obtain ⟨hdays, hordered⟩ := h.days_eq
  rw [hdays] at hordered
  exact fun hday => lt_irrefl _
    ((List.pairwise_append.mp hordered).2.2 _ hday _ (List.mem_singleton_self _))

/-- A row is of the day of the row before, or the first one of a new day. -/
theorem Chronicle.day_cases {rows : List Row} {last row : Row}
    (h : Chronicle (rows ++ [last] ++ [row])) :
    last.day = row.day ∧ earlier (rows ++ [last] ++ [row]) = earlier (rows ++ [last]) ∨
      row.day ∉ days (rows ++ [last]) ∧
        earlier (rows ++ [last] ++ [row]) = days (rows ++ [last]) := by
  obtain ⟨hdays, hordered⟩ := h.days_eq
  obtain ⟨hdays', -⟩ := h.init.days_eq
  by_cases hold : row.day ∈ days (rows ++ [last])
  · rw [days_concat, if_pos hold] at hdays hordered
    rw [hdays'] at hdays
    obtain ⟨hsame, hlast⟩ := List.append_inj' hdays rfl
    exact .inl ⟨(List.cons.inj hlast).1, hsame.symm⟩
  · unfold earlier at hdays ⊢
    rw [days_concat, if_neg hold, List.dropLast_concat]
    exact .inr ⟨hold, rfl⟩

/-! ## Names -/

theorem toList_backup (day : String) : (backup day).toList = (name ++ ".").toList ++ day.toList :=
  String.toList_append ..

theorem backup_lt_iff {a b : String} :
    (backup a).toList < (backup b).toList ↔ a.toList < b.toList := by
  rw [toList_backup, toList_backup, Text.append_lt_append_iff rfl]
  exact ⟨fun h => (h.resolve_left (lt_irrefl _)).2, fun h => .inr ⟨rfl, h⟩⟩

theorem backup_injective : Function.Injective backup := fun a b h => by
  have hlists := congrArg String.toList h
  rw [toList_backup, toList_backup] at hlists
  exact String.toList_inj.mp (List.append_cancel_left hlists)

theorem startsWith_backup (day : String) : Text.startsWith (backup day) (name ++ ".") = true :=
  Text.startsWith_append _ _

theorem ne_name_of_startsWith {x : String} (h : Text.startsWith x (name ++ ".") = true) :
    x ≠ name := by
  rintro rfl
  exact absurd h (by decide)

theorem not_journal_of_startsWith {x : String} (h : Text.startsWith x name = true) :
    Text.startsWith x Journal.name = false := by
  rw [← Bool.not_eq_true, Text.startsWith_iff]
  rw [Text.startsWith_iff] at h
  intro hjournal
  exact absurd (List.prefix_of_prefix_length_le hjournal h (by decide)) (by decide)

theorem startsWith_name_of_startsWith {x : String}
    (h : Text.startsWith x (name ++ ".") = true) : Text.startsWith x name = true := by
  rw [Text.startsWith_iff, String.toList_append] at h
  exact Text.startsWith_iff.mpr ((List.prefix_append _ _).trans h)

theorem Chronicle.hasChar_backup {rows : List Row} (h : Chronicle rows) {day : String}
    (hday : day ∈ days rows) : Text.hasChar (backup day) '/' = false := by
  obtain ⟨row, hrow, rfl⟩ := List.mem_map.mp (List.mem_eraseDups.mp hday)
  obtain ⟨t, ht, hdate⟩ := h.dated row hrow
  have hdigit {width n : Nat} : '/' ∉ Text.numeral width n :=
    fun hmem => absurd (Text.isDigit_of_mem_numeral hmem) (by decide)
  rw [← Bool.not_eq_true, Text.hasChar, List.contains_iff_mem, toList_backup, hdate,
    Calendar.toList_date ht]
  simp only [List.mem_append, List.mem_cons, hdigit, or_false]
  decide

end Ledger

/-! ## Rows as time goes on -/

theorem rowsOf_concat (steps : List Log.Step) (step : Log.Step) :
    rowsOf (steps ++ [step]) = rowsOf steps ++ step.row?.toList := by
  unfold rowsOf
  rw [List.filterMap_append, List.filterMap_cons]
  cases step.row? <;> rfl

theorem Log.Step.day_of_row? {step : Log.Step} {row : Row} (h : step.row? = some row) :
    row.day = step.now.moment.date := by
  cases step with
  | emit now r =>
    change r.row? now = some row at h
    unfold Record.row? at h
    split at h
    · obtain ⟨values, -, rfl⟩ := Option.map_eq_some_iff.mp h
      rfl
    · cases h
  | reopen => cases h

/-- As time goes on, the rows of a history make a chronicle. -/
theorem chronicle_rowsOf {steps : List Log.Step}
    (hforward : steps.Pairwise fun s t => s.now.instant.micros ≤ t.now.instant.micros)
    (hyears : ∀ s ∈ steps, s.now.instant.HasFourDigits) : Ledger.Chronicle (rowsOf steps) where
  forward := by
    refine List.pairwise_filterMap.mpr (hforward.imp_of_mem fun hs ht hle row hrow row' hrow' => ?_)
    rw [Log.Step.day_of_row? hrow, Log.Step.day_of_row? hrow']
    exact Calendar.date_cases (hyears _ hs) (hyears _ ht) hle
  dated row hrow := by
    obtain ⟨s, hs, hrow⟩ := List.mem_filterMap.mp hrow
    exact ⟨s.now.instant, hyears s hs, Log.Step.day_of_row? hrow⟩

/-! ## Settings -/

theorem Log.settings_after (log : Log) (step : Log.Step) :
    (log.after step).place = log.place ∧ (log.after step).keep = log.keep ∧
      (log.room = valueRoom → (log.after step).room = valueRoom) := by
  cases step with
  | emit now r =>
    rw [Log.after, Log.emit]
    split <;> exact ⟨rfl, rfl, id⟩
  | reopen => exact ⟨rfl, rfl, fun _ => rfl⟩

/-- Whatever a log is told, it goes on where it was opened and with as much room. -/
theorem Log.settings_history (p : Place) (d : Directory) (keep : Int) (start : Calendar.Reading)
    (steps : List Log.Step) :
    let log := steps.foldl Log.after (.openOn p d keep start)
    log.place = p ∧ log.keep = keep ∧ log.room = valueRoom := by
  induction steps using List.reverseRecOn with
  | nil => exact ⟨rfl, rfl, rfl⟩
  | append_singleton steps step ih =>
    obtain ⟨hplace, hkeep, hroom⟩ := ih
    rw [List.foldl_concat]
    obtain ⟨hplace', hkeep', hroom'⟩ :=
      (steps.foldl Log.after (.openOn p d keep start)).settings_after step
    exact ⟨hplace'.trans hplace, hkeep'.trans hkeep, hroom' hroom⟩

end Honeypot.Events
