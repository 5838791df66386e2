import Honeypot.Proofs.Events.Cells
import Honeypot.Proofs.Intel.Reading

/-!
# Cells without a value

A value that is missing from an event shows as a dash in its row, so that no cell is empty. This
holds of all columns but one: a score is taken as the service told it, and one that is nothing or an
empty text leaves its cell empty (`row_without_gap_iff`).
-/

namespace Honeypot

/-! ## Values that show as nothing -/

namespace Number

theorem Layout.positive_ne (layout : Layout) (d : Decimal) : layout.positive d ≠ "" := by
  unfold Layout.positive
  dsimp only
  split
  · split <;> simp
  · simp

theorem Layout.written_ne {layout : Layout} (hinfinite : layout.infinite ≠ "")
    (hundefined : layout.undefined ≠ "") (x : Float) : layout.written x ≠ "" := by
  unfold Layout.written
  split
  · rw [ne_eq, String.append_eq_empty_iff, not_and]
    intro _
    split
    · decide
    · exact layout.positive_ne _
  · simp [hinfinite]
  · exact hundefined

end Number

theorem Text.ofInt_ne (n : Int) : Text.ofInt n ≠ "" := by
  cases n with
  | ofNat n => exact fun h => Nat.toDigits_ne_nil (String.ofList_eq_empty_iff.mp h)
  | negSucc n => simp [Text.ofInt]

theorem Json.shown_eq_empty_iff {value : Json} : value.shown = "" ↔ value = .text "" := by
  cases value with
  | text s => simp [shown]
  | null => simp [shown, shownInside]
  | bool b => cases b <;> simp [shown, shownInside]
  | int n => simp [shown, shownInside, Text.ofInt_ne]
  | float x =>
    have hwritten : Number.plain.written x ≠ "" :=
      Number.Layout.written_ne (by decide) (by decide) x
    simpa [shown, shownInside] using hwritten
  | list items => simp [shown, shownInside]
  | object fields => simp [shown, shownInside]

namespace Intel

/-! ## The score that a service tells -/

/-- The score in a reply about the reports on an address, whatever stands there. -/
def Reply.score? (reply : Reply) : Option Json :=
  match reply.value with
  | .ok (some (.object fields)) =>
    match dataIn fields with
    | .object data => Json.field? data scoreField
    | _ => none
  | _ => none

/-- What is read about reports: nothing if there is no score, else the score and more. -/
theorem readReports_cases {reply : Reply} {facts : Facts} (h : readReports reply = .ok facts) :
    facts = [] ∧ reply.score? = none ∨
      ∃ data, facts = reportFacts data ∧ reply.score? = Json.field? data scoreField ∧
        (Json.field? data scoreField).isSome = true := by
  have hshows : reply.ShowsReports := isOk_readReports_iff.mp (by rw [h]; rfl)
  unfold readReports at h
  unfold Reply.score?
  obtain hnone | ⟨fields, hfields, hdata⟩ := hshows
  · rw [hnone] at h ⊢
    cases h
    exact .inl ⟨rfl, rfl⟩
  · rw [hfields] at h ⊢
    have hscore : readScore (dataIn fields) = .ok facts := h
    unfold readScore at hscore
    dsimp only
    generalize dataIn fields = data at hdata hscore
    cases hdata with
    | object data =>
      change (if (Json.field? data scoreField).isSome = true then _ else _) = _ at hscore
      split at hscore
      · next hfound =>
        cases hscore
        exact .inr ⟨data, rfl, rfl, hfound⟩
      · next hnone =>
        cases hscore
        exact .inl ⟨rfl, Option.not_isSome_iff_eq_none.mp hnone⟩
    | list absent =>
      obtain ⟨found, hholds, hfound⟩ := holdsScore_list _
      rw [hholds, Bool.eq_false_iff.mpr fun h => absent (hfound.mp h)] at hscore
      cases hscore
      exact .inl ⟨rfl, rfl⟩
    | text absent =>
      rw [holdsScore, absent] at hscore
      cases hscore
      exact .inl ⟨rfl, rfl⟩

/-- Among the facts about an address the score is the one in the reply of the service that tells it,
if that is asked. -/
theorem score_ask {τ : Type} {settings : Settings τ} {network : Network} {ip : String}
    {place reports : Bool} {facts : Facts}
    (h : (ask settings network ip place reports).1 = .ok facts) :
    Json.field? facts "abuse_score" =
      if (ask settings network ip place reports).2.any Request.asksReports then
        (network.reports ip).score?
      else none := by
  have hgoes : network.letsOn ip place = true := by
    by_contra hstuck
    have hfails := isOk_ask_of_stuck settings (Bool.not_eq_true _ ▸ hstuck) reports
    rw [h] at hfails
    cases hfails
  rw [(any_ask settings network ip place reports).2, hgoes, Bool.and_true]
  -- the other service tells no score
  have hplace {told : Facts} (htold : (if place then readPlace (network.place ip) else .ok []) =
      .ok told) : Json.field? told "abuse_score" = none := by
    refine Option.not_isSome_iff_eq_none.mp fun hsome => ?_
    have hmem := (Assoc.isSome_lookup_iff _ _).mp hsome
    cases place with
    | true => exact absurd (keys_readPlace htold hmem) (by decide)
    | false =>
      cases htold
      cases hmem
  unfold ask at h
  cases htold : if place then readPlace (network.place ip) else .ok [] with
  | error e =>
    rw [htold] at h
    cases h
  | ok told =>
    rw [htold] at h
    cases reports with
    | false =>
      cases h
      exact hplace htold
    | true =>
      cases hmore : readReports (network.reports ip) with
      | error e =>
        rw [hmore] at h
        cases h
      | ok more =>
        rw [hmore] at h
        cases h
        rw [if_pos rfl]
        obtain ⟨rfl, hnone⟩ | ⟨data, rfl, hscore, hfound⟩ := readReports_cases hmore
        · rw [hnone]
          exact hplace htold
        · obtain ⟨score, hvalue⟩ := Option.isSome_iff_exists.mp hfound
          rw [hscore, hvalue]
          unfold reportFacts fieldOr Json.setFields
          rw [hvalue, List.foldl_cons]
          refine (Json.field?_setFields (by simp) _).trans ?_
          exact (Assoc.lookup_put _ _ _ _).trans (if_pos rfl)

theorem score_lookup {τ : Type} [Clock τ] {settings : Settings τ} {network : Network} {now : τ}
    {m : Memory τ} {ip : String} {facts : Facts}
    (hmissing : m.known? settings.keepFor now ip = none)
    (h : (lookup settings network now m ip).result = .ok facts) :
    Json.field? facts "abuse_score" =
      if (lookup settings network now m ip).requests.any Request.asksReports then
        (network.reports ip).score?
      else none := by
  by_cases hclosed : (!settings.enabled || !Address.isPublicText ip) = true
  · unfold lookup at h ⊢
    rw [if_pos hclosed] at h ⊢
    cases h
    rfl
  · obtain ⟨henabled, hpublic⟩ : settings.enabled = true ∧ Address.isPublicText ip = true := by
      simpa using hclosed
    obtain ⟨-, -, hrequests, hresult⟩ := calls_of_missing henabled hpublic hmissing network
    rw [hrequests]
    exact score_ask (hresult.symm.trans h)

end Intel

/-! ## Columns -/

namespace Events

inductive Column where
  | date
  | time
  | ip
  | port
  | event
  | username
  | password
  | country
  | city
  | score
  | details
  deriving Repr, DecidableEq

namespace Column

def all : List Column :=
  [date, time, ip, port, event, username, password, country, city, score, details]

/-- What an event at some time has for a column, with what is known about its peer; nothing if it
has no value there. -/
def value (now : Calendar.Reading) (r : Record) (intel : Intel.Facts) : Column → Json
  | date => .text now.moment.date
  | time => .text now.moment.clock
  | ip => r.get "peer_ip"
  | port => r.get "peer_port"
  | event => .text r.kind.name
  | username => r.get "username"
  | password => if r.kind = .authentication ∧ r.byPassword then r.get "password" else .null
  | country => (Json.field? intel "country").getD .null
  | city => (Json.field? intel "city").getD .null
  | score => (Json.field? intel "abuse_score").getD .null
  | details =>
    match r.kind with
    | .connection => .text "connection opened"
    | .authentication =>
      .text (r.method.shown ++ " " ++ if r.accepted then "accepted" else "rejected")
    | .command => r.get "input"
    | .download => r.get "url"
    | .disconnect => .null

/-- Whether a value says something in a column. A score of zero does. -/
def tells (col : Column) (value : Json) : Bool :=
  match col, value with
  | score, .null => false
  | score, .text s => !s.isEmpty
  | score, _ => true
  | _, value => !value.isVoid

/-- A value as it should show in a column: a dash if it says nothing. -/
def shows (col : Column) (value : Json) : String := if col.tells value then value.shown else "-"

/-- What is put into a column, where a dash stands in for a value that is missing. -/
def entry (now : Calendar.Reading) (r : Record) (intel : Intel.Facts) : Column → Json
  | password => Ledger.password r
  | score => (Json.field? intel "abuse_score").getD (.text "-")
  | details => Ledger.details r
  | date => .text now.moment.date
  | time => .text now.moment.clock
  | event => .text r.kind.name
  | col => (col.value now r intel).orElse (.text "-")

variable (now : Calendar.Reading) (r : Record)

theorem row?_eq :
    Ledger.row? now r = (Ledger.intelFields r).map fun intel => all.map (entry now r intel) := rfl

theorem shows_ne (col : Column) (value : Json) : col.shows value ≠ "" := by
  unfold shows
  split
  · next htells =>
    intro hempty
    rw [Json.shown_eq_empty_iff.mp hempty] at htells
    cases col <;> cases htells
  · decide

theorem shows_text (col : Column) {s : String} (hs : s ≠ "") : col.shows (.text s) = s := by
  have htells : col.tells (.text s) = true := by cases col <;> simpa [tells, Json.isVoid] using hs
  unfold shows
  rw [if_pos htells]
  rfl

theorem cell_orElse_dash {col : Column} (hscore : col ≠ .score) (value : Json) :
    Ledger.cell (value.orElse (.text "-")) = col.shows value := by
  have htells : col.tells value = !value.isVoid := by
    cases col <;> first | rfl | exact absurd rfl hscore
  unfold shows Json.orElse
  rw [htells]
  cases hvoid : value.isVoid with
  | true => rfl
  | false =>
    cases value with
    | null => cases hvoid
    | _ => rfl

variable (intel : Intel.Facts)

theorem cell_entry {col : Column} (hscore : col ≠ .score) :
    Ledger.cell (col.entry now r intel) = col.shows (col.value now r intel) := by
  cases col with
  | score => exact absurd rfl hscore
  | date =>
    have hne : now.moment.date ≠ "" := by simp [Calendar.Moment.date]
    exact (shows_text _ hne).symm
  | time =>
    have hne : now.moment.clock ≠ "" := by simp [Calendar.Moment.clock]
    exact (shows_text _ hne).symm
  | event =>
    have hne : r.kind.name ≠ "" := by cases r.kind <;> decide
    exact (shows_text _ hne).symm
  | password =>
    by_cases htried : r.kind = .authentication ∧ r.byPassword
    · simp only [entry, value, Ledger.password, if_pos htried]
      exact cell_orElse_dash hscore _
    · simp only [entry, value, Ledger.password, if_neg htried]
      rfl
  | details =>
    unfold entry value Ledger.details
    cases r.kind with
    | authentication =>
      have hne : r.method.shown ++ " " ++ (if r.accepted then "accepted" else "rejected") ≠ "" := by
        cases r.accepted <;> simp
      exact (shows_text _ hne).symm
    | command => exact cell_orElse_dash hscore _
    | download => exact cell_orElse_dash hscore _
    | connection => rfl
    | disconnect => rfl
  | _ => exact cell_orElse_dash hscore _

/-- The column of the score does so unless the score is there and says nothing. -/
theorem cell_entry_score :
    (∃ value, Json.field? intel "abuse_score" = some value ∧ (value = .null ∨ value = .text "")) ∧
        Ledger.cell (score.entry now r intel) = "" ∨
      (¬∃ value, Json.field? intel "abuse_score" = some value ∧
        (value = .null ∨ value = .text "")) ∧
        Ledger.cell (score.entry now r intel) = score.shows (score.value now r intel) := by
  unfold entry value
  cases Json.field? intel "abuse_score" with
  | none => exact .inr ⟨nofun, rfl⟩
  | some value =>
    by_cases hvoid : value = .null ∨ value = .text ""
    · refine .inl ⟨⟨value, rfl, hvoid⟩, ?_⟩
      obtain rfl | rfl := hvoid <;> rfl
    · refine .inr ⟨fun ⟨_, heq, h⟩ => hvoid (Option.some.inj heq ▸ h), ?_⟩
      have htells : score.tells value = true := by
        cases value with
        | null => exact absurd (.inl rfl) hvoid
        | text s => simpa [tells] using hvoid
        | _ => rfl
      unfold shows
      rw [Option.getD_some, Option.getD_some, if_pos htells]
      cases value with
      | null => exact absurd (.inl rfl) hvoid
      | _ => rfl

end Column

/-- **When a row has no empty cell.** A lookup of an address that is not known ends in some facts,
and an event carries them, or says nothing about its peer. The event has a row of eleven cells. All
but that of the score show what the event says, with a dash for a value that is missing. The score
does so too, and no cell of the row is empty, unless the event carries the facts, the service that
tells the score was asked, and its reply has a score of nothing or an empty text. -/
theorem row_without_gap_iff {τ : Type} [Clock τ] {settings : Intel.Settings τ}
    {network : Intel.Network} {now : τ} {m : Intel.Memory τ} {ip : String} {facts : Intel.Facts}
    (hmissing : m.known? settings.keepFor now ip = none)
    (hfacts : (Intel.lookup settings network now m ip).result = .ok facts)
    (reading : Calendar.Reading) {r : Record}
    (hcarried : (r.get "intel").isVoid = true ∨ r.get "intel" = .object facts) :
    let asked := (Intel.lookup settings network now m ip).requests.any Intel.Request.asksReports
    let known := if (r.get "intel").isVoid then [] else facts
    let gap := r.get "intel" = .object facts ∧ asked = true ∧
      ∃ value, (network.reports ip).score? = some value ∧ (value = .null ∨ value = .text "")
    ∃ cells : Column → String,
      (Ledger.row? reading r).map (·.map Ledger.cell) = some (Column.all.map cells) ∧
      (∀ col, col ≠ .score → cells col = col.shows (col.value reading r known)) ∧
      ((∀ col, cells col = col.shows (col.value reading r known)) ↔ ¬gap) ∧
      ((∀ col, cells col ≠ "") ↔ ¬gap) := by
  intro asked known gap
  have hcarries (hvoid : (r.get "intel").isVoid ≠ true) : r.get "intel" = .object facts :=
    hcarried.resolve_left hvoid
  have hknown : Ledger.intelFields r = some known := by
    unfold Ledger.intelFields Json.orElse
    by_cases hvoid : (r.get "intel").isVoid = true
    · simp only [known, if_pos hvoid]
    · rw [if_neg hvoid, hcarries hvoid]
      exact congrArg some (if_neg hvoid).symm
  have hgap : gap ↔ ∃ value, Json.field? known "abuse_score" = some value ∧
      (value = .null ∨ value = .text "") := by
    have hscore := Intel.score_lookup hmissing hfacts
    change _ = if asked then _ else _ at hscore
    by_cases hvoid : (r.get "intel").isVoid = true
    · -- facts that can be carried here are none, and have no score
      have hnone : Json.field? known "abuse_score" = none := by
        simp only [known, if_pos hvoid]
        rfl
      rw [hnone]
      refine iff_of_false ?_ nofun
      rintro ⟨hsame, hasked, value, hvalue, -⟩
      rw [hsame] at hvoid
      rw [List.isEmpty_iff.mp hvoid, hasked, if_pos rfl, hvalue] at hscore
      cases hscore
    · have hall : known = facts := if_neg hvoid
      rw [hall, hscore]
      constructor
      · rintro ⟨-, hasked, hvalue⟩
        rwa [if_pos hasked]
      · rintro ⟨value, hvalue, hempty⟩
        split at hvalue
        · next hasked => exact ⟨hcarries hvoid, hasked, value, hvalue, hempty⟩
        · cases hvalue
  refine ⟨fun col => Ledger.cell (col.entry reading r known), ?_,
    fun col hcol => Column.cell_entry reading r known hcol, ?_⟩
  · rw [Column.row?_eq, hknown, Option.map_some, Option.map_some, List.map_map]
    rfl
  · rw [hgap]
    obtain ⟨hempty, hcell⟩ | ⟨hfull, hcell⟩ := Column.cell_entry_score reading r known
    · have hne := Column.shows_ne .score (Column.score.value reading r known)
      exact ⟨iff_of_false (fun h => hne ((h .score).symm.trans hcell)) (not_not_intro hempty),
        iff_of_false (fun h => h .score hcell) (not_not_intro hempty)⟩
    · have hall (col : Column) : Ledger.cell (col.entry reading r known) =
          col.shows (col.value reading r known) := by
        by_cases hcol : col = .score
        · rw [hcol]
          exact hcell
        · exact Column.cell_entry reading r known hcol
      exact ⟨iff_of_true hall hfull,
        iff_of_true (fun col h => Column.shows_ne _ _ ((hall col).symm.trans h)) hfull⟩

/-- Services of which the second one tells a given score. -/
def scoreNetwork (score : String) : Intel.Network :=
  Intel.cityNetwork (.body
    ("\x7b\"data\":\x7b\"abuseConfidenceScore\":" ++ score ++ "\x7d\x7d").toUTF8)

/-- A score of zero is a score. -/
theorem row_without_gap_example :
    let o := Intel.lookup Intel.Diary.exampleSettings (scoreNetwork "0") 0 .fresh "8.8.8.8"
    let reading : Calendar.Reading := ⟨⟨1700000000000000⟩, 1700000000, 1700000000⟩
    ∃ facts, o.result = .ok facts ∧ ∃ cells : Column → String,
      (Ledger.row? reading ⟨.connection, [("intel", .object facts)]⟩).map (·.map Ledger.cell) =
        some (Column.all.map cells) ∧ ∀ col, cells col ≠ "" := by
  intro o reading
  have hok : o.result.isOk = true := by decide +kernel
  have hscore : ((scoreNetwork "0").reports "8.8.8.8").score?.map Json.shown = some "0" := by
    decide +kernel
  cases hfacts : o.result with
  | error e =>
    rw [hfacts] at hok
    cases hok
  | ok facts =>
    have hmissing : (Intel.Memory.fresh : Intel.Memory Int).known?
      Intel.Diary.exampleSettings.keepFor 0 "8.8.8.8" = none := rfl
    obtain ⟨cells, hcells, -, -, hfull⟩ := row_without_gap_iff hmissing hfacts reading
      (r := ⟨.connection, [("intel", .object facts)]⟩) (.inr rfl)
    refine ⟨facts, rfl, cells, hcells, hfull.mpr ?_⟩
    rintro ⟨-, -, value, hvalue, rfl | rfl⟩
    · rw [hvalue] at hscore
      exact absurd hscore (by decide)
    · rw [hvalue] at hscore
      exact absurd hscore (by decide)

/-- A score that is nothing leaves its cell empty. -/
theorem row_gap_of_null_score :
    let o := Intel.lookup Intel.Diary.exampleSettings (scoreNetwork "null") 0 .fresh "8.8.8.8"
    let reading : Calendar.Reading := ⟨⟨1700000000000000⟩, 1700000000, 1700000000⟩
    (o.result.toOption.map fun facts =>
      (Ledger.row? reading ⟨.connection, [("intel", .object facts)]⟩).map (·.map Ledger.cell)) =
    some (some ["2023-11-14", "22:13:20", "-", "-", "connection", "-", "-", "Unknown", "Sydney", "",
      "connection opened"]) := by
  decide +kernel

end Events

end Honeypot
