import Honeypot.Proofs.Intel.Limits

/-!
# What a lookup can read

A lookup fails exactly if it asks a service whose reply it cannot read (`lookup_isOk_iff`). A reply
without a value can be read, also a body that is no value at all; but a value has to have a certain
shape (`Reply.ShowsPlace`, `Reply.ShowsReports`). What the first service told is in the facts of
every lookup that does not fail, whatever the second one told.
-/

namespace Honeypot

/-! ## Fields -/

namespace Json

theorem field?_setFields {name : String} {others : List (String × Json)}
    (h : name ∉ others.map (·.1)) (fields : List (String × Json)) :
    field? (setFields fields others) name = field? fields name := by
  unfold setFields field?
  induction others generalizing fields with
  | nil => rfl
  | cons other others ih =>
    rw [List.map_cons, List.mem_cons, not_or] at h
    rw [List.foldl_cons, ih h.2, Assoc.lookup_put, if_neg h.1]

theorem mem_keys_of_field? {name : String} {value : Json} {fields : List (String × Json)}
    (h : field? fields name = some value) : name ∈ fields.map (·.1) := by
  rw [← Assoc.isSome_lookup_iff]
  exact Option.isSome_of_eq_some h

end Json

namespace Intel

/-! ## Shapes of replies -/

/-- A reply about the place of an address that can be read: none, or one that is no value or an
object. -/
def Reply.ShowsPlace (reply : Reply) : Prop :=
  reply.value = .ok none ∨ ∃ fields, reply.value = .ok (some (.object fields))

/-- What stands under the name of the data in an answer about reports, as far as it says
anything. -/
def dataIn (fields : List (String × Json)) : Json :=
  (fieldOr fields "data" .null).orElse (.object [])

/-- Data about reports that can be read. -/
inductive ShowsScore : Json → Prop where
  | object (fields : List (String × Json)) : ShowsScore (.object fields)
  /-- A list may not hold the name of the score, which would be taken for a field. -/
  | list {items : List Json} (absent : .text scoreField ∉ items) : ShowsScore (.list items)
  /-- Nor may a text. -/
  | text {s : String} (absent : Text.hasText s scoreField = false) : ShowsScore (.text s)

/-- A reply about the reports on an address that can be read: none, or one that is no value or an
object with such data. -/
def Reply.ShowsReports (reply : Reply) : Prop :=
  reply.value = .ok none ∨
    ∃ fields, reply.value = .ok (some (.object fields)) ∧ ShowsScore (dataIn fields)

theorem isOk_readPlace_iff {reply : Reply} :
    (readPlace reply).isOk = true ↔ reply.ShowsPlace := by
  unfold readPlace Reply.ShowsPlace
  cases reply.value with
  | error e => simp [bind, Except.bind, Except.isOk, Except.toBool]
  | ok value? =>
    cases value? with
    | none => simp [bind, Except.bind, Except.isOk, Except.toBool]
    | some value =>
      cases value <;> simp [bind, Except.bind, fieldsOf, Except.isOk, Except.toBool]

/-- What is made of data about reports. -/
def readScore (data : Json) : Except Fault Facts := do
  if ← holdsScore data then .ok (reportFacts (← fieldsOf data)) else .ok []

theorem holdsScore_list (items : List Json) :
    ∃ found, holdsScore (.list items) = .ok found ∧ (found = true ↔ .text scoreField ∈ items) := by
  refine ⟨_, rfl, ?_⟩
  rw [List.any_eq_true]
  constructor
  · rintro ⟨item, hmem, hitem⟩
    cases item with
    | text s => exact beq_iff_eq.mp hitem ▸ hmem
    | _ => cases hitem
  · intro hmem
    exact ⟨_, hmem, beq_self_eq_true scoreField⟩

/-- Reading fails where the name of the score is found in something that is no object, and where it
is looked for in something that holds nothing. -/
theorem isOk_readScore_iff {data : Json} : (readScore data).isOk = true ↔ ShowsScore data := by
  unfold readScore
  cases data with
  | object fields =>
    refine iff_of_true ?_ (.object fields)
    cases h : (Json.field? fields scoreField).isSome <;>
      simp [holdsScore, fieldsOf, h, bind, Except.bind, Except.isOk, Except.toBool]
  | list items =>
    obtain ⟨found, hholds, hfound⟩ := holdsScore_list items
    rw [hholds]
    cases found with
    | false => exact iff_of_true rfl (.list fun hmem => Bool.false_ne_true (hfound.mpr hmem))
    | true =>
      refine iff_of_false Bool.false_ne_true ?_
      rintro ⟨⟩
      exact absurd (hfound.mp rfl) ‹_›
  | text s =>
    cases hfound : Text.hasText s scoreField with
    | false =>
      refine iff_of_true ?_ (.text hfound)
      simp [holdsScore, hfound, bind, Except.bind, Except.isOk, Except.toBool]
    | true =>
      refine iff_of_false ?_ ?_
      · simp [holdsScore, fieldsOf, hfound, bind, Except.bind, Except.isOk, Except.toBool]
      · rintro ⟨⟩
        simp_all
  | _ => exact iff_of_false Bool.false_ne_true nofun

theorem isOk_readReports_iff {reply : Reply} :
    (readReports reply).isOk = true ↔ reply.ShowsReports := by
  unfold readReports Reply.ShowsReports
  cases reply.value with
  | error e => simp [bind, Except.bind, Except.isOk, Except.toBool]
  | ok value? =>
    cases value? with
    | none => simp [bind, Except.bind, Except.isOk, Except.toBool]
    | some value =>
      cases value with
      | object fields =>
        show (readScore (dataIn fields)).isOk = true ↔ _
        simp [isOk_readScore_iff]
      | _ => simp [bind, Except.bind, fieldsOf, Except.isOk, Except.toBool]

/-! ## Names of facts -/

/-- The names of the facts about the place of an address. -/
def placeNames : List String := ["country", "city", "isp", "asn", "latitude", "longitude"]

/-- The names of the facts about the reports on an address. -/
def reportNames : List String := ["abuse_score", "total_reports", "is_tor", "usage_type", "domain"]

theorem keys_placeFacts (fields : List (String × Json)) :
    (placeFacts fields).map (·.1) ⊆ placeNames := by
  unfold placeFacts
  split
  · exact List.Subset.refl _
  · exact List.nil_subset _

theorem keys_readPlace {reply : Reply} {facts : Facts} (h : readPlace reply = .ok facts) :
    facts.map (·.1) ⊆ placeNames := by
  have hshows : reply.ShowsPlace := isOk_readPlace_iff.mp (by rw [h]; rfl)
  unfold readPlace at h
  obtain hnone | ⟨fields, hfields⟩ := hshows
  · rw [hnone] at h
    cases h
    exact List.nil_subset _
  · rw [hfields] at h
    cases h
    exact keys_placeFacts fields

theorem keys_readScore {data : Json} {facts : Facts} (h : readScore data = .ok facts) :
    facts.map (·.1) ⊆ reportNames := by
  unfold readScore at h
  cases hholds : holdsScore data with
  | error e =>
    rw [hholds] at h
    cases h
  | ok found =>
    rw [hholds] at h
    cases found with
    | false =>
      cases h
      exact List.nil_subset _
    | true =>
      cases hfields : fieldsOf data with
      | error e =>
        rw [hfields] at h
        cases h
      | ok fields =>
        rw [hfields] at h
        cases h
        exact List.Subset.refl _

theorem keys_readReports {reply : Reply} {facts : Facts} (h : readReports reply = .ok facts) :
    facts.map (·.1) ⊆ reportNames := by
  have hshows : reply.ShowsReports := isOk_readReports_iff.mp (by rw [h]; rfl)
  unfold readReports at h
  obtain hnone | ⟨fields, hfields, _⟩ := hshows
  · rw [hnone] at h
    cases h
    exact List.nil_subset _
  · rw [hfields] at h
    have hscore : readScore (dataIn fields) = .ok facts := h
    exact keys_readScore hscore

/-! ## Lookups -/

variable {τ : Type}

theorem isOk_ask_iff (settings : Settings τ) (network : Network) (ip : String)
    (place reports : Bool) :
    (ask settings network ip place reports).1.isOk = true ↔
      (place = true → (network.place ip).ShowsPlace) ∧
        ((reports && network.letsOn ip place) = true → (network.reports ip).ShowsReports) := by
  rw [← isOk_readPlace_iff, ← isOk_readReports_iff]
  unfold ask Network.letsOn
  cases place <;> cases reports <;> cases readPlace (network.place ip) <;>
    cases readReports (network.reports ip) <;> simp [Except.isOk, Except.toBool]

/-- What the first service told stays in the facts, whatever the second one told. -/
theorem place_of_ask {settings : Settings τ} {network : Network} {ip : String} {reports : Bool}
    {facts : Facts} (h : (ask settings network ip true reports).1 = .ok facts) :
    ∃ place, readPlace (network.place ip) = .ok place ∧
      ∀ name value, Json.field? place name = some value → Json.field? facts name = some value := by
  unfold ask at h
  cases hplace : readPlace (network.place ip) with
  | error e =>
    rw [hplace] at h
    cases h
  | ok place =>
    rw [hplace] at h
    refine ⟨place, rfl, fun name value hvalue => ?_⟩
    cases reports with
    | false =>
      cases h
      exact hvalue
    | true =>
      cases hreports : readReports (network.reports ip) with
      | error e =>
        rw [hreports] at h
        cases h
      | ok more =>
        rw [hreports] at h
        cases h
        -- no name stands for facts from both services
        have hname : name ∈ placeNames :=
          keys_readPlace hplace (Json.mem_keys_of_field? hvalue)
        have hother : name ∉ more.map (·.1) := fun hmem =>
          (by decide : ∀ name ∈ placeNames, name ∉ reportNames) name hname
            (keys_readReports hreports hmem)
        rw [Json.field?_setFields hother]
        exact hvalue

variable [Clock τ]

/-- **When a lookup ends in facts.** It does exactly if it can read the reply of every service that
it asks. Whatever the first service told is then among the facts. -/
theorem lookup_isOk_iff (settings : Settings τ) (network : Network) (now : τ) (m : Memory τ)
    (ip : String) :
    let o := lookup settings network now m ip
    (o.result.isOk = true ↔
      (o.requests.any Request.asksPlace = true → (network.place ip).ShowsPlace) ∧
        (o.requests.any Request.asksReports = true → (network.reports ip).ShowsReports)) ∧
    ∀ facts, o.result = .ok facts → o.requests.any Request.asksPlace = true →
      ∃ place, readPlace (network.place ip) = .ok place ∧
        ∀ name value, Json.field? place name = some value →
          Json.field? facts name = some value := by
  intro o
  obtain hquiet | ⟨henabled, hpublic, hmissing⟩ := quiet_or_missing settings now m ip
  · obtain ⟨_, hrequests, hresult⟩ := lookup_of_quiet network hquiet
    have hnone (kind : Request → Bool) : ¬o.requests.any kind = true := by simp [o, hrequests]
    exact ⟨iff_of_true hresult ⟨fun h => absurd h (hnone _), fun h => absurd h (hnone _)⟩,
      fun _ _ h => absurd h (hnone _)⟩
  · obtain ⟨_, _, hrequests, hresult⟩ := calls_of_missing henabled hpublic hmissing network
    obtain ⟨hplace, hreports⟩ := any_ask settings network ip
      (take settings.placeLimit placeWindow now m.placeCalls).1 (m.mayAskReports settings now)
    rw [← hrequests] at hplace hreports
    show (o.result.isOk = true ↔ _) ∧ _
    constructor
    · rw [hplace, hreports]
      show (lookup settings network now m ip).result.isOk = true ↔ _
      rw [hresult]
      exact isOk_ask_iff settings network ip _ _
    · intro facts hfacts hasked
      have hask := hresult.symm.trans hfacts
      rw [← hplace, hasked] at hask
      exact place_of_ask hask

def cityIn (facts : Facts) : Option String :=
  match Json.field? facts "city" with
  | some (.text s) => some s
  | _ => none

/-- Services of which the first one tells a city and the second one has a given reply. -/
def cityNetwork (reply : Reply) : Network where
  place _ := .body "\x7b\"status\":\"success\",\"city\":\"Sydney\"\x7d".toUTF8
  reports _ := reply

theorem cityIn_readPlace (reply : Reply) (ip : String) :
    ∃ place, readPlace ((cityNetwork reply).place ip) = .ok place ∧
      Json.field? place "city" = some (.text "Sydney") := by
  have hcity : (readPlace ((cityNetwork .unreachable).place "")).toOption.bind cityIn =
      some "Sydney" := by decide +kernel
  cases hplace : readPlace ((cityNetwork .unreachable).place "") with
  | error e =>
    rw [hplace] at hcity
    cases hcity
  | ok place =>
    rw [hplace] at hcity
    refine ⟨place, hplace, ?_⟩
    change cityIn place = some "Sydney" at hcity
    unfold cityIn at hcity
    split at hcity
    · next s hs =>
      cases hcity
      exact hs
    · cases hcity

/-- A reply of the second service that is no value takes nothing from what the first one told. -/
theorem lookup_isOk_example :
    let o := lookup Diary.exampleSettings (cityNetwork (.body "<html>".toUTF8)) 0 .fresh "8.8.8.8"
    ∃ facts, o.result = .ok facts ∧ Json.field? facts "city" = some (.text "Sydney") := by
  intro o
  obtain ⟨place, hplace, hcity⟩ := cityIn_readPlace (.body "<html>".toUTF8) "8.8.8.8"
  obtain ⟨hok, hkept⟩ := lookup_isOk_iff Diary.exampleSettings
    (cityNetwork (.body "<html>".toUTF8)) 0 .fresh "8.8.8.8"
  have hresult : o.result.isOk = true := by
    refine hok.mpr ⟨fun _ => isOk_readPlace_iff.mp (by rw [hplace]; rfl), fun _ => ?_⟩
    exact isOk_readReports_iff.mp (by decide +kernel)
  cases hfacts : o.result with
  | error e =>
    rw [hfacts] at hresult
    cases hresult
  | ok facts =>
    obtain ⟨told, htold, hstays⟩ := hkept facts hfacts (by decide +kernel)
    cases hplace.symm.trans htold
    exact ⟨facts, rfl, hstays _ _ hcity⟩

/-- A list in the place of an answer makes a lookup fail, also where the first service told what it
knows. -/
theorem lookup_fails_over_list :
    (lookup Diary.exampleSettings Diary.exampleNetwork 0 .fresh "8.8.8.8").result =
      .error .noFields ∧
    (readPlace ((cityNetwork (.body "[]".toUTF8)).place "8.8.8.8")).isOk = true ∧
    (lookup Diary.exampleSettings (cityNetwork (.body "[]".toUTF8)) 0 .fresh
      "8.8.8.8").result.isOk = false :=
  ⟨rfl, by decide +kernel, by decide +kernel⟩

end Intel

end Honeypot
