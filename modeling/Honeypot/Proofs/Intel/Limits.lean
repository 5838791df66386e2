import Mathlib.Data.List.Induction
import Honeypot.Intel.Client
import Honeypot.Proofs.Intel.Window

/-!
# The limits of a client

What a client asks in the course of time is written down in a `Diary`, with the times. The first
service is asked within its limit and whenever its limit has room; so is the second one, but that a
lookup that fails over the answer of the first service has counted a question that it never asks
(`Diary.spoilt`), and such questions take up room all the same.
-/

namespace Honeypot.Intel

open ExactClock

variable {τ : Type}

/-! ## Questions -/

def Request.asksPlace (q : Request) : Bool := Text.startsWith q.url "http://ip-api.com/"

def Request.asksReports (q : Request) : Bool := Text.startsWith q.url "https://api.abuseipdb.com/"

theorem startsWith_append {s head : String} (h : Text.startsWith s head = true) (t : String) :
    Text.startsWith (s ++ t) head = true := by
  unfold Text.startsWith at h ⊢
  rw [List.isPrefixOf_iff_prefix] at h ⊢
  rw [String.toList_append]
  exact h.trans (List.prefix_append _ _)

theorem not_startsWith_append {s head : String} (h : Text.startsWith s head = false)
    (h' : Text.startsWith head s = false) (t : String) :
    Text.startsWith (s ++ t) head = false := by
  unfold Text.startsWith at h h' ⊢
  rw [Bool.eq_false_iff, ne_eq, List.isPrefixOf_iff_prefix] at h h' ⊢
  rw [String.toList_append]
  intro hwhole
  obtain hle | hle := List.prefix_or_prefix_of_prefix hwhole (List.prefix_append _ _)
  · exact h hle
  · exact h' hle

theorem asks_placeRequest (settings : Settings τ) (ip : String) :
    (placeRequest settings ip).asksPlace = true ∧
      (placeRequest settings ip).asksReports = false := by
  unfold Request.asksPlace Request.asksReports placeRequest
  dsimp only
  rw [String.append_assoc]
  exact ⟨startsWith_append (by decide) _, not_startsWith_append (by decide) (by decide) _⟩

theorem asks_reportRequest (settings : Settings τ) (ip : String) :
    (reportRequest settings ip).asksPlace = false ∧
      (reportRequest settings ip).asksReports = true := by
  unfold Request.asksPlace Request.asksReports reportRequest
  dsimp only
  rw [String.append_assoc]
  exact ⟨not_startsWith_append (by decide) (by decide) _, startsWith_append (by decide) _⟩

/-- Whether a lookup goes on after the question to the first service, which may not be asked. -/
def Network.letsOn (network : Network) (ip : String) (place : Bool) : Bool :=
  !place || (readPlace (network.place ip)).isOk

theorem requests_ask (settings : Settings τ) (network : Network) (ip : String)
    (place reports : Bool) :
    (ask settings network ip place reports).2 =
      (if place then [placeRequest settings ip] else []) ++
        if reports && network.letsOn ip place then [reportRequest settings ip] else [] := by
  unfold ask Network.letsOn
  cases place <;> cases reports <;> cases readPlace (network.place ip) <;>
    cases readReports (network.reports ip) <;> rfl

/-- The questions of a lookup, by the service that is asked. -/
theorem kinds_ask (settings : Settings τ) (network : Network) (ip : String)
    (place reports : Bool) :
    (ask settings network ip place reports).2.filter Request.asksPlace =
        (if place then [placeRequest settings ip] else []) ∧
      (ask settings network ip place reports).2.filter Request.asksReports =
        if reports && network.letsOn ip place then [reportRequest settings ip] else [] := by
  rw [requests_ask]
  cases place <;> cases reports && network.letsOn ip _ <;>
    simp [asks_placeRequest, asks_reportRequest]

theorem any_eq_not_isEmpty_filter {α : Type} (p : α → Bool) (l : List α) :
    l.any p = !(l.filter p).isEmpty := by
  rw [Bool.eq_iff_iff]
  simp

theorem any_ask (settings : Settings τ) (network : Network) (ip : String) (place reports : Bool) :
    (ask settings network ip place reports).2.any Request.asksPlace = place ∧
      (ask settings network ip place reports).2.any Request.asksReports =
        (reports && network.letsOn ip place) := by
  obtain ⟨hplace, hreports⟩ := kinds_ask settings network ip place reports
  rw [any_eq_not_isEmpty_filter, any_eq_not_isEmpty_filter, hplace, hreports]
  constructor
  · cases place <;> rfl
  · cases reports && network.letsOn ip place <;> rfl

theorem isOk_ask_of_stuck (settings : Settings τ) {network : Network} {ip : String} {place : Bool}
    (stuck : network.letsOn ip place = false) (reports : Bool) :
    (ask settings network ip place reports).1.isOk = false := by
  unfold Network.letsOn at stuck
  unfold ask
  cases place with
  | false => cases stuck
  | true =>
    cases hplace : readPlace (network.place ip) with
    | ok facts =>
      rw [hplace] at stuck
      cases stuck
    | error e => rfl

/-! ## Lookups -/

variable [Clock τ]

/-- Whether the limit of the second service lets a client ask it, if it has a key. -/
def Memory.mayAskReports (m : Memory τ) (settings : Settings τ) (now : τ) : Bool :=
  !settings.key.isEmpty && (take settings.reportLimit reportWindow now m.reportCalls).1

variable {settings : Settings τ} {network : Network} {now : τ} {m : Memory τ} {ip : String}

theorem lookup_of_quiet (network : Network)
    (h : settings.enabled = false ∨ Address.isPublicText ip = false ∨
      (m.known? settings.keepFor now ip).isSome = true) :
    (lookup settings network now m ip).memory = m ∧
      (lookup settings network now m ip).requests = [] ∧
      (lookup settings network now m ip).result.isOk = true := by
  unfold lookup
  split
  · exact ⟨rfl, rfl, rfl⟩
  · next hopen =>
    cases hknown : m.known? settings.keepFor now ip with
    | some facts => exact ⟨rfl, rfl, rfl⟩
    | none =>
      simp [hknown] at h hopen
      simp [hopen] at h

/-- Looking up what is not known: all services are asked that may be, and what they tell is kept
unless one of them may not. -/
theorem lookup_of_missing (henabled : settings.enabled = true)
    (hpublic : Address.isPublicText ip = true)
    (hmissing : m.known? settings.keepFor now ip = none) (network : Network) :
    lookup settings network now m ip =
      let place := take settings.placeLimit placeWindow now m.placeCalls
      let reports := m.mayAskReports settings now
      let called : Memory τ := { m with
        placeCalls := place.2
        reportCalls := if settings.key.isEmpty then m.reportCalls
          else (take settings.reportLimit reportWindow now m.reportCalls).2 }
      let asked := ask settings network ip place.1 reports
      { result := asked.1
        memory :=
          match asked.1 with
          | .ok facts =>
            if place.1 && (reports || settings.key.isEmpty) then called.keep settings now ip facts
            else called
          | .error _ => called
        requests := asked.2 } := by
  have hreports : (if (!settings.key.isEmpty) = true then
      take settings.reportLimit reportWindow now m.reportCalls else (false, m.reportCalls)) =
      (m.mayAskReports settings now, if settings.key.isEmpty then m.reportCalls
        else (take settings.reportLimit reportWindow now m.reportCalls).2) := by
    unfold Memory.mayAskReports
    cases settings.key.isEmpty <;> rfl
  unfold lookup
  rw [henabled, hpublic, hmissing]
  dsimp only
  rw [if_neg (by decide), hreports, Bool.not_not]
  dsimp only
  generalize ask settings network ip _ _ = asked
  obtain ⟨e | facts, requests⟩ := asked
  · rfl
  · dsimp only
    split <;> rfl

/-- What a lookup of something unknown changes about the calls, what it asks and what it ends in. -/
theorem calls_of_missing (henabled : settings.enabled = true)
    (hpublic : Address.isPublicText ip = true)
    (hmissing : m.known? settings.keepFor now ip = none) (network : Network) :
    let place := take settings.placeLimit placeWindow now m.placeCalls
    let o := lookup settings network now m ip
    o.memory.placeCalls = place.2 ∧
      o.memory.reportCalls = (if settings.key.isEmpty then m.reportCalls
        else (take settings.reportLimit reportWindow now m.reportCalls).2) ∧
      o.requests = (ask settings network ip place.1 (m.mayAskReports settings now)).2 ∧
      o.result = (ask settings network ip place.1 (m.mayAskReports settings now)).1 := by
  -- what is kept of an answer changes nothing about the calls
  have hcalls (called : Memory τ) (result : Except Fault Facts) (complete : Bool) :
      let after := match result with
        | .ok facts => if complete then called.keep settings now ip facts else called
        | .error _ => called
      after.placeCalls = called.placeCalls ∧ after.reportCalls = called.reportCalls := by
    cases result <;> cases complete <;> exact ⟨rfl, rfl⟩
  rw [lookup_of_missing henabled hpublic hmissing]
  exact ⟨(hcalls _ _ _).1, (hcalls _ _ _).2, rfl, rfl⟩

/-- A lookup says nothing to anybody or is one of something unknown. -/
theorem quiet_or_missing (settings : Settings τ) (now : τ) (m : Memory τ) (ip : String) :
    (settings.enabled = false ∨ Address.isPublicText ip = false ∨
      (m.known? settings.keepFor now ip).isSome = true) ∨
    settings.enabled = true ∧ Address.isPublicText ip = true ∧
      m.known? settings.keepFor now ip = none := by
  cases settings.enabled <;> cases Address.isPublicText ip <;>
    cases m.known? settings.keepFor now ip <;> simp

/-! ## Diaries -/

/-- What a client did in the course of time. -/
structure Diary (τ : Type) where
  now : τ
  memory : Memory τ
  /-- The questions that were asked, and when. -/
  asked : List (τ × Request)
  /-- When a question to the second service was counted and then not asked. -/
  spoilt : List τ

inductive Event (τ : Type) where
  | lookup (ip : String) (network : Network)
  | clear
  | pass (time : τ)

namespace Diary

def opened (start : τ) : Diary τ := ⟨start, .fresh, [], []⟩

/-- When questions of a kind were asked. -/
def times (d : Diary τ) (kind : Request → Bool) : List τ :=
  (d.asked.filter fun entry => kind entry.2).map (·.1)

/-- Whether a lookup fails before it asks the second service, which it had leave to ask. -/
def spoils (settings : Settings τ) (d : Diary τ) (o : Outcome τ) : Bool :=
  d.memory.mayAskReports settings d.now && !o.result.isOk && !o.requests.any Request.asksReports

def noted (settings : Settings τ) (d : Diary τ) (o : Outcome τ) : Diary τ where
  now := d.now
  memory := o.memory
  asked := d.asked ++ o.requests.map fun q => (d.now, q)
  spoilt := d.spoilt ++ if d.spoils settings o then [d.now] else []

def after (settings : Settings τ) (d : Diary τ) : Event τ → Diary τ
  | .lookup ip network => d.noted settings (lookup settings network d.now d.memory ip)
  | .clear => { d with memory := d.memory.forget }
  | .pass time => { d with now := d.now + time }

def run (settings : Settings τ) (d : Diary τ) (events : List (Event τ)) : Diary τ :=
  events.foldl (after settings) d

variable {d : Diary τ}

theorem times_noted (o : Outcome τ) (kind : Request → Bool) :
    (d.noted settings o).times kind =
      d.times kind ++ (o.requests.filter kind).map fun _ => d.now := by
  unfold times noted
  rw [List.filter_append, List.map_append, List.filter_map, List.map_map]
  rfl

theorem noted_of_quiet {o : Outcome τ} (hmemory : o.memory = d.memory) (hrequests : o.requests = [])
    (hresult : o.result.isOk = true) : d.noted settings o = d := by
  unfold noted spoils
  rw [hmemory, hrequests, hresult]
  simp

/-- What a lookup of something unknown adds to a diary. -/
theorem noted_of_asked {place reports : Bool} {o : Outcome τ}
    (hrequests : o.requests = (ask settings network ip place reports).2)
    (hresult : o.result = (ask settings network ip place reports).1)
    (hreports : d.memory.mayAskReports settings d.now = reports) :
    (d.noted settings o).times Request.asksPlace =
        d.times Request.asksPlace ++ (if place then [d.now] else []) ∧
      (d.noted settings o).times Request.asksReports = d.times Request.asksReports ++
        (if reports && network.letsOn ip place then [d.now] else []) ∧
      (d.noted settings o).spoilt =
        d.spoilt ++ if reports && !network.letsOn ip place then [d.now] else [] := by
  obtain ⟨hkindPlace, hkindReports⟩ := kinds_ask settings network ip place reports
  refine ⟨?_, ?_, ?_⟩
  · rw [times_noted, hrequests, hkindPlace]
    cases place <;> rfl
  · rw [times_noted, hrequests, hkindReports]
    cases reports && network.letsOn ip place <;> rfl
  · have hspoils : d.spoils settings o = (reports && !network.letsOn ip place) := by
      unfold spoils
      rw [hreports, hresult, hrequests, (any_ask settings network ip place reports).2]
      cases hgoes : network.letsOn ip place with
      | true => cases reports <;> simp
      | false => simp [isOk_ask_of_stuck settings hgoes reports]
    unfold noted
    rw [hspoils]

/-! ## Runs -/

variable [ExactClock τ]

/-- A diary whose entries are those that the memory of the client stands for. -/
structure Sound (settings : Settings τ) (d : Diary τ) : Prop where
  place : Limited settings.placeLimit placeWindow d.now (d.times Request.asksPlace)
    d.memory.placeCalls
  reports : ∃ made, made.Perm (d.times Request.asksReports ++ d.spoilt) ∧
    Limited settings.reportLimit reportWindow d.now made d.memory.reportCalls

theorem sound_opened (settings : Settings τ) (start : τ) : (opened start).Sound settings where
  place := .fresh _ _ _
  reports := ⟨[], .nil, .fresh _ _ _⟩

/-- **A lookup keeps the diary what the memory stands for.** -/
theorem Sound.noted (h : d.Sound settings) (ip : String) (network : Network) :
    (d.noted settings (lookup settings network d.now d.memory ip)).Sound settings := by
  obtain hquiet | ⟨henabled, hpublic, hmissing⟩ :=
    quiet_or_missing settings d.now d.memory ip
  · obtain ⟨hmemory, hrequests, hresult⟩ := lookup_of_quiet network hquiet
    rw [noted_of_quiet hmemory hrequests hresult]
    exact h
  · obtain ⟨hplaceCalls, hreportCalls, hrequests, hresult⟩ :=
      calls_of_missing henabled hpublic hmissing network
    obtain ⟨hplace, hreports, hspoilt⟩ := noted_of_asked hrequests hresult rfl
    constructor
    · rw [hplace]
      show Limited _ _ _ _ (lookup settings network d.now d.memory ip).memory.placeCalls
      rw [hplaceCalls]
      exact h.place.take.2
    · obtain ⟨made, hmade, hlimited⟩ := h.reports
      refine ⟨made ++ if d.memory.mayAskReports settings d.now then [d.now] else [], ?_, ?_⟩
      · rw [hreports, hspoilt]
        refine (hmade.append_right _).trans ?_
        cases d.memory.mayAskReports settings d.now with
        | false => simp
        | true =>
          cases network.letsOn ip _ with
          | false => simp
          | true =>
            simp only [Bool.and_self, Bool.not_true, Bool.and_false, if_true, List.append_nil,
              Bool.false_eq_true, if_false, List.append_assoc]
            exact List.perm_append_comm.append_left _
      · show Limited _ _ d.now _ (lookup settings network d.now d.memory ip).memory.reportCalls
        rw [hreportCalls]
        unfold Memory.mayAskReports
        cases settings.key.isEmpty with
        | true => simpa using hlimited
        | false => exact hlimited.take.2

theorem Sound.after (h : d.Sound settings) {event : Event τ}
    (forward : ∀ time, event = .pass time → 0 ≤ value time) :
    (d.after settings event).Sound settings := by
  cases event with
  | lookup ip network => exact h.noted ip network
  | clear => exact ⟨h.place, h.reports⟩
  | pass time =>
    have hlater : value d.now ≤ value (d.now + time) := by
      rw [value_add]
      linarith [forward time rfl]
    obtain ⟨made, hmade, hlimited⟩ := h.reports
    exact ⟨h.place.pass hlater, made, hmade, hlimited.pass hlater⟩

theorem Sound.run (h : d.Sound settings) {events : List (Event τ)}
    (forward : ∀ time, .pass time ∈ events → 0 ≤ value time) :
    (d.run settings events).Sound settings := by
  induction events generalizing d with
  | nil => exact h
  | cons event events ih =>
    refine ih (h.after fun time hevent => ?_) fun time hmem => ?_
    · exact forward time (hevent ▸ List.mem_cons_self ..)
    · exact forward time (List.mem_cons_of_mem _ hmem)

omit [ExactClock τ] in
theorem spoilt_noted {ip : String} {network : Network}
    (readable : (readPlace (network.place ip)).isOk = true) :
    (d.noted settings (lookup settings network d.now d.memory ip)).spoilt = d.spoilt := by
  obtain hquiet | ⟨henabled, hpublic, hmissing⟩ :=
    quiet_or_missing settings d.now d.memory ip
  · obtain ⟨hmemory, hrequests, hresult⟩ := lookup_of_quiet network hquiet
    rw [noted_of_quiet hmemory hrequests hresult]
  · obtain ⟨_, _, hrequests, hresult⟩ :=
      calls_of_missing henabled hpublic hmissing network
    rw [(noted_of_asked hrequests hresult rfl).2.2]
    simp [Network.letsOn, readable]

omit [ExactClock τ] in
/-- Nothing is spoilt as long as the first service answers with what can be read. -/
theorem spoilt_run {events : List (Event τ)} (readable : ∀ ip network,
      .lookup ip network ∈ events → (readPlace (network.place ip)).isOk = true) :
    (d.run settings events).spoilt = d.spoilt := by
  induction events generalizing d with
  | nil => rfl
  | cons event events ih =>
    have hrest := ih (d := d.after settings event) fun ip network hmem =>
      readable ip network (List.mem_cons_of_mem _ hmem)
    refine hrest.trans ?_
    cases event with
    | lookup ip network => exact spoilt_noted (readable ip network (List.mem_cons_self ..))
    | clear => rfl
    | pass time => rfl

/-! ## Questions within the limits -/

theorem value_placeWindow : value (placeWindow : τ) = 60 := by
  rw [placeWindow, value_span]
  norm_num

theorem value_reportWindow : value (reportWindow : τ) = 86400 := by
  rw [reportWindow, value_span]
  norm_num

theorem Sound.place_inside_le (h : d.Sound settings) (a : ℝ) :
    inside (Set.Ico a (a + 60)) (d.times Request.asksPlace) ≤ max 0 settings.placeLimit ∧
      inside (Set.Ioc a (a + 60)) (d.times Request.asksPlace) ≤ max 0 settings.placeLimit := by
  have hplace := h.place.inside_le a
  rwa [value_placeWindow] at hplace

theorem Sound.reports_inside_le (h : d.Sound settings) (a : ℝ) :
    inside (Set.Ico a (a + 86400)) (d.times Request.asksReports) ≤ max 0 settings.reportLimit ∧
      inside (Set.Ioc a (a + 86400)) (d.times Request.asksReports) ≤
        max 0 settings.reportLimit := by
  obtain ⟨made, hmade, hreports⟩ := h.reports
  have hbounds := hreports.inside_le a
  rw [value_reportWindow, inside_perm hmade, inside_perm hmade, inside_append, inside_append]
    at hbounds
  omega

/-- **When a lookup of something unknown asks the services.** -/
theorem Sound.asks_iff (h : d.Sound settings) {ip : String} (henabled : settings.enabled = true)
    (hpublic : Address.isPublicText ip = true)
    (hmissing : d.memory.known? settings.keepFor d.now ip = none) (network : Network) :
    let asked := (lookup settings network d.now d.memory ip).requests
    (asked.any Request.asksPlace = true ↔
      inside (Set.Ioc (value d.now - 60) (value d.now)) (d.times Request.asksPlace) <
        settings.placeLimit) ∧
    (asked.any Request.asksReports = true ↔ settings.key.isEmpty = false ∧
      network.letsOn ip (asked.any Request.asksPlace) = true ∧
      inside (Set.Ioc (value d.now - 86400) (value d.now))
        (d.times Request.asksReports ++ d.spoilt) < settings.reportLimit) := by
  obtain ⟨made, hmade, hreports⟩ := h.reports
  obtain ⟨_, _, hrequests, _⟩ := calls_of_missing henabled hpublic hmissing network
  have hkinds := any_ask settings network ip
    (take settings.placeLimit placeWindow d.now d.memory.placeCalls).1
    (d.memory.mayAskReports settings d.now)
  dsimp only
  rw [hrequests, hkinds.1, hkinds.2]
  constructor
  · have hroom := h.place.take.1
    rwa [spanTo, value_placeWindow] at hroom
  · have hroom := hreports.take.1
    rw [spanTo, value_reportWindow, inside_perm hmade] at hroom
    rw [← hroom, Memory.mayAskReports]
    cases settings.key.isEmpty <;> simp [and_comm]

/-- **What a client asks, and what it does not.** In no minute and on no day more questions are
asked than the limits say. Without leave or about an address that is not public nothing is asked;
about anything else that is not known the first service is asked exactly if the minute that ends now
has room. So is the second one with its day, if there is a key and the first one did not make the
lookup fail; but its day is also filled by the questions that were spoilt, of which there are none
as long as the first service answers with what can be read. -/
theorem questions_within_limits (settings : Settings τ) (start : τ) {events : List (Event τ)}
    (forward : ∀ time, .pass time ∈ events → 0 ≤ value time) :
    let d := (opened start).run settings events
    (∀ a : ℝ, (inside (Set.Ico a (a + 60)) (d.times Request.asksPlace) ≤ max 0 settings.placeLimit ∧
        inside (Set.Ioc a (a + 60)) (d.times Request.asksPlace) ≤ max 0 settings.placeLimit) ∧
      inside (Set.Ico a (a + 86400)) (d.times Request.asksReports) ≤ max 0 settings.reportLimit ∧
        inside (Set.Ioc a (a + 86400)) (d.times Request.asksReports) ≤
          max 0 settings.reportLimit) ∧
    (∀ ip network,
      let asked := (lookup settings network d.now d.memory ip).requests
      (settings.enabled = false ∨ Address.isPublicText ip = false → asked = []) ∧
      (settings.enabled = true → Address.isPublicText ip = true →
        d.memory.known? settings.keepFor d.now ip = none →
        (asked.any Request.asksPlace = true ↔
          inside (Set.Ioc (value d.now - 60) (value d.now)) (d.times Request.asksPlace) <
            settings.placeLimit) ∧
        (asked.any Request.asksReports = true ↔ settings.key.isEmpty = false ∧
          network.letsOn ip (asked.any Request.asksPlace) = true ∧
          inside (Set.Ioc (value d.now - 86400) (value d.now))
            (d.times Request.asksReports ++ d.spoilt) < settings.reportLimit))) ∧
    ((∀ ip network, .lookup ip network ∈ events → (readPlace (network.place ip)).isOk = true) →
      d.spoilt = []) := by
  intro d
  have hsound : d.Sound settings := (sound_opened settings start).run forward
  refine ⟨fun a => ⟨hsound.place_inside_le a, hsound.reports_inside_le a⟩,
    fun ip network => ⟨fun hidle => ?_, fun henabled hpublic hmissing =>
      hsound.asks_iff henabled hpublic hmissing network⟩, spoilt_run⟩
  have hquiet : settings.enabled = false ∨ Address.isPublicText ip = false ∨
      (d.memory.known? settings.keepFor d.now ip).isSome = true := hidle.imp_right .inl
  exact (lookup_of_quiet network hquiet).2.1

/-- A client that may ask the second service once a day. -/
def exampleSettings : Settings Int where
  enabled := true
  timeout := 5
  keepFor := 604800
  placeLimit := 45
  key := "k"
  reportLimit := 1
  capacity := 10000

/-- Services of which the first one answers with a list. -/
def exampleNetwork : Network := ⟨fun _ => .body "[]".toUTF8, fun _ => .unreachable⟩

def exampleEvents : List (Event Int) := [.lookup "8.8.8.8" exampleNetwork, .clear, .pass 30]

theorem questions_within_limits_example :
    (∀ time : Int, .pass time ∈ exampleEvents → (0 : ℝ) ≤ value time) ∧
    let d := (opened 0).run exampleSettings exampleEvents
    d.times Request.asksPlace = [0] ∧
    inside (Set.Ico 0 (0 + 60)) (d.times Request.asksPlace) ≤ (45 : Int) ∧
    (lookup exampleSettings exampleNetwork d.now d.memory "127.0.0.1").requests = [] := by
  have forward (time : Int) (h : .pass time ∈ exampleEvents) : (0 : ℝ) ≤ value time := by
    have htime : time = 30 := by simpa [exampleEvents] using h
    rw [htime]
    exact (Int.cast_nonneg (by decide) : (0 : ℝ) ≤ ((30 : Int) : ℝ))
  obtain ⟨hwindows, hlookups, _⟩ := questions_within_limits exampleSettings 0 forward
  exact ⟨forward, rfl, (hwindows 0).1.1, (hlookups "127.0.0.1" exampleNetwork).1 (.inr (by decide))⟩

/-- A lookup that fails over the answer of the first service takes up the only question of the day
to the second one, which was never asked and is not asked the next time. -/
theorem spoilt_question_takes_room :
    let d := (opened 0).run exampleSettings [.lookup "8.8.8.8" exampleNetwork]
    let o := lookup exampleSettings ⟨fun _ => .unreachable, fun _ => .unreachable⟩ d.now d.memory
      "1.1.1.1"
    (d.memory.known? exampleSettings.keepFor d.now "1.1.1.1").isNone = true ∧
    o.requests.any Request.asksPlace = true ∧ o.result.isOk = true ∧
    inside (Set.Ioc (value d.now - 86400) (value d.now)) (d.times Request.asksReports) <
      exampleSettings.reportLimit ∧
    o.requests.any Request.asksReports = false := by
  refine ⟨rfl, rfl, rfl, ?_, rfl⟩
  exact Int.zero_lt_one

end Diary

end Honeypot.Intel
