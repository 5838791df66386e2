import Mathlib.Data.List.Forall2
import Honeypot.Proofs.Clock
import Honeypot.Proofs.Service.Progress
import Honeypot.Proofs.Session.Teardown

/-!
# Shutdowns

A shutdown goes through the places of the registry as they were when it began, while every closing
takes a place away. In every run a place of a session is under the identifier of that session
(`Roll.Housed`), so that a closing takes away the place at hand and no other one. Who stays are the
observers and those sessions that had been closed before they arrived once more.
-/

namespace Honeypot

/-! ## Places and their holders -/

/-- A roll on which every session that holds a place was let in and is found under its own
identifier. -/
structure Roll.Housed (r : Roll) : Prop where
  numbered : r.Numbered
  keys : (r.books.registry.places.map (·.1)).Nodup
  placed : ∀ id place number, (id, place) ∈ r.books.registry.places →
    place.holder = .session number →
    ∃ a, r.standings[number]? = some a ∧ a.id = id ∧ a.admitted = true

namespace Roll.Housed

variable {r : Roll}

/-- One session changes, and no place is new but its own. -/
theorem entered (h : r.Housed) {number : Nat} {a : Standing} {b : Account}
    (found : r.standings[number]? = some a) (same : b.standing.number = a.number)
    (id : b.standing.id = a.id) (admitted : a.admitted = true → b.standing.admitted = true)
    (keys : (b.books.registry.places.map (·.1)).Nodup)
    (places : ∀ id place, (id, place) ∈ b.books.registry.places →
      (id, place) ∈ r.books.registry.places ∨
        place.holder = .session number ∧ id = a.id ∧ b.standing.admitted = true) :
    (r.entered number b).Housed := by
  have hat := getElem?_entered found b
  refine ⟨h.numbered.entered found same, keys, fun id' place i hplace hholder => ?_⟩
  obtain hold | ⟨hown, rfl, hadmitted⟩ := places id' place hplace
  · obtain ⟨c, hc, rfl, hcadmitted⟩ := h.placed id' place i hold hholder
    by_cases hi : i = number
    · subst hi
      cases found.symm.trans hc
      exact ⟨b.standing, by rw [hat, if_pos rfl], id, admitted hcadmitted⟩
    · exact ⟨c, by rw [hat, if_neg hi, hc], rfl, hcadmitted⟩
  · cases hown.symm.trans hholder
    exact ⟨b.standing, by rw [hat, if_pos rfl], id, hadmitted⟩

theorem fares (h : r.Housed) {number : Nat} {a : Standing} {b : Account}
    (found : r.standings[number]? = some a) (fate : Account.Fate ⟨a, r.books⟩ b) :
    (r.entered number b).Housed := by
  refine h.entered found ?_ ?_ ?_ ?_ fun id place hplace => .inl (fate.places_subset hplace)
  · cases fate <;> rfl
  · cases fate <;> rfl
  · cases fate <;> exact id
  · cases fate with
    | same => exact h.keys
    | loggedIn _ => exact h.keys
    | ended _ =>
      rw [Account.places_ended]
      split
      · exact Assoc.nodup_keys_erase h.keys _
      · exact h.keys

theorem joined (h : r.Housed) (id peerIp : String) : (r.joined id peerIp).Housed := by
  refine ⟨h.numbered.joined id peerIp, h.keys, fun id' place number hplace hholder => ?_⟩
  obtain ⟨a, ha, hrest⟩ := h.placed id' place number hplace hholder
  have hlt := (List.getElem?_eq_some_iff.mp ha).1
  exact ⟨a, (List.getElem?_append_left hlt).trans ha, hrest⟩

/-- **No act gives a session a place that is not under its identifier.** -/
theorem change (h : r.Housed) {τ : Type} {act : Service.Act τ} {r' : Roll}
    (hchange : r.Change act r') : r'.Housed := by
  cases hchange with
  | idle _ => exact h
  | begins => exact h.joined _ _
  | turnsAway found _ => exact h.entered found rfl rfl id h.keys fun _ _ hplace => .inl hplace
  | @letsIn number a found registry room =>
    obtain ⟨_, rfl⟩ := Registry.enter_eq_ok_iff.mp room
    refine h.entered found rfl rfl (fun _ => rfl) (Assoc.nodup_keys_put h.keys _)
      fun id place hplace => ?_
    obtain hnew | hold := Assoc.mem_of_mem_put hplace
    · cases hnew
      exact .inr ⟨congrArg Holder.session (h.numbered number a found), rfl, rfl⟩
    · exact .inl hold
  | fares found fate => exact h.fares found fate
  | admits room =>
    obtain ⟨_, rfl⟩ := Registry.enter_eq_ok_iff.mp room
    refine ⟨h.numbered, Assoc.nodup_keys_put h.keys _, fun id place number hplace hholder => ?_⟩
    obtain hnew | hold := Assoc.mem_of_mem_put hplace
    · cases hnew
      cases hholder
    · exact h.placed id place number hold hholder
  | removes taken =>
    obtain ⟨_, _, rfl⟩ := Registry.leave?_eq_some_iff.mp taken
    refine ⟨h.numbered, Assoc.nodup_keys_erase h.keys _, fun id place number hplace hholder => ?_⟩
    exact h.placed id place number (Assoc.mem_erase_iff.mp hplace).1 hholder

end Roll.Housed

namespace Service

variable {τ : Type}

/-- Whether the holder of a place gives it up when sent away. -/
def gives (s : Service τ) (entry : String × Place) : Bool :=
  match entry.2.holder with
  | .observer => false
  | .session number => (s.sessions[number]?.map fun session => !session.closing).getD false

/-- What those who want to hear of it come to hear when the holder of a place is sent away. -/
def heard (s : Service τ) (entry : String × Place) : List Notice :=
  match entry.2.holder with
  | .observer => [.told entry.1 "shutdown"]
  | .session number =>
    if s.gives entry then
      ((s.sessions[number]?.map Session.callbacks).getD []).map fun call => .ended call.label
    else []

/-- The sessions among the holders of some places, each of which is under its own identifier. -/
def Lodged (s : Service τ) (entries : List (String × Place)) : Prop :=
  ∀ entry ∈ entries, ∀ number, entry.2.holder = .session number →
    ∃ session, s.sessions[number]? = some session ∧ session.id = entry.1 ∧
      session.admitted = true

variable [Clock τ]

theorem housed_run (station : Station τ) (limit peerLimit : Int) (acts : List (Act τ)) :
    ((opened station limit peerLimit).run acts).roll.Housed := by
  induction acts using List.reverseRecOn with
  | nil => exact ⟨nofun, .nil, nofun⟩
  | append_singleton acts act ih =>
    rw [run_concat]
    by_cases hact : ∃ grace, act = .shutDown grace
    · obtain ⟨grace, rfl⟩ := hact
      exact shutDown_induction (P := Roll.Housed) ih grace
        fun _ _ _ _ _ _ _ hchange h => h.change hchange
    · exact ih.change (change_after _ (not_exists.mp hact))

theorem lodged_run (station : Station τ) (limit peerLimit : Int) (acts : List (Act τ)) :
    let s := (opened station limit peerLimit).run acts
    s.Lodged s.station.registry.places := by
  rintro s ⟨id, place⟩ hentry number hholder
  obtain ⟨a, ha, hid, hadmitted⟩ :=
    (housed_run station limit peerLimit acts).placed id place number hentry hholder
  obtain ⟨session, hsession, rfl⟩ := session_of_standings ha
  exact ⟨session, hsession, hid, hadmitted⟩

/-! ## Sending people away -/

/-- What has become of a service when the holders of some places were sent away. -/
structure Dismissed (s : Service τ) (entries : List (String × Place)) (t : Service τ) : Prop where
  now : t.station.now = s.station.now
  length : t.sessions.length = s.sessions.length
  /-- A session is closed if it held one of the places and was open, and is what it was if not. -/
  closed : ∀ number session, s.sessions[number]? = some session →
    (∃ entry ∈ entries, entry.2.holder = .session number) → session.closing = false →
    ∃ session', t.sessions[number]? = some session' ∧
      session.EndsAs s.station.now "shutdown" session'
  same : ∀ number session, s.sessions[number]? = some session →
    ((∃ entry ∈ entries, entry.2.holder = .session number) → session.closing = true) →
    t.sessions[number]? = some session
  places : t.station.registry.places =
    s.station.registry.places.filter fun entry => entry.1 ∉ (entries.filter s.gives).map (·.1)
  notices : t.station.notices = s.station.notices ++ entries.flatMap s.heard
  told : s.station.Listening → t.station.Listening ∧ ∃ ends,
    t.station.handed = s.station.handed ++ ends ∧
    List.Forall₂ (fun entry last => last.IsEnd "shutdown" ∧
      last.fields.lookup "session_id" = some (.text entry.1)) (entries.filter s.gives) ends

variable {s t : Service τ} {entries : List (String × Place)} {entry : String × Place}

omit [Clock τ] in
theorem dismissed_nil (s : Service τ) : s.Dismissed [] s where
  now := rfl
  length := rfl
  closed _ _ _ hentry _ := by
    obtain ⟨_, hnever, _⟩ := hentry
    cases hnever
  same _ _ hsession _ := hsession
  places := by simp
  notices := (List.append_nil _).symm
  told h := ⟨h, [], (List.append_nil _).symm, .nil⟩

omit [Clock τ] in
theorem gives_of_observer (h : entry.2.holder = .observer) : s.gives entry = false := by
  unfold gives
  rw [h]

omit [Clock τ] in
theorem gives_of_session {number : Nat} {session : Session τ}
    (hholder : entry.2.holder = .session number)
    (hsession : s.sessions[number]? = some session) : s.gives entry = !session.closing := by
  unfold gives
  rw [hholder]
  dsimp only
  rw [hsession]
  rfl

omit [Clock τ] in
theorem heard_of_session {number : Nat} {session : Session τ}
    (hholder : entry.2.holder = .session number)
    (hsession : s.sessions[number]? = some session) : s.heard entry =
      if session.closing then [] else session.callbacks.map fun call => .ended call.label := by
  unfold heard
  rw [hholder]
  dsimp only
  rw [gives_of_session hholder hsession, hsession]
  cases session.closing <;> rfl

theorem dismiss_of_session {number : Nat} {session : Session τ}
    (hholder : entry.2.holder = .session number)
    (hfound : t.sessions[number]? = some session) : t.dismiss entry =
      ⟨((⟨session, t.station⟩ : Scene τ).ended "shutdown").station,
        t.sessions.set number ((⟨session, t.station⟩ : Scene τ).ended "shutdown").session⟩ := by
  unfold dismiss act
  rw [hholder]
  dsimp only
  rw [hfound]
  rfl

theorem dismiss_of_closing {number : Nat} {session : Session τ}
    (hholder : entry.2.holder = .session number)
    (hfound : t.sessions[number]? = some session) (hclosing : session.closing = true) :
    t.dismiss entry = t := by
  obtain ⟨hlt, hget⟩ := List.getElem?_eq_some_iff.mp hfound
  rw [dismiss_of_session hholder hfound]
  unfold Scene.ended
  rw [Scene.close_of_closing hclosing, ← hget, List.set_getElem_self]

/-- Somebody stays, and perhaps somebody hears of something. -/
theorem Dismissed.stays (h : s.Dismissed entries t) (hstays : s.gives entry = false)
    (hdismiss : t.dismiss entry =
      { t with station.notices := t.station.notices ++ s.heard entry }) :
    s.Dismissed (entries ++ [entry]) (t.dismiss entry) := by
  have hfilter : (entries ++ [entry]).filter s.gives = entries.filter s.gives := by
    rw [List.filter_append, List.filter_cons_of_neg (Bool.eq_false_iff.mp hstays),
      List.filter_nil, List.append_nil]
  rw [hdismiss]
  constructor
  · exact h.now
  · exact h.length
  · rintro number session hsession ⟨e, he, hholder⟩ hopen
    obtain he | he := List.mem_append.mp he
    · exact h.closed number session hsession ⟨e, he, hholder⟩ hopen
    · -- the holder at hand is nobody who could be closed
      obtain rfl := List.mem_singleton.mp he
      rw [gives_of_session hholder hsession, hopen] at hstays
      cases hstays
  · intro number session hsession hclosing
    refine h.same number session hsession fun ⟨e, he, hholder⟩ => ?_
    exact hclosing ⟨e, List.mem_append_left _ he, hholder⟩
  · rw [hfilter]
    exact h.places
  · rw [List.flatMap_append, List.flatMap_singleton, ← List.append_assoc, ← h.notices]
  · intro hlistening
    rw [hfilter]
    obtain ⟨hlistening', htold⟩ := h.told hlistening
    exact ⟨hlistening'.congr rfl rfl rfl, htold⟩

/-- An open session is closed and gives up its place. -/
theorem Dismissed.goes (h : s.Dismissed entries t) {number : Nat} {session : Session τ}
    (hholder : entry.2.holder = .session number)
    (hsession : s.sessions[number]? = some session) (hid : session.id = entry.1)
    (hadmitted : session.admitted = true) (hopen : session.closing = false)
    (hnew : ∀ e ∈ entries, e.2.holder ≠ .session number) :
    s.Dismissed (entries ++ [entry]) (t.dismiss entry) := by
  have hgives : s.gives entry = true := by
    rw [gives_of_session hholder hsession, hopen]
    rfl
  have hfilter : (entries ++ [entry]).filter s.gives = entries.filter s.gives ++ [entry] := by
    rw [List.filter_append, List.filter_cons_of_pos hgives, List.filter_nil]
  have hfound : t.sessions[number]? = some session :=
    h.same number session hsession fun ⟨e, he, hnumber⟩ => absurd hnumber (hnew e he)
  have hends := Scene.endsAs_ended (c := ⟨session, t.station⟩) hopen "shutdown"
  have hloses := Scene.loses_ended (c := ⟨session, t.station⟩) hopen hadmitted "shutdown"
  rw [dismiss_of_session hholder hfound]
  constructor
  · show (Scene.ended _ _).station.now = _
    rw [hloses]
    exact h.now
  · exact List.length_set.trans h.length
  · rintro i session' hsession' ⟨e, he, hnumber⟩ hopen'
    show ∃ session', (t.sessions.set number _)[i]? = some session' ∧ _
    rw [List.getElem?_set]
    split
    · next hi =>
      subst hi
      cases hsession.symm.trans hsession'
      rw [← h.now]
      exact ⟨_, if_pos (List.getElem?_eq_some_iff.mp hfound).1, hends⟩
    · next hi =>
      obtain he | he := List.mem_append.mp he
      · exact h.closed i session' hsession' ⟨e, he, hnumber⟩ hopen'
      · obtain rfl := List.mem_singleton.mp he
        cases hholder.symm.trans hnumber
        exact absurd rfl hi
  · intro i session' hsession' hclosing
    have hi : number ≠ i := by
      rintro rfl
      cases hsession.symm.trans hsession'
      have hnever := hclosing ⟨entry, List.mem_append_right _ (List.mem_singleton_self _), hholder⟩
      cases hopen.symm.trans hnever
    refine (List.getElem?_set_ne hi).trans (h.same i session' hsession' fun ⟨e, he, hnumber⟩ => ?_)
    exact hclosing ⟨e, List.mem_append_left _ he, hnumber⟩
  · show (Scene.ended _ _).station.registry.places = _
    rw [hloses, hfilter]
    show (t.station.registry.leave session.id).places = _
    rw [Registry.places_leave, h.places, hid]
    unfold Assoc.erase
    rw [List.filter_filter]
    refine List.filter_congr fun e _ => ?_
    simp only [List.map_append, List.map_cons, List.map_nil, List.mem_append,
      List.mem_singleton, not_or, Bool.decide_and]
    exact Bool.and_comm _ _
  · show (Scene.ended _ _).station.notices = _
    rw [hloses, List.flatMap_append, List.flatMap_singleton, heard_of_session hholder hsession,
      hopen, if_neg Bool.false_ne_true, ← List.append_assoc, ← h.notices]
  · intro hlistening
    obtain ⟨hlistening', ends, hhanded, hall⟩ := h.told hlistening
    obtain ⟨hlistening'', last, hlast, hlastId, hhanded'⟩ :=
      Scene.handed_ended (c := ⟨session, t.station⟩) hlistening' hopen hadmitted "shutdown"
    refine ⟨hlistening'', ends ++ [last], ?_, ?_⟩
    · rw [← List.append_assoc, ← hhanded]
      exact hhanded'
    · rw [hfilter]
      refine List.rel_append hall (.cons ⟨hlast, ?_⟩ .nil)
      rw [hlastId, hid]

/-- **Sending away the holders of different places** closes each session among them that is open,
and nobody else. -/
theorem dismissed_foldl (keys : (entries.map (·.1)).Nodup) (lodged : s.Lodged entries) :
    s.Dismissed entries (entries.foldl dismiss s) := by
  induction entries using List.reverseRecOn with
  | nil => exact dismissed_nil s
  | append_singleton entries entry ih =>
    rw [List.map_append, List.nodup_append] at keys
    obtain ⟨keys, -, hdifferent⟩ := keys
    have h := ih keys fun e he => lodged e (List.mem_append_left _ he)
    have hlodged := lodged entry (List.mem_append_right _ (List.mem_singleton_self _))
    rw [List.foldl_append]
    show s.Dismissed _ (dismiss _ entry)
    generalize entries.foldl dismiss s = t at h
    cases hholder : entry.2.holder with
    | observer =>
      refine h.stays (gives_of_observer hholder) ?_
      unfold dismiss heard
      rw [hholder]
    | session number =>
      obtain ⟨session, hsession, hid, hadmitted⟩ := hlodged number hholder
      -- whoever held the place of the same session did so under the same identifier
      have hnew : ∀ e ∈ entries, e.2.holder ≠ .session number := by
        intro e he hnumber
        obtain ⟨session', hsession', hid', _⟩ :=
          lodged e (List.mem_append_left _ he) number hnumber
        cases hsession.symm.trans hsession'
        exact hdifferent _ (List.mem_map_of_mem he) _ (List.mem_singleton_self _)
          (hid'.symm.trans hid)
      cases hclosing : session.closing with
      | false => exact h.goes hholder hsession hid hadmitted hclosing hnew
      | true =>
        have hfound : t.sessions[number]? = some session :=
          h.same number session hsession fun _ => hclosing
        refine h.stays ?_ ?_
        · rw [gives_of_session hholder hsession, hclosing]
          rfl
        · rw [heard_of_session hholder hsession, if_pos hclosing, List.append_nil]
          exact dismiss_of_closing hholder hfound hclosing

/-! ## Waiting -/

/-- Without rounding a wait takes until its time, if that is still to come. -/
theorem now_waitUntil [ExactClock τ] (s : Station τ) (time : τ) (rounds : Nat) :
    ExactClock.value (s.waitUntil time (rounds + 1)).now =
      max (ExactClock.value s.now) (ExactClock.value time) := by
  have hzero : ExactClock.value (Clock.span 0 : τ) = 0 := by
    rw [ExactClock.value_span, Nat.cast_zero]
  have hdone (t : Station τ) (h : ExactClock.value t.now = ExactClock.value time) (n : Nat) :
      t.waitUntil time n = t := by
    cases n with
    | zero => rfl
    | succ n =>
      unfold Station.waitUntil
      dsimp only
      rw [if_pos]
      rw [ExactClock.le_iff, ExactClock.value_sub, hzero, h, sub_self]
  unfold Station.waitUntil
  dsimp only
  split
  · next hle =>
    rw [ExactClock.le_iff, ExactClock.value_sub, hzero, sub_nonpos] at hle
    exact (max_eq_left hle).symm
  · next hlt =>
    rw [ExactClock.le_iff, ExactClock.value_sub, hzero, sub_nonpos, not_le] at hlt
    have hnow : ExactClock.value (s.now + (time - s.now)) = ExactClock.value time := by
      rw [ExactClock.value_add, ExactClock.value_sub, add_sub_cancel]
    rw [hdone _ hnow, max_eq_right hlt.le]
    exact hnow

theorem station_waitUntil (s : Station τ) (time : τ) (rounds : Nat) :
    s.waitUntil time rounds = { s with now := (s.waitUntil time rounds).now } := by
  induction rounds generalizing s with
  | zero => rfl
  | succ rounds ih =>
    unfold Station.waitUntil
    dsimp only
    split
    · rfl
    · rw [ih]

/-- The service after everybody was sent away, before the wait. -/
def emptied (s : Service τ) : Service τ := s.station.registry.places.foldl dismiss s

theorem shutDown_eq (s : Service τ) (grace : τ) :
    s.shutDown grace =
      if s.emptied.station.registry.places.length = 0 then (0, s.emptied)
      else (s.emptied.station.registry.places.length, { s.emptied with
        station := s.emptied.station.waitUntil (s.emptied.station.now + grace)
          Station.rounds }) := rfl

/-- A shutdown counts those who stay, and nothing but the clock differs after its wait. -/
theorem exists_now_shutDown (s : Service τ) (grace : τ) : ∃ now, s.shutDown grace =
    (s.emptied.station.registry.places.length, { s.emptied with station.now := now }) := by
  rw [shutDown_eq]
  split
  · next hnone => exact ⟨s.emptied.station.now, by rw [hnone]⟩
  · rw [station_waitUntil]
    exact ⟨_, rfl⟩

theorem now_shutDown [ExactClock τ] (s : Service τ) (grace : τ) :
    ExactClock.value (s.shutDown grace).2.station.now =
      ExactClock.value s.emptied.station.now +
        if (s.shutDown grace).1 = 0 then 0 else max 0 (ExactClock.value grace) := by
  rw [shutDown_eq]
  split
  · exact (add_zero _).symm
  · refine (now_waitUntil s.emptied.station _ 7).trans ?_
    rw [ExactClock.value_add, ← max_add_add_left, add_zero]

/-! ## Shutdowns of runs -/

omit [Clock τ] in
theorem filter_not_gives (keys : (entries.map (·.1)).Nodup) :
    (entries.filter fun entry => entry.1 ∉ (entries.filter s.gives).map (·.1)) =
      entries.filter fun entry => !s.gives entry := by
  refine List.filter_congr fun entry hentry => ?_
  have hmem : entry.1 ∈ (entries.filter s.gives).map (·.1) ↔ s.gives entry = true := by
    constructor
    · intro hkey
      obtain ⟨entry', hentry', hsame⟩ := List.mem_map.mp hkey
      obtain ⟨hentry', hgives⟩ := List.mem_filter.mp hentry'
      obtain rfl := List.inj_on_of_nodup_map keys hentry' hentry hsame
      exact hgives
    · intro hgives
      exact List.mem_map_of_mem (List.mem_filter.mpr ⟨hentry, hgives⟩)
  simp only [hmem, decide_not, Bool.decide_eq_true]

/-- In a run in which sessions arrive once and first, whoever holds a place is an observer or
open. -/
theorem gives_of_arrivesFirst (station : Station τ) (limit peerLimit : Int) {acts : List (Act τ)}
    (first : ∀ number, ArrivesFirst acts number) :
    let s := (opened station limit peerLimit).run acts
    ∀ entry ∈ s.station.registry.places,
      s.gives entry = true ↔ entry.2.holder ≠ .observer := by
  rintro s ⟨id, place⟩ hentry
  cases hholder : place.holder with
  | observer =>
    rw [gives_of_observer hholder]
    simp
  | session number =>
    have htracked := tracked_run station limit peerLimit (first number)
    obtain ⟨a, ha, _, _, hopen⟩ := htracked.placed id place hentry hholder
    obtain ⟨session, hsession, rfl⟩ := session_of_standings ha
    have hclosing : session.closing = false := by
      by_contra hclosing
      cases hopen.symm.trans ((htracked.proper _ ha).closing (Bool.of_not_eq_false hclosing))
    have hgives : s.gives (id, place) = true := by
      rw [gives_of_session hholder hsession, hclosing]
      rfl
    simp [hgives]

/-- **A shutdown sends away whoever holds a place, once and in the order of the places.** Each
session among them that is open ends for this reason, gives up its place, and is told of by one
event of its end; all other sessions are what they were. Observers stay, and so does a session that
had been closed before it arrived once more; there is none if sessions arrive once and first. If
nobody stays there is no wait, and otherwise it lasts for the time of grace. -/
theorem shutDown_closes_open_sessions (station : Station τ) (limit peerLimit : Int)
    (acts : List (Act τ)) (grace : τ) :
    let s := (opened station limit peerLimit).run acts
    let places := s.station.registry.places
    let t := (s.shutDown grace).2
    t.station.registry.places = places.filter (fun entry => !s.gives entry) ∧
    (s.shutDown grace).1 = t.station.registry.places.length ∧
    (∀ number session, s.sessions[number]? = some session →
      (∃ entry ∈ places, entry.2.holder = .session number) → session.closing = false →
      ∃ session', t.sessions[number]? = some session' ∧
        session.EndsAs s.station.now "shutdown" session') ∧
    (∀ number session, s.sessions[number]? = some session →
      ((∃ entry ∈ places, entry.2.holder = .session number) → session.closing = true) →
      t.sessions[number]? = some session) ∧
    t.sessions.length = s.sessions.length ∧
    t.station.notices = s.station.notices ++ places.flatMap s.heard ∧
    (s.station.Listening → ∃ ends, t.station.handed = s.station.handed ++ ends ∧
      List.Forall₂ (fun entry last => last.IsEnd "shutdown" ∧
        last.fields.lookup "session_id" = some (.text entry.1)) (places.filter s.gives) ends) ∧
    (∀ exact : ExactClock τ, exact.value t.station.now = exact.value s.station.now +
      if (s.shutDown grace).1 = 0 then 0 else max 0 (exact.value grace)) ∧
    ((∀ number, ArrivesFirst acts number) →
      ∀ entry ∈ places, s.gives entry = true ↔ entry.2.holder ≠ .observer) := by
  intro s places t
  have hkeys := (housed_run station limit peerLimit acts).keys
  have hdismissed : s.Dismissed places s.emptied :=
    dismissed_foldl hkeys (lodged_run station limit peerLimit acts)
  obtain ⟨now, hshut⟩ := exists_now_shutDown s grace
  have hleft : (s.shutDown grace).1 = s.emptied.station.registry.places.length :=
    congrArg Prod.fst hshut
  have ht : t = { s.emptied with station.now := now } := congrArg Prod.snd hshut
  refine ⟨?_, ?_, ?_, ?_, ?_, ?_, ?_, ?_, gives_of_arrivesFirst station limit peerLimit⟩
  · rw [ht]
    exact hdismissed.places.trans (filter_not_gives hkeys)
  · rw [hleft, ht]
  · rw [ht]
    exact hdismissed.closed
  · rw [ht]
    exact hdismissed.same
  · rw [ht]
    exact hdismissed.length
  · rw [ht]
    exact hdismissed.notices
  · intro hlistening
    rw [ht]
    exact (hdismissed.told hlistening).2
  · intro exact
    rw [← hdismissed.now]
    exact now_shutDown s grace

/-- A peer and an observer at a service that is going to be shut down. -/
def exampleGuests : List (Act Int) :=
  [.begin "a" "203.0.113.9" 40000 Persona.standard 300 0 true (.ofSeed 7), .arrive 0,
    .admitObserver "b" "203.0.113.9"]

theorem shutDown_closes_open_sessions_example :
    let s := (opened Scene.exampleArrival.station 10 0).run exampleGuests
    (∀ number, ArrivesFirst exampleGuests number) ∧ (s.shutDown 5).1 = 1 ∧
    (s.shutDown 5).2.station.registry.places = [("b", ⟨"203.0.113.9", .observer⟩)] ∧
    (s.shutDown 5).2.station.notices = [.told "b" "shutdown"] ∧
    ((s.shutDown 5).2.station.now : ℝ) = 5 ∧
    ∃ session', (s.shutDown 5).2.sessions[0]? = some session' ∧
      session'.reason? = some "shutdown" ∧ session'.status = .closed := by
  intro s
  have first (number : Nat) : ArrivesFirst exampleGuests number := by
    simp [ArrivesFirst, exampleGuests, Act.actor?]
  obtain ⟨hplaces, hleft, hclosed, _, _, hnotices, _, hnow, _⟩ :=
    shutDown_closes_open_sessions Scene.exampleArrival.station 10 0 exampleGuests (5 : Int)
  have hstays : (s.shutDown 5).2.station.registry.places = [("b", ⟨"203.0.113.9", .observer⟩)] :=
    hplaces
  have hone : (s.shutDown 5).1 = 1 := by rw [hleft, hstays]; rfl
  obtain ⟨session', hsession', hends⟩ := hclosed 0 _ rfl ⟨_, List.mem_cons_self .., rfl⟩ rfl
  refine ⟨first, hone, hstays, hnotices, ?_, session', hsession', ?_, ?_⟩
  · refine (hnow inferInstance).trans ?_
    rw [hone]
    show ((0 : Int) : ℝ) + max 0 ((5 : Int) : ℝ) = 5
    norm_num
  · rw [hends]
  · rw [hends]

/-- A session that arrives once more after it was closed keeps its place in a shutdown, although
there is no observer. -/
theorem shutDown_leaves_closed_session :
    let s := (opened Scene.exampleArrival.station 10 0).run
      (exampleActs.take 2 ++ [.deed 0 (.close "disconnect"), .arrive 0])
    (s.station.registry.places.all fun entry => entry.2.holder = .session 0) = true ∧
    (s.shutDown 5).1 = 1 ∧
    ∃ session', (s.shutDown 5).2.sessions[0]? = some session' ∧
      session'.reason? = some "disconnect" ∧ session'.status = .authenticating :=
  ⟨rfl, rfl, _, rfl, rfl, rfl⟩

end Service
end Honeypot
