import Mathlib.Data.List.Induction
import Honeypot.Proofs.Registry
import Honeypot.Proofs.Service.Runs

/-!
# The way of a session

A session that arrives before it does anything else goes through its states in one direction. What
is `Tracked` of it ties the status, the marks and the place together: the status says closed when
the mark does, and a place of the session is under its own identifier, so that its end takes the
place away. Here others may do what they like, observers may come and go, and identifiers may be
those of others.
-/

namespace Honeypot

namespace Status

/-- The place of a status on the way of a session. -/
def rank : Status → Nat
  | .connecting => 0
  | .authenticating => 1
  | .interactive => 2
  | .closing => 3
  | .closed => 4

theorem rank_le_closed (s : Status) : s.rank ≤ closed.rank := by cases s <;> decide

theorem rank_le_interactive {s : Status} (hclosing : s ≠ .closing) (hclosed : s ≠ .closed) :
    s.rank ≤ interactive.rank := by
  cases s with
  | closing => exact absurd rfl hclosing
  | closed => exact absurd rfl hclosed
  | _ => decide

theorem eq_closed_of_rank_le {s : Status} (h : closed.rank ≤ s.rank) : s = .closed := by
  cases s with
  | closed => rfl
  | _ => exact absurd h (by decide)

end Status

/-- A session whose status and marks say the same. -/
structure Standing.Proper (a : Standing) : Prop where
  closed : a.status = .closed ↔ a.closed = true
  settled : a.status ≠ .closing
  closing : a.closing = true → a.closed = true

theorem Standing.Untouched.proper {a : Standing} (h : a.Untouched) : a.Proper where
  closed := by simp [h.status, h.closed]
  settled := by simp [h.status]
  closing := by simp [h.closing]

namespace Account

variable {a b : Account}

theorem Fate.onward (fate : Fate a b) (h : a.standing.Proper) :
    b.standing.Proper ∧ a.standing.status.rank ≤ b.standing.status.rank := by
  cases fate with
  | same => exact ⟨h, Nat.le_refl _⟩
  | loggedIn hopen =>
    have hnever : a.standing.status ≠ .closed := fun hclosed => by
      rw [h.closed.mp hclosed] at hopen
      cases hopen
    exact ⟨⟨by simp [Account.loggedIn, hopen], nofun, h.closing⟩,
      Status.rank_le_interactive h.settled hnever⟩
  | ended _ => exact ⟨⟨by simp [Account.ended], nofun, fun _ => rfl⟩, Status.rank_le_closed _⟩

theorem places_ended (a : Account) : a.ended.books.registry.places =
    if a.standing.admitted then Assoc.erase a.standing.id a.books.registry.places
    else a.books.registry.places := by
  unfold ended signedOff
  split
  · exact Registry.places_leave _ _
  · rfl

theorem Fate.places_subset (fate : Fate a b) :
    b.books.registry.places ⊆ a.books.registry.places := by
  cases fate with
  | same => exact List.Subset.refl _
  | loggedIn _ => exact List.Subset.refl _
  | ended _ =>
    rw [places_ended]
    split
    · exact List.filter_subset_self _
    · exact List.Subset.refl _

end Account

namespace Roll

/-- A roll on which one session is as its place and its status say. -/
structure Tracked (acted : List Nat) (number : Nat) (r : Roll) : Prop where
  numbered : r.Numbered
  proper : ∀ a, r.standings[number]? = some a → a.Proper
  untouched : ∀ a, r.standings[number]? = some a → number ∉ acted → a.Untouched
  placed : ∀ id place, (id, place) ∈ r.books.registry.places → place.holder = .session number →
    ∃ a, r.standings[number]? = some a ∧ a.id = id ∧ a.admitted = true ∧ a.closed = false

/-- A session that is on one roll is on the other one, and not at an earlier status. -/
def Onward (number : Nat) (r r' : Roll) : Prop := ∀ a, r.standings[number]? = some a →
  ∃ b, r'.standings[number]? = some b ∧ a.status.rank ≤ b.status.rank

theorem Onward.refl (number : Nat) (r : Roll) : r.Onward number r :=
  fun a ha => ⟨a, ha, Nat.le_refl _⟩

theorem Onward.trans {number : Nat} {r r' r'' : Roll} (h : r.Onward number r')
    (h' : r'.Onward number r'') : r.Onward number r'' := fun a ha => by
  obtain ⟨b, hb, hab⟩ := h a ha
  obtain ⟨c, hc, hbc⟩ := h' b hb
  exact ⟨c, hc, Nat.le_trans hab hbc⟩

namespace Tracked

variable {acted : List Nat} {number : Nat} {r : Roll}

theorem acted_of_holder (h : r.Tracked acted number) {id : String} {place : Place}
    (hplace : (id, place) ∈ r.books.registry.places) (hholder : place.holder = .session number) :
    number ∈ acted := by
  obtain ⟨a, ha, _, hadmitted, _⟩ := h.placed id place hplace hholder
  by_contra hnever
  rw [(h.untouched a ha hnever).admitted] at hadmitted
  cases hadmitted

theorem mono (h : r.Tracked acted number) {acted' : List Nat}
    (hsub : number ∈ acted → number ∈ acted') : r.Tracked acted' number :=
  { h with untouched := fun a ha hnever => h.untouched a ha fun hmem => hnever (hsub hmem) }

/-- What others do. -/
theorem aside (h : r.Tracked acted number) {r' : Roll}
    (numbered : r'.Numbered)
    (same : r'.standings[number]? = r.standings[number]?)
    (places : ∀ id place, (id, place) ∈ r'.books.registry.places →
      place.holder = .session number → (id, place) ∈ r.books.registry.places) :
    r'.Tracked acted number where
  numbered := numbered
  proper a ha := h.proper a (same.symm.trans ha)
  untouched a ha := h.untouched a (same.symm.trans ha)
  placed id place hplace hholder := by
    rw [same]
    exact h.placed id place (places id place hplace hholder) hholder

theorem registry (h : r.Tracked acted number) {registry : Registry}
    (places : ∀ id place, (id, place) ∈ registry.places → place.holder = .session number →
      (id, place) ∈ r.books.registry.places) :
    ({ r with books.registry := registry } : Roll).Tracked acted number :=
  h.aside h.numbered rfl places

/-- The session itself changes. -/
theorem entered (h : r.Tracked acted number) {a : Standing} {b : Account}
    (found : r.standings[number]? = some a) (same : b.standing.number = a.number)
    (proper : b.standing.Proper)
    (placed : ∀ id place, (id, place) ∈ b.books.registry.places →
      place.holder = .session number →
      b.standing.id = id ∧ b.standing.admitted = true ∧ b.standing.closed = false) :
    (r.entered number b).Tracked (acted ++ [number]) number := by
  have hself : (r.entered number b).standings[number]? = some b.standing := by
    rw [getElem?_entered found, if_pos rfl]
  constructor
  · exact h.numbered.entered found same
  · intro c hc
    cases hself.symm.trans hc
    exact proper
  · intro _ _ hnever
    exact absurd (List.mem_append_right _ (List.mem_singleton_self _)) hnever
  · intro id place hplace hholder
    exact ⟨b.standing, hself, placed id place hplace hholder⟩

theorem entered_other (h : r.Tracked acted number) {i : Nat} {a : Standing} {b : Account}
    (hi : i ≠ number) (found : r.standings[i]? = some a) (same : b.standing.number = a.number)
    (places : ∀ id place, (id, place) ∈ b.books.registry.places →
      place.holder = .session number → (id, place) ∈ r.books.registry.places) :
    (r.entered i b).Tracked (acted ++ [i]) number := by
  refine (h.aside (h.numbered.entered found same) ?_ places).mono (List.mem_append_left _)
  rw [getElem?_entered found, if_neg hi.symm]

theorem fares (h : r.Tracked acted number) {a : Standing} {b : Account}
    (found : r.standings[number]? = some a) (fate : Account.Fate ⟨a, r.books⟩ b) :
    (r.entered number b).Tracked (acted ++ [number]) number := by
  have hplaced {id : String} {place : Place} (hplace : (id, place) ∈ r.books.registry.places)
      (hholder : place.holder = .session number) :
      a.id = id ∧ a.admitted = true ∧ a.closed = false := by
    obtain ⟨a', ha', hrest⟩ := h.placed id place hplace hholder
    cases found.symm.trans ha'
    exact hrest
  have hsame : b.standing.number = a.number := by cases fate <;> rfl
  refine h.entered found hsame (fate.onward (h.proper a found)).1 fun id place hplace hholder => ?_
  have hold := hplaced (fate.places_subset hplace) hholder
  cases fate with
  | same => exact hold
  | loggedIn _ => exact hold
  | ended _ =>
    -- the place is under the identifier that the end of the session takes away
    obtain ⟨rfl, hadmitted, _⟩ := hold
    rw [Account.places_ended, if_pos hadmitted, Assoc.mem_erase_iff] at hplace
    exact absurd rfl hplace.2

theorem turnsAway (h : r.Tracked acted number) {a : Standing}
    (found : r.standings[number]? = some a) (first : number ∉ acted) (verdict : String) :
    (r.entered number (Account.turnedAway ⟨a, r.books⟩ verdict)).Tracked (acted ++ [number])
      number := by
  have hproper : (Account.turnedAway ⟨a, r.books⟩ verdict).standing.Proper :=
    ⟨⟨fun _ => rfl, fun _ => rfl⟩, nofun, fun _ => rfl⟩
  exact h.entered found rfl hproper fun _ _ hplace hholder =>
    absurd (h.acted_of_holder hplace hholder) first

theorem letsIn (h : r.Tracked acted number) {a : Standing}
    (found : r.standings[number]? = some a) (first : number ∉ acted) {registry : Registry}
    (room : r.books.registry.enter a.id ⟨a.peerIp, .session a.number⟩ = .ok registry) :
    (r.entered number (Account.letIn ⟨a, r.books⟩ registry)).Tracked (acted ++ [number])
      number := by
  obtain ⟨_, _, hclosing, hclosed⟩ := h.untouched a found first
  have hproper : (Account.letIn ⟨a, r.books⟩ registry).standing.Proper := by
    refine ⟨?_, nofun, fun hnever => ?_⟩
    · simp [Account.letIn, hclosed]
    · cases hclosing.symm.trans hnever
  obtain ⟨_, rfl⟩ := Registry.enter_eq_ok_iff.mp room
  refine h.entered found rfl hproper fun id place hplace hholder => ?_
  obtain hnew | hold := Assoc.mem_of_mem_put hplace
  · cases hnew
    exact ⟨rfl, rfl, hclosed⟩
  · exact absurd (h.acted_of_holder hold hholder) first

theorem joined (h : r.Tracked acted number) (id peerIp : String) :
    (r.joined id peerIp).Tracked acted number := by
  constructor
  · exact h.numbered.joined id peerIp
  · intro a ha
    obtain ha | ⟨_, rfl⟩ := getElem?_joined ha
    · exact h.proper a ha
    · exact (Standing.untouched_fresh _ _ _).proper
  · intro a ha hnever
    obtain ha | ⟨_, rfl⟩ := getElem?_joined ha
    · exact h.untouched a ha hnever
    · exact Standing.untouched_fresh _ _ _
  · intro id' place hplace hholder
    obtain ⟨a, ha, hrest⟩ := h.placed id' place hplace hholder
    have hlt := (List.getElem?_eq_some_iff.mp ha).1
    exact ⟨a, (List.getElem?_append_left hlt).trans ha, hrest⟩

/-- **No act leads a session that arrives first astray.** -/
theorem change (h : r.Tracked acted number) {τ : Type} {act : Service.Act τ} {r' : Roll}
    (hchange : r.Change act r') (first : act = .arrive number → number ∉ acted) :
    r'.Tracked (acted ++ act.actor?.toList) number := by
  cases hchange with
  | idle _ => exact h.mono (List.mem_append_left _)
  | begins => exact (h.joined _ _).mono (List.mem_append_left _)
  | @turnsAway i a found verdict _ =>
    by_cases hi : i = number
    · subst hi
      exact h.turnsAway found (first rfl) verdict
    · exact h.entered_other hi found rfl fun _ _ hplace _ => hplace
  | @letsIn i a found registry room =>
    by_cases hi : i = number
    · subst hi
      exact h.letsIn found (first rfl) room
    · obtain ⟨_, rfl⟩ := Registry.enter_eq_ok_iff.mp room
      refine h.entered_other hi found rfl fun id place hplace hholder => ?_
      obtain hnew | hold := Assoc.mem_of_mem_put hplace
      · cases hnew
        exact absurd ((h.numbered i a found).symm.trans (Holder.session.inj hholder)) hi
      · exact hold
  | @fares i a found deed b fate =>
    by_cases hi : i = number
    · subst hi
      exact h.fares found fate
    · have hsame : b.standing.number = a.number := by cases fate <;> rfl
      exact h.entered_other hi found hsame fun _ _ hplace _ => fate.places_subset hplace
  | admits room =>
    obtain ⟨_, rfl⟩ := Registry.enter_eq_ok_iff.mp room
    refine (h.registry fun id place hplace hholder => ?_).mono (List.mem_append_left _)
    obtain hnew | hold := Assoc.mem_of_mem_put hplace
    · cases hnew
      cases hholder
    · exact hold
  | removes taken =>
    obtain ⟨_, _, rfl⟩ := Registry.leave?_eq_some_iff.mp taken
    exact (h.registry fun id place hplace _ => (Assoc.mem_erase_iff.mp hplace).1).mono
      (List.mem_append_left _)

/-- **No act takes a session back** to an earlier status. -/
theorem onward (h : r.Tracked acted number) {τ : Type} {act : Service.Act τ} {r' : Roll}
    (hchange : r.Change act r') (first : act = .arrive number → number ∉ acted) :
    r.Onward number r' := by
  intro a found
  have hentered {i : Nat} {c : Standing} (hc : r.standings[i]? = some c) {b : Account}
      (hrank : i = number → a.status.rank ≤ b.standing.status.rank) :
      ∃ b', (r.entered i b).standings[number]? = some b' ∧ a.status.rank ≤ b'.status.rank := by
    rw [getElem?_entered hc]
    split
    · next hi => exact ⟨b.standing, rfl, hrank hi.symm⟩
    · exact ⟨a, found, Nat.le_refl _⟩
  cases hchange with
  | idle _ => exact Onward.refl number r a found
  | begins =>
    have hlt := (List.getElem?_eq_some_iff.mp found).1
    exact ⟨a, (List.getElem?_append_left hlt).trans found, Nat.le_refl _⟩
  | turnsAway hc _ => exact hentered hc fun _ => Status.rank_le_closed _
  | letsIn hc room =>
    refine hentered hc fun hi => ?_
    subst hi
    rw [(h.untouched a found (first rfl)).status]
    exact Nat.zero_le _
  | fares hc fate =>
    refine hentered hc fun hi => ?_
    subst hi
    cases found.symm.trans hc
    exact (fate.onward (h.proper a found)).2
  | admits _ => exact Onward.refl number r a found
  | removes _ => exact Onward.refl number r a found

end Tracked

end Roll

namespace Service

variable {τ : Type} [Clock τ]

theorem tracked_after {s : Service τ} {acted : List Nat} {number : Nat}
    (h : s.roll.Tracked acted number) {act : Act τ}
    (first : act = .arrive number → number ∉ acted) :
    (s.after act).roll.Tracked (acted ++ act.actor?.toList) number ∧
      s.roll.Onward number (s.after act).roll := by
  by_cases hact : ∃ grace, act = .shutDown grace
  · obtain ⟨grace, rfl⟩ := hact
    show Roll.Tracked (acted ++ []) number _ ∧ _
    rw [List.append_nil]
    refine shutDown_induction (P := fun r => r.Tracked acted number ∧ s.roll.Onward number r)
      ⟨h, .refl number _⟩ grace fun id place i hplace hholder r r' hchange ⟨hr, honward⟩ => ?_
    refine ⟨(hr.change hchange nofun).mono fun hmem => ?_, honward.trans (hr.onward hchange nofun)⟩
    obtain hmem | hi := List.mem_append.mp hmem
    · exact hmem
    · obtain rfl : number = i := List.mem_singleton.mp hi
      exact h.acted_of_holder hplace hholder
  · have hchange := change_after s (not_exists.mp hact)
    exact ⟨h.change hchange first, h.onward hchange first⟩

theorem tracked_run (station : Station τ) (limit peerLimit : Int) {number : Nat}
    {acts : List (Act τ)} (first : ArrivesFirst acts number) :
    ((opened station limit peerLimit).run acts).roll.Tracked (actors acts) number := by
  induction acts using List.reverseRecOn with
  | nil => exact ⟨nofun, nofun, nofun, nofun⟩
  | append_singleton acts act ih =>
    rw [arrivesFirst_concat_iff] at first
    rw [run_concat, actors_concat]
    exact (tracked_after (ih first.1) first.2).1

theorem onward_run (station : Station τ) (limit peerLimit : Int) {number : Nat}
    {earlier later : List (Act τ)} (first : ArrivesFirst (earlier ++ later) number) :
    ((opened station limit peerLimit).run earlier).roll.Onward number
      ((opened station limit peerLimit).run (earlier ++ later)).roll := by
  induction later using List.reverseRecOn with
  | nil =>
    rw [List.append_nil]
    exact .refl number _
  | append_singleton later act ih =>
    rw [← List.append_assoc, arrivesFirst_concat_iff] at first
    rw [← List.append_assoc, run_concat]
    exact (ih first.1).trans (tracked_after (tracked_run station limit peerLimit first.1) first.2).2

omit [Clock τ] in
theorem session_of_standings {s : Service τ} {number : Nat} {a : Standing}
    (h : s.roll.standings[number]? = some a) :
    ∃ session, s.sessions[number]? = some session ∧ session.standing = a := by
  change (s.sessions.map Session.standing)[number]? = some a at h
  rw [List.getElem?_map] at h
  exact Option.map_eq_some_iff.mp h

/-- **A session that arrives before it does anything else only goes forward**: from one moment
between acts to a later one its status does not fall back, and it stays closed once it is. It is
closed by its status exactly if it is by its mark, and then it has no place in the registry. -/
theorem status_goes_forward (station : Station τ) (limit peerLimit : Int) {number : Nat}
    {earlier later : List (Act τ)} (first : ArrivesFirst (earlier ++ later) number)
    {before : Session τ}
    (hbefore : ((opened station limit peerLimit).run earlier).sessions[number]? = some before) :
    let s := (opened station limit peerLimit).run (earlier ++ later)
    ∃ session, s.sessions[number]? = some session ∧
      before.status.rank ≤ session.status.rank ∧
      (before.status = .closed → session.status = .closed) ∧
      (session.status = .closed ↔ session.closed = true) ∧
      (session.closed = true → ∀ entry ∈ s.station.registry.places,
        entry.2.holder ≠ .session number) := by
  intro s
  have htracked := tracked_run station limit peerLimit first
  obtain ⟨_, hnow, hrank⟩ := onward_run station limit peerLimit first _
    (standings_of_session hbefore)
  obtain ⟨session, hsession, rfl⟩ := session_of_standings hnow
  refine ⟨session, hsession, hrank, fun hclosed => ?_, (htracked.proper _ hnow).closed,
    fun hclosed entry hentry hholder => ?_⟩
  · have hlast : Status.closed.rank ≤ session.status.rank := hclosed ▸ hrank
    exact Status.eq_closed_of_rank_le hlast
  · obtain ⟨a, ha, _, _, hopen⟩ := htracked.placed entry.1 entry.2 hentry hholder
    cases hnow.symm.trans ha
    cases hopen.symm.trans hclosed

theorem status_goes_forward_example :
    ArrivesFirst (exampleActs.take 2 ++ exampleActs.drop 2) 0 ∧
    ∃ before, ((opened Scene.exampleArrival.station 10 1).run (exampleActs.take 2)).sessions[0]? =
        some before ∧ before.status = .authenticating ∧
      ∃ session, ((opened Scene.exampleArrival.station 10 1).run exampleActs).sessions[0]? =
          some session ∧ before.status.rank ≤ session.status.rank ∧ session.status = .closed := by
  have first : ArrivesFirst (exampleActs.take 2 ++ exampleActs.drop 2) 0 := by
    rw [List.take_append_drop]
    exact arrivesFirst_exampleActs 0
  obtain ⟨session, hsession, hrank, _, hclosed, _⟩ :=
    status_goes_forward Scene.exampleArrival.station 10 1 first rfl
  have hended : session.closed = true := by
    cases hsession
    rfl
  exact ⟨first, _, rfl, rfl, session, hsession, hrank, hclosed.mpr hended⟩

end Service
end Honeypot
