import Mathlib.Data.List.Induction
import Mathlib.Data.List.Nodup
import Honeypot.Proofs.Registry
import Honeypot.Proofs.Service.Runs

/-!
# The number of sessions

Three things count the sessions that are open: the registry by its places, the collector by a number
that stops at zero and by a gauge that does not. `Census` says that all of them are right, and that
the places are those of the open sessions; acts keep it as long as nobody from outside meddles with
the registry, the identifiers are different and sessions arrive first (`Census.change`).
-/

namespace Honeypot

/-- Whether an act comes from outside and touches the registry all the same. -/
def Service.Act.meddles {τ : Type} : Service.Act τ → Bool
  | .admitObserver _ _ => true
  | .remove _ => true
  | _ => false

/-- Whether a session was let in and is open. -/
def Standing.live (a : Standing) : Bool := a.admitted && !a.closed

/-- The numbers of sessions and connections are those of the sessions on the roll. -/
structure Roll.Counts (r : Roll) (h : Metrics.Heads) : Prop where
  active : h.active = r.standings.countP Standing.live
  gauge : h.gauge = r.standings.countP Standing.live
  accepted : h.connections.count Metrics.accepted = r.standings.countP Standing.admitted

/-- A roll on which the sessions that are open and those that have places are the same ones. -/
structure Roll.Census (acted : List Nat) (r : Roll) : Prop where
  numbered : r.Numbered
  untouched : ∀ i (a : Standing), r.standings[i]? = some a → i ∉ acted → a.Untouched
  closing : ∀ a ∈ r.standings, a.admitted = true → a.closing = a.closed
  ids : (r.standings.map Standing.id).Nodup
  keys : (r.books.registry.places.map (·.1)).Nodup
  placed : ∀ id place, (id, place) ∈ r.books.registry.places →
    ∃ i a, r.standings[i]? = some a ∧ a.id = id ∧ place.holder = .session i ∧ a.live = true
  present : ∀ a ∈ r.standings, a.live = true → a.id ∈ r.books.registry.places.map (·.1)
  heads : ∃ h, r.books.heads? = some h ∧ r.Counts h

/-- Replacing one member moves a count by what the two members weigh. -/
theorem countP_set_add {α : Type} {p : α → Bool} {l : List α} {i : Nat} {a : α}
    (found : l[i]? = some a) (b : α) :
    (l.set i b).countP p + (p a).toNat = l.countP p + (p b).toNat := by
  obtain ⟨hlt, rfl⟩ := List.getElem?_eq_some_iff.mp found
  have hpos : p l[i] = true → 0 < l.countP p := fun hp =>
    List.countP_pos_iff.mpr ⟨l[i], List.getElem_mem hlt, hp⟩
  rw [List.countP_set hlt]
  cases hp : p l[i] with
  | true =>
    have hpos := hpos hp
    cases p b with
    | true => simp; omega
    | false => simp; omega
  | false => cases p b <;> simp

namespace Roll.Census

variable {acted : List Nat} {r : Roll}

theorem eq_of_id (h : r.Census acted) {i j : Nat} {a b : Standing}
    (hi : r.standings[i]? = some a) (hj : r.standings[j]? = some b) (hid : a.id = b.id) :
    i = j := by
  have hlt : i < (r.standings.map Standing.id).length := by
    rw [List.length_map]
    exact (List.getElem?_eq_some_iff.mp hi).1
  refine (List.getElem?_inj hlt h.ids).mp ?_
  rw [List.getElem?_map, List.getElem?_map, hi, hj, Option.map_some, Option.map_some, hid]

/-- The place of a session on the roll is its own, and the session is open. -/
theorem holder_of_mem (h : r.Census acted) {i : Nat} {a : Standing} {place : Place}
    (found : r.standings[i]? = some a) (hmem : (a.id, place) ∈ r.books.registry.places) :
    place.holder = .session i ∧ a.live = true := by
  obtain ⟨j, b, hb, hid, hholder, hlive⟩ := h.placed _ _ hmem
  obtain rfl := h.eq_of_id found hb hid.symm
  obtain rfl := Option.some.inj (hb.symm.trans found)
  exact ⟨hholder, hlive⟩

/-- **As many places are taken as sessions are open.** -/
theorem length_places (h : r.Census acted) :
    r.books.registry.places.length = r.standings.countP Standing.live := by
  have hlive : ((r.standings.filter Standing.live).map Standing.id).Nodup :=
    h.ids.sublist (List.filter_sublist.map _)
  have hperm : (r.books.registry.places.map (·.1)).Perm
      ((r.standings.filter Standing.live).map Standing.id) := by
    rw [List.perm_ext_iff_of_nodup h.keys hlive]
    intro id
    constructor
    · intro hid
      obtain ⟨⟨_, place⟩, hmem, rfl⟩ := List.mem_map.mp hid
      obtain ⟨i, a, ha, hid, _, hopen⟩ := h.placed _ _ hmem
      exact List.mem_map.mpr ⟨a, List.mem_filter.mpr ⟨List.mem_of_getElem? ha, hopen⟩, hid⟩
    · intro hid
      obtain ⟨a, ha, rfl⟩ := List.mem_map.mp hid
      obtain ⟨hmem, hopen⟩ := List.mem_filter.mp ha
      exact h.present a hmem hopen
  have hlength := hperm.length_eq
  rw [List.length_map, List.length_map] at hlength
  rw [hlength, List.countP_eq_length_filter]

theorem mono (h : r.Census acted) {acted' : List Nat} (hsub : acted ⊆ acted') :
    r.Census acted' :=
  { h with untouched := fun i a ha hi => h.untouched i a ha fun hmem => hi (hsub hmem) }

/-! ## Sessions that change -/

/-- What one session may change: its own place and its own weight in the counts. -/
structure Turn (r : Roll) (i : Nat) (a : Standing) (b : Account) : Prop where
  number : b.standing.number = a.number
  id : b.standing.id = a.id
  closing : b.standing.admitted = true → b.standing.closing = b.standing.closed
  keys : (b.books.registry.places.map (·.1)).Nodup
  others : ∀ id place, id ≠ a.id →
    ((id, place) ∈ b.books.registry.places ↔ (id, place) ∈ r.books.registry.places)
  own : ∀ place, (a.id, place) ∈ b.books.registry.places →
    place.holder = .session i ∧ b.standing.live = true
  present : b.standing.live = true → a.id ∈ b.books.registry.places.map (·.1)
  heads : ∀ h, r.books.heads? = some h → ∃ h', b.books.heads? = some h' ∧
    h'.active + a.live.toNat = h.active + b.standing.live.toNat ∧
    h'.gauge + a.live.toNat = h.gauge + b.standing.live.toNat ∧
    h'.connections.count Metrics.accepted + a.admitted.toNat =
      h.connections.count Metrics.accepted + b.standing.admitted.toNat

/-- **A session that changes only its own place and weight keeps the census.** -/
theorem turn (h : r.Census acted) {i : Nat} {a : Standing} {b : Account}
    (found : r.standings[i]? = some a) (ht : Turn r i a b) :
    (r.entered i b).Census (acted ++ [i]) := by
  have hat := Roll.getElem?_entered found b
  have hself : (r.entered i b).standings[i]? = some b.standing := by
    rw [hat, if_pos rfl]
  have hids := Roll.map_entered found ht.id
  have hmem {c : Standing} (hc : c ∈ (r.entered i b).standings) :
      c = b.standing ∨ c ∈ r.standings ∧ c.id ≠ a.id := by
    obtain ⟨j, hj⟩ := List.mem_iff_getElem?.mp hc
    rw [hat] at hj
    split at hj
    · exact .inl (Option.some.inj hj).symm
    · -- identifiers differ, so that whoever else is on the roll has another one
      next hne => exact .inr ⟨List.mem_of_getElem? hj, fun hid => hne (h.eq_of_id hj found hid)⟩
  constructor
  · exact h.numbered.entered found ht.number
  · intro j c hc hj
    rw [List.mem_append, List.mem_singleton, not_or] at hj
    rw [hat, if_neg hj.2] at hc
    exact h.untouched j c hc hj.1
  · intro c hc hadmitted
    obtain rfl | ⟨hc, _⟩ := hmem hc
    · exact ht.closing hadmitted
    · exact h.closing c hc hadmitted
  · rw [hids]
    exact h.ids
  · exact ht.keys
  · intro id place hplace
    by_cases hid : id = a.id
    · subst hid
      obtain ⟨hholder, hlive⟩ := ht.own place hplace
      exact ⟨i, b.standing, hself, ht.id, hholder, hlive⟩
    · have hold := (ht.others id place hid).mp hplace
      obtain ⟨j, c, hc, hcid, hholder, hlive⟩ := h.placed id place hold
      have hji : j ≠ i := by
        rintro rfl
        obtain rfl := Option.some.inj (hc.symm.trans found)
        exact hid hcid.symm
      exact ⟨j, c, by rw [hat, if_neg hji, hc], hcid, hholder, hlive⟩
  · intro c hc hlive
    obtain rfl | ⟨hc, hne⟩ := hmem hc
    · rw [ht.id]
      exact ht.present hlive
    · obtain ⟨⟨_, place⟩, hplace, rfl⟩ := List.mem_map.mp (h.present c hc hlive)
      exact List.mem_map.mpr ⟨_, (ht.others _ place hne).mpr hplace, rfl⟩
  · obtain ⟨heads, hheads, hcounts⟩ := h.heads
    obtain ⟨heads', hheads', hactive, hgauge, haccepted⟩ := ht.heads heads hheads
    have hlive := countP_set_add (p := Standing.live) found b.standing
    have hadmitted := countP_set_add (p := Standing.admitted) found b.standing
    refine ⟨heads', hheads', ?_, ?_, ?_⟩
    · show heads'.active = (r.standings.set i b.standing).countP Standing.live
      rw [hcounts.active] at hactive
      omega
    · show heads'.gauge = ((r.standings.set i b.standing).countP Standing.live : Int)
      rw [hcounts.gauge] at hgauge
      omega
    · show _ = (r.standings.set i b.standing).countP Standing.admitted
      rw [hcounts.accepted] at haccepted
      omega

/-- A session that is as open as before, with the same registry and the same numbers. -/
theorem turn_aside (h : r.Census acted) {i : Nat} {a : Standing} {b : Account}
    (found : r.standings[i]? = some a) (hregistry : b.books.registry = r.books.registry)
    (hnumber : b.standing.number = a.number) (hid : b.standing.id = a.id)
    (hadmitted : b.standing.admitted = a.admitted) (hlive : b.standing.live = a.live)
    (hclosing : b.standing.admitted = true → b.standing.closing = b.standing.closed)
    (hheads : ∀ h, r.books.heads? = some h → ∃ h', b.books.heads? = some h' ∧
      h'.active = h.active ∧ h'.gauge = h.gauge ∧
      h'.connections.count Metrics.accepted = h.connections.count Metrics.accepted) :
    Turn r i a b where
  number := hnumber
  id := hid
  closing := hclosing
  keys := hregistry ▸ h.keys
  others _ _ _ := by rw [hregistry]
  own place hplace := by
    rw [hregistry] at hplace
    rw [hlive]
    exact h.holder_of_mem found hplace
  present hopen := by
    rw [hlive] at hopen
    rw [hregistry]
    exact h.present a (List.mem_of_getElem? found) hopen
  heads heads hsome := by
    obtain ⟨heads', hsome', hactive, hgauge, haccepted⟩ := hheads heads hsome
    exact ⟨heads', hsome', by rw [hactive, hlive], by rw [hgauge, hlive],
      by rw [haccepted, hadmitted]⟩

theorem turn_ended (h : r.Census acted) {i : Nat} {a : Standing}
    (found : r.standings[i]? = some a) (hlive : a.live = true) :
    Turn r i a (Account.ended ⟨a, r.books⟩) := by
  obtain ⟨hadmitted, hopen⟩ : a.admitted = true ∧ a.closed = false := by
    simpa [Standing.live] using hlive
  have hregistry : (Account.ended ⟨a, r.books⟩).books.registry.places =
      Assoc.erase a.id r.books.registry.places := by
    unfold Account.ended Account.signedOff
    rw [if_pos hadmitted]
    exact Registry.places_leave _ _
  have hheads : (Account.ended ⟨a, r.books⟩).books.heads? =
      r.books.heads?.map Metrics.Heads.left := by
    unfold Account.ended Account.signedOff
    rw [if_pos hadmitted]
  have hended : (Account.ended ⟨a, r.books⟩).standing.live = false := Bool.and_false _
  constructor
  · rfl
  · rfl
  · exact fun _ => rfl
  · rw [hregistry, Assoc.keys_erase]
    exact h.keys.filter _
  · intro id place hne
    rw [hregistry, Assoc.mem_erase_iff]
    exact ⟨And.left, fun hmem => ⟨hmem, hne⟩⟩
  · intro place hmem
    rw [hregistry, Assoc.mem_erase_iff] at hmem
    exact absurd rfl hmem.2
  · intro hnever
    rw [hended] at hnever
    cases hnever
  · intro heads hsome
    obtain ⟨heads', hsome', hcounts⟩ := h.heads
    obtain rfl := Option.some.inj (hsome.symm.trans hsome')
    have hpos : 0 < heads.active := by
      rw [hcounts.active]
      exact List.countP_pos_iff.mpr ⟨a, List.mem_of_getElem? found, hlive⟩
    refine ⟨heads.left, by rw [hheads, hsome]; rfl, ?_, ?_, rfl⟩
    · rw [hended, hlive]
      show heads.active - 1 + 1 = heads.active + 0
      omega
    · rw [hended, hlive]
      show heads.gauge - 1 + 1 = heads.gauge + 0
      omega

theorem turn_fate (h : r.Census acted) {i : Nat} {a : Standing} {b : Account}
    (found : r.standings[i]? = some a) (fate : Account.Fate ⟨a, r.books⟩ b) : Turn r i a b := by
  have hmem := List.mem_of_getElem? found
  cases fate with
  | same =>
    exact h.turn_aside found rfl rfl rfl rfl rfl (h.closing a hmem)
      fun heads hsome => ⟨heads, hsome, rfl, rfl, rfl⟩
  | loggedIn _ =>
    exact h.turn_aside found rfl rfl rfl rfl rfl (h.closing a hmem)
      fun heads hsome => ⟨heads, hsome, rfl, rfl, rfl⟩
  | ended hopen =>
    cases hadmitted : a.admitted with
    | true =>
      have hclosed : a.closed = false := (h.closing a hmem hadmitted).symm.trans hopen
      refine h.turn_ended found ?_
      unfold Standing.live
      rw [hadmitted, hclosed]
      rfl
    | false =>
      have hbooks : (Account.ended ⟨a, r.books⟩).books = r.books := by
        unfold Account.ended Account.signedOff
        exact if_neg (Bool.eq_false_iff.mp hadmitted)
      have hended : (Account.ended ⟨a, r.books⟩).standing.live = a.live := by
        unfold Standing.live
        rw [hadmitted]
        exact (congrArg (· && _) hadmitted).trans (Bool.false_and _)
      exact h.turn_aside found (congrArg Books.registry hbooks) rfl rfl rfl hended (fun _ => rfl)
        fun heads hsome => ⟨heads, by rw [hbooks]; exact hsome, rfl, rfl, rfl⟩

/-! ## Sessions that arrive -/

theorem turn_turnedAway (h : r.Census acted) {i : Nat} {a : Standing}
    (found : r.standings[i]? = some a) (hfirst : i ∉ acted) {verdict : String}
    (refused : verdict ≠ Metrics.accepted) :
    Turn r i a (Account.turnedAway ⟨a, r.books⟩ verdict) := by
  obtain ⟨_, hadmitted, _, _⟩ := h.untouched i a found hfirst
  have hlive : (Account.turnedAway ⟨a, r.books⟩ verdict).standing.live = a.live := by
    unfold Standing.live
    rw [hadmitted]
    exact (congrArg (· && _) hadmitted).trans (Bool.false_and _)
  refine h.turn_aside found rfl rfl rfl rfl hlive (fun hnever => ?_) fun heads hsome => ?_
  · cases hadmitted.symm.trans hnever
  · refine ⟨heads.connected verdict, ?_, rfl, rfl, ?_⟩
    · show r.books.heads?.map _ = _
      rw [hsome]
      rfl
    · show (heads.connections.add verdict).count Metrics.accepted = _
      rw [Metrics.Tally.count_add, if_neg refused.symm]

theorem turn_letIn (h : r.Census acted) {i : Nat} {a : Standing}
    (found : r.standings[i]? = some a) (hfirst : i ∉ acted) {registry : Registry}
    (room : r.books.registry.enter a.id ⟨a.peerIp, .session a.number⟩ = .ok registry) :
    Turn r i a (Account.letIn ⟨a, r.books⟩ registry) := by
  obtain ⟨_, hadmitted, hclosing, hclosed⟩ := h.untouched i a found hfirst
  have hlive : a.live = false := by
    unfold Standing.live
    rw [hadmitted]
    rfl
  have hentered : (Account.letIn ⟨a, r.books⟩ registry).standing.live = true := by
    show (true && !a.closed) = true
    rw [hclosed]
    rfl
  have hnew (place : Place) : (a.id, place) ∉ r.books.registry.places := fun hmem => by
    have hnever := (h.holder_of_mem found hmem).2
    rw [hlive] at hnever
    cases hnever
  have hkeys : a.id ∉ r.books.registry.places.map (·.1) := fun hmem => by
    obtain ⟨⟨_, place⟩, hplace, rfl⟩ := List.mem_map.mp hmem
    exact hnew place hplace
  have hplaces := Registry.places_of_enter hkeys room
  constructor
  · rfl
  · rfl
  · exact fun _ => hclosing.trans hclosed.symm
  · show (registry.places.map (·.1)).Nodup
    rw [hplaces, ← List.concat_eq_append, List.map_concat]
    exact h.keys.concat hkeys
  · intro id place hne
    show (id, place) ∈ registry.places ↔ _
    rw [hplaces, List.mem_append, List.mem_singleton, Prod.mk.injEq]
    exact or_iff_left fun heq => hne heq.1
  · intro place hplace
    change (a.id, place) ∈ registry.places at hplace
    rw [hplaces, List.mem_append, List.mem_singleton] at hplace
    obtain hold | heq := hplace
    · exact absurd hold (hnew place)
    · cases heq
      exact ⟨congrArg Holder.session (h.numbered i a found), hentered⟩
  · intro _
    show a.id ∈ registry.places.map (·.1)
    rw [hplaces, List.map_append]
    exact List.mem_append_right _ (List.mem_singleton_self _)
  · intro heads hsome
    refine ⟨(heads.connected Metrics.accepted).started, ?_, ?_, ?_, ?_⟩
    · show r.books.heads?.map _ = _
      rw [hsome]
      rfl
    · rw [hlive, hentered]
      rfl
    · rw [hlive, hentered]
      exact Int.add_zero _
    · show (heads.connections.add Metrics.accepted).count Metrics.accepted + a.admitted.toNat = _
      rw [Metrics.Tally.count_add, if_pos rfl, hadmitted]
      rfl

/-! ## Acts -/

theorem joined (h : r.Census acted) {id : String} (hnew : id ∉ r.standings.map Standing.id)
    (peerIp : String) : (r.joined id peerIp).Census acted := by
  have hat {i : Nat} {a : Standing} (ha : r.standings[i]? = some a) :
      (r.joined id peerIp).standings[i]? = some a :=
    (List.getElem?_append_left (List.getElem?_eq_some_iff.mp ha).1).trans ha
  have hmem {a : Standing} (ha : a ∈ (r.joined id peerIp).standings) :
      a ∈ r.standings ∨ a = .fresh r.standings.length id peerIp :=
    (List.mem_append.mp ha).imp_right List.mem_singleton.mp
  have hcount {p : Standing → Bool} (hp : p (.fresh r.standings.length id peerIp) = false) :
      (r.joined id peerIp).standings.countP p = r.standings.countP p := by
    unfold Roll.joined
    rw [List.countP_append, List.countP_singleton, hp]
    rfl
  constructor
  · exact h.numbered.joined id peerIp
  · intro i a ha hi
    obtain ha | ⟨_, rfl⟩ := Roll.getElem?_joined ha
    · exact h.untouched i a ha hi
    · exact Standing.untouched_fresh _ _ _
  · intro a ha hadmitted
    obtain ha | rfl := hmem ha
    · exact h.closing a ha hadmitted
    · rfl
  · unfold Roll.joined
    rw [← List.concat_eq_append, List.map_concat]
    exact h.ids.concat hnew
  · exact h.keys
  · intro id' place hplace
    obtain ⟨i, a, ha, hrest⟩ := h.placed id' place hplace
    exact ⟨i, a, hat ha, hrest⟩
  · intro a ha hlive
    obtain ha | rfl := hmem ha
    · exact h.present a ha hlive
    · cases hlive
  · obtain ⟨heads, hsome, hcounts⟩ := h.heads
    refine ⟨heads, hsome, ?_, ?_, ?_⟩
    · rw [hcount rfl]
      exact hcounts.active
    · rw [hcount rfl]
      exact hcounts.gauge
    · rw [hcount rfl]
      exact hcounts.accepted

/-- An act keeps the census if a session that arrives has done nothing before and an identifier that
begins is a new one. -/
theorem change (h : r.Census acted) {τ : Type} {act : Service.Act τ} {r' : Roll}
    (hchange : r.Change act r') (plain : act.meddles = false)
    (first : ∀ number, act = .arrive number → number ∉ acted)
    (new : ∀ id, act.newId? = some id → id ∉ r.standings.map Standing.id) :
    r'.Census (acted ++ act.actor?.toList) := by
  cases hchange with
  | idle _ => exact h.mono (List.subset_append_left _ _)
  | begins => exact (h.joined (new _ rfl) _).mono (List.subset_append_left _ _)
  | turnsAway found refused => exact h.turn found (h.turn_turnedAway found (first _ rfl) refused)
  | letsIn found room => exact h.turn found (h.turn_letIn found (first _ rfl) room)
  | fares found fate => exact h.turn found (h.turn_fate found fate)
  | admits _ => cases plain
  | removes _ => cases plain

theorem acted_of_holder (h : r.Census acted) {id : String} {place : Place} {number : Nat}
    (hplace : (id, place) ∈ r.books.registry.places) (hholder : place.holder = .session number) :
    number ∈ acted := by
  obtain ⟨i, a, ha, _, hi, hlive⟩ := h.placed id place hplace
  obtain rfl := Holder.session.inj (hholder.symm.trans hi)
  by_contra hnever
  obtain ⟨_, hadmitted, _, _⟩ := h.untouched number a ha hnever
  rw [Standing.live, hadmitted] at hlive
  cases hlive

end Roll.Census

namespace Service

variable {τ : Type} [Clock τ]

theorem census_after {s : Service τ} {acted : List Nat} (h : s.roll.Census acted) {act : Act τ}
    (plain : act.meddles = false) (first : ∀ number, act = .arrive number → number ∉ acted)
    (new : ∀ id, act.newId? = some id → id ∉ s.roll.standings.map Standing.id) :
    (s.after act).roll.Census (acted ++ act.actor?.toList) ∧
      (s.after act).roll.standings.map Standing.id =
        s.roll.standings.map Standing.id ++ act.newId?.toList := by
  by_cases hact : ∃ grace, act = .shutDown grace
  · obtain ⟨grace, rfl⟩ := hact
    show Roll.Census (acted ++ []) _ ∧ _ = s.roll.standings.map Standing.id ++ []
    rw [List.append_nil, List.append_nil]
    refine shutDown_induction
      (P := fun r => r.Census acted ∧
        r.standings.map Standing.id = s.roll.standings.map Standing.id)
      ⟨h, rfl⟩ grace fun id place number hplace hholder r r' hchange ⟨hr, hids⟩ => ?_
    -- whoever is closed here has a place and has thus done something before
    have hacted := h.acted_of_holder hplace hholder
    refine ⟨(hr.change hchange rfl nofun nofun).mono ?_, hchange.ids.trans ?_⟩
    · exact List.append_subset.mpr
        ⟨List.Subset.refl _, List.cons_subset.mpr ⟨hacted, List.nil_subset _⟩⟩
    · exact (List.append_nil _).trans hids
  · have hchange := change_after s (not_exists.mp hact)
    exact ⟨h.change hchange plain first new, hchange.ids⟩

/-- **The census of a run** without meddling, in which identifiers differ and sessions arrive
first. -/
theorem census_run (station : Station τ) {c : Metrics.Collector}
    (fresh : station.metrics? = some c) (hactive : c.active = 0) (hgauge : c.gauge = 0)
    (haccepted : c.connections = []) (limit peerLimit : Int) (acts : List (Act τ))
    (different : (newIds acts).Nodup) (first : ∀ number, ArrivesFirst acts number)
    (plain : ∀ act ∈ acts, act.meddles = false) :
    ((opened station limit peerLimit).run acts).roll.Census (actors acts) ∧
      ((opened station limit peerLimit).run acts).roll.standings.map Standing.id = newIds acts := by
  induction acts using List.reverseRecOn with
  | nil =>
    refine ⟨⟨nofun, nofun, nofun, .nil, .nil, nofun, nofun, c.heads, ?_, ?_⟩, rfl⟩
    · show station.metrics?.map _ = _
      rw [fresh]
      rfl
    · refine ⟨hactive, hgauge, ?_⟩
      show c.connections.count Metrics.accepted = 0
      rw [haccepted]
      rfl
  | append_singleton acts act ih =>
    rw [newIds_concat] at different
    have hfirst number := arrivesFirst_concat_iff.mp (first number)
    obtain ⟨hcensus, hids⟩ := ih different.of_append_left (fun number => (hfirst number).1)
      fun act hact => plain act (List.mem_append_left _ hact)
    rw [run_concat, actors_concat, newIds_concat, ← hids]
    refine census_after hcensus (plain act (List.mem_append_right _ (List.mem_singleton_self _)))
      (fun number => (hfirst number).2) fun id hnew hmem => ?_
    rw [hids] at hmem
    rw [hnew] at different
    exact (List.nodup_append.mp different).2.2 id hmem id (List.mem_singleton_self _) rfl

/-- **The registry, the number of active sessions and the gauge agree on how many sessions are
open**, and as many connections were accepted as sessions were let in. -/
theorem headcounts_agree (station : Station τ) (limit peerLimit : Int) (profile : String)
    (begun : Float) (acts : List (Act τ)) (different : (newIds acts).Nodup)
    (first : ∀ number, ArrivesFirst acts number) (plain : ∀ act ∈ acts, act.meddles = false) :
    let s := (opened { station with metrics? := some (.fresh profile begun) } limit peerLimit).run
      acts
    let size := s.station.registry.places.length
    size = s.sessions.countP (fun t => t.admitted && !t.closed) ∧
      ∃ c, s.station.metrics? = some c ∧ c.active = size ∧ c.gauge = size ∧
        (∀ now, ⟨"sshmon_sessions_active", "Currently active sessions", .gauge,
          [⟨"", [], Float.ofInt size⟩]⟩ ∈ c.families now) ∧
        c.connections.count Metrics.accepted = s.sessions.countP Session.admitted := by
  intro s size
  obtain ⟨hcensus, _⟩ := census_run
    { station with metrics? := some (Metrics.Collector.fresh profile begun) } rfl rfl rfl rfl
    limit peerLimit acts different first plain
  have hsize : size = s.sessions.countP (fun t => t.admitted && !t.closed) := by
    refine hcensus.length_places.trans ?_
    exact List.countP_map
  obtain ⟨heads, hheads, hcounts⟩ := hcensus.heads
  obtain ⟨c, hc, rfl⟩ := Option.map_eq_some_iff.mp hheads
  have hactive : c.active = size := hcounts.active.trans hcensus.length_places.symm
  have hgauge : c.gauge = size := by
    refine hcounts.gauge.trans ?_
    rw [← hcensus.length_places]
    rfl
  refine ⟨hsize, c, hc, hactive, hgauge, fun now => ?_, hcounts.accepted.trans List.countP_map⟩
  unfold Metrics.Collector.families
  rw [hgauge]
  exact List.mem_cons_of_mem _ (List.mem_cons_self ..)

theorem headcounts_agree_example :
    (newIds exampleActs).Nodup ∧ (∀ number, ArrivesFirst exampleActs number) ∧
    (∀ act ∈ exampleActs, act.meddles = false) ∧
    let s := (opened { Scene.exampleArrival.station with metrics? := some (.fresh "" 0) } 10 1).run
      exampleActs
    s.station.registry.places = [] ∧ s.sessions.countP Session.admitted = 1 ∧
    ∃ c, s.station.metrics? = some c ∧ c.active = 0 ∧ c.gauge = 0 ∧
      c.connections.count Metrics.accepted = 1 := by
  have different : (newIds exampleActs).Nodup := by decide
  have plain : ∀ act ∈ exampleActs, act.meddles = false := by
    simp [exampleActs, Act.meddles]
  obtain ⟨_, c, hc, hactive, hgauge, _, haccepted⟩ := headcounts_agree Scene.exampleArrival.station
    10 1 "" 0 exampleActs different arrivesFirst_exampleActs plain
  exact ⟨different, arrivesFirst_exampleActs, plain, rfl, rfl, c, hc, hactive, hgauge, haccepted⟩

end Service
end Honeypot
