import Mathlib.Data.List.Dedup
import Honeypot.Registry

/-!
# The counts of the registry

The registry keeps the number of places of each address apart from the places themselves. As long as
nobody is admitted under an identifier that has a place already, both agree after every call
(`Sound.after`), so that the limits, which are compared with these numbers, are limits of the
places.
-/

namespace Honeypot.Registry

variable {r s : Registry} {id ip : String} {place : Place}

/-- The number of places that are taken from an address. -/
def placesFrom (r : Registry) (ip : String) : Nat := r.places.countP fun entry => entry.2.ip = ip

/-- The addresses from which places are taken, each of them once. -/
def peers (r : Registry) : List String := (r.places.map fun entry => entry.2.ip).dedup

theorem mem_peers_iff : ip ∈ r.peers ↔ 0 < r.placesFrom ip := by
  unfold peers placesFrom
  rw [List.mem_dedup, List.mem_map, List.countP_pos_iff]
  simp only [decide_eq_true_eq]

/-- A registry whose counts are those of its places, and whose places are within the limits. -/
structure Sound (r : Registry) : Prop where
  /-- No identifier has two places. -/
  ids : (r.places.map (·.1)).Nodup
  /-- No address is counted twice. -/
  counted : (r.counts.map (·.1)).Nodup
  /-- Exactly the addresses that have places are counted, with the number of their places. -/
  count : ∀ ip, r.counts.lookup ip =
    if r.placesFrom ip = 0 then none else some (r.placesFrom ip)
  room : r.places.length ≤ r.limit
  peerRoom : 0 < r.peerLimit → ∀ ip, r.placesFrom ip ≤ r.peerLimit

theorem sound_empty {limit : Int} (h : 0 ≤ limit) (peerLimit : Int) :
    (empty limit peerLimit).Sound where
  ids := .nil
  counted := .nil
  count _ := rfl
  room := h
  peerRoom hlimit _ := Int.le_of_lt hlimit

namespace Sound

variable (h : r.Sound)

include h

theorem count_eq (ip : String) : r.count ip = r.placesFrom ip := by
  unfold Registry.count
  rw [h.count]
  split
  · next hnone => exact hnone.symm
  · rfl

theorem mem_counts_iff {n : Nat} :
    (ip, n) ∈ r.counts ↔ 0 < r.placesFrom ip ∧ n = r.placesFrom ip := by
  rw [← Assoc.lookup_eq_some_iff_mem h.counted, h.count]
  split
  · next hnone => simp [hnone]
  · next hsome => simp [Nat.pos_of_ne_zero hsome, eq_comm]

/-- **The counts are those of the places**: one for each address that has a place, and no other. -/
theorem counts_perm : r.counts.Perm (r.peers.map fun ip => (ip, r.placesFrom ip)) := by
  have hpeers : (r.peers.map fun ip => (ip, r.placesFrom ip)).Nodup :=
    List.Nodup.map (fun _ _ heq => (Prod.mk.inj heq).1) (List.nodup_dedup _)
  rw [List.perm_ext_iff_of_nodup (.of_map _ h.counted) hpeers]
  rintro ⟨ip, n⟩
  rw [h.mem_counts_iff, List.mem_map]
  constructor
  · rintro ⟨hpos, rfl⟩
    exact ⟨ip, mem_peers_iff.mpr hpos, rfl⟩
  · rintro ⟨ip', hmem, heq⟩
    cases heq
    exact ⟨mem_peers_iff.mp hmem, rfl⟩

end Sound

/-! ## Admission -/

/-- Somebody is admitted exactly if there is room for them. -/
theorem enter_eq_ok_iff : r.enter id place = .ok s ↔
    (r.places.length < r.limit ∧ (r.peerLimit = 0 ∨ r.count place.ip < r.peerLimit)) ∧
      s = { r with
        places := Assoc.put id place r.places
        counts := Assoc.put place.ip (r.count place.ip + 1) r.counts } := by
  unfold enter
  split
  · next hfull =>
    constructor
    · nofun
    · rintro ⟨⟨hroom, _⟩, _⟩
      omega
  · next hroom =>
    split
    · next hpeer =>
      constructor
      · nofun
      · rintro ⟨⟨_, hfree⟩, _⟩
        omega
    · next hpeer =>
      have hfree : r.peerLimit = 0 ∨ r.count place.ip < r.peerLimit := by omega
      constructor
      · intro heq
        cases heq
        exact ⟨⟨by omega, hfree⟩, rfl⟩
      · rintro ⟨_, rfl⟩
        rfl

theorem places_of_enter (hnew : id ∉ r.places.map (·.1)) (hok : r.enter id place = .ok s) :
    s.places = r.places ++ [(id, place)] := by
  obtain ⟨_, rfl⟩ := enter_eq_ok_iff.mp hok
  exact Assoc.put_of_not_mem hnew place

theorem placesFrom_of_append (hplaces : s.places = r.places ++ [(id, place)]) (ip : String) :
    s.placesFrom ip = r.placesFrom ip + if place.ip = ip then 1 else 0 := by
  unfold placesFrom
  rw [hplaces, List.countP_append, List.countP_singleton]
  simp only [decide_eq_true_eq]

theorem Sound.enter (h : r.Sound) (hnew : id ∉ r.places.map (·.1))
    (hok : r.enter id place = .ok s) : s.Sound := by
  have hplaces := places_of_enter hnew hok
  have hfrom := placesFrom_of_append hplaces
  obtain ⟨⟨hroom, hpeer⟩, hs⟩ := enter_eq_ok_iff.mp hok
  have hcounts : s.counts = Assoc.put place.ip (r.placesFrom place.ip + 1) r.counts := by
    rw [hs, h.count_eq]
  have hlimit : s.limit = r.limit := by rw [hs]
  have hpeerLimit : s.peerLimit = r.peerLimit := by rw [hs]
  rw [h.count_eq] at hpeer
  constructor
  · rw [hplaces, List.map_append]
    exact List.nodup_append.mpr ⟨h.ids, List.nodup_singleton _, by grind⟩
  · rw [hcounts, Assoc.keys_put]
    split
    · exact h.counted
    · exact List.nodup_append.mpr ⟨h.counted, List.nodup_singleton _, by grind⟩
  · intro ip
    rw [hcounts, Assoc.lookup_put, h.count, hfrom]
    by_cases hip : ip = place.ip
    · subst hip
      simp
    · have hip' : ¬place.ip = ip := fun e => hip e.symm
      simp [hip, hip']
  · rw [hplaces, hlimit, List.length_append, List.length_singleton]
    omega
  · intro hpos ip
    rw [hpeerLimit] at hpos ⊢
    have hold := h.peerRoom hpos ip
    rw [hfrom]
    split
    · next hip =>
      subst hip
      omega
    · exact hold

/-! ## Leaving -/

theorem leave?_eq_some_iff : r.leave? id = some s ↔ ∃ place, r.places.lookup id = some place ∧
    s = { r with
      places := Assoc.erase id r.places
      counts := if r.count place.ip - 1 = 0 then Assoc.erase place.ip r.counts
        else Assoc.put place.ip (r.count place.ip - 1) r.counts } := by
  unfold leave?
  rw [Option.map_eq_some_iff]
  simp only [eq_comm]

/-- Whoever leaves takes just their own place away. -/
theorem places_of_leave? (hids : (r.places.map (·.1)).Nodup) (hsome : r.leave? id = some s) :
    ∃ before place after, r.places.lookup id = some place ∧
      r.places = before ++ (id, place) :: after ∧ s.places = before ++ after := by
  obtain ⟨place, hplace, rfl⟩ := leave?_eq_some_iff.mp hsome
  obtain ⟨before, after, hplaces, herase⟩ := Assoc.exists_of_lookup hids hplace
  exact ⟨before, place, after, hplace, hplaces, herase⟩

theorem placesFrom_of_split {before after : List (String × Place)}
    (hr : r.places = before ++ (id, place) :: after) (hs : s.places = before ++ after)
    (ip : String) : r.placesFrom ip = s.placesFrom ip + if place.ip = ip then 1 else 0 := by
  unfold placesFrom
  rw [hr, hs, List.countP_append, List.countP_cons, List.countP_append]
  simp only [decide_eq_true_eq]
  omega

theorem places_leave (r : Registry) (id : String) :
    (r.leave id).places = Assoc.erase id r.places := by
  unfold leave
  cases hsome : r.leave? id with
  | some s =>
    obtain ⟨place, _, rfl⟩ := leave?_eq_some_iff.mp hsome
    rfl
  | none =>
    have habsent : id ∉ r.places.map (·.1) := by
      unfold leave? at hsome
      rw [Option.map_eq_none_iff] at hsome
      rw [← Assoc.isSome_lookup_iff, hsome]
      exact Bool.false_ne_true
    unfold Assoc.erase
    symm
    rw [Option.getD_none, List.filter_eq_self]
    rintro ⟨k, place⟩ hmem
    have hne : k ≠ id := by
      rintro rfl
      exact habsent (List.mem_map.mpr ⟨(k, place), hmem, rfl⟩)
    simpa using hne

/-- The counts with a new count of an address, which is left out if it is zero. -/
def lowered (counts : List (String × Nat)) (ip : String) (n : Nat) : List (String × Nat) :=
  if n = 0 then Assoc.erase ip counts else Assoc.put ip n counts

theorem lookup_lowered (counts : List (String × Nat)) (ip ip' : String) (n : Nat) :
    (lowered counts ip n).lookup ip' =
      if ip' = ip then (if n = 0 then none else some n) else counts.lookup ip' := by
  unfold lowered
  split
  · rw [Assoc.lookup_erase]
  · rw [Assoc.lookup_put]

theorem nodup_keys_lowered {counts : List (String × Nat)} (h : (counts.map (·.1)).Nodup)
    (ip : String) (n : Nat) : ((lowered counts ip n).map (·.1)).Nodup := by
  unfold lowered
  split
  · rw [Assoc.keys_erase]
    exact h.filter _
  · rw [Assoc.keys_put]
    split
    · exact h
    · exact List.nodup_append.mpr ⟨h, List.nodup_singleton _, by grind⟩

theorem Sound.leave? (h : r.Sound) (hsome : r.leave? id = some s) : s.Sound := by
  obtain ⟨before, place, after, hlookup, hr, hplaces⟩ := places_of_leave? h.ids hsome
  have hfrom := placesFrom_of_split hr hplaces
  have hsub : s.places.Sublist r.places := by
    rw [hr, hplaces]
    exact (List.Sublist.refl before).append (List.sublist_cons_self _ _)
  obtain ⟨place', hlookup', hs⟩ := leave?_eq_some_iff.mp hsome
  obtain rfl : place' = place := Option.some.inj (hlookup'.symm.trans hlookup)
  have hself := hfrom place'.ip
  rw [if_pos rfl] at hself
  have hcounts : s.counts = lowered r.counts place'.ip (s.placesFrom place'.ip) := by
    have hn : r.placesFrom place'.ip - 1 = s.placesFrom place'.ip := by omega
    rw [h.count_eq, hn] at hs
    exact congrArg Registry.counts hs
  have hlimit : s.limit = r.limit := by rw [hs]
  have hpeerLimit : s.peerLimit = r.peerLimit := by rw [hs]
  constructor
  · exact h.ids.sublist (hsub.map _)
  · rw [hcounts]
    exact nodup_keys_lowered h.counted _ _
  · intro ip
    rw [hcounts, lookup_lowered]
    split
    · next heq => rw [heq]
    · next hne =>
      have hip := hfrom ip
      rw [if_neg fun e => hne e.symm] at hip
      rw [h.count, hip, Nat.add_zero]
  · rw [hlimit]
    exact Int.le_trans (Int.ofNat_le.mpr hsub.length_le) h.room
  · intro hpos ip
    rw [hpeerLimit] at hpos ⊢
    exact Int.le_trans (Int.ofNat_le.mpr hsub.countP_le) (h.peerRoom hpos ip)

/-! ## Calls -/

/-- What the registry may be asked to do. -/
inductive Call where
  | enter (id : String) (place : Place)
  | leave (id : String)

/-- What a call leaves behind, if it is granted. -/
def answer? (r : Registry) : Call → Option Registry
  | .enter id place => (r.enter id place).toOption
  | .leave id => r.leave? id

def after (r : Registry) (call : Call) : Registry := (r.answer? call).getD r

/-- Whether somebody is admitted by a call, or gives a place up. -/
def grants (r : Registry) (call : Call) : Bool := (r.answer? call).isSome

/-- Whether nobody is admitted under an identifier that has a place. -/
def AdmitsOnlyNew (r : Registry) (calls : List Call) : Prop :=
  ∀ earlier id place later, calls = earlier ++ .enter id place :: later →
    (earlier.foldl after r).grants (.enter id place) = true →
      id ∉ (earlier.foldl after r).places.map (·.1)

theorem admitsOnlyNew_nil (r : Registry) : r.AdmitsOnlyNew [] := by
  rintro (_ | ⟨_, _⟩) id place later hcalls
  · cases hcalls
  · cases hcalls

theorem admitsOnlyNew_cons_iff {call : Call} {calls : List Call} :
    r.AdmitsOnlyNew (call :: calls) ↔
      (∀ id place, call = .enter id place → r.grants call = true →
        id ∉ r.places.map (·.1)) ∧ (r.after call).AdmitsOnlyNew calls := by
  constructor
  · intro h
    refine ⟨?_, ?_⟩
    · rintro id place rfl
      exact h [] id place calls rfl
    · intro earlier id place later hcalls
      exact h (call :: earlier) id place later (congrArg (call :: ·) hcalls)
  · rintro ⟨hfirst, hrest⟩ (_ | ⟨call', earlier⟩) id place later hcalls
    · cases hcalls
      exact hfirst id place rfl
    · cases hcalls
      exact hrest earlier id place later rfl

theorem answer?_enter_eq_some_iff : r.answer? (.enter id place) = some s ↔
    r.enter id place = .ok s := by
  show (r.enter id place).toOption = some s ↔ _
  cases r.enter id place with
  | ok _ => exact ⟨fun h => congrArg _ (Option.some.inj h), fun h => by cases h; rfl⟩
  | error _ => exact ⟨nofun, nofun⟩

theorem after_of_not_grants {call : Call} (h : r.grants call = false) : r.after call = r := by
  unfold after
  rw [Option.not_isSome_iff_eq_none.mp (Bool.eq_false_iff.mp h)]
  rfl

theorem Sound.grants_enter_iff (h : r.Sound) : r.grants (.enter id place) = true ↔
    r.places.length < r.limit ∧
      (r.peerLimit = 0 ∨ r.placesFrom place.ip < r.peerLimit) := by
  unfold grants
  rw [← h.count_eq, Option.isSome_iff_exists]
  simp only [answer?_enter_eq_some_iff, enter_eq_ok_iff, exists_and_left, exists_eq, and_true]

theorem grants_leave_iff : r.grants (.leave id) = true ↔ id ∈ r.places.map (·.1) := by
  show (r.leave? id).isSome = true ↔ _
  unfold leave?
  rw [Option.isSome_map, Assoc.isSome_lookup_iff]

theorem limits_of_answer? {call : Call} (h : r.answer? call = some s) :
    s.limit = r.limit ∧ s.peerLimit = r.peerLimit := by
  cases call with
  | enter id place =>
    obtain ⟨_, rfl⟩ := enter_eq_ok_iff.mp (answer?_enter_eq_some_iff.mp h)
    exact ⟨rfl, rfl⟩
  | leave id =>
    obtain ⟨_, _, rfl⟩ := leave?_eq_some_iff.mp h
    exact ⟨rfl, rfl⟩

/-- **Every call keeps the counts those of the places** and the places within the limits. -/
theorem Sound.after (h : r.Sound) (call : Call)
    (hnew : ∀ id place, call = .enter id place → r.grants call = true →
      id ∉ r.places.map (·.1)) : (r.after call).Sound := by
  unfold Registry.after
  cases hanswer : r.answer? call with
  | none => exact h
  | some s =>
    cases call with
    | enter id place =>
      have hgrants : r.grants (.enter id place) = true := Option.isSome_of_eq_some hanswer
      exact h.enter (hnew id place rfl hgrants) (answer?_enter_eq_some_iff.mp hanswer)
    | leave id => exact h.leave? hanswer

theorem limits_after (r : Registry) (call : Call) :
    (r.after call).limit = r.limit ∧ (r.after call).peerLimit = r.peerLimit := by
  unfold after
  cases hanswer : r.answer? call with
  | none => exact ⟨rfl, rfl⟩
  | some s => exact limits_of_answer? hanswer

theorem limits_calls (r : Registry) (calls : List Call) :
    (calls.foldl after r).limit = r.limit ∧ (calls.foldl after r).peerLimit = r.peerLimit := by
  induction calls generalizing r with
  | nil => exact ⟨rfl, rfl⟩
  | cons call calls ih =>
    rw [List.foldl_cons]
    obtain ⟨hlimit, hpeerLimit⟩ := ih (r.after call)
    exact ⟨hlimit.trans (limits_after r call).1, hpeerLimit.trans (limits_after r call).2⟩

theorem Sound.calls (h : r.Sound) {calls : List Call} (hnew : r.AdmitsOnlyNew calls) :
    (calls.foldl Registry.after r).Sound := by
  induction calls generalizing r with
  | nil => exact h
  | cons call calls ih =>
    obtain ⟨hfirst, hrest⟩ := admitsOnlyNew_cons_iff.mp hnew
    rw [List.foldl_cons]
    exact ih (h.after call hfirst) hrest

/-- **The registry keeps its counts and its limits.** After any calls that admit nobody under an
identifier in use there are no more places than the limit says; each address that has places is
counted with their number, and no other address is; no address has more places than the limit for
one address, if there is such a limit; and a call that is not granted changes nothing. An admission
is granted exactly if there is room, and leaving exactly if there is a place to give up. -/
theorem within_limits_after_calls {limit : Int} (hlimit : 0 ≤ limit) (peerLimit : Int)
    (calls : List Call) (hnew : (empty limit peerLimit).AdmitsOnlyNew calls) (r : Registry)
    (hr : r = calls.foldl after (empty limit peerLimit)) :
    r.places.length ≤ limit ∧ (r.places.map (·.1)).Nodup ∧
    r.counts.Perm (r.peers.map fun ip => (ip, r.placesFrom ip)) ∧
    r.counts.length = r.peers.length ∧
    (0 < peerLimit → ∀ ip, r.placesFrom ip ≤ peerLimit) ∧
    (∀ call, r.grants call = false → r.after call = r) ∧
    (∀ id place, r.grants (.enter id place) = true ↔ r.places.length < limit ∧
      (peerLimit = 0 ∨ r.placesFrom place.ip < peerLimit)) ∧
    ∀ id, r.grants (.leave id) = true ↔ id ∈ r.places.map (·.1) := by
  have hsound : r.Sound := hr ▸ (sound_empty hlimit peerLimit).calls hnew
  have hl : r.limit = limit := hr ▸ (limits_calls (empty limit peerLimit) calls).1
  have hp : r.peerLimit = peerLimit := hr ▸ (limits_calls (empty limit peerLimit) calls).2
  have hperm := hsound.counts_perm
  have hcounted : r.counts.length = r.peers.length := by rw [hperm.length_eq, List.length_map]
  subst hl hp
  exact ⟨hsound.room, hsound.ids, hperm, hcounted, hsound.peerRoom, fun _ => after_of_not_grants,
    fun _ _ => hsound.grants_enter_iff, fun _ => grants_leave_iff⟩

/-- Two admissions from one address, of which the second is granted once the first is given up. -/
def exampleCalls : List Call :=
  [.enter "a" ⟨"203.0.113.9", .observer⟩, .enter "b" ⟨"203.0.113.9", .observer⟩, .leave "a",
    .leave "a", .enter "b" ⟨"203.0.113.9", .observer⟩]

theorem within_limits_after_calls_example :
    (0 : Int) ≤ 5 ∧ (empty 5 1).AdmitsOnlyNew exampleCalls ∧
    (exampleCalls.foldl after (empty 5 1)).places = [("b", ⟨"203.0.113.9", .observer⟩)] ∧
    (exampleCalls.foldl after (empty 5 1)).placesFrom "203.0.113.9" ≤ (1 : Int) := by
  have hnew : (empty 5 1).AdmitsOnlyNew exampleCalls := by
    simp only [exampleCalls, admitsOnlyNew_cons_iff]
    refine ⟨?_, ?_, nofun, nofun, ?_, admitsOnlyNew_nil _⟩
    · rintro id place ⟨⟩ _
      decide
    · rintro id place ⟨⟩ hgrants
      revert hgrants
      decide
    · rintro id place ⟨⟩ _
      decide
  obtain ⟨_, _, _, _, hpeer, _⟩ :=
    within_limits_after_calls (by decide) 1 exampleCalls hnew _ rfl
  exact ⟨by decide, hnew, by decide, hpeer (by decide) "203.0.113.9"⟩

end Honeypot.Registry
