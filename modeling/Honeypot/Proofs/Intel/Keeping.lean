import Mathlib.Data.List.Dedup
import Mathlib.Data.List.Perm.Subperm
import Honeypot.Proofs.Intel.Reading

/-!
# What a client keeps

A client keeps what its complete lookups told: those that asked every service that there is. What
they told since the client last forgot everything is written down in a `Chronicle`. What is kept of
it is always the latest about an address, and it is kept until it is too old or until as many other
addresses as there is room for were learned about (`Faithful`). So whatever is answered without a
question is either the latest that was learned or nothing, as nobody may be asked
(`answers_without_questions`).
-/

namespace Honeypot.Intel

open OrderedClock

variable {τ : Type}

/-! ## Making room -/

theorem makeRoom_suffix (capacity : Int) (entries : List (String × Kept τ)) :
    makeRoom capacity entries <:+ entries := by
  induction entries with
  | nil => exact List.suffix_refl _
  | cons entry entries ih =>
    unfold makeRoom
    split
    · exact ih.trans (List.suffix_cons _ _)
    · exact List.suffix_refl _

theorem length_makeRoom_lt {capacity : Int} (h : 1 ≤ capacity) (entries : List (String × Kept τ)) :
    (makeRoom capacity entries).length < capacity := by
  induction entries with
  | nil =>
    show ((0 : Nat) : Int) < capacity
    omega
  | cons entry entries ih =>
    unfold makeRoom
    split
    · exact ih
    · next hroom => exact Int.not_le.mp hroom

/-- An entry stays, with all that are younger, if there is room for these and one more. -/
theorem makeRoom_append {capacity : Int} {after : List (String × Kept τ)}
    (h : (after.length : Int) + 1 < capacity) (before : List (String × Kept τ))
    (entry : String × Kept τ) :
    ∃ left, makeRoom capacity (before ++ entry :: after) = left ++ entry :: after := by
  induction before with
  | nil =>
    refine ⟨[], ?_⟩
    rw [List.nil_append, makeRoom, if_neg]
    rw [List.length_cons]
    omega
  | cons first before ih =>
    rw [List.cons_append, makeRoom]
    split
    · exact ih
    · exact ⟨first :: before, rfl⟩

/-! ## Keeping -/

section Keep

variable [Clock τ] {settings : Settings τ} {now : τ} {m : Memory τ} {ip : String} {facts : Facts}

/-- What is learned comes after some of the entries of other addresses. -/
theorem Memory.kept_keep (m : Memory τ) (settings : Settings τ) (now : τ) (ip : String)
    (facts : Facts) :
    ∃ others, (m.keep settings now ip facts).kept = others ++ [(ip, ⟨now, facts⟩)] ∧
      others.Sublist m.kept ∧ ip ∉ others.map (·.1) ∧
      (1 ≤ settings.capacity → (others.length : Int) < settings.capacity) := by
  let young := m.kept.filter fun entry => !decide (settings.keepFor ≤ now - entry.2.since)
  have hsuffix := makeRoom_suffix settings.capacity (Assoc.erase ip young)
  refine ⟨_, rfl, ?_, fun hmem => ?_, fun h => length_makeRoom_lt h _⟩
  · exact hsuffix.sublist.trans (List.filter_sublist.trans List.filter_sublist)
  · obtain ⟨entry, hentry, hkey⟩ := List.mem_map.mp hmem
    exact (Assoc.mem_erase_iff.mp (hsuffix.subset hentry)).2 hkey

/-- An entry that is young enough stays, with all that are younger, unless what is learned about
another address leaves no room for it. -/
theorem Memory.keep_spares {other : String} {kept : Kept τ} {before after : List (String × Kept τ)}
    (hkept : m.kept = before ++ (ip, kept) :: after) (hother : other ≠ ip)
    (hyoung : ¬settings.keepFor ≤ now - kept.since)
    (hafter : ∀ entry ∈ after, ¬settings.keepFor ≤ now - entry.2.since) (facts : Facts) :
    settings.capacity ≤ (Assoc.erase other after).length + 1 ∨
      ∃ left, (m.keep settings now other facts).kept =
        left ++ (ip, kept) :: (Assoc.erase other after ++ [(other, ⟨now, facts⟩)]) := by
  unfold keep
  dsimp only
  have hall : (after.filter fun entry => !decide (settings.keepFor ≤ now - entry.2.since)) =
      after := List.filter_eq_self.mpr fun entry hentry => by simpa using hafter entry hentry
  rw [hkept, List.filter_append, List.filter_cons_of_pos (by simpa using hyoung), hall]
  unfold Assoc.erase
  rw [List.filter_append, List.filter_cons_of_pos (by simpa using hother.symm)]
  by_cases hroom :
      ((after.filter fun entry => entry.1 ≠ other).length : Int) + 1 < settings.capacity
  · obtain ⟨left, hleft⟩ := makeRoom_append hroom
      ((before.filter fun entry => !decide (settings.keepFor ≤ now - entry.2.since)).filter
        fun entry => entry.1 ≠ other) (ip, kept)
    refine .inr ⟨left, ?_⟩
    rw [hleft, List.append_assoc, List.cons_append]
  · exact .inl (Int.not_lt.mp hroom)

end Keep

/-! ## Complete lookups -/

/-- What a complete lookup told: one that has asked every service that there is and has not
failed. -/
def Outcome.learned? (settings : Settings τ) (o : Outcome τ) : Option Facts :=
  if o.requests.any Request.asksPlace &&
      (settings.key.isEmpty || o.requests.any Request.asksReports) then o.result.toOption
  else none

/-- Whether a client may ask nobody about an address that it knows nothing of. -/
def Memory.AsksNobody [Clock τ] (m : Memory τ) (settings : Settings τ) (now : τ) (ip : String) :
    Prop :=
  settings.enabled = false ∨ Address.isPublicText ip = false ∨
    (take settings.placeLimit placeWindow now m.placeCalls).1 = false ∧
      m.mayAskReports settings now = false

section Lookup

variable [Clock τ] {settings : Settings τ} {network : Network} {now : τ} {m : Memory τ}
  {ip : String}

theorem lookup_of_closed (h : settings.enabled = false ∨ Address.isPublicText ip = false)
    (network : Network) : lookup settings network now m ip = ⟨.ok [], m, []⟩ := by
  have hclosed : (!settings.enabled || !Address.isPublicText ip) = true := by
    obtain h | h := h <;> simp [h]
  unfold lookup
  exact if_pos hclosed

theorem lookup_of_known {facts : Facts} (henabled : settings.enabled = true)
    (hpublic : Address.isPublicText ip = true)
    (hknown : m.known? settings.keepFor now ip = some facts) (network : Network) :
    (lookup settings network now m ip).requests = [] ∧
      (lookup settings network now m ip).result = .ok facts := by
  unfold lookup
  rw [henabled, hpublic, hknown]
  exact ⟨rfl, rfl⟩

/-- Of something unknown nothing is answered without a question, if nobody may be asked. -/
theorem missing_of_quiet (henabled : settings.enabled = true)
    (hpublic : Address.isPublicText ip = true)
    (hmissing : m.known? settings.keepFor now ip = none)
    (hquiet : (lookup settings network now m ip).requests = []) :
    m.AsksNobody settings now ip ∧ (lookup settings network now m ip).result = .ok [] := by
  obtain ⟨_, _, hrequests, hresult⟩ := calls_of_missing henabled hpublic hmissing network
  obtain ⟨hplace, hreports⟩ := any_ask settings network ip
    (take settings.placeLimit placeWindow now m.placeCalls).1 (m.mayAskReports settings now)
  rw [← hrequests, hquiet] at hplace hreports
  -- as the first service is not asked, only its limit can keep the client from asking the second
  have hnoPlace : (take settings.placeLimit placeWindow now m.placeCalls).1 = false := hplace.symm
  rw [hnoPlace] at hreports hresult
  have hnoReports : m.mayAskReports settings now = false := by
    simpa [Network.letsOn] using hreports
  rw [hnoReports] at hresult
  exact ⟨.inr (.inr ⟨hnoPlace, hnoReports⟩), hresult⟩

omit [Clock τ] in
theorem learned?_of_quiet {o : Outcome τ} (h : o.requests = []) : o.learned? settings = none := by
  unfold Outcome.learned?
  rw [h]
  rfl

omit [Clock τ] in
/-- A lookup is complete if it may ask all services and does not fail. -/
theorem learned?_of_asked {place reports : Bool} {o : Outcome τ}
    (hrequests : o.requests = (ask settings network ip place reports).2)
    (hresult : o.result = (ask settings network ip place reports).1) :
    o.learned? settings =
      if place && (reports || settings.key.isEmpty) then o.result.toOption else none := by
  obtain ⟨hplace, hreports⟩ := any_ask settings network ip place reports
  unfold Outcome.learned?
  rw [hrequests, hplace, hreports]
  cases hgoes : network.letsOn ip place with
  | true => simp [Bool.or_comm]
  | false =>
    -- the question to the second service is not asked, but then the lookup has failed
    have hfailed := isOk_ask_of_stuck settings hgoes reports
    rw [← hresult] at hfailed
    have hnothing : o.result.toOption = none := by
      cases hr : o.result with
      | error e => rfl
      | ok facts =>
        rw [hr] at hfailed
        cases hfailed
    rw [hnothing, ite_self, ite_self]

/-- What is learned and nothing else is kept. -/
theorem kept_lookup (settings : Settings τ) (network : Network) (now : τ) (m : Memory τ)
    (ip : String) :
    (lookup settings network now m ip).memory.kept =
      match (lookup settings network now m ip).learned? settings with
      | some facts => (m.keep settings now ip facts).kept
      | none => m.kept := by
  obtain hquiet | ⟨henabled, hpublic, hmissing⟩ := quiet_or_missing settings now m ip
  · obtain ⟨hmemory, hrequests, _⟩ := lookup_of_quiet network hquiet
    rw [learned?_of_quiet hrequests, hmemory]
  · obtain ⟨_, _, hrequests, hresult⟩ := calls_of_missing henabled hpublic hmissing network
    rw [learned?_of_asked hrequests hresult, hresult, lookup_of_missing henabled hpublic hmissing]
    dsimp only
    cases (ask settings network ip _ _).1 with
    | error e => simp [Except.toOption]
    | ok facts =>
      dsimp only
      split
      · rfl
      · rfl

end Lookup

/-! ## Chronicles -/

/-- Whether an entry is the latest about an address, and which ones are later. -/
def IsLatest (learned : List (String × Kept τ)) (ip : String) (kept : Kept τ)
    (later : List (String × Kept τ)) : Prop :=
  ∃ earlier, learned = earlier ++ (ip, kept) :: later ∧ ip ∉ later.map (·.1)

theorem isLatest_concat_iff {learned later : List (String × Kept τ)} {entry : String × Kept τ}
    {ip : String} {kept : Kept τ} :
    IsLatest (learned ++ [entry]) ip kept later ↔ (ip, kept) = entry ∧ later = [] ∨
      ∃ before, later = before ++ [entry] ∧ entry.1 ≠ ip ∧ IsLatest learned ip kept before := by
  constructor
  · rintro ⟨earlier, hlearned, hlater⟩
    obtain rfl | ⟨before, last, rfl⟩ := List.eq_nil_or_concat later
    · obtain ⟨_, hentry⟩ := List.append_inj' hlearned rfl
      exact .inl ⟨(List.singleton_inj.mp hentry).symm, rfl⟩
    · rw [List.concat_eq_append] at *
      rw [← List.cons_append, ← List.append_assoc] at hlearned
      obtain ⟨hbefore, hlast⟩ := List.append_inj' hlearned rfl
      obtain rfl := List.singleton_inj.mp hlast
      rw [List.map_append, List.mem_append, not_or] at hlater
      refine .inr ⟨before, rfl, fun hip => hlater.2 (by simp [hip]), earlier, hbefore, hlater.1⟩
  · rintro (⟨rfl, rfl⟩ | ⟨before, rfl, hip, earlier, rfl, hbefore⟩)
    · exact ⟨learned, rfl, List.not_mem_nil⟩
    · refine ⟨earlier, by rw [List.append_assoc, List.cons_append], ?_⟩
      rw [List.map_append, List.mem_append, not_or]
      exact ⟨hbefore, by simpa using hip.symm⟩

/-- What a client did in the course of time, and what its complete lookups told since it last forgot
everything, the latest last. -/
structure Chronicle (τ : Type) extends Diary τ where
  learned : List (String × Kept τ)

namespace Chronicle

def opened (start : τ) : Chronicle τ := ⟨.opened start, []⟩

variable [Clock τ] {settings : Settings τ} {c : Chronicle τ}

def after (settings : Settings τ) (c : Chronicle τ) (event : Event τ) : Chronicle τ where
  toDiary := c.toDiary.after settings event
  learned :=
    match event with
    | .lookup ip network =>
      match (lookup settings network c.now c.memory ip).learned? settings with
      | some facts => c.learned ++ [(ip, ⟨c.now, facts⟩)]
      | none => c.learned
    | .clear => []
    | .pass _ => c.learned

def run (settings : Settings τ) (c : Chronicle τ) (events : List (Event τ)) : Chronicle τ :=
  events.foldl (after settings) c

end Chronicle

/-! ## Faithful memories -/

section Faithful

variable [Clock τ]

/-- What is kept of all that was learned since the client last forgot everything: the latest about
an address, in order, for as long as it is young and there is room. -/
structure Faithful (settings : Settings τ) (now : τ) (kept learned : List (String × Kept τ)) :
    Prop where
  /-- Only about public addresses anything is learned, and only by clients that may ask. -/
  permitted : ∀ entry ∈ learned, settings.enabled = true ∧ Address.isPublicText entry.1 = true
  past : ∀ entry ∈ learned, entry.2.since ≤ now
  ordered : kept.Pairwise fun a b => a.2.since ≤ b.2.since
  nodup : (kept.map (·.1)).Nodup
  small : 1 ≤ settings.capacity → (kept.length : Int) ≤ settings.capacity
  latest : ∀ entry ∈ kept, ∃ later, IsLatest learned entry.1 entry.2 later
  spared : ∀ ip known later, IsLatest learned ip known later →
    settings.keepFor ≤ now - known.since ∨
    settings.capacity ≤ (later.map (·.1)).dedup.length ∨
    ∃ before after, kept = before ++ (ip, known) :: after ∧
      after.map (·.1) ⊆ later.map (·.1)

theorem faithful_nil (settings : Settings τ) (now : τ) : Faithful settings now [] [] where
  permitted := nofun
  past := nofun
  ordered := .nil
  nodup := .nil
  small h := by
    show ((0 : Nat) : Int) ≤ settings.capacity
    omega
  latest := nofun
  spared ip known later h := by
    obtain ⟨earlier, hlearned, _⟩ := h
    exact absurd hlearned.symm (by simp)

theorem length_le_length_dedup {α : Type} [DecidableEq α] {l l' : List α} (hnodup : l.Nodup)
    (hsubset : l ⊆ l') : l.length ≤ l'.dedup.length := by
  have hdedup : l ⊆ l'.dedup := fun a ha => List.mem_dedup.mpr (hsubset ha)
  exact (List.subperm_of_subset hnodup hdedup).length_le

variable [OrderedClock τ] {settings : Settings τ} {now : τ} {kept learned : List (String × Kept τ)}

theorem Faithful.pass (h : Faithful settings now kept learned) {later : τ} (hle : now ≤ later) :
    Faithful settings later kept learned where
  permitted := h.permitted
  past entry hentry := le_trans (h.past entry hentry) hle
  ordered := h.ordered
  nodup := h.nodup
  small := h.small
  latest := h.latest
  spared ip known after hlatest := (h.spared ip known after hlatest).imp_left fun hold =>
    le_trans hold (sub_le_sub_right hle _)

omit [OrderedClock τ] in
theorem Faithful.since_le (h : Faithful settings now kept learned) {entry : String × Kept τ}
    (hentry : entry ∈ kept) : entry.2.since ≤ now := by
  obtain ⟨_, _, hlearned, _⟩ := h.latest entry hentry
  exact h.past entry (hlearned ▸ List.mem_append_right _ List.mem_cons_self)

/-- What is learned about another address costs an entry its place only if it is too old or as many
addresses as there is room for were learned about since. -/
theorem Faithful.spared_learn {m : Memory τ} (h : Faithful settings now m.kept learned)
    {ip other : String} {known : Kept τ} {later : List (String × Kept τ)}
    (hlatest : IsLatest learned ip known later) (hother : other ≠ ip) (facts : Facts) :
    settings.keepFor ≤ now - known.since ∨
    settings.capacity ≤ (later.map (·.1) ++ [other]).dedup.length ∨
    ∃ before after, (m.keep settings now other facts).kept = before ++ (ip, known) :: after ∧
      after.map (·.1) ⊆ later.map (·.1) ++ [other] := by
  obtain hold | hfull | ⟨before, after, hkept, hsubset⟩ := h.spared ip known later hlatest
  · exact .inl hold
  · refine .inr (.inl (hfull.trans (Int.ofNat_le.mpr ?_)))
    refine length_le_length_dedup (List.nodup_dedup _) fun key hkey => ?_
    exact List.mem_append_left _ (List.mem_dedup.mp hkey)
  · by_cases hold : settings.keepFor ≤ now - known.since
    · exact .inl hold
    have hordered := h.ordered
    have hnodup := h.nodup
    rw [hkept] at hordered hnodup
    -- whatever was kept after the entry is younger
    have hyoung : ∀ entry ∈ after, ¬settings.keepFor ≤ now - entry.2.since := by
      intro entry hentry hle
      have hsince := List.rel_of_pairwise_cons (List.pairwise_append.mp hordered).2.1 hentry
      exact hold (le_trans hle (sub_le_sub_left hsince now))
    have hsubset : (Assoc.erase other after).map (·.1) ++ [other] ⊆
        later.map (·.1) ++ [other] := by
      rw [Assoc.keys_erase]
      refine List.append_subset.mpr ⟨fun key hkey => ?_, List.subset_append_right _ _⟩
      exact List.mem_append_left _ (hsubset (List.mem_of_mem_filter hkey))
    obtain hfull | ⟨left, hleft⟩ := m.keep_spares hkept hother hold hyoung facts
    · have hafter : (after.map (·.1)).Nodup := by
        rw [List.map_append, List.map_cons] at hnodup
        exact (List.nodup_append.mp hnodup).2.1.of_cons
      have hdistinct : ((Assoc.erase other after).map (·.1) ++ [other]).Nodup := by
        rw [Assoc.keys_erase, List.nodup_append]
        refine ⟨hafter.filter _, List.nodup_singleton _, fun key hkey last hlast => ?_⟩
        rw [List.mem_singleton.mp hlast]
        exact of_decide_eq_true (List.mem_filter.mp hkey).2
      have hlength := length_le_length_dedup hdistinct hsubset
      rw [List.length_append, List.length_map, List.length_singleton] at hlength
      exact .inr (.inl (hfull.trans (Int.ofNat_le.mpr hlength)))
    · refine .inr (.inr ⟨left, _, hleft, ?_⟩)
      rw [List.map_append]
      exact hsubset

/-- **What a complete lookup told** is kept in the way that all the rest is. -/
theorem Faithful.learn {m : Memory τ} (h : Faithful settings now m.kept learned) {ip : String}
    (hpermitted : settings.enabled = true ∧ Address.isPublicText ip = true) (facts : Facts) :
    Faithful settings now (m.keep settings now ip facts).kept
      (learned ++ [(ip, ⟨now, facts⟩)]) := by
  obtain ⟨others, hkept, hothers, hnew, hsmall⟩ := m.kept_keep settings now ip facts
  constructor
  case permitted =>
    intro entry hentry
    obtain hentry | hentry := List.mem_append.mp hentry
    · exact h.permitted entry hentry
    · rw [List.mem_singleton.mp hentry]
      exact hpermitted
  case past =>
    intro entry hentry
    obtain hentry | hentry := List.mem_append.mp hentry
    · exact h.past entry hentry
    · rw [List.mem_singleton.mp hentry]
      exact le_refl now
  case ordered =>
    rw [hkept, List.pairwise_append]
    refine ⟨h.ordered.sublist hothers, List.pairwise_singleton _ _, ?_⟩
    intro entry hentry last hlast
    rw [List.mem_singleton.mp hlast]
    exact h.since_le (hothers.subset hentry)
  case nodup =>
    rw [hkept, List.map_append, List.nodup_append]
    refine ⟨h.nodup.sublist (hothers.map _), List.nodup_singleton _, ?_⟩
    intro key hkey last hlast
    rw [List.mem_singleton.mp hlast]
    rintro rfl
    exact hnew hkey
  case small =>
    intro hroom
    have hlength := hsmall hroom
    rw [hkept, List.length_append, List.length_singleton]
    omega
  case latest =>
    intro entry hentry
    rw [hkept] at hentry
    obtain hentry | hentry := List.mem_append.mp hentry
    · obtain ⟨later, hlatest⟩ := h.latest entry (hothers.subset hentry)
      have hne : ip ≠ entry.1 := fun hip => hnew (hip ▸ List.mem_map_of_mem hentry)
      exact ⟨_, isLatest_concat_iff.mpr (.inr ⟨later, rfl, hne, hlatest⟩)⟩
    · rw [List.mem_singleton.mp hentry]
      exact ⟨[], isLatest_concat_iff.mpr (.inl ⟨rfl, rfl⟩)⟩
  case spared =>
    intro address known later hlatest
    obtain ⟨hentry, rfl⟩ | ⟨before, rfl, hne, hlatest⟩ := isLatest_concat_iff.mp hlatest
    · obtain ⟨rfl, rfl⟩ := hentry
      exact .inr (.inr ⟨others, [], hkept, List.nil_subset _⟩)
    · rw [List.map_append]
      exact h.spared_learn hlatest hne facts

end Faithful

/-! ## Answers -/

namespace Chronicle

variable [Clock τ] [OrderedClock τ] {settings : Settings τ} {c : Chronicle τ}

theorem faithful_after (h : Faithful settings c.now c.memory.kept c.learned) {event : Event τ}
    (forward : ∀ time, event = .pass time → Clock.span 0 ≤ time) :
    Faithful settings (c.after settings event).now (c.after settings event).memory.kept
      (c.after settings event).learned := by
  cases event with
  | lookup ip network =>
    show Faithful settings c.now (lookup settings network c.now c.memory ip).memory.kept
      (match (lookup settings network c.now c.memory ip).learned? settings with
        | some facts => c.learned ++ [(ip, ⟨c.now, facts⟩)]
        | none => c.learned)
    rw [kept_lookup]
    cases hlearned : (lookup settings network c.now c.memory ip).learned? settings with
    | none => exact h
    | some facts =>
      obtain hquiet | ⟨henabled, hpublic, _⟩ := quiet_or_missing settings c.now c.memory ip
      · rw [learned?_of_quiet (lookup_of_quiet network hquiet).2.1] at hlearned
        cases hlearned
      · exact h.learn ⟨henabled, hpublic⟩ facts
  | clear => exact faithful_nil settings c.now
  | pass time => exact h.pass (le_add c.now (forward time rfl))

theorem faithful_run (h : Faithful settings c.now c.memory.kept c.learned)
    {events : List (Event τ)} (forward : ∀ time, .pass time ∈ events → Clock.span 0 ≤ time) :
    Faithful settings (c.run settings events).now (c.run settings events).memory.kept
      (c.run settings events).learned := by
  induction events generalizing c with
  | nil => exact h
  | cons event events ih =>
    refine ih (faithful_after h fun time hevent => ?_) fun time hmem => ?_
    · exact forward time (hevent ▸ List.mem_cons_self)
    · exact forward time (List.mem_cons_of_mem _ hmem)

omit [OrderedClock τ] in
/-- What is answered without a question. -/
theorem answer_of_faithful (h : Faithful settings c.now c.memory.kept c.learned) {ip : String}
    {network : Network} (hrequests : (lookup settings network c.now c.memory ip).requests = []) :
    (∃ known later, IsLatest c.learned ip known later ∧ c.now - known.since < settings.keepFor ∧
      (lookup settings network c.now c.memory ip).result = .ok known.facts) ∨
    c.memory.AsksNobody settings c.now ip ∧
      (lookup settings network c.now c.memory ip).result = .ok [] := by
  by_cases hclosed : settings.enabled = false ∨ Address.isPublicText ip = false
  · rw [lookup_of_closed hclosed]
    exact .inr ⟨hclosed.imp_right .inl, rfl⟩
  rw [not_or, Bool.not_eq_false, Bool.not_eq_false] at hclosed
  obtain ⟨henabled, hpublic⟩ := hclosed
  cases hknown : c.memory.known? settings.keepFor c.now ip with
  | none => exact .inr (missing_of_quiet henabled hpublic hknown hrequests)
  | some facts =>
    have hresult := (lookup_of_known henabled hpublic hknown network).2
    obtain ⟨known, hlookup, hyoung⟩ := Option.bind_eq_some_iff.mp hknown
    obtain ⟨hage, hfacts⟩ := Option.ite_none_right_eq_some.mp hyoung
    cases hfacts
    obtain ⟨later, hlatest⟩ :=
      h.latest (ip, known) ((Assoc.lookup_eq_some_iff_mem h.nodup).mp hlookup)
    exact .inl ⟨known, later, hlatest, hage, hresult⟩

/-- What was learned is answered while it is young, and has not made room for others. -/
theorem answer_of_isLatest (h : Faithful settings c.now c.memory.kept c.learned) {ip : String}
    {known : Kept τ} {later : List (String × Kept τ)} (hlatest : IsLatest c.learned ip known later)
    (hyoung : c.now - known.since < settings.keepFor)
    (hroom : ((later.map (·.1)).dedup.length : Int) < settings.capacity) (network : Network) :
    (lookup settings network c.now c.memory ip).requests = [] ∧
      (lookup settings network c.now c.memory ip).result = .ok known.facts := by
  have hpermitted : settings.enabled = true ∧ Address.isPublicText ip = true := by
    obtain ⟨earlier, hlearned, _⟩ := hlatest
    have hmem : (ip, known) ∈ c.learned := hlearned ▸ List.mem_append_right _ List.mem_cons_self
    exact h.permitted (ip, known) hmem
  obtain hold | hfull | ⟨before, after, hkept, _⟩ := h.spared ip known later hlatest
  · exact absurd hold (lt_iff_not_le.mp hyoung)
  · omega
  · have hmem : (ip, known) ∈ c.memory.kept := hkept ▸ List.mem_append_right _ List.mem_cons_self
    have hknown : c.memory.known? settings.keepFor c.now ip = some known.facts := by
      unfold Memory.known?
      rw [(Assoc.lookup_eq_some_iff_mem h.nodup).mpr hmem]
      exact if_pos hyoung
    exact lookup_of_known hpermitted.1 hpermitted.2 hknown network

/-- **What a client keeps and what it answers from it.** No more addresses are kept than there is
room for, every one once, in the order of the times at which they were learned about. Without a
question a lookup answers exactly what the latest complete lookup of its address told since the
client last forgot everything, as long as this is young enough; or it answers nothing, as the client
may ask nobody. And whatever the latest complete lookup told is answered without a question as long
as it is young enough and there is room for it beside the other addresses that were learned about
since. -/
theorem answers_without_questions (settings : Settings τ) (start : τ) {events : List (Event τ)}
    (hcapacity : 1 ≤ settings.capacity)
    (forward : ∀ time, .pass time ∈ events → Clock.span 0 ≤ time) :
    let c := (opened start).run settings events
    ((c.memory.kept.length : Int) ≤ settings.capacity ∧ (c.memory.kept.map (·.1)).Nodup ∧
      c.memory.kept.Pairwise fun a b => a.2.since ≤ b.2.since) ∧
    ∀ ip network,
      let o := lookup settings network c.now c.memory ip
      (o.requests = [] →
        (∃ known later, IsLatest c.learned ip known later ∧
          c.now - known.since < settings.keepFor ∧ o.result = .ok known.facts) ∨
        c.memory.AsksNobody settings c.now ip ∧ o.result = .ok []) ∧
      ∀ known later, IsLatest c.learned ip known later → c.now - known.since < settings.keepFor →
        ((later.map (·.1)).dedup.length : Int) < settings.capacity →
        o.requests = [] ∧ o.result = .ok known.facts := by
  intro c
  have h : Faithful settings c.now c.memory.kept c.learned :=
    faithful_run (faithful_nil settings start) forward
  refine ⟨⟨h.small hcapacity, h.nodup, h.ordered⟩, fun ip network => ⟨answer_of_faithful h, ?_⟩⟩
  intro known later hlatest hyoung hroom
  exact answer_of_isLatest h hlatest hyoung hroom network

/-- A client with room for two addresses that asks one service. -/
def smallSettings : Settings Int :=
  { Diary.exampleSettings with keepFor := 100, key := "", capacity := 2 }

def silentNetwork : Network := ⟨fun _ => .unreachable, fun _ => .unreachable⟩

def smallEvents : List (Event Int) :=
  [.lookup "8.8.8.8" (cityNetwork .unreachable), .pass 30, .lookup "1.1.1.1" Diary.exampleNetwork,
    .lookup "9.9.9.9" silentNetwork]

theorem answers_without_questions_example :
    (1 ≤ smallSettings.capacity ∧ ∀ time, .pass time ∈ smallEvents → Clock.span 0 ≤ time) ∧
    let c := (opened 0).run smallSettings smallEvents
    let o := lookup smallSettings Diary.exampleNetwork c.now c.memory "8.8.8.8"
    (c.memory.kept.length : Int) ≤ 2 ∧ o.requests = [] ∧
      ∃ facts, o.result = .ok facts ∧ cityIn facts = some "Sydney" := by
  have forward : ∀ time, .pass time ∈ smallEvents → Clock.span 0 ≤ time := by
    intro time h
    have htime : time = 30 := by simpa [smallEvents] using h
    rw [htime]
    decide
  obtain ⟨hkept, hanswers⟩ := answers_without_questions smallSettings 0 (by decide) forward
  have hmap : ((opened 0).run smallSettings smallEvents).learned.map
      (fun entry => (entry.1, entry.2.since, cityIn entry.2.facts)) =
      [("8.8.8.8", 0, some "Sydney"), ("9.9.9.9", 30, none)] := by decide +kernel
  have hnow : ((opened 0).run smallSettings smallEvents).now = 30 := rfl
  obtain ⟨⟨ip, known⟩, rest, hlearned, hfirst, hrest⟩ := List.map_eq_cons_iff.mp hmap
  obtain ⟨⟨other, later⟩, last, rfl, hother, hlast⟩ := List.map_eq_cons_iff.mp hrest
  obtain rfl := List.map_eq_nil_iff.mp hlast
  simp only [Prod.mk.injEq] at hfirst hother
  obtain ⟨rfl, hsince, hcity⟩ := hfirst
  obtain ⟨rfl, _, _⟩ := hother
  have hlatest : IsLatest ((opened 0).run smallSettings smallEvents).learned "8.8.8.8" known
      [("9.9.9.9", later)] := ⟨[], hlearned, by simp⟩
  have hyoung : ((opened 0).run smallSettings smallEvents).now - known.since <
      smallSettings.keepFor := by
    rw [hnow, hsince]
    decide
  have hroom : (([("9.9.9.9", later)].map (·.1)).dedup.length : Int) < smallSettings.capacity :=
    (by decide : ((1 : Nat) : Int) < 2)
  obtain ⟨hquiet, hresult⟩ :=
    (hanswers "8.8.8.8" Diary.exampleNetwork).2 known _ hlatest hyoung hroom
  refine ⟨⟨by decide, forward⟩, ?_, ?_, known.facts, ?_, hcity⟩
  · exact hkept.1
  · exact hquiet
  · exact hresult

/-- Lookups that are answered without a question although nothing was learned before: where the
limit leaves no room for a question, about an address that is not public, and by a client that may
not ask. -/
theorem unasked_without_latest :
    let c : Chronicle Int := opened 0
    let spent := { smallSettings with placeLimit := 0 }
    let off := { smallSettings with enabled := false }
    (¬∃ known later, IsLatest c.learned "8.8.8.8" known later) ∧
    (¬∃ known later, IsLatest c.learned "127.0.0.1" known later) ∧
    lookup spent silentNetwork c.now c.memory "8.8.8.8" = ⟨.ok [], c.memory, []⟩ ∧
    lookup smallSettings silentNetwork c.now c.memory "127.0.0.1" = ⟨.ok [], c.memory, []⟩ ∧
    lookup off silentNetwork c.now c.memory "8.8.8.8" = ⟨.ok [], c.memory, []⟩ := by
  have hnone (ip : String) :
      ¬∃ known later, IsLatest (opened 0 : Chronicle Int).learned ip known later := by
    rintro ⟨known, later, earlier, hlearned, _⟩
    exact List.append_ne_nil_of_right_ne_nil _ (List.cons_ne_nil _ _) hlearned.symm
  intro c spent off
  refine ⟨hnone _, hnone _, ?_, ?_, ?_⟩
  · show lookup spent silentNetwork c.now c.memory "8.8.8.8" = _
    rw [lookup_of_missing rfl (by decide +kernel) rfl]
    rfl
  · exact lookup_of_closed (.inr (by decide +kernel)) silentNetwork
  · exact lookup_of_closed (.inl rfl) silentNetwork

end Chronicle

end Honeypot.Intel
