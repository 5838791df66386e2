/-!
# Associations in the order of insertion

A list of pairs of a key and a value, in which every key occurs once. `put` replaces the value of a
key in its place or adds a new key at the end, `erase` takes a key away; `lookup_put`, `keys_put`,
`lookup_erase` and `keys_erase` say what they change.
-/

namespace Honeypot.Assoc

variable {κ α : Type} [DecidableEq κ]

def put (key : κ) (value : α) : List (κ × α) → List (κ × α)
  | [] => [(key, value)]
  | (k, v) :: rest => if k = key then (k, value) :: rest else (k, v) :: put key value rest

/-- The pairs without the one of a key. -/
def erase (key : κ) (pairs : List (κ × α)) : List (κ × α) := pairs.filter fun (k, _) => k ≠ key

theorem lookup_put [BEq κ] [LawfulBEq κ] (key k : κ) (value : α) (pairs : List (κ × α)) :
    (put key value pairs).lookup k = if k = key then some value else pairs.lookup k := by
  induction pairs with
  | nil =>
    by_cases h : k = key
    · simp [put, h]
    · have hb : (k == key) = false := beq_false_of_ne h
      simp [put, List.lookup_cons, h, hb]
  | cons pair rest ih =>
    obtain ⟨k', v⟩ := pair
    by_cases h : k' = key
    · subst h
      by_cases hk : k = k'
      · simp [put, hk]
      · have hb : (k == k') = false := beq_false_of_ne hk
        simp [put, List.lookup_cons, hk, hb]
    · by_cases hk : k = k'
      · subst hk
        simp [put, h]
      · have hb : (k == k') = false := beq_false_of_ne hk
        simp [put, List.lookup_cons, h, hb, ih]

theorem keys_put (key : κ) (value : α) (pairs : List (κ × α)) :
    (put key value pairs).map (·.1) =
      if key ∈ pairs.map (·.1) then pairs.map (·.1) else pairs.map (·.1) ++ [key] := by
  induction pairs with
  | nil => simp [put]
  | cons pair rest ih =>
    obtain ⟨k, v⟩ := pair
    by_cases h : k = key
    · simp [put, h]
    · have h' : key ≠ k := fun e => h e.symm
      simp only [put, h, if_false, List.map_cons, ih, List.mem_cons, h', false_or]
      split <;> simp

theorem put_put (key : κ) (value value' : α) (pairs : List (κ × α)) :
    put key value (put key value' pairs) = put key value pairs := by
  induction pairs with
  | nil => simp [put]
  | cons pair rest ih =>
    obtain ⟨k, v⟩ := pair
    by_cases h : k = key <;> simp [put, h, ih]

theorem put_of_lookup [BEq κ] [LawfulBEq κ] {key : κ} {value : α} {pairs : List (κ × α)}
    (h : pairs.lookup key = some value) : put key value pairs = pairs := by
  induction pairs with
  | nil => cases h
  | cons pair rest ih =>
    obtain ⟨k, v⟩ := pair
    rw [List.lookup_cons] at h
    by_cases hk : key = k
    · subst hk
      rw [beq_self_eq_true] at h
      cases h
      simp [put]
    · rw [beq_false_of_ne hk] at h
      simp [put, Ne.symm hk, ih h]

/-- Two pairs can be put in in any order if the key of one is there already. -/
theorem put_comm {key key' : κ} (hne : key ≠ key') (value value' : α) {pairs : List (κ × α)}
    (h : key ∈ pairs.map (·.1)) :
    put key value (put key' value' pairs) = put key' value' (put key value pairs) := by
  induction pairs with
  | nil => cases h
  | cons pair rest ih =>
    obtain ⟨k, v⟩ := pair
    by_cases hk : k = key
    · subst hk
      simp [put, hne]
    · have hrest : key ∈ rest.map (·.1) := (List.mem_cons.mp h).resolve_left (Ne.symm hk)
      by_cases hk' : k = key'
      · subst hk'
        simp [put, hk]
      · simp [put, hk, hk', ih hrest]

theorem lookup_erase [BEq κ] [LawfulBEq κ] (key k : κ) (pairs : List (κ × α)) :
    (erase key pairs).lookup k = if k = key then none else pairs.lookup k := by
  induction pairs with
  | nil => simp [erase]
  | cons pair rest ih =>
    obtain ⟨k', v⟩ := pair
    unfold erase at ih ⊢
    by_cases h : k' = key
    · subst h
      rw [List.filter_cons_of_neg (by simp), ih]
      by_cases hk : k = k'
      · simp [hk]
      · have hb : (k == k') = false := beq_false_of_ne hk
        simp [List.lookup_cons, hk, hb]
    · rw [List.filter_cons_of_pos (by simpa using h), List.lookup_cons, List.lookup_cons, ih]
      by_cases hk : k = k'
      · subst hk
        simp [h]
      · have hb : (k == k') = false := beq_false_of_ne hk
        simp [hb]

theorem keys_erase (key : κ) (pairs : List (κ × α)) :
    (erase key pairs).map (·.1) = (pairs.map (·.1)).filter fun k => k ≠ key := by
  rw [List.filter_map]
  rfl

theorem nodup_keys_put {key : κ} {pairs : List (κ × α)} (h : (pairs.map (·.1)).Nodup)
    (value : α) : ((put key value pairs).map (·.1)).Nodup := by
  rw [keys_put]
  split
  · exact h
  · next hnew =>
    refine List.nodup_append.mpr ⟨h, List.pairwise_singleton _ _, ?_⟩
    rintro k hk _ hkey rfl
    exact hnew (List.mem_singleton.mp hkey ▸ hk)

theorem nodup_keys_erase {pairs : List (κ × α)} (h : (pairs.map (·.1)).Nodup) (key : κ) :
    ((erase key pairs).map (·.1)).Nodup := by
  rw [keys_erase]
  exact h.filter _

theorem mem_erase_iff {key k : κ} {value : α} {pairs : List (κ × α)} :
    (k, value) ∈ erase key pairs ↔ (k, value) ∈ pairs ∧ k ≠ key := by
  unfold erase
  rw [List.mem_filter, decide_eq_true_iff]

theorem mem_of_mem_put {key : κ} {value : α} {pair : κ × α} {pairs : List (κ × α)}
    (h : pair ∈ put key value pairs) : pair = (key, value) ∨ pair ∈ pairs := by
  induction pairs with
  | nil => exact .inl (List.mem_singleton.mp h)
  | cons first rest ih =>
    obtain ⟨k, v⟩ := first
    by_cases hk : k = key
    · subst hk
      simp only [put, if_true, List.mem_cons] at h ⊢
      grind
    · simp only [put, hk, if_false, List.mem_cons] at h ⊢
      grind

theorem put_of_not_mem {key : κ} {pairs : List (κ × α)} (h : key ∉ pairs.map (·.1)) (value : α) :
    put key value pairs = pairs ++ [(key, value)] := by
  induction pairs with
  | nil => rfl
  | cons pair rest ih =>
    obtain ⟨k, v⟩ := pair
    rw [List.map_cons, List.mem_cons, not_or] at h
    have hne : k ≠ key := fun e => h.1 e.symm
    simp only [put, hne, if_false, List.cons_append, ih h.2]

theorem isSome_lookup_iff [BEq κ] [LawfulBEq κ] (key : κ) (pairs : List (κ × α)) :
    (pairs.lookup key).isSome = true ↔ key ∈ pairs.map (·.1) := by
  induction pairs with
  | nil => simp
  | cons pair rest ih =>
    obtain ⟨k, v⟩ := pair
    rw [List.lookup_cons, List.map_cons, List.mem_cons, ← ih]
    by_cases h : key = k
    · simp [h]
    · have hb : (key == k) = false := beq_false_of_ne h
      simp [h, hb]

/-- As every key occurs once, the value of a key is the one that it is paired with. -/
theorem lookup_eq_some_iff_mem [BEq κ] [LawfulBEq κ] {key : κ} {value : α}
    {pairs : List (κ × α)} (hkeys : (pairs.map (·.1)).Nodup) :
    pairs.lookup key = some value ↔ (key, value) ∈ pairs := by
  induction pairs with
  | nil => simp
  | cons pair rest ih =>
    obtain ⟨k, v⟩ := pair
    rw [List.map_cons, List.nodup_cons] at hkeys
    rw [List.lookup_cons, List.mem_cons, Prod.mk.injEq]
    by_cases hk : key = k
    · subst hk
      have habsent : (key, value) ∉ rest := fun hmem =>
        hkeys.1 (List.mem_map.mpr ⟨(key, value), hmem, rfl⟩)
      simp [habsent, eq_comm]
    · have hb : (key == k) = false := beq_false_of_ne hk
      simp [hk, hb, ih hkeys.2]

/-- The one pair of a key parts the others, which are all that is left when the key is taken. -/
theorem exists_of_lookup [BEq κ] [LawfulBEq κ] {key : κ} {value : α} {pairs : List (κ × α)}
    (hkeys : (pairs.map (·.1)).Nodup) (h : pairs.lookup key = some value) :
    ∃ before after, pairs = before ++ (key, value) :: after ∧
      erase key pairs = before ++ after := by
  induction pairs with
  | nil => cases h
  | cons pair rest ih =>
    obtain ⟨k, v⟩ := pair
    rw [List.map_cons, List.nodup_cons] at hkeys
    rw [List.lookup_cons] at h
    by_cases hk : key = k
    · subst hk
      rw [beq_self_eq_true] at h
      cases h
      refine ⟨[], rest, rfl, ?_⟩
      unfold erase
      rw [List.filter_cons_of_neg (by simp), List.filter_eq_self.mpr]
      · rfl
      · rintro ⟨k, w⟩ hmem
        have hne : k ≠ key := by
          rintro rfl
          exact hkeys.1 (List.mem_map.mpr ⟨(k, w), hmem, rfl⟩)
        simpa using hne
    · have hb : (key == k) = false := beq_false_of_ne hk
      have hk' : k ≠ key := fun e => hk e.symm
      rw [hb] at h
      obtain ⟨before, after, hrest, herase⟩ := ih hkeys.2 h
      refine ⟨(k, v) :: before, after, by rw [hrest]; rfl, ?_⟩
      unfold erase at herase ⊢
      rw [List.filter_cons_of_pos (by simpa using hk'), herase]
      rfl

end Honeypot.Assoc
