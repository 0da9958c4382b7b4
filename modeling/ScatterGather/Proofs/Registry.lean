import ScatterGather.Registry

/-!
# Registries as lists of entries

**Results.** A key stands in a registry once, and a new one comes last. What a sum over all values
of a registry becomes when a key is put in or taken out. A change of all values can be made before
or after a look-up.
-/

namespace ScatterGather
namespace Registry

variable {κ ν : Type} {r : Registry κ ν} {key : κ} {old : ν} {f : ν → Nat}

/-- The keys of a registry, in their order. -/
def keys (r : Registry κ ν) : List κ :=
  r.map Prod.fst

/-- The registry with every value changed. -/
def mapValues {ν' : Type} (f : ν → ν') (r : Registry κ ν) : Registry κ ν' :=
  r.map fun entry => (entry.1, f entry.2)

@[simp] theorem total_cons (entry : κ × ν) (r : Registry κ ν) :
    total f (entry :: r) = f entry.2 + total f r := rfl

variable [DecidableEq κ]

theorem mem_keys_iff : key ∈ keys r ↔ find? r key ≠ none := by
  induction r with
  | nil =>
      simp [keys]
  | cons entry rest ih =>
      obtain ⟨k, v⟩ := entry
      by_cases hk : k = key
      · simp [find?, keys, hk]
      · simpa [find?, keys, hk, Ne.symm hk] using ih

theorem mem_of_find? (h : find? r key = some old) : (key, old) ∈ r := by
  induction r with
  | nil =>
      cases h
  | cons entry rest ih =>
      obtain ⟨k, v⟩ := entry
      by_cases hk : k = key
      · subst hk
        rw [find?, if_pos rfl] at h
        cases h
        exact List.mem_cons_self
      · rw [find?, if_neg hk] at h
        exact List.mem_cons_of_mem _ (ih h)

theorem find?_of_mem
    (hnodup : (keys r).Nodup)
    (h : (key, old) ∈ r) :
    find? r key = some old := by
  induction r with
  | nil =>
      cases h
  | cons entry rest ih =>
      obtain ⟨k, v⟩ := entry
      obtain ⟨hnew, hnodup⟩ := List.nodup_cons.1 hnodup
      rcases List.mem_cons.1 h with heq | hmem
      · cases heq
        exact if_pos rfl
      · have hkey : key ∈ keys rest := List.mem_map_of_mem hmem
        have hk : k ≠ key := by
          rintro rfl
          exact hnew hkey
        rw [find?, if_neg hk]
        exact ih hnodup hmem

theorem mem_keys_set
    {k : κ} {value : ν}
    (h : k ∈ keys (set r key value)) :
    k ∈ keys r ∨ k = key := by
  by_cases hk : key = k
  · exact Or.inr hk.symm
  · rw [mem_keys_iff, find?_set, if_neg hk] at h
    exact Or.inl (mem_keys_iff.2 h)

theorem nodup_keys_set
    (h : (keys r).Nodup)
    (key : κ) (value : ν) :
    (keys (set r key value)).Nodup := by
  induction r with
  | nil =>
      simp [set, keys]
  | cons entry rest ih =>
      obtain ⟨k, v⟩ := entry
      obtain ⟨hnew, hnodup⟩ := List.nodup_cons.1 h
      by_cases hk : k = key
      · subst hk
        rw [set, if_pos rfl]
        exact h
      · rw [set, if_neg hk]
        refine List.nodup_cons.2 ⟨fun hmem => ?_, ih hnodup⟩
        exact (mem_keys_set hmem).elim hnew hk

theorem mem_keys_erase
    {k : κ}
    (h : k ∈ keys (erase r key)) :
    k ∈ keys r := by
  rw [mem_keys_iff, find?_erase] at h
  split at h
  · exact absurd rfl h
  · exact mem_keys_iff.2 h

theorem nodup_keys_erase
    (h : (keys r).Nodup)
    (key : κ) :
    (keys (erase r key)).Nodup := by
  induction r with
  | nil =>
      exact h
  | cons entry rest ih =>
      obtain ⟨k, v⟩ := entry
      obtain ⟨hnew, hnodup⟩ := List.nodup_cons.1 h
      by_cases hk : k = key
      · rw [erase, if_pos hk]
        exact ih hnodup
      · rw [erase, if_neg hk]
        exact List.nodup_cons.2 ⟨fun hmem => hnew (mem_keys_erase hmem), ih hnodup⟩

theorem set_of_find?_eq_none
    (h : find? r key = none)
    (value : ν) :
    set r key value = r ++ [(key, value)] := by
  induction r with
  | nil =>
      rfl
  | cons entry rest ih =>
      obtain ⟨k, v⟩ := entry
      by_cases hk : k = key
      · simp [find?, hk] at h
      · simp only [find?, if_neg hk] at h
        rw [set, if_neg hk, ih h, List.cons_append]

/-- Entering what is there already changes nothing. -/
theorem set_of_find? (h : find? r key = some old) : set r key old = r := by
  induction r with
  | nil =>
      cases h
  | cons entry rest ih =>
      obtain ⟨k, v⟩ := entry
      by_cases hk : k = key
      · subst hk
        rw [find?, if_pos rfl] at h
        cases h
        exact if_pos rfl
      · rw [find?, if_neg hk] at h
        rw [set, if_neg hk, ih h]

theorem find?_mapValues
    {ν' : Type} (f : ν → ν') (r : Registry κ ν) (key : κ) :
    find? (mapValues f r) key = (find? r key).map f := by
  induction r with
  | nil =>
      rfl
  | cons entry rest ih =>
      obtain ⟨k, v⟩ := entry
      show (if k = key then some (f v) else find? (mapValues f rest) key) = _
      rw [find?, ih]
      split <;> rfl

theorem mapValues_set
    {ν' : Type} (f : ν → ν') (r : Registry κ ν) (key : κ) (value : ν) :
    mapValues f (set r key value) = set (mapValues f r) key (f value) := by
  induction r with
  | nil =>
      rfl
  | cons entry rest ih =>
      obtain ⟨k, v⟩ := entry
      show mapValues f (if k = key then _ else _) =
        if k = key then (key, f value) :: mapValues f rest
        else (k, f v) :: set (mapValues f rest) key (f value)
      rw [← ih]
      split <;> rfl

theorem total_set_of_find?_eq_none
    (h : find? r key = none)
    (value : ν) :
    total f (set r key value) = total f r + f value := by
  induction r with
  | nil =>
      simp [set, total]
  | cons entry rest ih =>
      obtain ⟨k, v⟩ := entry
      by_cases hk : k = key
      · simp [find?, hk] at h
      · simp only [find?, if_neg hk] at h
        simp only [set, if_neg hk, total_cons, ih h]
        omega

theorem total_set_of_find?
    (h : find? r key = some old)
    (value : ν) :
    total f (set r key value) + f old = total f r + f value := by
  induction r with
  | nil =>
      cases h
  | cons entry rest ih =>
      obtain ⟨k, v⟩ := entry
      by_cases hk : k = key
      · simp only [find?, if_pos hk, Option.some.injEq] at h
        subst h
        simp only [set, if_pos hk, total_cons]
        omega
      · simp only [find?, if_neg hk] at h
        have hrest := ih h
        simp only [set, if_neg hk, total_cons]
        omega

theorem erase_of_not_mem (h : key ∉ keys r) : erase r key = r := by
  induction r with
  | nil =>
      rfl
  | cons entry rest ih =>
      obtain ⟨k, v⟩ := entry
      have hk : k ≠ key := by
        rintro rfl
        exact h List.mem_cons_self
      have hrest : key ∉ keys rest := fun hmem => h (List.mem_cons_of_mem _ hmem)
      rw [erase, if_neg hk, ih hrest]

theorem total_erase
    (hnodup : (keys r).Nodup)
    (h : find? r key = some old) :
    total f r = total f (erase r key) + f old := by
  induction r with
  | nil =>
      cases h
  | cons entry rest ih =>
      obtain ⟨k, v⟩ := entry
      obtain ⟨hnew, hnodup⟩ := List.nodup_cons.1 hnodup
      by_cases hk : k = key
      · subst hk
        simp only [find?, if_pos, Option.some.injEq] at h
        subst h
        rw [erase, if_pos rfl, erase_of_not_mem hnew, total_cons]
        exact Nat.add_comm _ _
      · simp only [find?, if_neg hk] at h
        have hrest := ih hnodup h
        simp only [erase, if_neg hk, total_cons]
        omega

/-- A sum is zero when no value adds to it. -/
theorem total_eq_zero_iff (hnodup : (keys r).Nodup) :
    total f r = 0 ↔ ∀ key value, find? r key = some value → f value = 0 := by
  have hentries : total f r = 0 ↔ ∀ entry ∈ r, f entry.2 = 0 := by
    clear hnodup
    induction r with
    | nil =>
        simp [total]
    | cons entry rest ih =>
        simp [ih]
  rw [hentries]
  constructor
  · intro h key value hfind
    exact h _ (mem_of_find? hfind)
  · rintro h ⟨key, value⟩ hmem
    exact h key value (find?_of_mem hnodup hmem)

/-- Each value is part of the sum. -/
theorem le_total (h : find? r key = some old) : f old ≤ total f r := by
  induction r with
  | nil =>
      cases h
  | cons entry rest ih =>
      obtain ⟨k, v⟩ := entry
      by_cases hk : k = key
      · simp only [find?, if_pos hk, Option.some.injEq] at h
        subst h
        simp only [total_cons]
        omega
      · simp only [find?, if_neg hk] at h
        have hrest := ih h
        simp only [total_cons]
        omega

end Registry
end ScatterGather
