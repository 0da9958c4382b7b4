/-!
# Maps from numbers

A map whose keys are 32-bit numbers, listed in ascending order of the keys. Two maps are equal
exactly when they hold the same entries.

**Results.** Inserting keeps the order, looking up the inserted key gives the new value, and all
other keys keep theirs. A map is the map of its entries.
-/

namespace ScatterGather

/-- A map from 32-bit numbers. -/
structure NumberMap (α : Type) where
  entries : List (Int32 × α)
  ascending : entries.Pairwise fun a b => a.1 < b.1

namespace NumberMap

variable {α : Type}

instance [DecidableEq α] : DecidableEq (NumberMap α) := fun a b =>
  decidable_of_iff (a.entries = b.entries)
    ⟨fun h => by cases a; cases b; simp_all, fun h => by rw [h]⟩

/-- The map without entries. -/
def empty : NumberMap α :=
  ⟨[], List.Pairwise.nil⟩

instance : Inhabited (NumberMap α) := ⟨empty⟩

/-- The keys, in ascending order. -/
def keys (m : NumberMap α) : List Int32 :=
  m.entries.map Prod.fst

/-- The value under a key. -/
def get? (m : NumberMap α) (key : Int32) : Option α :=
  (m.entries.find? fun entry => entry.1 = key).map Prod.snd

/-- Puts an entry in its place, replacing an entry of the same key. -/
def place (key : Int32) (value : α) : List (Int32 × α) → List (Int32 × α)
  | [] => [(key, value)]
  | entry :: rest =>
    if key < entry.1 then (key, value) :: entry :: rest
    else if key = entry.1 then (key, value) :: rest
    else entry :: place key value rest

theorem mem_place {key : Int32} {value : α} {entries : List (Int32 × α)} {entry : Int32 × α}
    (h : entry ∈ place key value entries) : entry = (key, value) ∨ entry ∈ entries := by
  induction entries with
  | nil => simpa [place] using h
  | cons first rest ih =>
    unfold place at h
    split at h
    · simpa using h
    · split at h
      · rcases List.mem_cons.1 h with h | h
        · exact Or.inl h
        · exact Or.inr (List.mem_cons_of_mem _ h)
      · rcases List.mem_cons.1 h with h | h
        · exact Or.inr (by simp [h])
        · exact (ih h).imp id (List.mem_cons_of_mem _)

theorem ascending_place {key : Int32} {value : α} {entries : List (Int32 × α)}
    (h : entries.Pairwise fun a b => a.1 < b.1) :
    (place key value entries).Pairwise fun a b => a.1 < b.1 := by
  induction entries with
  | nil => simp [place]
  | cons first rest ih =>
    obtain ⟨hfirst, hrest⟩ := List.pairwise_cons.1 h
    unfold place
    split
    · next hlt =>
      refine List.pairwise_cons.2 ⟨fun entry hentry => ?_, h⟩
      rcases List.mem_cons.1 hentry with rfl | hentry
      · exact hlt
      · exact Int32.lt_trans hlt (hfirst entry hentry)
    · next hlt =>
      split
      · next heq =>
        refine List.pairwise_cons.2 ⟨fun entry hentry => ?_, hrest⟩
        simpa [heq] using hfirst entry hentry
      · next hne =>
        refine List.pairwise_cons.2 ⟨fun entry hentry => ?_, ih hrest⟩
        rcases mem_place hentry with rfl | hentry
        · rw [Int32.lt_iff_toInt_lt] at hlt ⊢
          rw [← Int32.toInt_inj] at hne
          show first.1.toInt < key.toInt
          omega
        · exact hfirst entry hentry

/-- The map with the value under the key. -/
def insert (m : NumberMap α) (key : Int32) (value : α) : NumberMap α :=
  ⟨place key value m.entries, ascending_place m.ascending⟩

/-- The map of a list of entries; of several entries of one key the last one counts. -/
def ofList (entries : List (Int32 × α)) : NumberMap α :=
  entries.foldl (fun m entry => m.insert entry.1 entry.2) empty

theorem ext {m n : NumberMap α} (h : m.entries = n.entries) : m = n := by
  cases m
  cases n
  simp_all

/-- A key above all others is placed at the end. -/
theorem place_of_forall_lt {key : Int32} {value : α} {entries : List (Int32 × α)}
    (h : ∀ entry ∈ entries, entry.1 < key) :
    place key value entries = entries ++ [(key, value)] := by
  induction entries with
  | nil => rfl
  | cons first rest ih =>
    obtain ⟨hfirst, hrest⟩ := List.forall_mem_cons.1 h
    have hlt : ¬ key < first.1 := fun hkey => Int32.lt_irrefl (Int32.lt_trans hkey hfirst)
    have hne : key ≠ first.1 := fun heq => Int32.lt_irrefl (heq ▸ hfirst)
    rw [place, if_neg hlt, if_neg hne, ih hrest, List.cons_append]

theorem entries_foldl_insert (m : NumberMap α) (entries : List (Int32 × α))
    (h : (m.entries ++ entries).Pairwise fun a b => a.1 < b.1) :
    (entries.foldl (fun m entry => m.insert entry.1 entry.2) m).entries =
      m.entries ++ entries := by
  induction entries generalizing m with
  | nil => simp
  | cons entry rest ih =>
    have hlast : ∀ other ∈ m.entries, other.1 < entry.1 := fun other hother =>
      (List.pairwise_append.1 h).2.2 other hother entry (by simp)
    have hinsert : (m.insert entry.1 entry.2).entries = m.entries ++ [entry] :=
      place_of_forall_lt hlast
    rw [List.foldl_cons, ih _ (by simpa [hinsert] using h), hinsert]
    simp

/-- A map is the map of its entries. -/
theorem ofList_entries (m : NumberMap α) : ofList m.entries = m := by
  apply ext
  have h := entries_foldl_insert empty m.entries (by simpa [empty] using m.ascending)
  simpa [ofList, empty] using h

theorem find?_place (key other : Int32) (value : α) (entries : List (Int32 × α)) :
    ((place key value entries).find? fun entry => entry.1 = other) =
      if other = key then some (key, value)
      else entries.find? fun entry => entry.1 = other := by
  induction entries with
  | nil => by_cases h : other = key <;> simp [place, h, eq_comm]
  | cons first rest ih =>
    unfold place
    by_cases hkey : other = key
    · subst hkey
      split
      · simp
      · split
        · simp
        · next hne => simp_all [eq_comm]
    · split
      · simp [hkey, eq_comm]
      · split
        · next heq => simp_all [eq_comm]
        · simp only [List.find?_cons, ih, hkey, if_false]

theorem get?_insert (m : NumberMap α) (key other : Int32) (value : α) :
    (m.insert key value).get? other = if other = key then some value else m.get? other := by
  simp only [get?, insert, find?_place]
  split <;> rfl

end NumberMap
end ScatterGather
