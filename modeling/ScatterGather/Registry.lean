/-!
# Registries

Values by key, in the order in which the keys were first put in. A key has at most one value.

**Results.** After a change every key but the changed one gives what it gave before.
-/

namespace ScatterGather

/-- Values by key. -/
abbrev Registry (κ ν : Type) := List (κ × ν)

namespace Registry

variable {κ ν : Type} [DecidableEq κ]

/-- The value under a key. -/
def find? : Registry κ ν → κ → Option ν
  | [], _ => none
  | (k, v) :: rest, key => if k = key then some v else find? rest key

/-- Puts a value under a key, in the place of the value there or at the end. -/
def set : Registry κ ν → κ → ν → Registry κ ν
  | [], key, value => [(key, value)]
  | (k, v) :: rest, key, value =>
    if k = key then (key, value) :: rest else (k, v) :: set rest key value

/-- Takes a key out. -/
def erase : Registry κ ν → κ → Registry κ ν
  | [], _ => []
  | (k, v) :: rest, key => if k = key then erase rest key else (k, v) :: erase rest key

/-- The sum over all values. -/
def total (f : ν → Nat) : Registry κ ν → Nat
  | [] => 0
  | (_, v) :: rest => f v + total f rest

@[simp] theorem find?_nil (key : κ) : find? ([] : Registry κ ν) key = none := rfl

theorem find?_set (r : Registry κ ν) (key other : κ) (value : ν) :
    find? (set r key value) other = if key = other then some value else find? r other := by
  induction r with
  | nil => rfl
  | cons entry rest ih =>
    obtain ⟨k, v⟩ := entry
    by_cases hk : k = key
    · subst hk
      by_cases ho : k = other <;> simp [set, find?, ho]
    · by_cases ho : k = other
      · subst ho
        simp [set, find?, hk, Ne.symm hk]
      · simp [set, find?, hk, ho, ih]

theorem find?_erase (r : Registry κ ν) (key other : κ) :
    find? (erase r key) other = if key = other then none else find? r other := by
  induction r with
  | nil => simp [erase]
  | cons entry rest ih =>
    obtain ⟨k, v⟩ := entry
    by_cases hk : k = key
    · subst hk
      by_cases ho : k = other
      · subst ho
        simpa [erase] using ih
      · simpa [erase, find?, ho] using ih
    · by_cases ho : k = other
      · subst ho
        simp [erase, find?, hk, Ne.symm hk]
      · simp [erase, find?, hk, ho, ih]

end Registry
end ScatterGather
