import Mathlib.Data.List.Induction
import Mathlib.Data.List.Perm.Subperm
import ScatterGather.NumberMap

/-!
# Maps made of lists

**Results.** A map made of a list keeps, for every key, the last entry of that key; it drops the
others and puts what is left in order, so its entries are the list itself exactly when the keys of
the list ascend.
-/

namespace ScatterGather
namespace NumberMap

variable {α : Type}

theorem ofList_append_singleton
    (entries : List (Int32 × α)) (entry : Int32 × α) :
    ofList (entries ++ [entry]) = (ofList entries).insert entry.1 entry.2 := by
  simp [ofList]

/-- Of several entries of one key the last one counts. -/
theorem get?_ofList
    (entries : List (Int32 × α)) (key : Int32) :
    (ofList entries).get? key =
      ((entries.filter fun entry => entry.1 = key).getLast?).map Prod.snd := by
  induction entries using List.reverseRecOn with
  | nil =>
      rfl
  | append_singleton entries entry ih =>
      rw [ofList_append_singleton, get?_insert, List.filter_append, List.getLast?_append, ih]
      by_cases hkey : entry.1 = key
      · simp [hkey]
      · simp [hkey, Ne.symm hkey]

/-- Placing an entry adds it, or puts it where another one was. -/
theorem place_subperm
    (key : Int32) (value : α) (entries : List (Int32 × α)) :
    (place key value entries).Subperm ((key, value) :: entries) := by
  induction entries with
  | nil =>
      exact (List.Perm.refl _).subperm
  | cons first rest ih =>
      unfold place
      split
      · exact (List.Perm.refl _).subperm
      · split
        · exact (List.subperm_cons _).2 ((List.sublist_cons_self _ _).subperm)
        · exact ((List.subperm_cons first).2 ih).trans (List.Perm.swap _ _ _).subperm

/-- The entries of a map are among those it was made of, each as often at the most. -/
theorem entries_ofList_subperm
    (entries : List (Int32 × α)) :
    (ofList entries).entries.Subperm entries := by
  induction entries using List.reverseRecOn with
  | nil =>
      exact (List.Perm.refl _).subperm
  | append_singleton entries entry ih =>
      rw [ofList_append_singleton]
      have hplace : ((ofList entries).insert entry.1 entry.2).entries.Subperm
          (entry :: (ofList entries).entries) := place_subperm _ _ _
      have hmove : (entry :: entries).Perm (entries ++ [entry]) :=
        (List.perm_append_singleton entry entries).symm
      exact hplace.trans (((List.subperm_cons entry).2 ih).trans hmove.subperm)

/-- A list is left as it is exactly when its keys ascend. -/
theorem entries_ofList_eq_iff
    (entries : List (Int32 × α)) :
    (ofList entries).entries = entries ↔ (entries.map Prod.fst).Pairwise (· < ·) := by
  rw [List.pairwise_map]
  constructor
  · intro h
    rw [← h]
    exact (ofList entries).ascending
  · intro h
    have hfold := entries_foldl_insert empty entries (by simpa [empty] using h)
    simpa [ofList, empty] using hfold

end NumberMap
end ScatterGather
