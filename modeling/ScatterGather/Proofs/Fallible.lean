import Mathlib.Data.List.Forall2

/-!
# Computations that may fail

**Results.** A sequence of two computations succeeds exactly when both do. A computation done for
each entry of a list succeeds exactly when it does so for every one, and otherwise fails as it does
for the first entry for which it fails; it may be done for the lists of a list one after the other.
Results that come entry by entry are equal exactly when they are so at every entry. Which of the
first failures of several lists comes first is the first failure of all of them in turn.
-/

namespace ScatterGather
namespace Fallible

universe u

variable {ε α β γ : Type u}

theorem bind_eq_ok_iff
    {first : Except ε α} {next : α → Except ε β} {b : β} :
    (first >>= next) = .ok b ↔ ∃ a, first = .ok a ∧ next a = .ok b := by
  cases first with
  | error e =>
      constructor
      · intro h
        cases h
      · rintro ⟨a, ha, -⟩
        cases ha
  | ok a =>
      constructor
      · intro h
        exact ⟨a, rfl, h⟩
      · rintro ⟨a', ha, h⟩
        cases ha
        exact h

theorem mapError_eq_ok_iff
    {ε' : Type u} {f : ε → ε'} {x : Except ε α} {a : α} :
    x.mapError f = .ok a ↔ x = .ok a := by
  cases x <;> simp [Except.mapError]

theorem mapError_eq_error_iff
    {ε' : Type u} {f : ε → ε'} {x : Except ε α} {e : ε}
    (hf : ∀ e', f e' = f e → e' = e) :
    x.mapError f = .error (f e) ↔ x = .error e := by
  cases x with
  | error e' =>
      simp only [Except.mapError, Except.error.injEq]
      exact ⟨hf e', congrArg f⟩
  | ok a =>
      simp [Except.mapError]

theorem mapM_eq_ok
    {f : α → Except ε β} {g : α → β} {as : List α}
    (h : ∀ a ∈ as, f a = .ok (g a)) :
    as.mapM f = .ok (as.map g) := by
  induction as with
  | nil =>
      rfl
  | cons a as ih =>
      obtain ⟨ha, has⟩ := List.forall_mem_cons.1 h
      rw [List.mapM_cons, ha, ih has]
      rfl

theorem mapM_eq_error
    {f : α → Except ε β} {a : α} {as : List α} {e : ε}
    (h : f a = .error e) :
    (a :: as).mapM f = .error e := by
  rw [List.mapM_cons, h]
  rfl

theorem mapM_eq_ok_iff
    {f : α → Except ε β} {as : List α} {bs : List β} :
    as.mapM f = .ok bs ↔ List.Forall₂ (fun a b => f a = .ok b) as bs := by
  induction as generalizing bs with
  | nil =>
      cases bs <;> simp [pure, Except.pure]
  | cons a as ih =>
      rw [List.mapM_cons, bind_eq_ok_iff]
      constructor
      · rintro ⟨b, hb, h⟩
        obtain ⟨rest, hrest, h⟩ := bind_eq_ok_iff.1 h
        cases h
        exact .cons hb (ih.1 hrest)
      · intro h
        cases h with
        | cons hb hrest =>
            exact ⟨_, hb, bind_eq_ok_iff.2 ⟨_, ih.2 hrest, rfl⟩⟩

/-- What a list is mapped to has at each place what comes of the entry there. -/
theorem getElem?_of_mapM
    {f : α → Except ε β} {as : List α} {bs : List β}
    (h : as.mapM f = .ok bs)
    (place : Nat) :
    as[place]?.map f = bs[place]?.map .ok := by
  have hall := mapM_eq_ok_iff.1 h
  clear h
  induction hall generalizing place with
  | nil =>
      rfl
  | cons hfirst _ ih =>
      cases place with
      | zero => simp [hfirst]
      | succ place => simpa using ih place

/-- Every result is that of some entry. -/
theorem exists_of_forall₂
    {R : α → β → Prop} {as : List α} {bs : List β} {b : β}
    (h : List.Forall₂ R as bs)
    (hb : b ∈ bs) :
    ∃ a, R a b := by
  induction h with
  | nil =>
      cases hb
  | cons hfirst _ ih =>
      rcases List.mem_cons.1 hb with rfl | hb
      · exact ⟨_, hfirst⟩
      · exact ih hb

/-- Results that come entry by entry are equal exactly when they are so for every entry. -/
theorem eq_iff_of_forall₂
    {R S : α → β → Prop} {P : α → Prop} {as : List α} {bs cs : List β}
    (hbs : List.Forall₂ R as bs)
    (hcs : List.Forall₂ S as cs)
    (h : ∀ a b c, R a b → S a c → (b = c ↔ P a)) :
    bs = cs ↔ ∀ a ∈ as, P a := by
  induction hbs generalizing cs with
  | nil =>
      cases hcs
      simp
  | cons hb _ ih =>
      obtain ⟨c, rest, hc, hrest, rfl⟩ := List.forall₂_cons_left_iff.1 hcs
      rw [List.cons.injEq, List.forall_mem_cons, h _ _ _ hb hc, ih hrest]

/-- Two computations that agree entry by entry. -/
theorem mapM_congr
    {f : α → Except ε γ} {g : β → Except ε γ} {as : List α} {bs : List β}
    (h : List.Forall₂ (fun a b => f a = g b) as bs) :
    as.mapM f = bs.mapM g := by
  induction h with
  | nil =>
      rfl
  | cons hab _ ih =>
      rw [List.mapM_cons, List.mapM_cons, hab, ih]

/-- The first entry that fails decides. -/
theorem mapM_append_error
    {f : α → Except ε β} {before after : List α} {a : α} {e : ε}
    (hbefore : ∀ b ∈ before, ∃ c, f b = .ok c)
    (h : f a = .error e) :
    (before ++ a :: after).mapM f = .error e := by
  induction before with
  | nil =>
      rw [List.nil_append, List.mapM_cons, h]
      rfl
  | cons b before ih =>
      obtain ⟨⟨c, hc⟩, hrest⟩ := List.forall_mem_cons.1 hbefore
      rw [List.cons_append, List.mapM_cons, hc, ih hrest]
      rfl

/-- Going through lists one after the other. -/
theorem mapM_flatten (f : α → Except ε β) (lists : List (List α)) :
    (do let results ← lists.mapM (List.mapM f); return results.flatten) =
      lists.flatten.mapM f := by
  induction lists with
  | nil =>
      rfl
  | cons list lists ih =>
      rw [List.flatten_cons, List.mapM_append, ← ih, List.mapM_cons]
      cases list.mapM f with
      | error e =>
          rfl
      | ok first =>
          cases lists.mapM (List.mapM f) with
          | error e =>
              rfl
          | ok rest =>
              rfl

/-- How the first entry of a list that fails does so. -/
inductive FirstFault (fails : α → ε → Prop) : List α → ε → Prop
  | here
      {a : α} {as : List α} {e : ε}
      (h : fails a e) :
      FirstFault fails (a :: as) e
  | later
      {a : α} {as : List α} {e : ε}
      (hbefore : ∀ e', ¬ fails a e')
      (h : FirstFault fails as e) :
      FirstFault fails (a :: as) e

variable {fails : α → ε → Prop} {a : α} {as bs : List α} {e : ε}

theorem not_firstFault_nil : ¬ FirstFault fails [] e :=
  nofun

theorem firstFault_cons :
    FirstFault fails (a :: as) e ↔ fails a e ∨ (∀ e', ¬ fails a e') ∧ FirstFault fails as e := by
  constructor
  · intro h
    cases h with
    | here h => exact Or.inl h
    | later hbefore h => exact Or.inr ⟨hbefore, h⟩
  · rintro (h | ⟨hbefore, h⟩)
    · exact .here h
    · exact .later hbefore h

/-- Nothing fails first exactly when nothing fails. -/
theorem forall_not_firstFault_iff :
    (∀ e, ¬ FirstFault fails as e) ↔ ∀ a ∈ as, ∀ e, ¬ fails a e := by
  induction as with
  | nil =>
      simp [not_firstFault_nil]
  | cons a as ih =>
      rw [List.forall_mem_cons, ← ih]
      constructor
      · intro h
        have hfirst : ∀ e, ¬ fails a e := fun e ha => h e (.here ha)
        exact ⟨hfirst, fun e has => h e (.later hfirst has)⟩
      · rintro ⟨hfirst, hrest⟩ e h
        rcases firstFault_cons.1 h with ha | ⟨-, has⟩
        · exact hfirst e ha
        · exact hrest e has

theorem firstFault_append :
    FirstFault fails (as ++ bs) e ↔
      FirstFault fails as e ∨ (∀ a ∈ as, ∀ e', ¬ fails a e') ∧ FirstFault fails bs e := by
  induction as with
  | nil =>
      simp [not_firstFault_nil]
  | cons a as ih =>
      rw [List.cons_append, firstFault_cons, firstFault_cons, ih, List.forall_mem_cons]
      tauto

/-- Failing in the same way entry by entry. -/
theorem firstFault_congr
    {fails : α → ε → Prop} {fails' : β → ε → Prop} {as : List α} {bs : List β}
    (h : List.Forall₂ (fun a b => ∀ e, fails a e ↔ fails' b e) as bs) :
    FirstFault fails as e ↔ FirstFault fails' bs e := by
  induction h with
  | nil =>
      exact ⟨nofun, nofun⟩
  | cons hab _ ih =>
      rw [firstFault_cons, firstFault_cons, ih]
      simp only [hab]

/-- The first failure in the first list that has one is the first failure of all. -/
theorem firstFault_flatMap
    {fails : β → ε → Prop} (checks : α → List β) :
    FirstFault (fun a e => FirstFault fails (checks a) e) as e ↔
      FirstFault fails (as.flatMap checks) e := by
  induction as with
  | nil =>
      exact ⟨nofun, nofun⟩
  | cons a as ih =>
      rw [List.flatMap_cons, firstFault_append, firstFault_cons, ih, forall_not_firstFault_iff]

/-- A sequence of two computations fails as the first does, or as the second does after it. -/
theorem bind_eq_error_iff
    {first : Except ε α} {next : α → Except ε β} :
    (first >>= next) = .error e ↔ first = .error e ∨ ∃ a, first = .ok a ∧ next a = .error e := by
  cases first with
  | error fault =>
      constructor
      · intro h
        cases h
        exact Or.inl rfl
      · rintro (h | ⟨a, ha, -⟩)
        · cases h
          rfl
        · cases ha
  | ok a =>
      constructor
      · intro h
        exact Or.inr ⟨a, rfl, h⟩
      · rintro (h | ⟨a', ha, h⟩)
        · cases h
        · cases ha
          exact h

theorem mapM_eq_error_iff
    {f : α → Except ε β} :
    as.mapM f = .error e ↔ FirstFault (fun a e => f a = .error e) as e := by
  induction as with
  | nil =>
      exact ⟨nofun, nofun⟩
  | cons a as ih =>
      rw [firstFault_cons, ← ih, List.mapM_cons, bind_eq_error_iff]
      have hrest : ∀ b, (as.mapM f >>= fun bs => pure (b :: bs)) = .error e ↔
          as.mapM f = .error e := by
        intro b
        rw [bind_eq_error_iff]
        simp [pure, Except.pure]
      simp only [hrest]
      cases f a <;> simp

end Fallible
end ScatterGather
