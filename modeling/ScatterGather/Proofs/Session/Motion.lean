import ScatterGather.Proofs.Session.Acting

/-!
# Motions of a session

A merge that is pulled from asks its inputs one after the other. While it does so others may act, so
that what is done to the mailboxes of a process comes in smaller parts than acts: in motions, each
of which is an act or one turn of a merge.

**Results.** Whatever motions are made, and in whatever order, the mailboxes of a session are in
order with regard to what is held.
-/

namespace ScatterGather

/-- An act, or one turn of a merge. -/
inductive Motion where
  | act (act : Act)
  | turn (number : Nat)
deriving DecidableEq

namespace Mailboxes

/-- A merge asks the input at the front of its queue. -/
def takeTurn (s : Mailboxes) (number : Nat) : Mailboxes :=
  match Registry.find? s.merges number with
  | some m => (s.turn number m).2.2
  | none => s

theorem takeTurn_of_find?
    {s : Mailboxes} {number : Nat} {m : Merge}
    (hm : Registry.find? s.merges number = some m) :
    s.takeTurn number = (s.turn number m).2.2 := by
  rw [takeTurn, hm]

/-- What a turn of a merge adds to a history: a pull of which nothing is known but this turn. -/
def turnEvents (s : Mailboxes) (number : Nat) : List Event :=
  match Registry.find? s.merges number with
  | some m =>
    [.pulled number m.receivers ⟨(s.turn number m).1, (s.turn number m).2.1.packet?⟩]
  | none => []

variable {H : History} {outer : Receiver → Prop} {lent : Receiver → Nat}
variable {attached spent : Receiver → Prop} {s : Mailboxes}

theorem Orderly.takeTurn
    (h : s.Orderly H outer lent attached spent)
    (number : Nat) :
    (s.takeTurn number).Orderly (H ++ s.turnEvents number) outer lent attached spent := by
  unfold Mailboxes.takeTurn turnEvents
  cases hm : Registry.find? s.merges number with
  | none =>
      rw [List.append_nil]
      exact h
  | some m =>
      have hsound := (h.sound.beginPull hm).turn hm
      obtain ⟨hserves, hwired⟩ := h.sound.serves_turn h.wired hm
      rw [List.nil_append] at hsound
      refine h.serve hserves (fun r hr hused => ?_) hwired hsound
      exact h.sound.not_outer ⟨m, hm, hused⟩ hr

end Mailboxes

namespace Session

variable {H : History} {attached spent : Receiver → Prop} {s : Session}

/-- Makes one motion. -/
def move (s : Session) : Motion → Session
  | .act act => s.perform act
  | .turn number => s.withMailboxes (s.mailboxes.takeTurn number)

/-- Makes motions in turn. -/
def moveAll (s : Session) : List Motion → Session
  | [] => s
  | motion :: motions => (s.move motion).moveAll motions

theorem Orderly.move
    (h : s.Orderly H attached spent)
    (motion : Motion) :
    ∃ H' attached', (s.move motion).Orderly H' attached' spent := by
  cases motion with
  | act act =>
      exact ⟨_, _, h.perform act⟩
  | turn number =>
      exact ⟨_, _, h.withMailboxes (h.mailboxes.takeTurn number)⟩

theorem Orderly.moveAll
    (h : s.Orderly H attached spent)
    (motions : List Motion) :
    ∃ H' attached', (s.moveAll motions).Orderly H' attached' spent := by
  induction motions generalizing s H attached with
  | nil =>
      exact ⟨H, attached, h⟩
  | cons motion motions ih =>
      obtain ⟨_, _, hmoved⟩ := h.move motion
      exact ih hmoved

/-- What every motion keeps of a session in order is kept by all motions. -/
theorem Orderly.moveAll_induction
    {P : Session → Prop}
    (h : s.Orderly H attached spent)
    (hmove : ∀ {s : Session} {H attached}, s.Orderly H attached spent → P s →
      ∀ motion, P (s.move motion))
    (hs : P s)
    (motions : List Motion) :
    P (s.moveAll motions) := by
  induction motions generalizing s H attached with
  | nil =>
      exact hs
  | cons motion motions ih =>
      obtain ⟨_, _, hmoved⟩ := h.move motion
      exact ih hmoved (hmove h hs motion)

/-- **Order.** Whatever motions are made from the start, the mailboxes of a session are in order. -/
theorem orderly_moveAll
    (host : String) (mailboxPort : UInt16) (capacity : Nat) (motions : List Motion) :
    ∃ H attached, ((ofMailboxes (.create host mailboxPort capacity)).moveAll motions).Orderly H
      attached (fun _ => False) :=
  (orderly_start host mailboxPort capacity).moveAll motions

end Session
end ScatterGather
