import ScatterGather.Proofs.Mailboxes.Frame
import ScatterGather.Proofs.Session.Acts

/-!
# Merges that nobody holds by name

A merge that was opened, but not under a name, can only be used by its number. What others do, who
know names only, does not concern it.

**Results.** Such a merge stays open over the same receivers whatever is done, until it is dropped
by its number, and nobody else pulls from it.
-/

namespace ScatterGather
namespace Session

variable {s : Session} {number : Nat} {inputs : List Receiver}

/-- The merges that are held by name. -/
def HoldsMerge (s : Session) (k : Nat) : Prop :=
  ∃ name, s.find? name = some (.merge k)

theorem find?_hold
    (s : Session) (name other : String) (handle : Handle) (mailboxes : Mailboxes) :
    (s.hold name handle mailboxes).find? other =
      if name = other then some handle else s.find? other :=
  Registry.find?_set s.held name other handle

theorem mailboxes_hold_of_eq_none
    {name : String} {handle : Handle} {mailboxes : Mailboxes}
    (hfree : s.find? name = none) :
    (s.hold name handle mailboxes).mailboxes = mailboxes := by
  unfold Session.hold
  rw [hfree]

theorem mailboxes_hold_of_eq_some
    {name : String} {handle old : Handle} {mailboxes : Mailboxes}
    (hheld : s.find? name = some old) :
    (s.hold name handle mailboxes).mailboxes = mailboxes.dropHandle old := by
  unfold Session.hold
  rw [hheld]

theorem find?_without (s : Session) (name other : String) (mailboxes : Mailboxes) :
    (s.without name mailboxes).find? other = if name = other then none else s.find? other :=
  Registry.find?_erase s.held name other

/-! ## What a step leaves alone -/

theorem leaves_dropHandle
    {gone : Nat → Prop}
    (mailboxes : Mailboxes) (handle : Handle)
    (hgone : ∀ k, handle = .merge k → gone k) :
    Mailboxes.Leaves gone mailboxes (mailboxes.dropHandle handle) := by
  cases handle with
  | sender sender =>
      exact Mailboxes.leaves_dropSender mailboxes sender
  | pendingSend pending =>
      exact Mailboxes.leaves_dropPendingSend mailboxes pending
  | receiver r =>
      exact Mailboxes.leaves_dropReceiver mailboxes r
  | merge k =>
      exact Mailboxes.leaves_dropMerge mailboxes (hgone k rfl)

theorem leaves_hold (s : Session) (name : String) (handle : Handle) (mailboxes : Mailboxes) :
    Mailboxes.Leaves s.HoldsMerge mailboxes (s.hold name handle mailboxes).mailboxes := by
  unfold hold
  dsimp only
  split
  · next old hold =>
      exact leaves_dropHandle mailboxes old fun k hk => ⟨name, hk ▸ hold⟩
  · exact .refl mailboxes

theorem Takes.leaves
    {events : List Event} {opened : List Sender} {given : List Receiver} {s' : Session}
    (ht : s.Takes events opened given s') :
    Mailboxes.Leaves s.HoldsMerge s.mailboxes s'.mailboxes := by
  cases ht with
  | idle =>
      exact .refl _
  | openSender id name =>
      exact (Mailboxes.leaves_openSender s.mailboxes id).trans (leaves_hold s name _ _)
  | @cloneSender held sender _ name =>
      exact (Mailboxes.leaves_cloneSender s.mailboxes sender).trans (leaves_hold s name _ _)
  | drop hheld =>
      exact leaves_dropHandle s.mailboxes _ fun k hk => ⟨_, hk ▸ hheld⟩
  | @send held sender _ p =>
      exact Mailboxes.leaves_send s.mailboxes sender p
  | @sendWaiting held sender p _ _ =>
      exact Mailboxes.leaves_sendWaiting s.mailboxes sender p
  | @wait held sender p pending _ _ name =>
      exact (Mailboxes.leaves_sendWaiting s.mailboxes sender p).trans (leaves_hold s name _ _)
  | @retry held pending _ _ =>
      exact Mailboxes.leaves_retry s.mailboxes pending
  | @redeem held pending _ _ =>
      exact Mailboxes.leaves_retry s.mailboxes pending
  | @openReceiver id r _ name =>
      exact (Mailboxes.leaves_openReceiver s.mailboxes id).trans (leaves_hold s name _ _)
  | @refuseReceiver id fault _ =>
      exact Mailboxes.leaves_openReceiver s.mailboxes id
  | @receive held r _ =>
      exact Mailboxes.leaves_receive s.mailboxes r none
  | @openMerge request number _ name =>
      exact (Mailboxes.leaves_openMerge s.mailboxes request).trans (leaves_hold s name _ _)
  | refuseMerge request =>
      exact Mailboxes.leaves_openMerge s.mailboxes request
  | @pull held number _ =>
      exact Mailboxes.leaves_pull s.mailboxes number
  | release id =>
      exact Mailboxes.leaves_release s.mailboxes id

/-- A merge that is held by name after a step was held before, or has just been opened. -/
theorem Takes.holdsMerge
    {events : List Event} {opened : List Sender} {given : List Receiver} {s' : Session} {k : Nat}
    (ht : s.Takes events opened given s')
    (h : s'.HoldsMerge k) :
    s.HoldsMerge k ∨ (s.mailboxes.nextMerge ≤ k ∧ k < s'.mailboxes.nextMerge) := by
  obtain ⟨other, hother⟩ := h
  have hholds : ∀ (name : String) (handle : Handle) (mailboxes : Mailboxes),
      (∀ k, handle ≠ .merge k) → (s.hold name handle mailboxes).find? other = some (.merge k) →
        s.HoldsMerge k := by
    intro name handle mailboxes hnot hfind
    rw [find?_hold] at hfind
    split at hfind
    · exact absurd (Option.some.inj hfind) (hnot k)
    · exact ⟨other, hfind⟩
  have hwithout : ∀ (name : String) (mailboxes : Mailboxes),
      (s.without name mailboxes).find? other = some (.merge k) → s.HoldsMerge k := by
    intro name mailboxes hfind
    rw [find?_without] at hfind
    split at hfind
    · cases hfind
    · exact ⟨other, hfind⟩
  cases ht with
  | openSender id name =>
      exact Or.inl (hholds name _ _ (by simp) hother)
  | cloneSender _ name =>
      exact Or.inl (hholds name _ _ (by simp) hother)
  | drop _ =>
      exact Or.inl (hwithout _ _ hother)
  | wait _ _ name =>
      exact Or.inl (hholds name _ _ (by simp) hother)
  | redeem _ _ =>
      exact Or.inl (hwithout _ _ hother)
  | openReceiver _ name =>
      exact Or.inl (hholds name _ _ (by simp) hother)
  | @openMerge request number hanswer name =>
      rw [find?_hold] at hother
      split at hother
      · cases hother
        obtain ⟨hnumber, hafter⟩ := Mailboxes.openMerge_number hanswer
        have hnext := (leaves_hold s name (.merge k) (s.mailboxes.openMerge request).2).next
        rw [hafter] at hnext
        exact Or.inr ⟨Nat.le_of_eq hnumber.symm, hnext⟩
      · exact Or.inl ⟨other, hother⟩
  | _ =>
      exact Or.inl ⟨other, hother⟩

theorem leaves_step (s : Session) (step : Step) :
    Mailboxes.Leaves s.HoldsMerge s.mailboxes (s.step step).2.mailboxes :=
  (takes_step s step).leaves

/-- Runs leave the address of the mailboxes alone. -/
theorem leaves_run (s : Session) (steps : List Step) :
    Mailboxes.Leaves (fun _ => True) s.mailboxes (s.run steps).2.mailboxes := by
  induction steps generalizing s with
  | nil =>
      exact .refl _
  | cons step steps ih =>
      exact ((leaves_step s step).mono fun _ _ => trivial).trans (ih (s.step step).2)

/-! ## Merges held by name -/

/-- The merges that are held by name have numbers that were given. -/
def Numbered (s : Session) : Prop :=
  ∀ k, s.HoldsMerge k → k < s.mailboxes.nextMerge

theorem Numbered.step
    (h : s.Numbered)
    (step : Step) :
    (s.step step).2.Numbered := by
  intro k hk
  rcases (takes_step s step).holdsMerge hk with hheld | ⟨-, hlt⟩
  · exact Nat.lt_of_lt_of_le (h k hheld) (leaves_step s step).next
  · exact hlt

theorem Numbered.run
    (h : s.Numbered)
    (steps : List Step) :
    (s.run steps).2.Numbered := by
  induction steps generalizing s with
  | nil =>
      exact h
  | cons step steps ih =>
      exact ih (h.step step)

theorem numbered_start (mailboxes : Mailboxes) : (ofMailboxes mailboxes).Numbered := by
  rintro k ⟨name, hname⟩
  cases hname

/-! ## A merge of one's own -/

/-- A merge over these receivers is open, and nobody holds it by name. -/
structure Owns (s : Session) (number : Nat) (inputs : List Receiver) : Prop where
  below : number < s.mailboxes.nextMerge
  inputs : s.mailboxes.inputs? number = some inputs
  unheld : ¬ s.HoldsMerge number

namespace Owns

theorem find?
    (h : s.Owns number inputs) :
    ∃ m, Registry.find? s.mailboxes.merges number = some m ∧ m.receivers = inputs := by
  have hinputs := h.inputs
  unfold Mailboxes.inputs? at hinputs
  exact Option.map_eq_some_iff.1 hinputs

theorem withMailboxes
    {gone : Nat → Prop} {mailboxes : Mailboxes}
    (h : s.Owns number inputs)
    (hleaves : Mailboxes.Leaves gone s.mailboxes mailboxes)
    (hgone : ¬ gone number) :
    (s.withMailboxes mailboxes).Owns number inputs where
  below := Nat.lt_of_lt_of_le h.below hleaves.next
  inputs := (hleaves.inputs number h.below hgone).trans h.inputs
  unheld := h.unheld

theorem step
    (h : s.Owns number inputs)
    (step : Step) :
    (s.step step).2.Owns number inputs where
  below := Nat.lt_of_lt_of_le h.below (leaves_step s step).next
  inputs := ((leaves_step s step).inputs number h.below h.unheld).trans h.inputs
  unheld hheld := by
    rcases (takes_step s step).holdsMerge hheld with hbefore | ⟨hle, -⟩
    · exact h.unheld hbefore
    · exact absurd h.below (Nat.not_lt.2 hle)

theorem pull
    (h : s.Owns number inputs)
    (k : Nat) :
    (s.withMailboxes (s.mailboxes.pull k).mailboxes).Owns number inputs := by
  have hleaves : Mailboxes.Leaves (fun _ => False) s.mailboxes (s.mailboxes.pull k).mailboxes :=
    Mailboxes.leaves_pull s.mailboxes k
  exact h.withMailboxes hleaves not_false

theorem run
    (h : s.Owns number inputs)
    (steps : List Step) :
    (s.run steps).2.Owns number inputs := by
  induction steps generalizing s with
  | nil =>
      exact h
  | cons step steps ih =>
      exact ih (h.step step)

end Owns

/-- What is opened by number is one's own. -/
theorem Sound.owns_openMerge
    {H : History} {request : MergeRequest}
    (h : s.Sound H)
    (hnumbered : s.Numbered)
    (hanswer : (s.mailboxes.openMerge request).1 = .ok number) :
    ∃ senders receivers,
      request.chosen = .ok senders ∧
      receivers.map Receiver.id = senders.map request.idOf ∧
      (s.withMailboxes (s.mailboxes.openMerge request).2).Owns number receivers ∧
      H.pulls number = [] ∧
      ∀ r ∈ receivers, (s.mailboxes.box r.id).First → r.generation = 0 := by
  obtain ⟨senders, receivers, hchosen, hids, hm, hpulls, hgeneration⟩ :=
    Mailboxes.Sound.openMerge_answer h hanswer
  obtain ⟨hnumber, hafter⟩ := Mailboxes.openMerge_number hanswer
  refine ⟨senders, receivers, hchosen, hids, ⟨?_, ?_, ?_⟩, hpulls, hgeneration⟩
  · show number < (s.mailboxes.openMerge request).2.nextMerge
    omega
  · show ((s.mailboxes.openMerge request).2.inputs? number) = some receivers
    unfold Mailboxes.inputs?
    rw [hm]
    rfl
  · intro hheld
    have hlt : number < s.mailboxes.nextMerge := hnumbered number hheld
    omega

/-! ## Pulls from a merge of one's own -/

theorem pulls_accepts (sender : Sender) (p : Packet) (answer : SendAnswer) (number : Nat) :
    History.pulls (sender.accepts p answer) number = [] := by
  unfold Sender.accepts
  split <;> rfl

theorem pulls_receiveEvents (mailboxes : Mailboxes) (r : Receiver) (number : Nat) :
    History.pulls (mailboxes.receiveEvents r) number = [] := by
  unfold Mailboxes.receiveEvents
  split <;> rfl

theorem pulls_asks (request : MergeRequest) (number : Nat) :
    History.pulls request.asks number = [] := by
  refine History.pulls_eq_nil fun inputs q hmem => ?_
  unfold MergeRequest.asks at hmem
  split at hmem
  · obtain ⟨id, -, hid⟩ := List.mem_map.1 hmem
    cases hid
  · cases hmem

theorem pulls_pullEvents_of_ne
    {k : Nat}
    (mailboxes : Mailboxes)
    (hk : k ≠ number) :
    History.pulls (mailboxes.pullEvents k) number = [] := by
  unfold Mailboxes.pullEvents
  split
  · exact History.pulls_pulled_of_ne hk _ _
  · rfl

/-- Others do not pull from it. -/
theorem Owns.pulls_takes
    {events : List Event} {opened : List Sender} {given : List Receiver} {s' : Session}
    (h : s.Owns number inputs)
    (ht : s.Takes events opened given s') :
    History.pulls events number = [] := by
  cases ht with
  | @send held sender _ p =>
      exact pulls_accepts sender p _ number
  | @sendWaiting held sender p _ _ =>
      exact pulls_accepts sender p _ number
  | @wait held sender p _ _ _ _ =>
      exact pulls_accepts sender p _ number
  | @retry held pending _ _ =>
      exact pulls_accepts pending.sender pending.packet _ number
  | @redeem held pending _ _ =>
      exact pulls_accepts pending.sender pending.packet _ number
  | @receive held r _ =>
      exact pulls_receiveEvents s.mailboxes r number
  | @openMerge request _ _ _ =>
      exact pulls_asks request number
  | refuseMerge request =>
      exact pulls_asks request number
  | @pull held k hheld =>
      refine pulls_pullEvents_of_ne s.mailboxes ?_
      rintro rfl
      exact h.unheld ⟨held, hheld⟩
  | _ =>
      rfl

theorem Owns.pulls_steps
    (h : s.Owns number inputs)
    (steps : List Step) :
    History.pulls (s.history (steps.map .step)) number = [] := by
  induction steps generalizing s with
  | nil =>
      rfl
  | cons step steps ih =>
      have hrest := ih (h.step step)
      have hfirst := h.pulls_takes (takes_step s step)
      show History.pulls
        (s.stepEvents step ++ (s.step step).2.history (steps.map .step)) number = []
      rw [History.pulls_append, hfirst, hrest]
      rfl

theorem Owns.pullEvents
    (h : s.Owns number inputs) :
    s.mailboxes.pullEvents number = [.pulled number inputs (s.mailboxes.nextPull number)] := by
  obtain ⟨m, hm, hreceivers⟩ := h.find?
  unfold Mailboxes.pullEvents
  rw [hm, ← hreceivers]

end Session
end ScatterGather
