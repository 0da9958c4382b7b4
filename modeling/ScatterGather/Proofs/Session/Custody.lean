import ScatterGather.Proofs.Mailboxes.Custody
import ScatterGather.Proofs.Session.Holding

/-!
# Who has the receivers that a run was given

A run is given a receiver when it opens one, or a merge over it. It has this receiver under a name,
or a merge has it, until one or the other is dropped. Receivers of a merge that could not be opened
are dropped at once.

**Results.** After every run that releases nothing, the receivers that were given out are those that
the run was given, and an open channel of one of them has somebody who receives from it.
-/

namespace ScatterGather

variable {H H' : History} {attached attached' spent : Receiver → Prop}

/-- A handle is dropped by the one who has it. -/
theorem Mailboxes.Custody.dropHandle
    {outer outer' given : Receiver → Prop} {lent : Receiver → Nat} {s : Mailboxes} {handle : Handle}
    (h : s.Custody outer given)
    (ho : s.Orderly H outer lent attached spent)
    (hheld : ∀ r, handle = .receiver r → outer r)
    (houter : ∀ r, outer r → outer' r ∨ handle = .receiver r) :
    (s.dropHandle handle).Custody outer' given := by
  cases handle with
  | sender sender =>
      refine h.keep ho.sound (h.faithful.dropSender sender) (leaves_dropSender s sender) ?_
      exact fun r hr _ => (houter r hr).resolve_right (by simp)
  | pendingSend pending =>
      refine h.keep ho.sound (h.faithful.dropPendingSend pending)
        (leaves_dropPendingSend s pending) ?_
      exact fun r hr _ => (houter r hr).resolve_right (by simp)
  | receiver r =>
      refine h.dropReceiver ho.sound (hheld r rfl) fun other hother => ?_
      refine (houter other hother).imp_right fun heq => ?_
      cases heq
      rfl
  | merge number =>
      refine (h.dropMerge ho.sound ho.wired number).mono ?_
      exact fun r hr => (houter r hr).resolve_right (by simp)

namespace Session

/-- The receivers that a run is given, in turn. -/
def given (s : Session) : List Step → List Receiver
  | [] => []
  | step :: steps => s.stepGiven step ++ (s.step step).2.given steps

variable {s s' : Session} {given : Receiver → Prop} {name : String} {handle : Handle}
variable {mailboxes : Mailboxes} {events : List Event} {opened : List Sender}
variable {new : List Receiver}

/-- The receivers that were `given` out are those that the mailboxes of a session have not got, and
an open channel of one of them has somebody who receives from it. -/
def Custody (given : Receiver → Prop) (s : Session) : Prop :=
  s.mailboxes.Custody s.Receives given

namespace Custody

/-- Nothing is given out. -/
theorem unchanged (h : s.Custody given) : s.Custody (fun r => given r ∨ r ∈ []) :=
  h.congr (by simp)

/-- A new handle is held, and the one that it replaces is dropped. -/
theorem hold
    {outer : Receiver → Prop} {lent : Receiver → Nat}
    (h : mailboxes.Custody outer given)
    (ho : mailboxes.Orderly H outer lent attached spent)
    (hheld : ∀ r, s.Receives r → outer r)
    (houter : ∀ r, outer r → s.Receives r ∨ handle = .receiver r)
    (name : String) :
    (s.hold name handle mailboxes).Custody given := by
  have hfind := find?_hold s name
  have hreceives : ∀ r, outer r →
      (s.hold name handle mailboxes).Receives r ∨ s.find? name = some (.receiver r) := by
    intro r hr
    rcases houter r hr with ⟨other, hother⟩ | rfl
    · by_cases hname : name = other
      · exact Or.inr (hname ▸ hother)
      · exact Or.inl ⟨other, by rw [hfind, if_neg hname, hother]⟩
    · exact Or.inl ⟨name, by rw [hfind, if_pos rfl]⟩
  unfold Custody
  cases hold : s.find? name with
  | none =>
      rw [mailboxes_hold_of_eq_none hold]
      refine h.mono fun r hr => (hreceives r hr).resolve_right ?_
      simp [hold]
  | some old =>
      rw [mailboxes_hold_of_eq_some hold]
      refine h.dropHandle ho ?_ fun r hr => (hreceives r hr).imp_right fun heq => ?_
      · exact fun r hr => hheld r ⟨name, hr ▸ hold⟩
      · exact Option.some.inj (hold.symm.trans heq)

/-- A handle that is no receiver is held, and no receiver comes by that. -/
theorem holdOther
    {lent : Receiver → Nat}
    (h : mailboxes.Custody s.Receives given)
    (ho : mailboxes.Orderly H s.Receives lent attached spent)
    (name : String) :
    (s.hold name handle mailboxes).Custody given :=
  hold h ho (fun _ hr => hr) (fun _ hr => Or.inl hr) name

/-- What is taken away by its name is still held under every other name. -/
theorem receives_without
    {r : Receiver}
    (hr : s.Receives r) :
    (s.without name mailboxes).Receives r ∨ s.find? name = some (.receiver r) := by
  obtain ⟨other, hother⟩ := hr
  by_cases hname : name = other
  · exact Or.inr (hname ▸ hother)
  · exact Or.inl ⟨other, by rw [find?_without, if_neg hname, hother]⟩

end Custody

theorem Takes.custody
    (ht : s.Takes events opened new s')
    (ho : s.Orderly H attached spent)
    (h : s.Custody given)
    (hreleased : ∀ id, .released id ∉ events) :
    s'.Custody (fun r => given r ∨ r ∈ new) := by
  have hsound := ho.mailboxes.sound
  cases ht with
  | idle =>
      exact h.unchanged
  | openSender id name =>
      have hopened := h.quietly hsound (h.faithful.openSender id)
        (Mailboxes.leaves_openSender s.mailboxes id)
      exact (Custody.holdOther hopened (ho.mailboxes.openSender id) name).unchanged
  | @cloneSender held sender hheld name =>
      have hcloned := h.quietly hsound (h.faithful.cloneSender sender)
        (Mailboxes.leaves_cloneSender s.mailboxes sender)
      have hmailboxes := ho.mailboxes.cloneSender fun _ => lent_pos hheld
      exact (Custody.holdOther hcloned hmailboxes name).unchanged
  | @drop held handle hheld =>
      refine Custody.unchanged (h.dropHandle ho.mailboxes ?_ fun r hr => ?_)
      · exact fun r hr => ⟨held, hr ▸ hheld⟩
      · refine (Custody.receives_without hr).imp_right fun heq => ?_
        exact Option.some.inj (hheld.symm.trans heq)
  | @send held sender hheld p =>
      exact Custody.unchanged (h.quietly hsound (h.faithful.send sender p)
        (Mailboxes.leaves_send s.mailboxes sender p))
  | @sendWaiting held sender p _ _ =>
      exact Custody.unchanged (h.quietly hsound (h.faithful.sendWaiting sender p)
        (Mailboxes.leaves_sendWaiting s.mailboxes sender p))
  | @wait held sender p pending hheld hwaits name =>
      have hsent := h.quietly hsound (h.faithful.sendWaiting sender p)
        (Mailboxes.leaves_sendWaiting s.mailboxes sender p)
      obtain ⟨-, hmailboxes⟩ :=
        (ho.mailboxes.sendWaiting (fun _ => lent_pos hheld) p).1 pending hwaits
      exact (Custody.holdOther hsent hmailboxes name).unchanged
  | @retry held pending _ _ =>
      exact Custody.unchanged (h.quietly hsound (h.faithful.retry pending)
        (Mailboxes.leaves_retry s.mailboxes pending))
  | @redeem held pending hheld _ =>
      refine Custody.unchanged (h.keep hsound (h.faithful.retry pending)
        (Mailboxes.leaves_retry s.mailboxes pending) fun r hr _ => ?_)
      exact (Custody.receives_without hr).resolve_right (by simp [hheld])
  | @openReceiver id r hanswer name =>
      have hopened := h.openReceiver hsound hanswer
      have hmem : .asked id ∈ H ++ [.asked id] :=
        List.mem_append_right _ (List.mem_singleton_self _)
      have hmailboxes := (ho.mailboxes.ask id).openReceiver hmem hanswer
      refine (Custody.hold hopened hmailboxes (fun _ hr => Or.inl hr) ?_ name).congr (by simp)
      rintro other (hother | rfl)
      · exact Or.inl hother
      · exact Or.inr rfl
  | @refuseReceiver id fault hanswer =>
      have hgives : s.mailboxes.Gives (fun _ => False) (s.mailboxes.openReceiver id).2 := by
        refine (h.faithful.openReceiver id).mono fun r hr => ?_
        cases hanswer.symm.trans hr
      exact Custody.unchanged
        (h.quietly hsound hgives (Mailboxes.leaves_openReceiver s.mailboxes id))
  | @receive held r _ =>
      exact Custody.unchanged (h.quietly hsound (h.faithful.receive r none)
        (Mailboxes.leaves_receive s.mailboxes r none))
  | @openMerge request number _ name =>
      exact Custody.holdOther (h.openMerge hsound request) (ho.mailboxes.openMerge request) name
  | refuseMerge request =>
      exact h.openMerge hsound request
  | @pull held number _ =>
      exact Custody.unchanged (h.pull hsound ho.mailboxes.wired number)
  | release id =>
      exact absurd (List.mem_singleton_self _) (hreleased id)

/-! ## Runs -/

theorem Custody.run
    {steps : List Step}
    (ho : s.Orderly H attached spent)
    (h : s.Custody given)
    (hreleased : ∀ id, .release id ∉ steps) :
    (s.run steps).2.Custody (fun r => given r ∨ r ∈ s.given steps) := by
  induction steps generalizing s H attached given with
  | nil =>
      exact h.unchanged
  | cons step steps ih =>
      have ht := takes_step s step
      have hnot : ∀ id, .released id ∉ s.stepEvents step := by
        intro id hmem
        exact hreleased id ((mem_stepEvents hmem).2 id rfl ▸ List.mem_cons_self)
      have hrest := ih (ht.orderly ho) (ht.custody ho h hnot)
        fun id hmem => hreleased id (List.mem_cons_of_mem _ hmem)
      refine hrest.congr fun r => ?_
      rw [Session.given, List.mem_append, or_assoc]

theorem custody_start (host : String) (mailboxPort : UInt16) (capacity : Nat) :
    (ofMailboxes (.create host mailboxPort capacity)).Custody (fun _ => False) where
  faithful _ := Mailbox.faithful_fresh
  issued r := by
    refine ⟨fun hissued => hissued.1 rfl, fun hfalse => hfalse.elim⟩
  held _ hfalse := hfalse.elim

/-- **Custody.** From the start, whatever is done that releases nothing, the receivers that were
given out are those that the run was given, and an open channel of one of them has somebody who
receives from it. -/
theorem custody_run
    {steps : List Step}
    (host : String) (mailboxPort : UInt16) (capacity : Nat)
    (hreleased : ∀ id, .release id ∉ steps) :
    ((ofMailboxes (.create host mailboxPort capacity)).run steps).2.Custody
      (· ∈ (ofMailboxes (.create host mailboxPort capacity)).given steps) := by
  have h := (custody_start host mailboxPort capacity).run
    (orderly_start host mailboxPort capacity) hreleased
  exact h.congr (by simp)

end Session
end ScatterGather
