import ScatterGather.Proofs.Mailboxes.Orderly
import ScatterGather.Proofs.Registry
import ScatterGather.Proofs.Session.Ownership

/-!
# What the holders of handles have

The senders that are lent by the mailboxes of a session are those of the handles held by name: as
many are lent on a channel as there are handles on it, waiting sends included. A receiver is held
under one name only.

**Results.** Whatever steps are done, the mailboxes of a session are in order with regard to what is
held.
-/

namespace ScatterGather

/-- One if a sending handle, or a waiting send, is on the channel of a receiver. -/
def Handle.sendsOn (r : Receiver) : Handle → Nat
  | .sender h => h.on r
  | .pendingSend h => h.sender.on r
  | _ => 0

variable {H : History} {attached spent : Receiver → Prop}

/-- A handle is dropped by the one who has it. -/
theorem Mailboxes.Orderly.dropHandle
    {outer outer' : Receiver → Prop} {lent lent' : Receiver → Nat} {s : Mailboxes}
    {handle : Handle}
    (h : s.Orderly H outer lent attached spent)
    (houter : ∀ r, handle = .receiver r → outer r)
    (hlent : ∀ r, lent r = lent' r + handle.sendsOn r)
    (houter' : ∀ r, outer' r → outer r ∧ handle ≠ .receiver r) :
    (s.dropHandle handle).Orderly H outer' lent' attached spent := by
  have hweaker : ∀ r, outer' r → outer r := fun r hr => (houter' r hr).1
  cases handle with
  | sender sender =>
      exact (h.dropSender hlent).mono hweaker
  | pendingSend pending =>
      exact (h.dropPendingSend hlent).mono hweaker
  | receiver r =>
      have hsame : s.Orderly H outer lent' attached spent :=
        h.congr (fun r => (hlent r).symm) fun _ => Iff.rfl
      refine hsame.dropReceiver (houter r rfl) fun other hother => ?_
      obtain ⟨hother, hne⟩ := houter' other hother
      refine ⟨hother, ?_⟩
      rintro rfl
      exact hne rfl
  | merge number =>
      have hsame : s.Orderly H outer lent' attached spent :=
        h.congr (fun r => (hlent r).symm) fun _ => Iff.rfl
      exact (hsame.dropMerge number).mono hweaker

namespace Session

variable {s : Session} {name : String} {handle : Handle} {mailboxes : Mailboxes} {r : Receiver}
variable {events : List Event} {opened : List Sender} {given : List Receiver} {s' : Session}

/-- How many handles are held on the channel of a receiver. -/
def lent (s : Session) (r : Receiver) : Nat :=
  Registry.total (Handle.sendsOn r) s.held

/-- The mailboxes of a session are in order, and a receiver is held under one name. -/
structure Orderly (H : History) (attached spent : Receiver → Prop) (s : Session) : Prop where
  mailboxes : s.mailboxes.Orderly H s.Receives s.lent attached spent
  names : (Registry.keys s.held).Nodup
  single : ∀ name other r, s.find? name = some (.receiver r) →
    s.find? other = some (.receiver r) → name = other

theorem sendsOn_le_lent (hheld : s.find? name = some handle) : handle.sendsOn r ≤ s.lent r :=
  Registry.le_total hheld

/-- The channel of a handle that is held has senders that are lent. -/
theorem lent_pos
    {sender : Sender}
    (hheld : s.find? name = some (.sender sender))
    (hr : sender = r.sender) :
    0 < s.lent r := by
  have hone : Handle.sendsOn r (.sender sender) = 1 := if_pos hr
  have hle : Handle.sendsOn r (.sender sender) ≤ s.lent r := sendsOn_le_lent hheld
  omega

namespace Orderly

theorem withMailboxes
    {H' : History}
    (h : s.Orderly H attached spent)
    (hmailboxes : mailboxes.Orderly H' s.Receives s.lent attached spent) :
    (s.withMailboxes mailboxes).Orderly H' attached spent where
  mailboxes := hmailboxes
  names := h.names
  single := h.single

/-- Nobody has a sender on a channel when no handle is held on it. -/
theorem lent_eq_zero_iff (h : s.Orderly H attached spent) :
    s.lent r = 0 ↔ ∀ name handle, s.find? name = some handle → handle.sendsOn r = 0 :=
  Registry.total_eq_zero_iff h.names

/-- A new handle is held, and the one that it replaces is dropped. -/
theorem hold
    {H' : History} {outer : Receiver → Prop} {lent : Receiver → Nat} {attached' : Receiver → Prop}
    (h : s.Orderly H attached spent)
    (hmailboxes : mailboxes.Orderly H' outer lent attached' spent)
    (hheld : ∀ r, s.Receives r → outer r)
    (hnew : ∀ r, handle = .receiver r → outer r ∧ ¬ s.Receives r)
    (hlent : ∀ r, lent r = s.lent r + handle.sendsOn r)
    (name : String) :
    (s.hold name handle mailboxes).Orderly H' attached' spent := by
  have hfind := find?_hold s name
  have hreceives : ∀ r, (s.hold name handle mailboxes).Receives r →
      outer r ∧ ∀ old, s.find? name = some old → old ≠ .receiver r := by
    rintro r ⟨other, hother⟩
    rw [hfind] at hother
    split at hother
    · obtain ⟨houter, hnot⟩ := hnew r (Option.some.inj hother)
      refine ⟨houter, fun old hold heq => ?_⟩
      exact hnot ⟨name, heq ▸ hold⟩
    · next hne =>
        refine ⟨hheld r ⟨other, hother⟩, fun old hold heq => ?_⟩
        exact hne (h.single name other r (heq ▸ hold) hother)
  refine ⟨?_, Registry.nodup_keys_set h.names name handle, ?_⟩
  · cases hold : s.find? name with
    | none =>
        rw [mailboxes_hold_of_eq_none hold]
        have hsame : mailboxes.Orderly H' outer (s.hold name handle mailboxes).lent
            attached' spent := by
          refine hmailboxes.congr (fun r => ?_) fun _ => Iff.rfl
          rw [hlent]
          exact Registry.total_set_of_find?_eq_none hold handle
        exact hsame.mono fun r hr => (hreceives r hr).1
    | some old =>
        rw [mailboxes_hold_of_eq_some hold]
        refine hmailboxes.dropHandle ?_ ?_ ?_
        · exact fun r hr => hheld r ⟨name, hr ▸ hold⟩
        · intro r
          rw [hlent]
          exact (Registry.total_set_of_find? hold handle).symm
        · exact fun r hr => ⟨(hreceives r hr).1, (hreceives r hr).2 old hold⟩
  · -- The new handle is no receiver that was held, so the new name clashes with no other.
    intro first second r hfirst hsecond
    rw [hfind] at hfirst hsecond
    split at hfirst
    · next heq =>
        split at hsecond
        · next heq' => exact heq.symm.trans heq'
        · exact absurd ⟨second, hsecond⟩ (hnew r (Option.some.inj hfirst)).2
    · split at hsecond
      · exact absurd ⟨first, hfirst⟩ (hnew r (Option.some.inj hsecond)).2
      · exact h.single first second r hfirst hsecond

/-- A name is taken away, and what was held under it is not had any more. -/
theorem without
    {H' : History}
    (h : s.Orderly H attached spent)
    (hmailboxes : mailboxes.Orderly H' (s.without name mailboxes).Receives
      (s.without name mailboxes).lent attached spent) :
    (s.without name mailboxes).Orderly H' attached spent where
  mailboxes := hmailboxes
  names := Registry.nodup_keys_erase h.names name
  single first second r hfirst hsecond := by
    rw [find?_without] at hfirst hsecond
    split at hfirst
    · cases hfirst
    · split at hsecond
      · cases hsecond
      · exact h.single first second r hfirst hsecond

theorem lent_without
    (h : s.Orderly H attached spent)
    (hheld : s.find? name = some handle)
    (r : Receiver) :
    s.lent r = (s.without name mailboxes).lent r + handle.sendsOn r :=
  Registry.total_erase h.names hheld

theorem receives_without
    (h : s.Orderly H attached spent)
    (hheld : s.find? name = some handle)
    (hr : (s.without name mailboxes).Receives r) :
    s.Receives r ∧ handle ≠ .receiver r := by
  obtain ⟨other, hother⟩ := hr
  rw [find?_without] at hother
  split at hother
  · cases hother
  · next hne =>
      refine ⟨⟨other, hother⟩, ?_⟩
      rintro rfl
      exact hne (h.single name other r hheld hother)

theorem openSender
    (h : s.Orderly H attached spent)
    (id : MailboxId) (name : String) :
    (s.hold name (.sender (s.mailboxes.openSender id).1) (s.mailboxes.openSender id).2).Orderly H
      (fun r => attached r ∨ r.sender ∈ [(s.mailboxes.openSender id).1]) spent := by
  have hopened : (s.mailboxes.openSender id).2.Orderly H s.Receives
      (fun r => s.lent r + (s.mailboxes.openSender id).1.on r)
      (fun r => attached r ∨ r.sender ∈ [(s.mailboxes.openSender id).1]) spent :=
    (h.mailboxes.openSender id).congr (fun _ => rfl)
      fun r => or_congr Iff.rfl (List.mem_singleton.trans eq_comm)
  exact h.hold hopened (fun _ hr => hr) (by simp) (fun _ => rfl) name

theorem cloneSender
    {held : String} {sender : Sender}
    (h : s.Orderly H attached spent)
    (hheld : s.find? held = some (.sender sender))
    (name : String) :
    (s.hold name (.sender sender) (s.mailboxes.cloneSender sender)).Orderly H attached spent :=
  h.hold (h.mailboxes.cloneSender fun _ => lent_pos hheld) (fun _ hr => hr) (by simp)
    (fun _ => rfl) name

theorem drop
    {held : String}
    (h : s.Orderly H attached spent)
    (hheld : s.find? held = some handle) :
    (s.without held (s.mailboxes.dropHandle handle)).Orderly H attached spent := by
  refine h.without (h.mailboxes.dropHandle ?_ (h.lent_without hheld) ?_)
  · exact fun r hr => ⟨held, hr ▸ hheld⟩
  · exact fun r hr => h.receives_without hheld hr

theorem wait
    {held : String} {sender : Sender} {p : Packet} {pending : PendingSend}
    (h : s.Orderly H attached spent)
    (hheld : s.find? held = some (.sender sender))
    (hwaits : (s.mailboxes.sendWaiting sender p).2.1 = some pending)
    (name : String) :
    (s.hold name (.pendingSend pending) (s.mailboxes.sendWaiting sender p).2.2).Orderly
      (H ++ sender.accepts p (s.mailboxes.sendWaiting sender p).1) attached spent := by
  obtain ⟨hsender, hsent⟩ :=
    (h.mailboxes.sendWaiting (fun _ => lent_pos hheld) p).1 pending hwaits
  refine h.hold hsent (fun _ hr => hr) (by simp) (fun r => ?_) name
  show s.lent r + sender.on r = s.lent r + pending.sender.on r
  rw [hsender]

theorem redeem
    {held : String} {pending : PendingSend}
    (h : s.Orderly H attached spent)
    (hheld : s.find? held = some (.pendingSend pending))
    (hdone : (s.mailboxes.retry pending).1 ≠ .full) :
    (s.without held (s.mailboxes.retry pending).2).Orderly
      (H ++ pending.sender.accepts pending.packet (s.mailboxes.retry pending).1)
      attached spent := by
  refine h.without (((h.mailboxes.retry (h.lent_without hheld)).2 hdone).mono fun r hr => ?_)
  exact (h.receives_without hheld hr).1

theorem openReceiver
    {id : MailboxId}
    (h : s.Orderly H attached spent)
    (hanswer : (s.mailboxes.openReceiver id).1 = .ok r)
    (name : String) :
    (s.hold name (.receiver r) (s.mailboxes.openReceiver id).2).Orderly (H ++ [.asked id]) attached
      spent := by
  have hasked := h.mailboxes.ask id
  have hmem : .asked id ∈ H ++ [.asked id] := List.mem_append_right _ (List.mem_singleton_self _)
  refine h.hold (hasked.openReceiver hmem hanswer) (fun _ hr => Or.inl hr) ?_ (fun _ => rfl) name
  intro other hother
  cases hother
  exact ⟨Or.inr rfl, hasked.sound.not_holds_of_openReceiver hanswer none⟩

theorem receive
    (h : s.Orderly H attached spent)
    (hr : s.Receives r) :
    (s.withMailboxes (s.mailboxes.receive r none).2).Orderly (H ++ s.mailboxes.receiveEvents r)
      attached spent := by
  refine h.withMailboxes (h.mailboxes.receive (sound_receive h.mailboxes.sound hr) ?_)
  exact fun id hnot hmem => hnot (List.mem_append_left _ hmem)

theorem pull
    (h : s.Orderly H attached spent)
    (number : Nat) :
    (s.withMailboxes (s.mailboxes.pull number).mailboxes).Orderly
      (H ++ s.mailboxes.pullEvents number) attached spent := by
  obtain ⟨hserves, hwired⟩ := h.mailboxes.sound.serves_pull h.mailboxes.wired number
  exact h.withMailboxes (h.mailboxes.serve hserves
    (fun _ hr hused => h.mailboxes.sound.not_outer hused hr) hwired
    (sound_pull h.mailboxes.sound number))

theorem silently (h : s.Orderly H attached spent) : s.Orderly (H ++ []) attached spent := by
  rw [List.append_nil]
  exact h

/-- Nothing was attached to. -/
theorem unattached (h : s.Orderly H attached spent) :
    s.Orderly H (fun r => attached r ∨ r.sender ∈ ([] : List Sender)) spent where
  mailboxes := h.mailboxes.congr (fun _ => rfl) (by simp)
  names := h.names
  single := h.single

end Orderly

theorem Takes.orderly
    (ht : s.Takes events opened given s')
    (h : s.Orderly H attached spent) :
    s'.Orderly (H ++ events) (fun r => attached r ∨ r.sender ∈ opened) spent := by
  cases ht with
  | idle =>
      exact h.silently.unattached
  | openSender id name =>
      exact (h.openSender id name).silently
  | cloneSender hheld name =>
      exact (h.cloneSender hheld name).silently.unattached
  | drop hheld =>
      exact (h.drop hheld).silently.unattached
  | send hheld p =>
      exact (h.withMailboxes (h.mailboxes.send (fun _ => lent_pos hheld) p)).unattached
  | sendWaiting hheld hdone =>
      have hsent := (h.mailboxes.sendWaiting (fun _ => lent_pos hheld) _).2 hdone
      exact (h.withMailboxes hsent).unattached
  | wait hheld hwaits name =>
      exact (h.wait hheld hwaits name).unattached
  | @retry held pending hheld hfull =>
      have hlent : ∀ r, s.lent r = (s.without held s.mailboxes).lent r + pending.sender.on r :=
        h.lent_without hheld
      exact (h.withMailboxes ((h.mailboxes.retry hlent).1 hfull)).unattached
  | redeem hheld hdone =>
      exact (h.redeem hheld hdone).unattached
  | openReceiver hanswer name =>
      exact (h.openReceiver hanswer name).unattached
  | @refuseReceiver id fault _ =>
      have hmem : .asked id ∈ H ++ [.asked id] :=
        List.mem_append_right _ (List.mem_singleton_self _)
      exact (h.withMailboxes ((h.mailboxes.ask id).refuseReceiver hmem)).unattached
  | receive hheld =>
      exact (h.receive ⟨_, hheld⟩).unattached
  | @openMerge request number _ name =>
      have hopened := h.mailboxes.openMerge request
      exact (h.hold hopened (fun _ hr => hr) (by simp) (fun _ => rfl) name).unattached
  | refuseMerge request =>
      exact (h.withMailboxes (h.mailboxes.openMerge request)).unattached
  | pull _ =>
      exact (h.pull _).unattached
  | release id =>
      exact (h.withMailboxes (h.mailboxes.release id)).unattached

/-! ## Runs -/

/-- The senders that a run opens, in turn. -/
def opens (s : Session) : List Step → List Sender
  | [] => []
  | step :: steps => s.stepOpens step ++ (s.step step).2.opens steps

theorem Orderly.run
    (h : s.Orderly H attached spent)
    (steps : List Step) :
    (s.run steps).2.Orderly (H ++ s.history (steps.map .step))
      (fun r => attached r ∨ r.sender ∈ s.opens steps) spent := by
  induction steps generalizing s H attached with
  | nil =>
      exact h.silently.unattached
  | cons step steps ih =>
      have hrest := ih ((takes_step s step).orderly h)
      rw [List.append_assoc] at hrest
      refine ⟨hrest.mailboxes.congr (fun _ => rfl) fun r => ?_, hrest.names, hrest.single⟩
      rw [opens, List.mem_append, or_assoc]

theorem orderly_start (host : String) (mailboxPort : UInt16) (capacity : Nat) :
    (ofMailboxes (.create host mailboxPort capacity)).Orderly [] (fun _ => False)
      (fun _ => False) where
  mailboxes := by
    refine .create (sound_start host mailboxPort capacity) ?_
    rintro r ⟨name, hname⟩
    cases hname
  names := List.nodup_nil
  single _ _ _ hname := by cases hname

/-- **Order.** From the start, whatever steps are done, the mailboxes of a session are in order. -/
theorem orderly_run
    (host : String) (mailboxPort : UInt16) (capacity : Nat) (steps : List Step) :
    ((ofMailboxes (.create host mailboxPort capacity)).run steps).2.Orderly
      ((ofMailboxes (.create host mailboxPort capacity)).history (steps.map .step))
      (fun r => r.sender ∈ (ofMailboxes (.create host mailboxPort capacity)).opens steps)
      (fun _ => False) := by
  have h := (orderly_start host mailboxPort capacity).run steps
  exact ⟨h.mailboxes.congr (fun _ => rfl) (by simp), h.names, h.single⟩

/-! ## Receivers -/

/-- A receiver that somebody holds, or that an open merge still receives from. -/
def Alive (s : Session) (r : Receiver) : Prop :=
  s.mailboxes.Alive s.Receives r

/-- Who asks by a name is answered what the receiver finds. -/
theorem answers_receive
    {name : String}
    (hheld : s.find? name = some (.receiver r)) :
    ((s.step (.receive name)).1 = .ended ↔ (s.mailboxes.receive r none).1 = .ended) ∧
      ((s.step (.receive name)).1 = .pending ↔ (s.mailboxes.receive r none).1 = .pending) := by
  rw [step_receive hheld]
  cases (s.mailboxes.receive r none).1 <;> simp [answerReception]

/-- A worker's mailbox at a broker. -/
def soleId : MailboxId where
  request := 1
  stage := 1
  senderHost := "worker-a"
  senderPort := 8442
  receiverHost := "broker"
  receiverPort := 9000

end Session
end ScatterGather
