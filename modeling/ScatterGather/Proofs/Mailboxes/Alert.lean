import ScatterGather.Proofs.Mailbox.Rousing
import ScatterGather.Proofs.Mailboxes.Constructing

/-!
# Merges that miss nothing

A merge receives from an input that is not in its queue only if the receiver of this input sleeps:
nothing is queued on its channel, a sender is left, and the watcher on the channel stands for the
input. Whatever happens next on the channel puts the input back into the queue.

**Results.** Every operation on the mailboxes of a process, and every turn of a merge, keeps merges
alert in this way.
-/

namespace ScatterGather
namespace Mailboxes

variable {H : History} {outer : Receiver → Prop} {s s' : Mailboxes} {number : Nat} {m m' : Merge}
variable {r : Receiver} {sender : Sender} {woken : Option Watcher}

/-- The receiver sleeps, and the watcher that it left is told what happens next. -/
def Sleeps (s : Mailboxes) (r : Receiver) (w : Watcher) : Prop :=
  (s.box r.id).Sleeps r.generation w

/-- A merge still receives from this receiver. -/
def Fed (s : Mailboxes) (r : Receiver) : Prop :=
  ∃ number m, Registry.find? s.merges number = some m ∧
    ∃ i ∈ m.live, m.receivers[i]? = some r

/-- Merges whose inputs are in their queues, but for those that sleep. -/
structure Alert (s : Mailboxes) : Prop where
  inputs : ∀ number m, Registry.find? s.merges number = some m →
    ∀ i ∈ m.live, i < m.receivers.length
  asleep : ∀ number m, Registry.find? s.merges number = some m →
    ∀ i ∈ m.live, i ∉ m.ready → ∀ r, m.receivers[i]? = some r → s.Sleeps r ⟨number, i⟩

theorem Sleeps.of_channel_eq
    {w : Watcher}
    (h : s.Sleeps r w)
    (hchannel : (s'.slot r).channel? = (s.slot r).channel?) :
    s'.Sleeps r w :=
  Mailbox.Sleeps.of_channel_eq h hchannel

theorem Sound.issued_of_fed
    (h : s.Sound H outer)
    (hfed : s.Fed r) :
    (s.slot r).Issued ∧ ¬ outer r := by
  obtain ⟨number, m, hm, i, -, hr⟩ := hfed
  have hholds : s.Holds outer (some number) r := ⟨m, hm, List.mem_of_getElem? hr⟩
  exact ⟨h.issued _ r hholds, h.not_outer hholds⟩

/-! ## Operations on one mailbox -/

theorem Merge.mem_ready_wake_of
    {i j : Nat}
    (h : j ∈ m.ready ∨ j = i) :
    j ∈ (m.wake i).ready := by
  unfold Merge.wake
  split
  · next hin => exact h.elim id fun heq => heq ▸ hin
  · exact List.mem_append.2 (h.imp id fun heq => List.mem_singleton.2 heq)

/-- Who is woken comes into the queue, and nobody leaves it. -/
theorem find?_wake
    (hm' : Registry.find? (s.wake woken).merges number = some m') :
    ∃ m, Registry.find? s.merges number = some m ∧ m'.settled = m.settled ∧
      (∀ i ∈ m.ready, i ∈ m'.ready) ∧ ∀ i, woken = some ⟨number, i⟩ → i ∈ m'.ready := by
  unfold wake at hm'
  split at hm'
  · exact ⟨m', hm', rfl, fun _ hi => hi, by simp⟩
  · next w =>
      obtain ⟨k, input⟩ := w
      dsimp only at hm'
      split at hm'
      · next m hm =>
          rw [Registry.find?_set] at hm'
          split at hm'
          · next heq =>
              cases hm'
              subst heq
              refine ⟨m, hm, Merge.settled_wake m input, ?_, fun i hi => ?_⟩
              · exact fun i hi => Merge.mem_ready_wake_of (Or.inl hi)
              · cases hi
                exact Merge.mem_ready_wake_of (Or.inr rfl)
          · next hne =>
              refine ⟨m', hm', rfl, fun _ hi => hi, fun i hi => ?_⟩
              cases hi
              exact absurd rfl hne
      · next hnone =>
          refine ⟨m', hm', rfl, fun _ hi => hi, fun i hi => ?_⟩
          cases hi
          cases hnone.symm.trans hm'

theorem Alert.update
    {α : Type} {id : MailboxId} {f : Mailbox → Mailbox.Outcome α}
    (h : s.Alert)
    (hf : (f (s.box id)).Rouses (fun g => s.Fed ⟨id, g⟩) (s.box id)) :
    (s.update id f).2.Alert := by
  constructor
  · intro number m' hm' i hi
    obtain ⟨m, hm, hsettled, -, -⟩ := find?_wake hm'
    rw [Merge.receivers_of_settled hsettled]
    exact h.inputs number m hm i (Merge.live_of_settled hsettled ▸ hi)
  · intro number m' hm' i hi hidle r hr
    obtain ⟨m, hm, hsettled, hready, hwoken⟩ := find?_wake hm'
    rw [Merge.live_of_settled hsettled] at hi
    rw [Merge.receivers_of_settled hsettled] at hr
    have hsleeps : s.Sleeps r ⟨number, i⟩ :=
      h.asleep number m hm i hi (fun hmem => hidle (hready i hmem)) r hr
    unfold Sleeps
    rw [box_update]
    split
    · next heq =>
        subst heq
        have hfed : s.Fed r := ⟨number, m, hm, i, hi, hr⟩
        rcases hf r.generation ⟨number, i⟩ hfed hsleeps with hasleep | hroused
        · exact hasleep
        · exact absurd (hwoken i hroused) hidle
    · exact hsleeps

namespace Alert

theorem openSender (h : s.Alert) (id : MailboxId) : (s.openSender id).2.Alert :=
  h.update (f := fun box => box.openSender s.capacity) (Mailbox.rouses_openSender _ _)

theorem cloneSender (h : s.Alert) (sender : Sender) : (s.cloneSender sender).Alert :=
  h.update (Mailbox.rouses_cloneSender _ _)

theorem dropSender (h : s.Alert) (sender : Sender) : (s.dropSender sender).Alert :=
  h.update (Mailbox.rouses_dropSender _ _)

theorem send (h : s.Alert) (sender : Sender) (p : Packet) : (s.send sender p).2.Alert :=
  h.update (Mailbox.rouses_offer _ _ _)

theorem sendWaiting
    (h : s.Alert)
    (sender : Sender) (p : Packet) :
    (s.sendWaiting sender p).2.2.Alert := by
  have hsent := (h.cloneSender sender).send sender p
  unfold Mailboxes.sendWaiting
  dsimp only
  split
  · next s' generation hsend _ =>
      rw [hsend] at hsent
      replace hsent : s'.Alert := hsent
      exact hsent.update (f := fun box => box.join generation) (Mailbox.rouses_join _ _)
  · next s' hsend _ =>
      rw [hsend] at hsent
      replace hsent : s'.Alert := hsent
      exact hsent.dropSender sender

theorem retry (h : s.Alert) (pending : PendingSend) : (s.retry pending).2.Alert := by
  have hredeemed := h.update
    (f := fun box => box.redeem pending.generation pending.ticket pending.packet)
    (Mailbox.rouses_redeem (s.box pending.id) _ _ _)
  unfold Mailboxes.retry
  split
  · next hredeem =>
      rw [hredeem] at hredeemed
      exact hredeemed
  · next s' _ hredeem =>
      rw [hredeem] at hredeemed
      replace hredeemed : s'.Alert := hredeemed
      exact hredeemed.dropSender pending.sender

theorem dropPendingSend (h : s.Alert) (pending : PendingSend) : (s.dropPendingSend pending).Alert :=
  (h.update (f := fun box => box.forgetSend pending.generation pending.ticket)
    (Mailbox.rouses_forgetSend _ _ _)).dropSender pending.sender

theorem openReceiver
    (h : s.Alert)
    (hbalanced : s.Balanced)
    (hsound : s.Sound H outer)
    (id : MailboxId) :
    (s.openReceiver id).2.Alert := by
  rw [openReceiver_eq]
  refine h.update (f := fun box => box.openReceiver s.capacity) ?_
  obtain ⟨lent, joined, hledger⟩ := hbalanced id
  refine Mailbox.rouses_of_sleeps fun g w hfed hsleeps => hsleeps.of_channel_eq ?_
  exact hledger.channel_openReceiver (hsound.issued_of_fed hfed).1 s.capacity

/-- Others ask, or drop, receivers from which no merge receives. -/
theorem ne_of_fed
    {g : Nat}
    (hsound : s.Sound H outer)
    (hr : outer r)
    (hfed : s.Fed ⟨r.id, g⟩) :
    r.generation ≠ g := by
  rintro rfl
  exact (hsound.issued_of_fed hfed).2 hr

theorem receive
    (h : s.Alert)
    (hsound : s.Sound H outer)
    (hr : outer r)
    (watcher : Option Watcher) :
    (s.receive r watcher).2.Alert :=
  h.update (Mailbox.rouses_receive (fun _ => ne_of_fed hsound hr) watcher)

theorem dropReceiver
    (h : s.Alert)
    (hsound : s.Sound H outer)
    (hr : outer r) :
    (s.dropReceiver r).Alert :=
  h.update (Mailbox.rouses_dropReceiver fun _ => ne_of_fed hsound hr)

theorem release
    (h : s.Alert)
    (hsound : s.Sound H outer)
    (id : MailboxId) :
    (s.release id).Alert :=
  h.update (Mailbox.rouses_release fun _ hfed => (hsound.issued_of_fed hfed).1.2)

/-! ## Merges -/

/-- All inputs of a new merge are in its queue. -/
theorem openMerge
    (h : s.Alert)
    (hbalanced : s.Balanced)
    (hsound : s.Sound H outer)
    (request : MergeRequest) :
    (s.openMerge request).2.Alert := by
  obtain ⟨hchannels, hmerges⟩ := openMerge_beside hbalanced request
  have hfind : ∀ k mk, Registry.find? (s.openMerge request).2.merges k = some mk →
      Registry.find? s.merges k = some mk ∨
        ∃ receivers, mk = .ofReceivers request.schema request.routing receivers := by
    intro k mk hmk
    rcases hmerges with hsame | ⟨receivers, hset⟩
    · exact Or.inl (hsame ▸ hmk)
    · rw [hset, Registry.find?_set] at hmk
      split at hmk
      · exact Or.inr ⟨receivers, (Option.some.inj hmk).symm⟩
      · exact Or.inl hmk
  constructor
  · intro k mk hmk i hi
    rcases hfind k mk hmk with hold | ⟨receivers, rfl⟩
    · exact h.inputs k mk hold i hi
    · exact List.mem_range.1 hi
  · intro k mk hmk i hi hidle r hr
    rcases hfind k mk hmk with hold | ⟨receivers, rfl⟩
    · refine (h.asleep k mk hold i hi hidle r hr).of_channel_eq (hchannels r ?_)
      exact (hsound.issued_of_fed ⟨k, mk, hold, i, hi, hr⟩).1
    · exact absurd hi hidle

end Alert

/-- The receivers of a merge are dropped with it, and those of the others are not among them. -/
theorem Alert.dropMerge
    (h : s.Alert)
    (hsound : s.Sound H outer)
    (number : Nat) :
    (s.dropMerge number).Alert := by
  unfold Mailboxes.dropMerge
  split
  · next m hm =>
      have hfind : ∀ k mk, Registry.find? (Registry.erase
            ((m.live.filterMap fun i => m.receivers[i]?).foldl Mailboxes.dropReceiver s).merges
            number) k =
          some mk → k ≠ number ∧ Registry.find? s.merges k = some mk := by
        intro k mk hmk
        rw [Registry.find?_erase, merges_foldl_dropReceiver] at hmk
        split at hmk
        · cases hmk
        · next hne => exact ⟨Ne.symm hne, hmk⟩
      constructor
      · intro k mk hmk i hi
        exact h.inputs k mk (hfind k mk hmk).2 i hi
      · intro k mk hmk i hi hidle r hr
        obtain ⟨hne, hmk⟩ := hfind k mk hmk
        have hother : r ∉ m.live.filterMap fun i => m.receivers[i]? := by
          intro hmem
          obtain ⟨j, -, hj⟩ := List.mem_filterMap.1 hmem
          have hown : s.Holds outer (some number) r := ⟨m, hm, List.mem_of_getElem? hj⟩
          have hothers : s.Holds outer (some k) r := ⟨mk, hmk, List.mem_of_getElem? hr⟩
          cases hsound.unique _ _ r hown hothers
          exact hne rfl
        exact (h.asleep k mk hmk i hi hidle r hr).of_channel_eq
          (channel_dropReceivers_of_not_mem hother s)
  · exact h

/-! ## Turns -/

/-- A merge is done with the input that it asked: this one left the merge, or is in the queue again,
or sleeps. -/
theorem Alert.done
    {i : Nat}
    (h : s.Alert)
    (hsound : s.Sound H outer)
    (hm : Registry.find? s.merges number = some m)
    (hr : m.receivers[i]? = some r)
    (hmerges : s'.merges = s.merges)
    (hchannels : ∀ other, r ≠ other → (s'.slot other).channel? = (s.slot other).channel?)
    (hreceivers : m'.receivers = m.receivers)
    (hlive : ∀ j ∈ m'.live, j ∈ m.live)
    (hready : ∀ j ∈ m.ready, j ≠ i → j ∈ m'.ready)
    (hasked : i ∈ m'.live → i ∉ m'.ready → s'.Sleeps r ⟨number, i⟩) :
    (s'.setMerge number m').Alert := by
  have hfind : ∀ k mk, Registry.find? (s'.setMerge number m').merges k = some mk →
      (k = number ∧ mk = m') ∨ (k ≠ number ∧ Registry.find? s.merges k = some mk) := by
    intro k mk hmk
    rw [setMerge, Registry.find?_set, hmerges] at hmk
    split at hmk
    · next heq => exact Or.inl ⟨heq.symm, (Option.some.inj hmk).symm⟩
    · next hne => exact Or.inr ⟨Ne.symm hne, hmk⟩
  constructor
  · intro k mk hmk j hj
    rcases hfind k mk hmk with ⟨-, rfl⟩ | ⟨-, hmk⟩
    · rw [hreceivers]
      exact h.inputs number m hm j (hlive j hj)
    · exact h.inputs k mk hmk j hj
  · intro k mk hmk j hj hidle other hother
    rcases hfind k mk hmk with ⟨rfl, rfl⟩ | ⟨hne, hmk⟩
    · rw [hreceivers] at hother
      by_cases hij : j = i
      · subst hij
        cases hr.symm.trans hother
        exact hasked hj hidle
      · have hsleeps : s.Sleeps other ⟨k, j⟩ :=
          h.asleep k m hm j (hlive j hj) (fun hmem => hidle (hready j hmem hij)) other hother
        refine hsleeps.of_channel_eq (hchannels other ?_)
        rintro rfl
        have hnodup := (hsound.follows k m hm).nodup
        have hlt := (List.getElem?_eq_some_iff.1 hother).1
        exact hij ((List.getElem?_inj hlt hnodup).1 (hother.trans hr.symm))
    · refine (h.asleep k mk hmk j hj hidle other hother).of_channel_eq (hchannels other ?_)
      rintro rfl
      have hown : s.Holds outer (some number) r := ⟨m, hm, List.mem_of_getElem? hr⟩
      have hothers : s.Holds outer (some k) r := ⟨mk, hmk, List.mem_of_getElem? hother⟩
      cases hsound.unique _ _ r hown hothers
      exact hne rfl

/-- A receiver that finds nothing, but may find something later, sleeps from then on. -/
theorem sleeps_of_pending
    {w : Watcher}
    (hpending : (s.receive r (some w)).1 = .pending) :
    (s.receive r (some w)).2.Sleeps r w := by
  unfold Sleeps receive at *
  rw [answer_update] at hpending
  rw [box_update, if_pos rfl]
  generalize s.box r.id = m at *
  unfold Mailbox.receive at *
  split at hpending
  · cases hpending
  · next c hc =>
      split at hpending
      · cases hpending
      · cases hpending
      · next hreception =>
          refine ⟨c.watch (some w), ?_, ?_⟩
          · exact Mailbox.getElem?_modify_self hc _
          · unfold Channel.reception at hreception
            split at hreception
            · cases hreception
            · next hqueue =>
                split at hreception
                · cases hreception
                · next hsenders => exact ⟨hqueue, Nat.pos_of_ne_zero hsenders, rfl⟩

/-- An input that was at the front of the queue is asked. -/
theorem Alert.ask
    {i : Nat} {ready : List Nat}
    (h : s.Alert)
    (hsound : s.Sound H outer)
    (hm : Registry.find? s.merges number = some m)
    (hqueue : m.ready = i :: ready)
    (hr : m.receivers[i]? = some r)
    {finding : Finding} {turn : Turn}
    (hasks : s.Asks number i { m with ready } r (finding, turn, s')) :
    s'.Alert := by
  have hrest : ∀ j ∈ m.ready, j ≠ i → j ∈ ready := by
    intro j hj hne
    rw [hqueue] at hj
    exact (List.mem_cons.1 hj).resolve_left hne
  have hmerges := merges_receive s r (some ⟨number, i⟩)
  have hchannels : ∀ other, r ≠ other →
      ((s.receive r (some ⟨number, i⟩)).2.slot other).channel? = (s.slot other).channel? :=
    fun _ hne => channel_receive_of_ne hne s (some ⟨number, i⟩)
  have hpending := sleeps_of_pending (s := s) (r := r) (w := ⟨number, i⟩)
  cases hasks with
  | took p s₁ hreceive =>
      rw [hreceive] at hmerges hchannels
      have hback : ∀ j, j ∈ ready ∨ j = i →
          j ∈ ((Merge.wake { m with ready } i).note i p).ready := by
        intro j hj
        rw [Merge.ready_note]
        exact Merge.mem_ready_wake_of hj
      refine h.done hsound hm hr hmerges hchannels ?_ ?_ ?_ ?_
      · rw [Merge.receivers_note_wake]
      · intro j hj
        rwa [Merge.live_note_wake] at hj
      · exact fun j hj hne => hback j (Or.inl (hrest j hj hne))
      · exact fun _ hidle => absurd (hback i (Or.inr rfl)) hidle
  | ended s₁ hreceive =>
      rw [hreceive] at hmerges hchannels
      have hchannels' : ∀ other, r ≠ other →
          ((s₁.dropReceiver r).slot other).channel? = (s.slot other).channel? :=
        fun other hne => (channel_dropReceiver_of_ne hne s₁).trans (hchannels other hne)
      have hleft : ∀ j ∈ (Merge.leave { m with ready } i).live, j ∈ m.live ∧ j ≠ i := by
        intro j hj
        rw [Merge.live_leave] at hj
        simpa using hj
      refine h.done hsound hm hr hmerges hchannels' ?_ ?_ ?_ ?_
      · rw [Merge.receivers_leave]
      · exact fun j hj => (hleft j hj).1
      · intro j hj hne
        rw [Merge.ready_leave]
        exact hrest j hj hne
      · exact fun hi => absurd rfl (hleft i hi).2
  | nothing s₁ hreceive =>
      rw [hreceive] at hmerges hchannels hpending
      refine h.done hsound hm hr hmerges hchannels rfl (fun _ hj => hj) hrest ?_
      exact fun _ _ => hpending rfl

/-- Nobody stands at the front of the queue, so nobody is lost with it. -/
theorem Alert.skip
    {i : Nat} {ready : List Nat}
    (h : s.Alert)
    (hm : Registry.find? s.merges number = some m)
    (hqueue : m.ready = i :: ready)
    (hnone : m.receivers[i]? = none) :
    (s.setMerge number { m with ready }).Alert := by
  constructor
  · intro k mk hmk j hj
    rw [setMerge, Registry.find?_set] at hmk
    split at hmk
    · cases hmk
      exact h.inputs number m hm j hj
    · exact h.inputs k mk hmk j hj
  · intro k mk hmk j hj hidle other hother
    rw [setMerge, Registry.find?_set] at hmk
    split at hmk
    · next heq =>
        subst heq
        cases hmk
        refine h.asleep number m hm j hj (fun hmem => ?_) other hother
        rw [hqueue] at hmem
        rcases List.mem_cons.1 hmem with rfl | hmem
        · cases hnone.symm.trans hother
        · exact hidle hmem
    · exact h.asleep k mk hmk j hj hidle other hother

theorem Alert.turn
    (h : s.Alert)
    (hsound : s.Sound H outer)
    (hm : Registry.find? s.merges number = some m) :
    (s.turn number m).2.2.Alert := by
  have hturns := turns_turn s number m
  generalize s.turn number m = answer at hturns ⊢
  cases hturns with
  | cleanEnd _ =>
      exact h
  | idle _ =>
      exact h
  | skip i ready _ hready hnone =>
      exact h.skip hm hready hnone
  | asks i ready r finding turn s' _ hready hr hasks =>
      exact h.ask hsound hm hready hr hasks

/-- Mailboxes on which nothing was done. -/
theorem alert_create (host : String) (mailboxPort : UInt16) (capacity : Nat) :
    (Mailboxes.create host mailboxPort capacity).Alert where
  inputs _ _ hm := by cases hm
  asleep _ _ hm := by cases hm

end Mailboxes
end ScatterGather
