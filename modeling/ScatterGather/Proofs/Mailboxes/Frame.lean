import ScatterGather.Proofs.Mailboxes.Pull
import ScatterGather.Proofs.Registry

/-!
# What operations leave alone

The address of the mailboxes of a process stays as it is, every mailbox is entered once, numbers of
merges are given once, and a merge that is open reads from the same receivers until it is dropped.

**Results.** Every operation leaves all of this alone but for a merge that it drops.
-/

namespace ScatterGather
namespace Mailboxes

variable {s s' s'' : Mailboxes} {gone gone' : Nat → Prop} {number : Nat} {m : Merge}

/-- The receivers of a merge that is open. -/
def inputs? (s : Mailboxes) (number : Nat) : Option (List Receiver) :=
  (Registry.find? s.merges number).map Merge.receivers

/-- Mailboxes before and after operations that drop no other merges than those that are `gone`. A
merge that was opened before is as it was, or is dropped. -/
structure Leaves (gone : Nat → Prop) (s s' : Mailboxes) : Prop where
  host : s'.host = s.host
  mailboxPort : s'.mailboxPort = s.mailboxPort
  entries : (Registry.keys s.boxes).Nodup → (Registry.keys s'.boxes).Nodup
  next : s.nextMerge ≤ s'.nextMerge
  inputs : ∀ k, k < s.nextMerge → ¬ gone k → s'.inputs? k = s.inputs? k
  opened : ∀ k, k < s.nextMerge → s'.inputs? k = s.inputs? k ∨ s'.inputs? k = none

namespace Leaves

theorem refl (s : Mailboxes) : Leaves gone s s where
  host := rfl
  mailboxPort := rfl
  entries h := h
  next := Nat.le_refl _
  inputs _ _ _ := rfl
  opened _ _ := Or.inl rfl

theorem trans
    (h : Leaves gone s s')
    (h' : Leaves gone s' s'') :
    Leaves gone s s'' where
  host := h'.host.trans h.host
  mailboxPort := h'.mailboxPort.trans h.mailboxPort
  entries hnodup := h'.entries (h.entries hnodup)
  next := Nat.le_trans h.next h'.next
  inputs k hk hgone :=
    (h'.inputs k (Nat.lt_of_lt_of_le hk h.next) hgone).trans (h.inputs k hk hgone)
  opened k hk := by
    rcases h'.opened k (Nat.lt_of_lt_of_le hk h.next) with hkept | hdropped
    · rw [hkept]
      exact h.opened k hk
    · exact Or.inr hdropped

theorem mono
    (h : Leaves gone s s')
    (hgone : ∀ k, gone k → gone' k) :
    Leaves gone' s s' where
  host := h.host
  mailboxPort := h.mailboxPort
  entries := h.entries
  next := h.next
  inputs k hk hnot := h.inputs k hk fun hg => hnot (hgone k hg)
  opened := h.opened

/-- No merge is dropped. -/
theorem of_inputs
    (hhost : s'.host = s.host)
    (hport : s'.mailboxPort = s.mailboxPort)
    (hentries : (Registry.keys s.boxes).Nodup → (Registry.keys s'.boxes).Nodup)
    (hnext : s.nextMerge ≤ s'.nextMerge)
    (hinputs : ∀ k, k < s.nextMerge → s'.inputs? k = s.inputs? k) :
    Leaves gone s s' where
  host := hhost
  mailboxPort := hport
  entries := hentries
  next := hnext
  inputs k hk _ := hinputs k hk
  opened k hk := Or.inl (hinputs k hk)

end Leaves

theorem leaves_setMerge
    {m' : Merge}
    (hm : Registry.find? s.merges number = some m)
    (hreceivers : m'.receivers = m.receivers) :
    Leaves gone s (s.setMerge number m') := by
  refine .of_inputs rfl rfl id (Nat.le_refl _) fun k _ => ?_
  unfold inputs? setMerge
  rw [Registry.find?_set]
  split
  · next heq =>
      subst heq
      rw [hm, Option.map_some, Option.map_some, hreceivers]
  · rfl

theorem leaves_wake (s : Mailboxes) (woken : Option Watcher) : Leaves gone s (s.wake woken) := by
  unfold wake
  split
  · exact .refl s
  · split
    · next merge hfind =>
        exact leaves_setMerge hfind (Merge.receivers_of_settled (Merge.settled_wake merge _))
    · exact .refl s

theorem leaves_update
    {α : Type} (s : Mailboxes) (id : MailboxId) (f : Mailbox → Mailbox.Outcome α) :
    Leaves gone s (s.update id f).2 := by
  have hwake : Leaves gone _ _ :=
    leaves_wake { s with boxes := Registry.set s.boxes id (f (s.box id)).box } (f (s.box id)).woken
  refine ⟨hwake.host, hwake.mailboxPort, fun hnodup => hwake.entries ?_, hwake.next, hwake.inputs,
    hwake.opened⟩
  exact Registry.nodup_keys_set hnodup id _

/-! ## Senders and receivers -/

theorem leaves_openSender (s : Mailboxes) (id : MailboxId) : Leaves gone s (s.openSender id).2 :=
  leaves_update s id fun box => box.openSender s.capacity

theorem leaves_cloneSender (s : Mailboxes) (h : Sender) : Leaves gone s (s.cloneSender h) :=
  leaves_update s h.id _

theorem leaves_dropSender (s : Mailboxes) (h : Sender) : Leaves gone s (s.dropSender h) :=
  leaves_update s h.id _

theorem leaves_send (s : Mailboxes) (h : Sender) (p : Packet) : Leaves gone s (s.send h p).2 :=
  leaves_update s h.id _

theorem leaves_receive (s : Mailboxes) (r : Receiver) (watcher : Option Watcher) :
    Leaves gone s (s.receive r watcher).2 :=
  leaves_update s r.id _

theorem leaves_dropReceiver (s : Mailboxes) (r : Receiver) : Leaves gone s (s.dropReceiver r) :=
  leaves_update s r.id _

theorem leaves_sendWaiting (s : Mailboxes) (h : Sender) (p : Packet) :
    Leaves gone s (s.sendWaiting h p).2.2 := by
  have hsent : Leaves gone s ((s.cloneSender h).send h p).2 :=
    (leaves_cloneSender s h).trans (leaves_send (s.cloneSender h) h p)
  unfold sendWaiting
  dsimp only
  split
  · next s' generation hsend _ =>
      rw [hsend] at hsent
      exact hsent.trans (leaves_update s' h.id fun box => box.join generation)
  · next s' hsend _ =>
      rw [hsend] at hsent
      exact hsent.trans (leaves_dropSender s' h)

theorem leaves_retry (s : Mailboxes) (pending : PendingSend) :
    Leaves gone s (s.retry pending).2 := by
  have hredeemed : Leaves gone s (s.update pending.id fun box =>
      box.redeem pending.generation pending.ticket pending.packet).2 :=
    leaves_update s pending.id _
  unfold retry
  split
  · next hredeem =>
      rw [hredeem] at hredeemed
      exact hredeemed
  · next s' _ hredeem =>
      rw [hredeem] at hredeemed
      exact hredeemed.trans (leaves_dropSender s' pending.sender)

theorem leaves_dropPendingSend (s : Mailboxes) (pending : PendingSend) :
    Leaves gone s (s.dropPendingSend pending) :=
  (leaves_update s pending.id _).trans (leaves_dropSender _ pending.sender)

theorem leaves_release (s : Mailboxes) (id : MailboxId) : Leaves gone s (s.release id) :=
  leaves_update s id _

theorem leaves_openReceiver (s : Mailboxes) (id : MailboxId) :
    Leaves gone s (s.openReceiver id).2 := by
  have hopened : Leaves gone s (s.update id fun box => box.openReceiver s.capacity).2 :=
    leaves_update s id _
  unfold openReceiver
  split
  · next hopen =>
      rw [hopen] at hopened
      exact hopened
  · next hopen =>
      rw [hopen] at hopened
      exact hopened

theorem leaves_dropReceivers (s : Mailboxes) (receivers : List Receiver) :
    Leaves gone s (receivers.foldl dropReceiver s) := by
  induction receivers generalizing s with
  | nil =>
      exact .refl s
  | cons r rest ih =>
      exact (leaves_dropReceiver s r).trans (ih (s.dropReceiver r))

/-! ## Merges -/

theorem leaves_openReceivers (s : Mailboxes) (opened : List Receiver) (ids : List MailboxId) :
    Leaves gone s (s.openReceivers opened ids).2 := by
  induction ids generalizing s opened with
  | nil =>
      exact .refl s
  | cons id ids ih =>
      have hopened : Leaves gone s (s.openReceiver id).2 := leaves_openReceiver s id
      unfold openReceivers
      split
      · next r s' hopen =>
          rw [hopen] at hopened
          exact hopened.trans (ih s' (opened ++ [r]))
      · next fault s' hopen =>
          rw [hopen] at hopened
          exact hopened.trans (leaves_dropReceivers s' opened)

theorem leaves_openMerge (s : Mailboxes) (request : MergeRequest) :
    Leaves gone s (s.openMerge request).2 := by
  unfold openMerge
  split
  · exact .refl s
  · next senders _ =>
      have hopened : Leaves gone s (s.openReceivers [] (senders.map request.idOf)).2 :=
        leaves_openReceivers s [] _
      split
      · next hopen =>
          rw [hopen] at hopened
          exact hopened
      · next receivers s' hopen =>
          rw [hopen] at hopened
          refine hopened.trans (.of_inputs rfl rfl id (Nat.le_succ _) fun k hk => ?_)
          unfold inputs?
          rw [Registry.find?_set, if_neg (Nat.ne_of_gt hk)]

theorem nextMerge_openReceivers
    {opened receivers : List Receiver} {ids : List MailboxId}
    (hok : (s.openReceivers opened ids).1 = .ok receivers) :
    (s.openReceivers opened ids).2.nextMerge = s.nextMerge := by
  induction ids generalizing s opened with
  | nil =>
      rfl
  | cons id ids ih =>
      have hnext := (evolves_openReceiver s id).merges.next
      unfold openReceivers at hok ⊢
      split at hok
      · next hopen =>
          rw [hopen] at hnext
          exact (ih hok).trans hnext
      · cases hok

/-- Numbers are given in turn. -/
theorem openMerge_number
    {request : MergeRequest}
    (hanswer : (s.openMerge request).1 = .ok number) :
    number = s.nextMerge ∧ (s.openMerge request).2.nextMerge = number + 1 := by
  unfold openMerge at hanswer ⊢
  split at hanswer
  · cases hanswer
  · split at hanswer
    · cases hanswer
    · next receivers s' hopen =>
        cases hanswer
        have hnext := nextMerge_openReceivers
          (show (s.openReceivers [] _).1 = .ok receivers from congrArg Prod.fst hopen)
        rw [hopen] at hnext
        exact ⟨hnext, rfl⟩

/-- A merge that is opened reads from the receivers that were given out to it. -/
theorem inputs?_openMerge
    {request : MergeRequest}
    (hanswer : (s.openMerge request).1 = .ok number) :
    (s.openMerge request).2.inputs? number = some (s.givenTo request) := by
  unfold openMerge at hanswer ⊢
  unfold givenTo
  cases hchosen : request.chosen with
  | error fault =>
      rw [hchosen] at hanswer
      cases hanswer
  | ok senders =>
      rw [hchosen] at hanswer
      dsimp only at hanswer ⊢
      split at hanswer
      · cases hanswer
      · next receivers s' hopen =>
          cases hanswer
          have hgiven := openReceivers_ok (congrArg Prod.fst hopen)
          rw [List.nil_append] at hgiven
          unfold inputs?
          rw [Registry.find?_set, if_pos rfl, hgiven]
          rfl

theorem ids_openReceivers
    {opened receivers : List Receiver} {ids : List MailboxId}
    (h : s.openReceivers opened ids = (.ok receivers, s')) :
    receivers.map Receiver.id = opened.map Receiver.id ++ ids := by
  induction ids generalizing s opened with
  | nil =>
      cases h
      simp
  | cons id ids ih =>
      unfold openReceivers at h
      split at h
      · next r s₁ hopen =>
          have hid : r.id = id :=
            (openReceiver_answer (show (s.openReceiver id).1 = .ok r by rw [hopen])).1
          rw [ih h]
          simp [hid]
      · cases h

/-- An opened merge is over the mailboxes of the senders that were chosen. -/
theorem ids_openMerge
    {request : MergeRequest} {number : Nat}
    (h : s.openMerge request = (.ok number, s')) :
    ∃ senders m, request.chosen = .ok senders ∧ Registry.find? s'.merges number = some m ∧
      m.ids = senders.map request.idOf := by
  unfold openMerge at h
  split at h
  · cases h
  · next senders hchosen =>
      split at h
      · cases h
      · next receivers s₁ hopen =>
          cases h
          refine ⟨senders, _, hchosen, (Registry.find?_set _ _ _ _).trans (if_pos rfl), ?_⟩
          have hids := ids_openReceivers hopen
          simpa [Merge.ids, Merge.ofReceivers] using hids

theorem leaves_turn (hm : Registry.find? s.merges number = some m) :
    Leaves gone s (s.turn number m).2.2 := by
  have hturns := turns_turn s number m
  generalize s.turn number m = answer at hturns ⊢
  cases hturns with
  | cleanEnd _ =>
      exact .refl s
  | idle _ =>
      exact .refl s
  | skip _ _ _ _ _ =>
      exact leaves_setMerge hm rfl
  | asks i ready r finding turn s' _ _ _ hasks =>
      have hreceived : Leaves gone s (s.receive r (some ⟨number, i⟩)).2 := leaves_receive s r _
      have hmerges := merges_receive s r (some ⟨number, i⟩)
      cases hasks with
      | took p s₁ hreceive =>
          rw [hreceive] at hreceived hmerges
          have hm₁ : Registry.find? s₁.merges number = some m := hmerges ▸ hm
          exact hreceived.trans (leaves_setMerge hm₁ (Merge.receivers_note_wake _ i p))
      | ended s₁ hreceive =>
          rw [hreceive] at hreceived hmerges
          have hdropped : Leaves gone s (s₁.dropReceiver r) :=
            hreceived.trans (leaves_dropReceiver s₁ r)
          have hm₁ : Registry.find? (s₁.dropReceiver r).merges number = some m := by
            rw [merges_dropReceiver]
            exact hmerges ▸ hm
          exact hdropped.trans (leaves_setMerge hm₁ (Merge.receivers_leave _ i))
      | nothing s₁ hreceive =>
          rw [hreceive] at hreceived hmerges
          have hm₁ : Registry.find? s₁.merges number = some m := hmerges ▸ hm
          exact hreceived.trans (leaves_setMerge hm₁ rfl)

theorem leaves_pullWithin (s : Mailboxes) (number turns : Nat) :
    Leaves gone s (s.pullWithin number turns).mailboxes := by
  induction turns generalizing s with
  | zero =>
      exact .refl s
  | succ turns ih =>
      unfold pullWithin
      split
      · exact .refl s
      · next m hm =>
          have hturn : Leaves gone s (s.turn number m).2.2 := leaves_turn hm
          split
          · next hpasses =>
              rw [hpasses] at hturn
              exact hturn
          · next hidle =>
              rw [hidle] at hturn
              exact hturn
          · next findings s' hagain =>
              rw [hagain] at hturn
              exact hturn.trans (ih s')

theorem leaves_pull (s : Mailboxes) (number : Nat) :
    Leaves gone s (s.pull number).mailboxes := by
  unfold pull
  split
  · exact leaves_pullWithin s number _
  · exact .refl s

theorem leaves_dropMerge
    (s : Mailboxes)
    (hgone : gone number) :
    Leaves gone s (s.dropMerge number) := by
  unfold dropMerge
  split
  · next m hm =>
      refine (leaves_dropReceivers s _).trans ⟨rfl, rfl, id, Nat.le_refl _, ?_, ?_⟩
      · intro k _ hk
        have hne : number ≠ k := by
          rintro rfl
          exact hk hgone
        unfold inputs?
        dsimp only
        rw [Registry.find?_erase, if_neg hne]
      · intro k _
        unfold inputs?
        dsimp only
        rw [Registry.find?_erase]
        split
        · exact Or.inr rfl
        · exact Or.inl rfl
  · exact .refl s

end Mailboxes
end ScatterGather
