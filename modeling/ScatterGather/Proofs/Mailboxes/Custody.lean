import ScatterGather.Proofs.Mailbox.Custody
import ScatterGather.Proofs.Mailboxes.Frame
import ScatterGather.Proofs.Mailboxes.Orderly

/-!
# The receivers that were given out

A receiver that was given out is with the one it was given to, or with the merge that was opened
over it, until it is dropped. By that its channel closes, for good.

**Results.** One theorem for each operation says which receivers it gives out. Every operation keeps
it so that an open channel whose receiver was given out has somebody who receives from it.
-/

namespace ScatterGather
namespace Mailboxes

variable {H : History} {outer outer' given given' used : Receiver → Prop} {s s' s'' : Mailboxes}
variable {change : Option (Receiver × Change)} {sender : Sender} {r : Receiver} {id : MailboxId}

/-- Mailboxes that have a sender on each channel whose receiver they have. -/
def Faithful (s : Mailboxes) : Prop :=
  ∀ id, (s.box id).Faithful

/-- Mailboxes before and after operations that give out at most the receivers that are `given`. What
was given out before is not taken back, and its channel does not open again. -/
structure Gives (given : Receiver → Prop) (s s' : Mailboxes) : Prop where
  faithful : s'.Faithful
  given : ∀ r, (s'.slot r).Issued → (s.slot r).Issued ∨ given r
  later : ∀ r, (s.slot r).Issued → (s'.slot r).Issued ∧ (s'.Open r → s.Open r)

namespace Gives

theorem refl (h : s.Faithful) : Gives given s s where
  faithful := h
  given _ hr := Or.inl hr
  later _ hr := ⟨hr, id⟩

theorem trans
    (h : Gives given s s')
    (h' : Gives given s' s'') :
    Gives given s s'' where
  faithful := h'.faithful
  given r hr := by
    rcases h'.given r hr with hissued | hgiven
    · exact h.given r hissued
    · exact Or.inr hgiven
  later r hr := by
    obtain ⟨hissued, hopen⟩ := h.later r hr
    obtain ⟨hissued', hopen'⟩ := h'.later r hissued
    exact ⟨hissued', fun hr' => hopen (hopen' hr')⟩

theorem mono
    (h : Gives given s s')
    (hmore : ∀ r, given r → given' r) :
    Gives given' s s' where
  faithful := h.faithful
  given r hr := (h.given r hr).imp id (hmore r)
  later := h.later

end Gives

theorem Evolves.later
    (h : s.Evolves change s')
    (r : Receiver)
    (hissued : (s.slot r).Issued) :
    (s'.slot r).Issued ∧ (s'.Open r → s.Open r) := by
  refine ⟨(h.slots r).issued hissued, ?_⟩
  rintro ⟨c', hc', hreceiving'⟩
  obtain ⟨c, hc⟩ := Option.ne_none_iff_exists'.1 hissued.1
  refine ⟨c, hc, ?_⟩
  cases hreceiving : c.receiving with
  | true =>
      rfl
  | false =>
      obtain ⟨other, hother, hclosed⟩ := (h.slots r).closed hc hreceiving
      cases hc'.symm.trans hother
      rw [hreceiving'] at hclosed
      cases hclosed

/-! ## What the operations give out -/

namespace Faithful

theorem update
    {α : Type} {f : Mailbox → Mailbox.Outcome α}
    (h : s.Faithful)
    (hf : (s.box id).Gives (fun g => given ⟨id, g⟩) (f (s.box id)).box)
    (hlater : ∀ r, (s.slot r).Issued →
      ((s.update id f).2.slot r).Issued ∧ ((s.update id f).2.Open r → s.Open r)) :
    Gives given s (s.update id f).2 where
  faithful other := by
    rw [box_update]
    split
    · exact hf.faithful
    · exact h other
  given r hr := by
    unfold slot at hr ⊢
    rw [box_update] at hr
    split at hr
    · next heq =>
        subst heq
        exact hf.given r.generation hr
    · exact Or.inl hr
  later := hlater

theorem openSender
    (h : s.Faithful)
    (id : MailboxId) :
    Gives given s (s.openSender id).2 :=
  h.update (f := fun box => box.openSender s.capacity) ((h id).openSender s.capacity)
    (evolves_openSender s id).later

theorem cloneSender
    (h : s.Faithful)
    (sender : Sender) :
    Gives given s (s.cloneSender sender) :=
  h.update ((h sender.id).cloneSender sender.generation) (evolves_cloneSender s sender).later

theorem dropSender
    (h : s.Faithful)
    (sender : Sender) :
    Gives given s (s.dropSender sender) :=
  h.update ((h sender.id).dropSender sender.generation) (evolves_dropSender s sender).later

theorem send
    (h : s.Faithful)
    (sender : Sender) (p : Packet) :
    Gives given s (s.send sender p).2 := by
  refine h.update ((h sender.id).steady (Mailbox.steady_offer _ sender.generation p)) ?_
  rcases evolves_send s sender p with ⟨g, -, -, he⟩ | ⟨-, he⟩
  · exact he.later
  · exact he.later

theorem join
    (h : s.Faithful)
    (id : MailboxId) (generation : Nat) :
    Gives given s (s.update id fun box => box.join generation).2 :=
  h.update ((h id).steady (Mailbox.steady_join _ generation)) (evolves_join s id generation).later

theorem redeem
    (h : s.Faithful)
    (id : MailboxId) (generation ticket : Nat) (p : Packet) :
    Gives given s (s.update id fun box => box.redeem generation ticket p).2 := by
  refine h.update ((h id).steady (Mailbox.steady_redeem _ generation ticket p)) ?_
  rcases evolves_redeem s id generation ticket p with ⟨-, he⟩ | ⟨-, he⟩
  · exact he.later
  · exact he.later

theorem forgetSend
    (h : s.Faithful)
    (id : MailboxId) (generation ticket : Nat) :
    Gives given s (s.update id fun box => box.forgetSend generation ticket).2 :=
  h.update ((h id).steady (Mailbox.steady_forgetSend _ generation ticket))
    (evolves_forgetSend s id generation ticket).later

theorem sendWaiting
    (h : s.Faithful)
    (sender : Sender) (p : Packet) :
    Gives given s (s.sendWaiting sender p).2.2 := by
  have hcloned : Gives given s (s.cloneSender sender) := h.cloneSender sender
  have hsent := hcloned.trans (hcloned.faithful.send sender p)
  unfold Mailboxes.sendWaiting
  dsimp only
  split
  · next s' generation hsend _ =>
      rw [hsend] at hsent
      exact hsent.trans (hsent.faithful.join sender.id generation)
  · next s' hsend _ =>
      rw [hsend] at hsent
      exact hsent.trans (hsent.faithful.dropSender sender)

theorem retry
    (h : s.Faithful)
    (pending : PendingSend) :
    Gives given s (s.retry pending).2 := by
  have hredeemed : Gives given s (s.update pending.id fun box =>
      box.redeem pending.generation pending.ticket pending.packet).2 :=
    h.redeem pending.id pending.generation pending.ticket pending.packet
  unfold Mailboxes.retry
  split
  · next hredeem =>
      rw [hredeem] at hredeemed
      exact hredeemed
  · next hredeem =>
      rw [hredeem] at hredeemed
      exact hredeemed.trans (hredeemed.faithful.dropSender pending.sender)

theorem dropPendingSend
    (h : s.Faithful)
    (pending : PendingSend) :
    Gives given s (s.dropPendingSend pending) := by
  have hforgotten : Gives given s (s.update pending.id fun box =>
      box.forgetSend pending.generation pending.ticket).2 :=
    h.forgetSend pending.id pending.generation pending.ticket
  exact hforgotten.trans (hforgotten.faithful.dropSender pending.sender)

/-- The receiver that is opened is the one that is given out. -/
theorem openReceiver
    (h : s.Faithful)
    (id : MailboxId) :
    Gives ((s.openReceiver id).1 = .ok ·) s (s.openReceiver id).2 := by
  have hlater := (evolves_openReceiver s id).later
  rw [openReceiver_eq] at hlater ⊢
  refine h.update (f := fun box => box.openReceiver s.capacity) ?_ hlater
  refine ((h id).openReceiver s.capacity).mono fun g hg => ?_
  dsimp only
  rw [hg]

theorem receive
    (h : s.Faithful)
    (r : Receiver) (watcher : Option Watcher) :
    Gives given s (s.receive r watcher).2 := by
  refine h.update ((h r.id).receive r.generation watcher) ?_
  rcases evolves_receive s r watcher with ⟨p, -, he⟩ | ⟨-, he⟩
  · exact he.later
  · exact he.later

theorem dropReceiver
    (h : s.Faithful)
    (hissued : (s.slot r).Issued) :
    Gives given s (s.dropReceiver r) :=
  h.update ((h r.id).dropReceiver r.generation) (evolves_dropReceiver hissued.1).later

end Faithful

theorem Serves.gives
    (hserves : Serves given used s s')
    (h : s.Faithful) :
    Gives given s s' := by
  induction hserves with
  | refl =>
      exact .refl h
  | openReceiver _ id hgiven ih =>
      exact ih.trans ((ih.faithful.openReceiver id).mono hgiven)
  | @receive s' r _ _ watcher ih =>
      exact ih.trans (ih.faithful.receive r watcher)
  | dropReceiver _ _ hissued _ ih =>
      exact ih.trans (ih.faithful.dropReceiver hissued)
  | remerge _ merges nextMerge ih =>
      exact ⟨ih.faithful, ih.given, ih.later⟩

/-! ## Receivers that are dropped -/

theorem not_open_dropReceiver (hissued : (s.slot r).Issued) : ¬ (s.dropReceiver r).Open r := by
  rintro ⟨c', hc', hreceiving⟩
  obtain ⟨c, hc⟩ := Option.ne_none_iff_exists'.1 hissued.1
  obtain ⟨other, hother, hbecomes⟩ := ((evolves_dropReceiver hissued.1).slots r).channel c hc
  cases hc'.symm.trans hother
  rw [Change.at?_self] at hbecomes
  cases hbecomes with
  | closed _ hclosed =>
      rw [hreceiving] at hclosed
      cases hclosed

theorem later_dropReceivers
    {receivers : List Receiver}
    (hreceivers : ∀ r ∈ receivers, (s.slot r).Issued)
    (hissued : (s.slot r).Issued) :
    ((receivers.foldl dropReceiver s).slot r).Issued ∧
      ((receivers.foldl dropReceiver s).Open r → s.Open r) := by
  induction receivers generalizing s with
  | nil =>
      exact ⟨hissued, id⟩
  | cons first rest ih =>
      obtain ⟨hfirst, hrest⟩ := List.forall_mem_cons.1 hreceivers
      have hlater := (evolves_dropReceiver hfirst.1).later
      have hrest' : ∀ other ∈ rest, ((s.dropReceiver first).slot other).Issued :=
        fun other hother => (hlater other (hrest other hother)).1
      obtain ⟨hissued', hopen⟩ := hlater r hissued
      obtain ⟨hafter, hopen'⟩ := ih hrest' hissued'
      exact ⟨hafter, fun hr => hopen (hopen' hr)⟩

theorem not_open_dropReceivers
    {receivers : List Receiver}
    (hreceivers : ∀ r ∈ receivers, (s.slot r).Issued)
    (hr : r ∈ receivers) :
    ¬ (receivers.foldl dropReceiver s).Open r := by
  induction receivers generalizing s with
  | nil =>
      cases hr
  | cons first rest ih =>
      obtain ⟨hfirst, hrest⟩ := List.forall_mem_cons.1 hreceivers
      have hlater := (evolves_dropReceiver hfirst.1).later
      have hrest' : ∀ other ∈ rest, ((s.dropReceiver first).slot other).Issued :=
        fun other hother => (hlater other (hrest other hother)).1
      rcases List.mem_cons.1 hr with rfl | hr
      · intro hopen
        have hissued' := (hlater r hfirst).1
        exact not_open_dropReceiver hfirst ((later_dropReceivers hrest' hissued').2 hopen)
      · exact ih hrest' hr

/-- When a merge is dropped, nothing that it was opened over is received from any more. -/
theorem Sound.not_open_dropMerge
    {number : Nat} {m : Merge}
    (h : Sound H outer s)
    (hm : Registry.find? s.merges number = some m)
    (hr : r ∈ m.receivers) :
    ¬ (s.dropMerge number).Open r := by
  have hfollows := h.follows number m hm
  have hissued : ∀ r ∈ m.receivers, (s.slot r).Issued :=
    fun r hr => h.issued (some number) r ⟨m, hm, hr⟩
  have hdropped : ∀ r ∈ m.live.filterMap fun input => m.receivers[input]?, (s.slot r).Issued := by
    intro r hr
    obtain ⟨i, -, hi⟩ := List.mem_filterMap.1 hr
    exact hissued r (List.mem_of_getElem? hi)
  obtain ⟨i, hi⟩ := List.mem_iff_getElem?.1 hr
  unfold Mailboxes.dropMerge
  rw [hm]
  intro hopen
  by_cases hlive : i ∈ m.live
  · exact not_open_dropReceivers hdropped (List.mem_filterMap.2 ⟨i, hlive, hi⟩) hopen
  · obtain ⟨c', hc', hreceiving⟩ := (later_dropReceivers hdropped (hissued r hr)).2 hopen
    obtain ⟨-, c, hc, hclosed⟩ := hfollows.gone i r hi hlive
    cases hc'.symm.trans hc
    rw [hreceiving] at hclosed
    cases hclosed

/-! ## Receivers that are opened for a merge -/

/-- What is given out for a merge goes to it, or is dropped again if it cannot be opened. -/
theorem Gathered.given_openReceivers
    {opened : List Receiver}
    (h : s.Gathered H outer opened)
    (ids : List MailboxId)
    (hasked : ∀ id ∈ ids, .asked id ∈ H) :
    (∀ r ∈ opened ++ s.givenOut ids, ((s.openReceivers opened ids).2.slot r).Issued) ∧
      ((s.openReceivers opened ids).1 = .ok (opened ++ s.givenOut ids) ∨
        ∀ r ∈ opened ++ s.givenOut ids, ¬ (s.openReceivers opened ids).2.Open r) := by
  induction ids generalizing s opened with
  | nil =>
      have hissued : ∀ r ∈ opened, (s.slot r).Issued :=
        fun r hr => h.sound.issued none r (Or.inr hr)
      rw [givenOut, List.append_nil]
      exact ⟨hissued, Or.inl rfl⟩
  | cons id ids ih =>
      obtain ⟨hfirst, hrest⟩ := List.forall_mem_cons.1 hasked
      unfold Mailboxes.openReceivers
      split
      · next r s' hopen =>
          have hnext := h.open hfirst (show (s.openReceiver id).1 = .ok r by rw [hopen])
          rw [hopen] at hnext
          have hgiven := ih hnext hrest
          rw [List.append_assoc, List.singleton_append] at hgiven
          rw [givenOut_of_ok hopen]
          exact hgiven
      · next fault s' hopen =>
          have hlater := (evolves_openReceiver s id).later
          rw [hopen] at hlater
          have hissued : ∀ r ∈ opened, (s'.slot r).Issued :=
            fun r hr => (hlater r (h.sound.issued none r (Or.inr hr))).1
          rw [givenOut_of_error hopen, List.append_nil]
          refine ⟨fun r hr => (later_dropReceivers hissued (hissued r hr)).1, Or.inr ?_⟩
          exact fun r hr => not_open_dropReceivers hissued hr

/-- A merge that cannot be opened leaves none of its channels open. -/
theorem Sound.opened_openMerge
    (h : Sound H outer s)
    (request : MergeRequest) :
    (∀ r ∈ s.givenTo request, ((s.openMerge request).2.slot r).Issued) ∧
      ((∃ number, (s.openMerge request).1 = .ok number) ∨
        ∀ r ∈ s.givenTo request, ¬ (s.openMerge request).2.Open r) := by
  unfold Mailboxes.openMerge givenTo
  cases request.chosen with
  | error fault =>
      exact ⟨by simp, Or.inr (by simp)⟩
  | ok senders =>
      dsimp only
      have hasked := h.asks (senders.map request.idOf)
      obtain ⟨hissued, hopened⟩ :=
        (Gathered.start hasked).given_openReceivers (senders.map request.idOf)
          fun id hid => List.mem_append_right _ (List.mem_map_of_mem hid)
      rw [List.nil_append] at hissued hopened
      split
      · next fault s' hopen =>
          rw [hopen] at hissued hopened
          exact ⟨hissued, Or.inr (hopened.resolve_left (by simp))⟩
      · next receivers s' hopen =>
          rw [hopen] at hissued
          exact ⟨hissued, Or.inl ⟨s'.nextMerge, rfl⟩⟩

theorem Sound.given_openMerge
    (h : Sound H outer s)
    (request : MergeRequest)
    (hr : r ∈ s.givenTo request) :
    ((s.openMerge request).2.slot r).Issued ∧
      ((s.openMerge request).2.Open r →
        ∃ number, (s.openMerge request).2.Holds outer (some number) r) := by
  obtain ⟨hissued, hopened⟩ := h.opened_openMerge request
  refine ⟨hissued r hr, fun hopen => ?_⟩
  rcases hopened with ⟨number, hanswer⟩ | hclosed
  · obtain ⟨m, hm, hreceivers⟩ := Option.map_eq_some_iff.1 (inputs?_openMerge hanswer)
    exact ⟨number, m, hm, hreceivers ▸ hr⟩
  · exact absurd hopen (hclosed r hr)

/-! ## Who has what was given out -/

/-- The receivers that were `given` out are those the mailboxes have not got, and an open channel of
one of them has somebody who receives from it. -/
structure Custody (outer given : Receiver → Prop) (s : Mailboxes) : Prop where
  faithful : s.Faithful
  issued : ∀ r, (s.slot r).Issued ↔ given r
  held : ∀ r, given r → s.Open r → ∃ holder, s.Holds outer holder r

/-- A merge that stays open goes on to hold its receivers. -/
theorem Leaves.holds
    {gone : Nat → Prop} {number : Nat}
    (h : Leaves gone s s')
    (hsound : Sound H outer s)
    (hgone : ¬ gone number)
    (hholds : s.Holds outer (some number) r) :
    s'.Holds outer' (some number) r := by
  obtain ⟨m, hm, hr⟩ := hholds
  have hinputs := h.inputs number (hsound.below number m hm) hgone
  rw [inputs?, inputs?, hm] at hinputs
  obtain ⟨m', hm', hreceivers⟩ := Option.map_eq_some_iff.1 hinputs
  exact ⟨m', hm', hreceivers ▸ hr⟩

namespace Custody

theorem congr
    (h : s.Custody outer given)
    (hgiven : ∀ r, given' r ↔ given r) :
    s.Custody outer given' := by
  obtain rfl : given' = given := funext fun r => propext (hgiven r)
  exact h

/-- Receivers are given out, and those who had some still have them, or dropped them. -/
theorem step
    {new : Receiver → Prop}
    (h : s.Custody outer given)
    (hgives : Gives new s s')
    (hnew : ∀ r, new r →
      (s'.slot r).Issued ∧ (s'.Open r → ∃ holder, s'.Holds outer' holder r))
    (hheld : ∀ holder r, s.Holds outer holder r → s'.Open r →
      ∃ holder, s'.Holds outer' holder r) :
    s'.Custody outer' (fun r => given r ∨ new r) where
  faithful := hgives.faithful
  issued r := by
    constructor
    · intro hr
      exact (hgives.given r hr).imp (h.issued r).1 id
    · rintro (hr | hr)
      · exact (hgives.later r ((h.issued r).2 hr)).1
      · exact (hnew r hr).1
  held r hr hopen := by
    rcases hr with hr | hr
    · obtain ⟨holder, hholder⟩ := h.held r hr ((hgives.later r ((h.issued r).2 hr)).2 hopen)
      exact hheld holder r hholder hopen
    · exact (hnew r hr).2 hopen

/-- Nothing is given out and no merge is dropped. What others had they still have, or dropped. -/
theorem keep
    (h : s.Custody outer given)
    (hsound : Sound H outer s)
    (hgives : Gives (fun _ => False) s s')
    (hleaves : Leaves (fun _ => False) s s')
    (houter : ∀ r, outer r → s'.Open r → outer' r) :
    s'.Custody outer' given := by
  refine (h.step hgives (fun _ hfalse => hfalse.elim) ?_).congr (by simp)
  intro holder r hholds hopen
  cases holder with
  | none =>
      exact ⟨none, houter r hholds hopen⟩
  | some number =>
      exact ⟨some number, hleaves.holds hsound not_false hholds⟩

theorem quietly
    (h : s.Custody outer given)
    (hsound : Sound H outer s)
    (hgives : Gives (fun _ => False) s s')
    (hleaves : Leaves (fun _ => False) s s') :
    s'.Custody outer given :=
  h.keep hsound hgives hleaves fun _ hr _ => hr

/-- Others may be said to have more. -/
theorem mono
    (h : s.Custody outer given)
    (houter : ∀ r, outer r → outer' r) :
    s.Custody outer' given where
  faithful := h.faithful
  issued := h.issued
  held r hr hopen := by
    obtain ⟨holder, hholds⟩ := h.held r hr hopen
    cases holder with
    | none =>
        exact ⟨none, houter r hholds⟩
    | some number =>
        exact ⟨some number, hholds⟩

theorem openReceiver
    (h : s.Custody outer given)
    (hsound : Sound H outer s)
    (hanswer : (s.openReceiver id).1 = .ok r) :
    (s.openReceiver id).2.Custody (fun other => outer other ∨ other = r)
      (fun other => given other ∨ other = r) := by
  have hgives : Gives (· = r) s (s.openReceiver id).2 := by
    refine (h.faithful.openReceiver id).mono fun other hother => ?_
    cases hanswer.symm.trans hother
    rfl
  refine h.step hgives ?_ ?_
  · rintro other rfl
    refine ⟨⟨?_, (openReceiver_answer hanswer).2.2⟩, fun _ => ⟨none, Or.inr rfl⟩⟩
    obtain ⟨-, c, hc, -⟩ := hsound.untouched_of_openReceiver hanswer
    simp [hc]
  · intro holder other hholds _
    cases holder with
    | none =>
        exact ⟨none, Or.inl hholds⟩
    | some number =>
        have hleaves : Leaves (fun _ => False) s (s.openReceiver id).2 := leaves_openReceiver s id
        exact ⟨some number, hleaves.holds hsound not_false hholds⟩

theorem openMerge
    (h : s.Custody outer given)
    (hsound : Sound H outer s)
    (request : MergeRequest) :
    (s.openMerge request).2.Custody outer (fun r => given r ∨ r ∈ s.givenTo request) := by
  refine h.step ((hsound.serves_openMerge request).gives h.faithful) ?_ ?_
  · intro r hr
    obtain ⟨hissued, hheld⟩ := hsound.given_openMerge request hr
    refine ⟨hissued, fun hopen => ?_⟩
    obtain ⟨number, hholds⟩ := hheld hopen
    exact ⟨some number, hholds⟩
  · intro holder r hholds _
    cases holder with
    | none =>
        exact ⟨none, hholds⟩
    | some number =>
        have hleaves : Leaves (fun _ => False) s (s.openMerge request).2 :=
          leaves_openMerge s request
        exact ⟨some number, hleaves.holds hsound not_false hholds⟩

theorem dropReceiver
    (h : s.Custody outer given)
    (hsound : Sound H outer s)
    (hr : outer r)
    (houter : ∀ other, outer other → outer' other ∨ other = r) :
    (s.dropReceiver r).Custody outer' given := by
  have hissued : (s.slot r).Issued := hsound.issued none r hr
  refine h.keep hsound (h.faithful.dropReceiver hissued) (leaves_dropReceiver s r) ?_
  intro other hother hopen
  rcases houter other hother with hother' | rfl
  · exact hother'
  · exact absurd hopen (not_open_dropReceiver hissued)

theorem dropMerge
    (h : s.Custody outer given)
    (hsound : Sound H outer s)
    (hwired : s.Wired)
    (number : Nat) :
    (s.dropMerge number).Custody outer given := by
  have hgives := (hsound.serves_dropMerge hwired number).gives h.faithful
  refine (h.step hgives (fun _ hfalse => hfalse.elim) ?_).congr (by simp)
  intro holder r hholds hopen
  cases holder with
  | none =>
      exact ⟨none, hholds⟩
  | some k =>
      by_cases hk : k = number
      · subst hk
        obtain ⟨m, hm, hr⟩ := hholds
        exact absurd hopen (hsound.not_open_dropMerge hm hr)
      · have hleaves : Leaves (· = number) s (s.dropMerge number) := leaves_dropMerge s rfl
        exact ⟨some k, hleaves.holds hsound hk hholds⟩

theorem pull
    (h : s.Custody outer given)
    (hsound : Sound H outer s)
    (hwired : s.Wired)
    (number : Nat) :
    (s.pull number).mailboxes.Custody outer given :=
  h.quietly hsound ((hsound.serves_pull hwired number).1.gives h.faithful) (leaves_pull s number)

end Custody
end Mailboxes
end ScatterGather
