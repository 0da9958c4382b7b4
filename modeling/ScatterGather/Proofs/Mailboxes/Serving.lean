import Mathlib.Data.List.Nodup
import ScatterGather.Proofs.Mailbox.Closing
import ScatterGather.Proofs.Mailboxes.Pull
import ScatterGather.Proofs.Mailboxes.Wiring

/-!
# What merges do to mailboxes

Whatever a merge is used for, it opens receivers, takes packets by them, and drops those of them
whose channels are open. Each of its receivers is dropped once, and it uses none that others have.

**Results.** Opening a merge, pulling from it and dropping it come down to these three operations on
receivers that the merge is given, and a pull keeps merges wired.
-/

namespace ScatterGather

namespace Mailboxes

variable {H : History} {outer given given' used used' : Receiver → Prop} {s s' s'' : Mailboxes}
variable {number : Nat} {m : Merge} {r : Receiver} {findings : List Finding}
variable {change : Option (Receiver × Change)}

/-- The channel of a receiver is received from. -/
def Open (s : Mailboxes) (r : Receiver) : Prop :=
  (s.box r.id).Open r.generation

/-- Only the drop of its receiver closes a channel. -/
theorem Evolves.open
    (h : s.Evolves change s')
    (hchange : Change.at? change r ≠ some .closed)
    (hopen : s.Open r) :
    s'.Open r := by
  obtain ⟨c, hc, hreceiving⟩ := hopen
  obtain ⟨c', hc', hbecomes⟩ := (h.slots r).channel c hc
  refine ⟨c', hc', ?_⟩
  generalize Change.at? change r = local? at hchange hbecomes
  cases hbecomes with
  | stays _ hsame =>
      exact hsame.trans hreceiving
  | pushed _ hreceiving' _ =>
      exact hreceiving'
  | took hsame _ =>
      exact hsame.trans hreceiving
  | closed _ _ =>
      exact absurd rfl hchange

theorem Open.receive
    (h : s.Open r)
    (other : Receiver) (watcher : Option Watcher) :
    (s.receive other watcher).2.Open r := by
  rcases evolves_receive s other watcher with ⟨p, -, he⟩ | ⟨-, he⟩
  · refine he.open ?_ h
    by_cases heq : other = r <;> simp [Change.at?, heq]
  · exact he.open (by simp) h

/-- The drop of another receiver leaves a channel open. -/
theorem Open.dropReceiver
    {other : Receiver}
    (h : s.Open r)
    (hother : s.Open other)
    (hne : other ≠ r) :
    (s.dropReceiver other).Open r := by
  obtain ⟨c, hc, -⟩ := hother
  have hsome : (s.slot other).channel? ≠ none := by
    rw [show (s.slot other).channel? = some c from hc]
    simp
  refine (evolves_dropReceiver hsome).open ?_ h
  rw [Change.at?_of_ne hne]
  simp

/-- A receiver that is asked was given out before and after. -/
theorem issued_receive
    (h : (s.slot r).Issued)
    (other : Receiver) (watcher : Option Watcher) :
    ((s.receive other watcher).2.slot r).Issued := by
  rcases evolves_receive s other watcher with ⟨p, -, he⟩ | ⟨-, he⟩
  · exact (he.slots r).issued h
  · exact (he.slots r).issued h

/-- Mailboxes before and after a merge was used. The receivers that it is given are `given`, and
those that it takes packets by, or drops, are `used`. -/
inductive Serves (given used : Receiver → Prop) (s : Mailboxes) : Mailboxes → Prop
  | refl : Serves given used s s
  | openReceiver
      {s' : Mailboxes}
      (h : Serves given used s s')
      (id : MailboxId)
      (hgiven : ∀ r, (s'.openReceiver id).1 = .ok r → given r) :
      Serves given used s (s'.openReceiver id).2
  | receive
      {s' : Mailboxes} {r : Receiver}
      (h : Serves given used s s')
      (hused : used r)
      (watcher : Option Watcher) :
      Serves given used s (s'.receive r watcher).2
  | dropReceiver
      {s' : Mailboxes} {r : Receiver}
      (h : Serves given used s s')
      (hopen : s'.Open r)
      (hissued : (s'.slot r).Issued)
      (hused : used r) :
      Serves given used s (s'.dropReceiver r)
  | remerge
      {s' : Mailboxes}
      (h : Serves given used s s')
      (merges : Registry Nat Merge) (nextMerge : Nat) :
      Serves given used s { s' with merges, nextMerge }

namespace Serves

theorem setMerge
    (h : Serves given used s s')
    (number : Nat) (m : Merge) :
    Serves given used s (s'.setMerge number m) :=
  h.remerge _ s'.nextMerge

theorem trans
    (h : Serves given used s s')
    (h' : Serves given used s' s'') :
    Serves given used s s'' := by
  induction h' with
  | refl =>
      exact h
  | openReceiver _ id hgiven ih =>
      exact ih.openReceiver id hgiven
  | receive _ hused watcher ih =>
      exact ih.receive hused watcher
  | dropReceiver _ hopen hissued hused ih =>
      exact ih.dropReceiver hopen hissued hused
  | remerge _ merges nextMerge ih =>
      exact ih.remerge merges nextMerge

/-- More receivers may be looked upon as given, or as used. -/
theorem mono
    (h : Serves given used s s')
    (hgiven : ∀ r, given r → given' r)
    (hused : ∀ r, used r → used' r) :
    Serves given' used' s s' := by
  induction h with
  | refl =>
      exact .refl
  | openReceiver _ id hopened ih =>
      exact ih.openReceiver id fun r hr => hgiven r (hopened r hr)
  | receive _ hr watcher ih =>
      exact ih.receive (hused _ hr) watcher
  | dropReceiver _ hopen hissued hr ih =>
      exact ih.dropReceiver hopen hissued (hused _ hr)
  | remerge _ merges nextMerge ih =>
      exact ih.remerge merges nextMerge

theorem dropReceivers
    {receivers : List Receiver}
    (h : Serves given used s s')
    (hnodup : receivers.Nodup)
    (hopen : ∀ r ∈ receivers, s'.Open r)
    (hissued : ∀ r ∈ receivers, (s'.slot r).Issued)
    (hused : ∀ r ∈ receivers, used r) :
    Serves given used s (receivers.foldl Mailboxes.dropReceiver s') := by
  induction receivers generalizing s' with
  | nil =>
      exact h
  | cons r rest ih =>
      obtain ⟨hnew, hnodup⟩ := List.nodup_cons.1 hnodup
      obtain ⟨hr, hrest⟩ := List.forall_mem_cons.1 hopen
      obtain ⟨hgone, hissued⟩ := List.forall_mem_cons.1 hissued
      obtain ⟨hfirst, hused⟩ := List.forall_mem_cons.1 hused
      refine ih (h.dropReceiver hr hgone hfirst) hnodup ?_ ?_ hused
      · intro other hother
        refine (hrest other hother).dropReceiver hr ?_
        rintro rfl
        exact hnew hother
      · exact fun other hother =>
          ((evolves_dropReceiver hgone.1).slots other).issued (hissued other hother)

end Serves

/-! ## Opening and dropping merges -/

theorem Gathered.serves_openReceivers
    {opened : List Receiver}
    (h : s.Gathered H outer opened)
    (ids : List MailboxId)
    (hasked : ∀ id ∈ ids, .asked id ∈ H) :
    Serves (· ∈ s.givenOut ids) (fun r => ¬ outer r ∧ r ∈ opened ++ s.givenOut ids) s
      (s.openReceivers opened ids).2 := by
  induction ids generalizing s opened with
  | nil =>
      exact .refl
  | cons id ids ih =>
      obtain ⟨hasked, hrest⟩ := List.forall_mem_cons.1 hasked
      have hevolves := evolves_openReceiver s id
      unfold Mailboxes.openReceivers
      split
      · next r s' hopen =>
          rw [givenOut_of_ok hopen]
          have hanswer : (s.openReceiver id).1 = .ok r := by rw [hopen]
          have hopened : Serves (· ∈ r :: s'.givenOut ids)
              (fun other => ¬ outer other ∧ other ∈ opened ++ r :: s'.givenOut ids) s
              (s.openReceiver id).2 := by
            refine Serves.refl.openReceiver id fun other hother => ?_
            cases hanswer.symm.trans hother
            exact List.mem_cons_self
          have hnext := h.open hasked hanswer
          rw [hopen] at hopened hnext
          refine hopened.trans ((ih hnext hrest).mono ?_ ?_)
          · exact fun _ => List.mem_cons_of_mem r
          · rw [List.append_assoc, List.singleton_append]
            exact fun _ hother => hother
      · next fault s' hopen =>
          rw [givenOut_of_error hopen, List.append_nil]
          have hopened : Serves (· ∈ []) (fun r => ¬ outer r ∧ r ∈ opened) s
              (s.openReceiver id).2 :=
            Serves.refl.openReceiver id (by simp [hopen])
          rw [hopen] at hopened hevolves
          replace hevolves : s.Evolves none s' := hevolves
          refine hopened.dropReceivers h.nodup (fun r hr => ?_) (fun r hr => ?_) fun r hr => ?_
          · exact hevolves.open (by simp) (h.untouched r hr).2
          · exact (hevolves.slots r).issued (h.sound.issued none r (Or.inr hr))
          · exact ⟨h.apart r hr, hr⟩

theorem Sound.serves_openMerge
    (h : Sound H outer s)
    (request : MergeRequest) :
    Serves (· ∈ s.givenTo request) (fun r => ¬ outer r ∧ r ∈ s.givenTo request) s
      (s.openMerge request).2 := by
  unfold Mailboxes.openMerge givenTo
  cases request.chosen with
  | error fault =>
      exact .refl
  | ok senders =>
      dsimp only
      have hasked := h.asks (senders.map request.idOf)
      have hopened := (Gathered.start hasked).serves_openReceivers (senders.map request.idOf)
        fun id hid => List.mem_append_right _ (List.mem_map_of_mem hid)
      split
      · next hopen =>
          rw [hopen] at hopened
          exact hopened
      · next receivers s' hopen =>
          rw [hopen] at hopened
          exact Serves.remerge hopened _ _

/-- Receivers of merges are not held by others. -/
theorem Sound.not_outer
    (h : Sound H outer s)
    (hheld : s.Holds outer (some number) r) :
    ¬ outer r := by
  intro houter
  have hholds : s.Holds outer none r := houter
  cases h.unique none (some number) r hholds hheld

theorem Sound.serves_dropMerge
    (h : Sound H outer s)
    (hwired : s.Wired)
    (number : Nat) :
    Serves (fun _ => False) (s.Holds outer (some number)) s (s.dropMerge number) := by
  unfold Mailboxes.dropMerge
  split
  · next m hm =>
      have hfollows := h.follows number m hm
      have hmem : ∀ r ∈ m.live.filterMap fun input => m.receivers[input]?,
          ∃ i ∈ m.live, m.receivers[i]? = some r :=
        fun r hr => List.mem_filterMap.1 hr
      refine (Serves.refl.dropReceivers ?_ ?_ ?_ ?_).remerge _ _
      · refine List.Nodup.filterMap ?_ (hwired.live number m hm)
        intro i j r hi hj
        rw [Option.mem_def] at hi hj
        exact (List.getElem?_inj (List.getElem?_eq_some_iff.1 hi).1 hfollows.nodup).1
          (hi.trans hj.symm)
      · intro r hr
        obtain ⟨i, hi, hinput⟩ := hmem r hr
        exact hfollows.live i r hinput hi
      · intro r hr
        obtain ⟨i, -, hinput⟩ := hmem r hr
        exact h.issued (some number) r ⟨m, hm, List.mem_of_getElem? hinput⟩
      · intro r hr
        obtain ⟨i, -, hinput⟩ := hmem r hr
        exact ⟨m, hm, List.mem_of_getElem? hinput⟩
  · exact .refl

/-! ## Pulling -/

/-- An input is asked that was at the front of the queue. -/
theorem serves_ask
    {i : Nat} {ready : List Nat}
    (hwired : s.Wired)
    (hm : Registry.find? s.merges number = some m)
    (hbelow : number < s.nextMerge)
    (hqueue : m.ready = i :: ready)
    (hr : m.receivers[i]? = some r)
    (hopen : s.Open r)
    (hissued : (s.slot r).Issued)
    (hused : used r)
    {finding : Finding} {turn : Turn}
    (hasks : s.Asks number i { m with ready } r (finding, turn, s')) :
    Serves (fun _ => False) used s s' ∧ s'.Wired := by
  have hin : ∀ j ∈ m.ready, j ∈ m.live := hwired.ready number m hm
  have hnodup := hwired.nodup number m hm
  rw [hqueue] at hin hnodup
  obtain ⟨hfirst, hrest⟩ := List.forall_mem_cons.1 hin
  obtain ⟨hnew, hnodup⟩ := List.nodup_cons.1 hnodup
  have hreceived : Serves (fun _ => False) used s (s.receive r (some ⟨number, i⟩)).2 :=
    Serves.refl.receive hused _
  have hopen' := hopen.receive r (some ⟨number, i⟩)
  have hissued' := issued_receive hissued r (some ⟨number, i⟩)
  have hmerges := merges_receive s r (some ⟨number, i⟩)
  have hwired' : (s.receive r (some ⟨number, i⟩)).2.Wired := by
    refine hwired.receive fun w hw => ?_
    cases hw
    refine ⟨hbelow, fun mk hmk => ?_⟩
    cases hm.symm.trans hmk
    exact ⟨hr, hfirst⟩
  cases hasks with
  | took p s₁ hreceive =>
      rw [hreceive] at hreceived hmerges hwired'
      have hm₁ : Registry.find? s₁.merges number = some m := hmerges ▸ hm
      refine ⟨hreceived.setMerge _ _, Wired.requeue hwired' hm₁ ?_ ?_ ?_ ?_⟩
      · rw [Merge.receivers_note_wake]
      · rw [Merge.live_note_wake]
      · rw [Merge.ready_note]
        exact Merge.nodup_wake hnodup i
      · intro j hj
        rw [Merge.ready_note] at hj
        rcases Merge.mem_ready_wake hj with hj | rfl
        · exact hrest j hj
        · exact hfirst
  | ended s₁ hreceive =>
      rw [hreceive] at hreceived hmerges hwired' hopen' hissued'
      have hm₁ : Registry.find? s₁.merges number = some m := hmerges ▸ hm
      have hready : ∀ j ∈ ready, j ∈ m.live ∧ j ≠ i := by
        intro j hj
        refine ⟨hrest j hj, ?_⟩
        rintro rfl
        exact hnew hj
      have hdropped := hreceived.dropReceiver hopen' hissued' hused
      refine ⟨hdropped.setMerge _ _, Wired.leave hwired' hm₁ hr ?_ ?_ ?_ ?_⟩
      · rw [Merge.receivers_leave]
      · rw [Merge.live_leave]
      · rw [Merge.ready_leave]
        exact hnodup
      · rw [Merge.ready_leave]
        exact hready
  | nothing s₁ hreceive =>
      rw [hreceive] at hreceived hmerges hwired'
      have hm₁ : Registry.find? s₁.merges number = some m := hmerges ▸ hm
      exact ⟨hreceived.setMerge _ _, Wired.requeue hwired' hm₁ rfl rfl hnodup hrest⟩

theorem Sound.serves_turn
    (h : Sound H outer s)
    (hwired : s.Wired)
    (hm : Registry.find? s.merges number = some m) :
    Serves (fun _ => False) (· ∈ m.receivers) s (s.turn number m).2.2 ∧
      (s.turn number m).2.2.Wired := by
  have hin : ∀ j ∈ m.ready, j ∈ m.live := hwired.ready number m hm
  have hnodup := hwired.nodup number m hm
  have hturns := turns_turn s number m
  generalize s.turn number m = answer at hturns ⊢
  cases hturns with
  | cleanEnd _ =>
      exact ⟨.refl, hwired⟩
  | idle _ =>
      exact ⟨.refl, hwired⟩
  | skip i ready _ hready _ =>
      rw [hready] at hin hnodup
      refine ⟨Serves.refl.setMerge _ _, hwired.requeue hm rfl rfl ?_ ?_⟩
      · exact (List.nodup_cons.1 hnodup).2
      · exact (List.forall_mem_cons.1 hin).2
  | asks i ready r finding turn s' _ hready hr hasks =>
      have hlive : i ∈ m.live := hin i (hready ▸ List.mem_cons_self)
      have hopen : s.Open r := (h.follows number m hm).live i r hr hlive
      have hissued := h.issued (some number) r ⟨m, hm, List.mem_of_getElem? hr⟩
      exact serves_ask hwired hm (h.below number m hm) hready hr hopen hissued
        (List.mem_of_getElem? hr) hasks

/-- A pull uses the receivers of its merge only. -/
theorem Sound.serves_pull
    (h : Sound H outer s)
    (hwired : s.Wired)
    (number : Nat) :
    Serves (fun _ => False) (s.Holds outer (some number)) s (s.pull number).mailboxes ∧
      (s.pull number).mailboxes.Wired := by
  have hinduct := h.pull_induction number (P := fun t =>
    (Serves (fun _ => False) (s.Holds outer (some number)) s t ∧ t.Wired) ∧
      ∀ m, Registry.find? t.merges number = some m →
        ∀ r ∈ m.receivers, s.Holds outer (some number) r)
  refine (hinduct (fun hsound hm hkept => ?_) ⟨⟨.refl, hwired⟩, fun m hm r hr => ⟨m, hm, hr⟩⟩).1
  obtain ⟨⟨hserves, hwired⟩, howns⟩ := hkept
  obtain ⟨hturn, hwired'⟩ := hsound.serves_turn hwired hm
  obtain ⟨m', hm', hreceivers⟩ := merge_turn hm
  refine ⟨⟨hserves.trans (hturn.mono (fun _ => id) (howns _ hm)), hwired'⟩, ?_⟩
  intro m'' hm'' r hr
  cases hm'.symm.trans hm''
  exact howns _ hm r (hreceivers ▸ hr)

end Mailboxes
end ScatterGather
