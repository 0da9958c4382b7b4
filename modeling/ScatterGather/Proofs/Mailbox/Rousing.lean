import ScatterGather.Proofs.Mailbox.Watching

/-!
# Receivers that sleep, and what rouses them

A receiver that found nothing and left a watcher sleeps. Nothing is queued on its channel then, and
a sender is left, so that something may come of it yet.

**Results.** Every operation on a mailbox leaves a receiver asleep, with the watcher that it left,
or tells this watcher. Exempt are what its own receiver does, and a release while the mailbox still
has the receiver.
-/

namespace ScatterGather

namespace Channel

/-- Nothing is queued, a sender is left, and a watcher is told what happens next. -/
structure Asleep (c : Channel) (w : Watcher) : Prop where
  queue : c.queue = []
  senders : 0 < c.senders
  watcher : c.watcher = some w

variable {c : Channel} {w : Watcher}

theorem Asleep.addSender (h : c.Asleep w) : c.addSender.Asleep w :=
  ⟨h.queue, Nat.succ_pos _, h.watcher⟩

/-- One of several senders goes. -/
theorem Asleep.dropSender
    (h : c.Asleep w)
    (hsenders : 1 < c.senders) :
    c.dropSender.Asleep w where
  queue := h.queue
  senders := Nat.sub_pos_of_lt hsenders
  watcher := by
    rw [Channel.dropSender, if_neg (Nat.not_le.2 hsenders)]
    exact h.watcher

theorem Asleep.grant (h : c.Asleep w) : c.grant.Asleep w := by
  unfold Channel.grant
  split
  · split
    · exact ⟨h.queue, h.senders, h.watcher⟩
    · exact h
  · exact h

theorem Asleep.join (h : c.Asleep w) : c.join.Asleep w :=
  ⟨h.queue, h.senders, h.watcher⟩

theorem Asleep.forget
    (h : c.Asleep w)
    (ticket : Nat) :
    (c.forget ticket).Asleep w := by
  have herased : Asleep
      { c with granted := c.granted.erase ticket, waiting := c.waiting.erase ticket } w :=
    ⟨h.queue, h.senders, h.watcher⟩
  exact herased.grant

end Channel

namespace Mailbox

variable {α : Type} {m m' : Mailbox} {g generation : Nat} {w : Watcher} {fed : Nat → Prop}

/-- The receiver of a channel sleeps. -/
def Sleeps (m : Mailbox) (g : Nat) (w : Watcher) : Prop :=
  ∃ c, m.channels[g]? = some c ∧ c.Asleep w

/-- A receiver that sleeps goes on sleeping, or is roused. -/
def Outcome.Rouses (fed : Nat → Prop) (m : Mailbox) (o : Outcome α) : Prop :=
  ∀ g w, fed g → m.Sleeps g w → o.box.Sleeps g w ∨ o.woken = some w

namespace Sleeps

theorem of_channel_eq
    (h : m.Sleeps g w)
    (hchannel : m'.channels[g]? = m.channels[g]?) :
    m'.Sleeps g w := by
  obtain ⟨c, hc, hasleep⟩ := h
  exact ⟨c, hchannel.trans hc, hasleep⟩

theorem modify
    {f : Channel → Channel}
    (h : m.Sleeps g w)
    (hf : ∀ c, generation = g → m.channels[g]? = some c → c.Asleep w → (f c).Asleep w) :
    (m.modify generation f).Sleeps g w := by
  obtain ⟨c, hc, hasleep⟩ := h
  refine ⟨if generation = g then f c else c, ?_, ?_⟩
  · rw [getElem?_modify, hc]
    rfl
  · split
    · next heq => exact hf c heq hc hasleep
    · exact hasleep

/-- A channel more makes no difference. -/
theorem ensure
    (h : m.Sleeps g w)
    (capacity : Nat) :
    (m.ensure capacity).2.Sleeps g w := by
  unfold Mailbox.ensure
  split
  · exact h
  · obtain ⟨c, hc, hasleep⟩ := h
    refine ⟨c, ?_, hasleep⟩
    show (m.channels ++ [Channel.create capacity])[g]? = some c
    rw [List.getElem?_append_left (List.getElem?_eq_some_iff.1 hc).1]
    exact hc

end Sleeps

theorem rouses_of_sleeps
    {o : Outcome α}
    (h : ∀ g w, fed g → m.Sleeps g w → o.box.Sleeps g w) :
    o.Rouses fed m :=
  fun g w hg hsleeps => Or.inl (h g w hg hsleeps)

/-! ## Senders -/

/-- The mailbox gives up its own sender only while there is the one that was just opened. -/
theorem rouses_openSender (m : Mailbox) (capacity : Nat) :
    (m.openSender capacity).Rouses fed m := by
  refine rouses_of_sleeps fun g w _ hsleeps => ?_
  have hensured := hsleeps.ensure capacity
  unfold Mailbox.openSender
  cases hm : m.ensure capacity with
  | mk t m₁ =>
      rw [hm] at hensured
      dsimp only at hensured ⊢
      split
      · have hadded : (m₁.modify t.generation Channel.addSender).Sleeps g w :=
          hensured.modify fun c _ _ hasleep => hasleep.addSender
        unfold Mailbox.settle
        split
        · have hdropped : ((m₁.modify t.generation Channel.addSender).modify t.generation
              Channel.dropSender).Sleeps g w := by
            refine hadded.modify fun c heq hc hasleep => hasleep.dropSender ?_
            obtain ⟨c₀, hc₀, hasleep₀⟩ := hensured
            rw [getElem?_modify, hc₀, Option.map_some, if_pos heq] at hc
            cases hc
            exact Nat.succ_lt_succ hasleep₀.senders
          exact hdropped.of_channel_eq rfl
        · exact hadded.of_channel_eq rfl
      · next hclosed =>
          simp only [Bool.or_eq_true, not_or, Bool.not_eq_true] at hclosed
          have hkept : m₁.settle { t with senderAttached := true } =
              { m₁ with tracking := some { t with senderAttached := true } } := by
            simp [Mailbox.settle, hclosed.1]
          rw [hkept]
          exact hensured.of_channel_eq rfl

theorem rouses_cloneSender (m : Mailbox) (generation : Option Nat) :
    (m.cloneSender generation).Rouses fed m := by
  refine rouses_of_sleeps fun g w _ hsleeps => ?_
  unfold Mailbox.cloneSender
  split
  · exact hsleeps.modify fun c _ _ hasleep => hasleep.addSender
  · exact hsleeps

/-- The last sender tells the watcher when it goes. -/
theorem rouses_dropSender (m : Mailbox) (generation : Option Nat) :
    (m.dropSender generation).Rouses fed m := by
  intro g w _ hsleeps
  unfold Mailbox.dropSender
  split
  · next g' c hfound =>
      obtain ⟨rfl, hc⟩ := channel_of_bind hfound
      by_cases hlast : g' = g ∧ c.senders ≤ 1
      · obtain ⟨rfl, hlast⟩ := hlast
        obtain ⟨c', hc', hasleep⟩ := hsleeps
        cases hc.symm.trans hc'
        exact Or.inr ((if_pos hlast).trans hasleep.watcher)
      · have hdropped : (m.modify g' Channel.dropSender).Sleeps g w := by
          refine hsleeps.modify fun c' heq hc' hasleep => hasleep.dropSender ?_
          subst heq
          cases hc.symm.trans hc'
          exact Nat.not_le.1 fun hle => hlast ⟨rfl, hle⟩
        exact Or.inl (hdropped.of_channel_eq (by rw [channels_forgetIfFinished]))
  · exact Or.inl (hsleeps.of_channel_eq (by rw [channels_forgetIfFinished]))

theorem rouses_offer (m : Mailbox) (generation : Option Nat) (p : Packet) :
    (m.offer generation p).Rouses fed m := by
  intro g w _ hsleeps
  unfold Mailbox.offer
  split
  · exact Or.inl hsleeps
  · next g' c hfound =>
      obtain ⟨rfl, hc⟩ := channel_of_bind hfound
      split
      · by_cases hg : g' = g
        · subst hg
          obtain ⟨c', hc', hasleep⟩ := hsleeps
          cases hc.symm.trans hc'
          exact Or.inr hasleep.watcher
        · exact Or.inl (hsleeps.modify fun c' heq _ _ => absurd heq hg)
      · exact Or.inl hsleeps

theorem rouses_join (m : Mailbox) (generation : Nat) : (m.join generation).Rouses fed m := by
  refine rouses_of_sleeps fun g w _ hsleeps => ?_
  unfold Mailbox.join
  split
  · exact hsleeps.modify fun c _ _ hasleep => hasleep.join
  · exact hsleeps

theorem rouses_redeem (m : Mailbox) (generation ticket : Nat) (p : Packet) :
    (m.redeem generation ticket p).Rouses fed m := by
  intro g w _ hsleeps
  unfold Mailbox.redeem
  split
  · exact Or.inl hsleeps
  · next c hc =>
      split
      · by_cases hg : generation = g
        · subst hg
          obtain ⟨c', hc', hasleep⟩ := hsleeps
          cases hc.symm.trans hc'
          exact Or.inr hasleep.watcher
        · exact Or.inl (hsleeps.modify fun c' heq _ _ => absurd heq hg)
      · exact Or.inl hsleeps

theorem rouses_forgetSend (m : Mailbox) (generation ticket : Nat) :
    (m.forgetSend generation ticket).Rouses fed m :=
  rouses_of_sleeps fun _ _ _ hsleeps => hsleeps.modify fun _ _ _ hasleep => hasleep.forget ticket

/-! ## Receivers -/

/-- The channels of other receivers. -/
theorem rouses_receive
    (hfed : ∀ g, fed g → generation ≠ g)
    (watcher : Option Watcher) :
    (m.receive generation watcher).Rouses fed m := by
  refine rouses_of_sleeps fun g w hg hsleeps => ?_
  unfold Mailbox.receive
  split
  · exact hsleeps
  · split
    · exact hsleeps.modify fun c heq _ _ => absurd heq (hfed g hg)
    · exact hsleeps
    · exact hsleeps.modify fun c heq _ _ => absurd heq (hfed g hg)

theorem rouses_dropReceiver (hfed : ∀ g, fed g → generation ≠ g) :
    (m.dropReceiver generation).Rouses fed m := by
  refine rouses_of_sleeps fun g w hg hsleeps => ?_
  unfold Mailbox.dropReceiver
  refine Sleeps.modify ?_ fun c heq _ _ => absurd heq (hfed g hg)
  exact hsleeps.of_channel_eq (by rw [channels_forgetIfFinished])

/-- A release tells the watcher if it drops the last sender. -/
theorem rouses_release (hfed : ∀ g, fed g → ¬ m.Keeps g) : m.release.Rouses fed m := by
  intro g w hg hsleeps
  unfold Mailbox.release
  split
  · exact Or.inl hsleeps
  · next t ht =>
      by_cases hcurrent : t.generation = g
      · subst hcurrent
        have hgiven : t.holdsReceiver = false := by
          rw [← Bool.not_eq_true]
          exact fun hholds => hfed _ hg ⟨t, ht, rfl, hholds⟩
        obtain ⟨c, hc, hasleep⟩ := hsleeps
        cases hholds : t.holdsSender with
        | false =>
            refine Or.inl ⟨c, ?_, hasleep⟩
            show (m.modify t.generation _).channels[t.generation]? = _
            rw [getElem?_modify, hc]
            simp [hgiven]
        | true =>
            by_cases hlast : c.senders ≤ 1
            · refine Or.inr ?_
              simp [senders_of_getElem? hc, hlast, hc, hasleep.watcher]
            · refine Or.inl ⟨c.dropSender, ?_, hasleep.dropSender (Nat.not_le.1 hlast)⟩
              show (m.modify t.generation _).channels[t.generation]? = _
              rw [getElem?_modify, hc]
              simp [hgiven]
      · exact Or.inl (Sleeps.of_channel_eq
          (hsleeps.modify fun c heq _ _ => absurd heq hcurrent) rfl)

end Mailbox
end ScatterGather
