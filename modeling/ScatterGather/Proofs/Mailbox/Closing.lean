import ScatterGather.Proofs.Mailbox.Ledger

/-!
# How a channel closes

In a mailbox that is not released, and whose receivers are dropped once, an open channel is always
the current one. A channel whose senders are gone, that of the mailbox included, and that has
nothing queued stays so: its receiver finds its end whenever it asks.

**Results.** One theorem for each operation says that it keeps both.
-/

namespace ScatterGather
namespace Mailbox

variable {m m' : Mailbox} {g : Nat}

/-- The channel of a generation is received from. -/
def Open (m : Mailbox) (g : Nat) : Prop :=
  ∃ c, m.channels[g]? = some c ∧ c.receiving = true

/-! ## Open channels are current -/

/-- Every open channel is the current one, and its receiver was not dropped. -/
def Upright (m : Mailbox) : Prop :=
  ∀ g, m.Open g → ∃ t, m.tracking = some t ∧ t.generation = g ∧ t.receiverDropped = false

namespace Upright

theorem fresh : Mailbox.fresh.Upright := by
  rintro g ⟨c, hc, -⟩
  cases hc

/-- What opens no channel, and changes what is tracked at most in what is held and attached. -/
theorem frame
    (h : m.Upright)
    (hopen : ∀ g, m'.Open g → m.Open g)
    (htracking : ∀ t, m.tracking = some t → ∃ t', m'.tracking = some t' ∧
      t'.generation = t.generation ∧ t'.receiverDropped = t.receiverDropped) :
    m'.Upright := by
  intro g hg
  obtain ⟨t, ht, hgeneration, hdropped⟩ := h g (hopen g hg)
  obtain ⟨t', ht', hgeneration', hdropped'⟩ := htracking t ht
  exact ⟨t', ht', hgeneration'.trans hgeneration, hdropped'.trans hdropped⟩

theorem of_tracking_eq
    (h : m.Upright)
    (hopen : ∀ g, m'.Open g → m.Open g)
    (htracking : m'.tracking = m.tracking) :
    m'.Upright :=
  h.frame hopen fun t ht => ⟨t, htracking.trans ht, rfl, rfl⟩

end Upright

theorem open_of_modify
    {f : Channel → Channel} {generation : Nat}
    (hchannels : m'.channels = (m.modify generation f).channels)
    (hf : ∀ c, (f c).receiving = true → c.receiving = true)
    (h : m'.Open g) :
    m.Open g := by
  obtain ⟨c', hc', hreceiving⟩ := h
  rw [hchannels, getElem?_modify] at hc'
  obtain ⟨c, hc, rfl⟩ := Option.map_eq_some_iff.1 hc'
  refine ⟨c, hc, ?_⟩
  split at hreceiving
  · exact hf c hreceiving
  · exact hreceiving

namespace Upright

theorem modify
    {f : Channel → Channel}
    (h : m.Upright)
    (generation : Nat)
    (hf : ∀ c, (f c).receiving = true → c.receiving = true) :
    (m.modify generation f).Upright :=
  h.of_tracking_eq (fun _ => open_of_modify rfl hf) rfl

theorem steady
    (h : m.Upright)
    (hsteady : m.Steady m') :
    m'.Upright := by
  refine h.of_tracking_eq ?_ hsteady.tracking
  rintro g ⟨c', hc', hreceiving⟩
  have hchannels := hsteady.channels g
  rw [hc'] at hchannels
  generalize hc : m.channels[g]? = before at hchannels
  cases hchannels with
  | some hsteady =>
      exact ⟨_, hc, hsteady.receiving ▸ hreceiving⟩

theorem ensure
    (h : m.Upright)
    (capacity : Nat) :
    (m.ensure capacity).2.Upright := by
  unfold Mailbox.ensure
  split
  · exact h
  · next hnone =>
      rintro g ⟨c, hc, hreceiving⟩
      refine ⟨_, rfl, ?_, rfl⟩
      have hclosed : ¬ m.Open g := by
        intro hopen
        obtain ⟨t, ht, -⟩ := h g hopen
        rw [hnone] at ht
        cases ht
      rcases Nat.lt_trichotomy g m.channels.length with hlt | rfl | hgt
      · replace hc : (m.channels ++ [Channel.create capacity])[g]? = some c := hc
        rw [List.getElem?_append_left hlt] at hc
        exact absurd ⟨c, hc, hreceiving⟩ hclosed
      · rfl
      · have hlength := (List.getElem?_eq_some_iff.1 hc).1
        simp at hlength
        omega

theorem settle
    {t t₀ : Tracking}
    (h : m.Upright)
    (ht₀ : m.tracking = some t₀)
    (hgeneration : t.generation = t₀.generation)
    (hdropped : t.receiverDropped = t₀.receiverDropped) :
    (m.settle t).Upright := by
  unfold Mailbox.settle
  split
  · have hopen : ∀ c : Channel, c.dropSender.receiving = true → c.receiving = true :=
      fun _ hreceiving => hreceiving
    refine h.frame (fun _ => open_of_modify rfl hopen) fun t' ht' => ?_
    cases ht₀.symm.trans ht'
    exact ⟨_, rfl, hgeneration, hdropped⟩
  · refine h.frame (fun _ hopen => hopen) fun t' ht' => ?_
    cases ht₀.symm.trans ht'
    exact ⟨_, rfl, hgeneration, hdropped⟩

theorem openSender
    (h : m.Upright)
    (capacity : Nat) :
    (m.openSender capacity).box.Upright := by
  have hensured := h.ensure capacity
  have htracking := tracking_ensure m capacity
  unfold Mailbox.openSender
  cases hm : m.ensure capacity with
  | mk t m₁ =>
      rw [hm] at hensured htracking
      dsimp only at hensured htracking ⊢
      split
      · have hadded : (m₁.modify t.generation Channel.addSender).Upright :=
          hensured.modify _ fun c (hreceiving : c.addSender.receiving = true) => hreceiving
        exact hadded.settle htracking rfl rfl
      · exact hensured.settle htracking rfl rfl

theorem openReceiver
    (h : m.Upright)
    (capacity : Nat) :
    (m.openReceiver capacity).box.Upright := by
  have hensured := h.ensure capacity
  have htracking := tracking_ensure m capacity
  unfold Mailbox.openReceiver
  cases hm : m.ensure capacity with
  | mk t m₁ =>
      rw [hm] at hensured htracking
      dsimp only at hensured htracking ⊢
      split
      · exact hensured.settle htracking rfl rfl
      · exact hensured.settle htracking rfl rfl

theorem cloneSender
    (h : m.Upright)
    (generation : Option Nat) :
    (m.cloneSender generation).box.Upright := by
  unfold Mailbox.cloneSender
  split
  · exact h.modify _ fun c (hreceiving : c.addSender.receiving = true) => hreceiving
  · exact h

theorem forgetIfFinished (h : m.Upright) : m.forgetIfFinished.Upright := by
  unfold Mailbox.forgetIfFinished
  split
  · next t ht =>
      split
      · next hfinished =>
          simp only [isFinished, Bool.and_eq_true] at hfinished
          intro g hg
          obtain ⟨t', ht', -, hdropped⟩ := h g hg
          cases ht.symm.trans ht'
          rw [hfinished.1.1] at hdropped
          cases hdropped
      · exact h
  · exact h

theorem dropSender
    (h : m.Upright)
    (generation : Option Nat) :
    (m.dropSender generation).box.Upright := by
  unfold Mailbox.dropSender
  split
  · have hopen : ∀ c : Channel, c.dropSender.receiving = true → c.receiving = true :=
      fun _ hreceiving => hreceiving
    exact (h.modify _ hopen).forgetIfFinished
  · exact h.forgetIfFinished

theorem receive
    (h : m.Upright)
    (generation : Nat) (watcher : Option Watcher) :
    (m.receive generation watcher).box.Upright := by
  unfold Mailbox.receive
  split
  · exact h
  · split
    · exact h.modify _ fun c hreceiving => (Channel.steady_take c).receiving ▸ hreceiving
    · exact h
    · exact h.modify _ fun c (hreceiving : (c.watch watcher).receiving = true) => hreceiving

/-- Once the receiver of the open channel is dropped, no channel is open. -/
theorem dropReceiver
    (h : m.Upright)
    (hopen : m.Open g) :
    (m.dropReceiver g).box.Upright := by
  obtain ⟨t, ht, hgeneration, -⟩ := h g hopen
  rintro other ⟨c', hc', hreceiving⟩
  unfold Mailbox.dropReceiver at hc'
  dsimp only at hc'
  rw [getElem?_modify, channels_forgetIfFinished] at hc'
  obtain ⟨c, hc, rfl⟩ := Option.map_eq_some_iff.1 hc'
  split at hreceiving
  · cases hreceiving
  · next hne =>
      obtain ⟨t', ht', hother, -⟩ := h other ⟨c, hc, hreceiving⟩
      cases ht.symm.trans ht'
      exact absurd (hgeneration.symm.trans hother) hne

end Upright

/-! ## Channels that are over -/

/-- The channel of a generation has no sender left and nothing queued. -/
structure Over (m : Mailbox) (g : Nat) : Prop where
  channel : ∃ c, m.channels[g]? = some c ∧ c.senders = 0 ∧ c.queue = []
  own : m.own g = 0

/-- The receiver of a channel that is over finds its end. -/
theorem Over.receive_eq
    (h : m.Over g)
    (watcher : Option Watcher) :
    m.receive g watcher = ⟨.ended, none, m⟩ := by
  obtain ⟨c, hc, hsenders, hqueue⟩ := h.channel
  have hreception : c.reception = .ended := by
    rw [Channel.reception, hqueue]
    exact if_pos hsenders
  rw [Mailbox.receive, hc]
  dsimp only
  rw [hreception]

namespace Over

/-- Changing a channel, but not one that is over, or not its senders and its queue. -/
theorem modify
    {f : Channel → Channel} {generation : Nat}
    (h : m.Over g)
    (hf : generation = g → ∀ c, c.senders = 0 → c.queue = [] →
      (f c).senders = 0 ∧ (f c).queue = []) :
    (m.modify generation f).Over g := by
  obtain ⟨c, hc, hsenders, hqueue⟩ := h.channel
  refine ⟨⟨if generation = g then f c else c, ?_, ?_⟩, h.own⟩
  · rw [getElem?_modify, hc]
    rfl
  · split
    · next heq => exact hf heq c hsenders hqueue
    · exact ⟨hsenders, hqueue⟩

/-- Changing what is tracked, short of holding a sender on the channel. -/
theorem retrack
    {tracking : Option Tracking}
    (h : m.Over g)
    (htracking : ∀ t, tracking = some t → t.own g = 0) :
    Over { m with tracking } g := by
  refine ⟨h.channel, ?_⟩
  cases tracking with
  | none =>
      rfl
  | some t =>
      exact htracking t rfl

theorem ensure
    (h : m.Over g)
    (capacity : Nat) :
    (m.ensure capacity).2.Over g := by
  obtain ⟨c, hc, hsenders, hqueue⟩ := h.channel
  have hlt := (List.getElem?_eq_some_iff.1 hc).1
  unfold Mailbox.ensure
  split
  · exact h
  · refine ⟨⟨c, ?_, hsenders, hqueue⟩, ?_⟩
    · rw [← hc]
      exact List.getElem?_append_left hlt
    · refine if_neg fun hnew => ?_
      have hg : m.channels.length = g := hnew.1
      omega

theorem settle
    {t : Tracking}
    (h : m.Over g)
    (ht : t.own g = 0) :
    (m.settle t).Over g := by
  unfold Mailbox.settle
  split
  · next hboth =>
      simp only [Bool.and_eq_true] at hboth
      refine (h.modify fun heq => ?_).retrack fun t' ht' => ?_
      · rw [Tracking.own, if_pos ⟨heq, hboth.2⟩] at ht
        cases ht
      · cases ht'
        simp [Tracking.own]
  · refine h.retrack fun t' ht' => ?_
    cases ht'
    exact ht

/-- A channel that is over gets no sender any more. -/
theorem openSender
    (h : m.Over g)
    (capacity : Nat) :
    (m.openSender capacity).box.Over g ∧ (m.openSender capacity).answer ≠ some g := by
  have hensured := h.ensure capacity
  have htracking := tracking_ensure m capacity
  unfold Mailbox.openSender
  cases hm : m.ensure capacity with
  | mk t m₁ =>
      rw [hm] at hensured htracking
      dsimp only at hensured htracking ⊢
      have hown := hensured.own
      rw [own_of_tracking htracking] at hown
      obtain ⟨c, hc, hsenders, -⟩ := hensured.channel
      split
      · next hgiven =>
          have hne : t.generation ≠ g := by
            rintro rfl
            simp only [Tracking.own, true_and, ite_eq_right_iff] at hown
            rw [senders_of_getElem? hc, hsenders] at hgiven
            simp_all
          refine ⟨(hensured.modify fun heq => absurd heq hne).settle hown, ?_⟩
          exact fun heq => hne (Option.some.inj heq)
      · exact ⟨hensured.settle hown, by simp⟩

theorem openReceiver
    (h : m.Over g)
    (capacity : Nat) :
    (m.openReceiver capacity).box.Over g := by
  have hensured := h.ensure capacity
  have htracking := tracking_ensure m capacity
  unfold Mailbox.openReceiver
  cases hm : m.ensure capacity with
  | mk t m₁ =>
      rw [hm] at hensured htracking
      dsimp only at hensured htracking ⊢
      have hown := hensured.own
      rw [own_of_tracking htracking] at hown
      split
      · exact hensured.settle hown
      · exact hensured.settle hown

theorem cloneSender
    {generation : Option Nat}
    (h : m.Over g)
    (hne : generation ≠ some g) :
    (m.cloneSender generation).box.Over g := by
  unfold Mailbox.cloneSender
  split
  · next g' => exact h.modify fun heq => absurd (congrArg some heq) hne
  · exact h

theorem forgetIfFinished (h : m.Over g) : m.forgetIfFinished.Over g := by
  unfold Mailbox.forgetIfFinished
  split
  · split
    · exact h.retrack (by simp)
    · exact h
  · exact h

theorem dropSender
    (h : m.Over g)
    (generation : Option Nat) :
    (m.dropSender generation).box.Over g := by
  unfold Mailbox.dropSender
  split
  · refine (h.modify fun _ c hsenders hqueue => ?_).forgetIfFinished
    exact ⟨by simp [Channel.dropSender, hsenders], hqueue⟩
  · exact h.forgetIfFinished

theorem offer
    {generation : Option Nat}
    (h : m.Over g)
    (hne : generation ≠ some g)
    (p : Packet) :
    (m.offer generation p).box.Over g := by
  unfold Mailbox.offer
  split
  · exact h
  · next g' c hfound =>
      obtain ⟨rfl, -⟩ := channel_of_bind hfound
      split
      · exact h.modify fun heq => absurd (congrArg some heq) hne
      · exact h

theorem join
    (h : m.Over g)
    (generation : Nat) :
    (m.join generation).box.Over g := by
  unfold Mailbox.join
  split
  · exact h.modify fun _ c hsenders hqueue => ⟨hsenders, hqueue⟩
  · exact h

theorem redeem
    {generation : Nat}
    (h : m.Over g)
    (hne : generation ≠ g)
    (ticket : Nat) (p : Packet) :
    (m.redeem generation ticket p).box.Over g := by
  unfold Mailbox.redeem
  split
  · exact h
  · split
    · exact h.modify fun heq => absurd heq hne
    · exact h

theorem forgetSend
    (h : m.Over g)
    (generation ticket : Nat) :
    (m.forgetSend generation ticket).box.Over g := by
  refine h.modify fun _ c hsenders hqueue => ?_
  have hsteady := Channel.steady_forget c ticket
  have hbecomes := Channel.becomes_forget c ticket
  cases hbecomes with
  | stays hsame _ =>
      exact ⟨hsteady.senders.trans hsenders, hsame.trans hqueue⟩

theorem receive
    (h : m.Over g)
    (generation : Nat) (watcher : Option Watcher) :
    (m.receive generation watcher).box.Over g := by
  by_cases heq : generation = g
  · subst heq
    rw [h.receive_eq]
    exact h
  · unfold Mailbox.receive
    split
    · exact h
    · split
      · exact h.modify fun hg => absurd hg heq
      · exact h
      · exact h.modify fun hg => absurd hg heq

theorem dropReceiver
    (h : m.Over g)
    (generation : Nat) :
    (m.dropReceiver generation).box.Over g := by
  have hown := h.own
  have hnoted : Over { m with tracking := m.tracking.map .withoutReceiver } g := by
    refine h.retrack fun t' ht' => ?_
    obtain ⟨t, ht, rfl⟩ := Option.map_eq_some_iff.1 ht'
    rw [own_of_tracking ht] at hown
    exact hown
  exact hnoted.forgetIfFinished.modify fun _ c hsenders _ => ⟨hsenders, rfl⟩

theorem release (h : m.Over g) : m.release.box.Over g := by
  unfold Mailbox.release
  split
  · exact h
  · next t _ =>
      refine (h.modify fun _ c hsenders hqueue => ?_).retrack (by simp)
      cases t.holdsSender <;> cases t.holdsReceiver <;>
        simp [Channel.dropSender, Channel.close, hsenders, hqueue]

end Over
end Mailbox
end ScatterGather
