import ScatterGather.Proofs.Mailbox.Ledger

/-!
# The watchers of a mailbox

A watcher is left on a channel by its receiver, and by nobody else. Whom an operation tells is a
watcher that was left on one of the channels.

**Results.** Whatever holds of the watchers of a mailbox, and of the channels they were left on,
holds of them after each operation, and of whom it tells.
-/

namespace ScatterGather
namespace Mailbox

variable {α : Type} {p : Nat → Watcher → Prop} {m m' : Mailbox}

/-- What holds of all watchers of a mailbox and of the channels they were left on. -/
def Watches (p : Nat → Watcher → Prop) (m : Mailbox) : Prop :=
  ∀ g c w, m.channels[g]? = some c → c.watcher = some w → p g w

/-- What holds of all watchers after an operation, and of whom it tells. -/
structure Outcome.Watches (p : Nat → Watcher → Prop) (o : Outcome α) : Prop where
  box : o.box.Watches p
  woken : ∀ w, o.woken = some w → ∃ g, p g w

namespace Watches

theorem silently
    {answer : α}
    (h : m.Watches p) :
    Outcome.Watches p ⟨answer, none, m⟩ :=
  ⟨h, by simp⟩

theorem of_channels_eq
    (h : m.Watches p)
    (hchannels : m'.channels = m.channels) :
    m'.Watches p := by
  intro g c w hc
  rw [hchannels] at hc
  exact h g c w hc

theorem modify
    {f : Channel → Channel}
    (h : m.Watches p)
    (generation : Nat)
    (hf : ∀ c w, (f c).watcher = some w → c.watcher = some w) :
    (m.modify generation f).Watches p := by
  intro g c' w hc' hw
  rw [getElem?_modify] at hc'
  obtain ⟨c, hc, rfl⟩ := Option.map_eq_some_iff.1 hc'
  split at hw
  · exact h g c w hc (hf c w hw)
  · exact h g c w hc hw

theorem steady
    (h : m.Watches p)
    (hsteady : m.Steady m') :
    m'.Watches p := by
  intro g c' w hc' hw
  have hchannels := hsteady.channels g
  rw [hc'] at hchannels
  generalize hc : m.channels[g]? = before at hchannels
  cases hchannels with
  | some hsteady =>
      exact h g _ w hc (hsteady.watcher w hw)

/-! ## Opening -/

theorem ensure
    (h : m.Watches p)
    (capacity : Nat) :
    (m.ensure capacity).2.Watches p := by
  unfold Mailbox.ensure
  split
  · exact h
  · intro g c w hc hw
    replace hc : (m.channels ++ [Channel.create capacity])[g]? = some c := hc
    rw [List.getElem?_append] at hc
    split at hc
    · exact h g c w hc hw
    · cases List.mem_singleton.1 (List.mem_of_getElem? hc)
      cases hw

theorem dropOwn
    (h : m.Watches p)
    (generation : Nat) :
    (m.modify generation Channel.dropSender).Watches p := by
  refine h.modify generation fun c w hw => ?_
  simp only [Channel.dropSender] at hw
  split at hw
  · cases hw
  · exact hw

theorem settle
    (h : m.Watches p)
    (t : Tracking) :
    (m.settle t).Watches p := by
  unfold Mailbox.settle
  split
  · exact (h.dropOwn t.generation).of_channels_eq rfl
  · exact h.of_channels_eq rfl

theorem openSender
    (h : m.Watches p)
    (capacity : Nat) :
    (m.openSender capacity).Watches p := by
  have hensured := h.ensure capacity
  unfold Mailbox.openSender
  cases hm : m.ensure capacity with
  | mk t m₁ =>
      rw [hm] at hensured
      dsimp only at hensured ⊢
      split
      · have hadded : (m₁.modify t.generation Channel.addSender).Watches p :=
          hensured.modify _ fun c w (hw : c.addSender.watcher = some w) => hw
        exact (hadded.settle _).silently
      · exact (hensured.settle _).silently

theorem openReceiver
    (h : m.Watches p)
    (capacity : Nat) :
    (m.openReceiver capacity).Watches p := by
  have hensured := h.ensure capacity
  unfold Mailbox.openReceiver
  cases hm : m.ensure capacity with
  | mk t m₁ =>
      rw [hm] at hensured
      dsimp only at hensured ⊢
      split
      · exact (hensured.settle _).silently
      · exact (hensured.settle _).silently

/-! ## Senders -/

theorem cloneSender
    (h : m.Watches p)
    (generation : Option Nat) :
    (m.cloneSender generation).Watches p := by
  unfold Mailbox.cloneSender
  split
  · exact (h.modify _ fun c w (hw : c.addSender.watcher = some w) => hw).silently
  · exact h.silently

theorem dropSender
    (h : m.Watches p)
    (generation : Option Nat) :
    (m.dropSender generation).Watches p := by
  unfold Mailbox.dropSender
  split
  · next g c hfound =>
      obtain ⟨rfl, hc⟩ := channel_of_bind hfound
      refine ⟨(h.dropOwn g).of_channels_eq (channels_forgetIfFinished _), fun w hw => ?_⟩
      dsimp only at hw
      split at hw
      · exact ⟨g, h g c w hc hw⟩
      · cases hw
  · exact ⟨h.of_channels_eq (channels_forgetIfFinished m), by simp⟩

theorem offer
    (h : m.Watches p)
    (generation : Option Nat) (packet : Packet) :
    (m.offer generation packet).Watches p := by
  refine ⟨h.steady (steady_offer m generation packet), fun w hw => ?_⟩
  unfold Mailbox.offer at hw
  split at hw
  · cases hw
  · next g c hfound =>
      obtain ⟨rfl, hc⟩ := channel_of_bind hfound
      split at hw
      · exact ⟨g, h g c w hc hw⟩
      · cases hw

theorem join
    (h : m.Watches p)
    (generation : Nat) :
    (m.join generation).Watches p := by
  refine ⟨h.steady (steady_join m generation), fun w hw => ?_⟩
  unfold Mailbox.join at hw
  split at hw <;> cases hw

theorem redeem
    (h : m.Watches p)
    (generation ticket : Nat) (packet : Packet) :
    (m.redeem generation ticket packet).Watches p := by
  refine ⟨h.steady (steady_redeem m generation ticket packet), fun w hw => ?_⟩
  unfold Mailbox.redeem at hw
  split at hw
  · cases hw
  · next c hc =>
      split at hw
      · exact ⟨generation, h generation c w hc hw⟩
      · cases hw

theorem forgetSend
    (h : m.Watches p)
    (generation ticket : Nat) :
    (m.forgetSend generation ticket).Watches p :=
  (h.steady (steady_forgetSend m generation ticket)).silently

/-! ## Receivers -/

theorem receive
    {generation : Nat} {watcher : Option Watcher}
    (h : m.Watches p)
    (hwatcher : ∀ w, watcher = some w → p generation w) :
    (m.receive generation watcher).Watches p := by
  unfold Mailbox.receive
  split
  · exact h.silently
  · split
    · exact (h.modify _ fun c w hw => (Channel.steady_take c).watcher w hw).silently
    · exact h.silently
    · refine silently fun g c' w hc' hw => ?_
      rw [getElem?_modify] at hc'
      obtain ⟨c, hc, rfl⟩ := Option.map_eq_some_iff.1 hc'
      split at hw
      · next heq => exact heq ▸ hwatcher w hw
      · exact h g c w hc hw

/-- The watcher on the channel of a receiver goes with it. -/
theorem dropReceiver
    (h : m.Watches p)
    (generation : Nat) :
    (m.dropReceiver generation).Watches fun g w => generation ≠ g ∧ p g w := by
  refine ⟨fun g c' w hc' hw => ?_, by simp [Mailbox.dropReceiver]⟩
  unfold Mailbox.dropReceiver at hc'
  rw [getElem?_modify, channels_forgetIfFinished] at hc'
  obtain ⟨c, hc, rfl⟩ := Option.map_eq_some_iff.1 hc'
  split at hw
  · cases hw
  · next hne => exact ⟨hne, h g c w hc hw⟩

theorem release (h : m.Watches p) : m.release.Watches p := by
  unfold Mailbox.release
  split
  · exact h.silently
  · next t _ =>
      refine ⟨(h.modify t.generation fun c w hw => ?_).of_channels_eq rfl, fun w hw => ?_⟩
      · revert hw
        cases t.holdsSender <;> cases t.holdsReceiver <;>
          simp [Channel.dropSender, Channel.close]
      · dsimp only at hw
        split at hw
        · obtain ⟨c, hc, hw⟩ := Option.bind_eq_some_iff.1 hw
          exact ⟨_, h _ c w hc hw⟩
        · cases hw

end Watches
end Mailbox
end ScatterGather
