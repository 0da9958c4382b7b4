import ScatterGather.Proofs.Mailbox.Tracking

/-!
# When a channel ends

The receiver of a channel finds its end when nothing is queued and no sender is left. Since the
mailbox holds a sender of its own until both ends of its current channel have been opened, this
depends only on what others did: a sender must have been opened, and none may be left.

**Results.** A receiver that was given out finds the end of its channel exactly when this is so, and
from then on the channel is over. One theorem for each operation says that it keeps the accounts
that this rests on.
-/

namespace ScatterGather
namespace Mailbox

variable {lent lent' : Nat → Nat} {joined joined' spent : Nat → Prop} {whole whole' : Prop}
variable {m : Mailbox} {g : Nat} {generation : Option Nat}

/-- A mailbox whose senders are accounted for. The channels `spent` are over, and the mailbox is
upright and tended if it is `whole`, which it is until it is released. -/
structure Regular (lent : Nat → Nat) (joined spent : Nat → Prop) (whole : Prop) (m : Mailbox) :
    Prop where
  ledger : m.Ledger lent joined
  spent : ∀ g, spent g → m.Over g
  upright : whole → m.Upright
  tended : whole → m.Tended joined

/-! ## What a receiver finds -/

theorem receive_ended_iff
    {c : Channel}
    (hc : m.channels[g]? = some c)
    (watcher : Option Watcher) :
    (m.receive g watcher).answer = .ended ↔ c.queue = [] ∧ c.senders = 0 := by
  unfold receive
  rw [hc]
  cases hqueue : c.queue with
  | nil =>
      by_cases hsenders : c.senders = 0 <;> simp [Channel.reception, hqueue, hsenders]
  | cons p rest =>
      simp [Channel.reception, hqueue]

theorem receive_pending_iff
    {c : Channel}
    (hc : m.channels[g]? = some c)
    (watcher : Option Watcher) :
    (m.receive g watcher).answer = .pending ↔ c.queue = [] ∧ c.senders ≠ 0 := by
  unfold receive
  rw [hc]
  cases hqueue : c.queue with
  | nil =>
      by_cases hsenders : c.senders = 0 <;> simp [Channel.reception, hqueue, hsenders]
  | cons p rest =>
      simp [Channel.reception, hqueue]

namespace Regular

/-- An open channel whose receiver was given out has no sender left when one was opened on it and
none is lent any more: until then the mailbox has one. -/
theorem senders_eq_zero_iff
    (h : m.Regular lent joined spent whole)
    (hwhole : whole)
    (hopen : m.Open g)
    (hgiven : ¬ m.Keeps g) :
    m.senders g = 0 ↔ joined g ∧ lent g = 0 := by
  obtain ⟨t, ht, rfl, -⟩ := h.upright hwhole g hopen
  have hreceiver : t.holdsReceiver = false := by
    cases hholds : t.holdsReceiver with
    | true => exact absurd ⟨t, ht, rfl, hholds⟩ hgiven
    | false => rfl
  have hsettled := h.ledger.settled t ht
  rw [hreceiver, Bool.not_false, Bool.and_true] at hsettled
  rw [h.ledger.senders, own_of_tracking ht, Tracking.own, ← h.ledger.attached t ht, hsettled]
  cases t.senderAttached <;> simp

theorem lent_of_spent
    (h : m.Regular lent joined spent whole)
    (hspent : spent g) :
    lent g = 0 := by
  obtain ⟨c, hc, hsenders, -⟩ := (h.spent g hspent).channel
  have hledger := h.ledger.senders g
  rw [senders_of_getElem? hc, hsenders] at hledger
  omega

theorem not_spent
    (h : m.Regular lent joined spent whole)
    (hlent : 0 < lent g) :
    ¬ spent g := by
  intro hspent
  have hzero := h.lent_of_spent hspent
  omega

/-- Once nothing is queued on a channel and no sender is left, it is over. -/
theorem over_of_senders
    {c : Channel}
    (h : m.Regular lent joined spent whole)
    (hc : m.channels[g]? = some c)
    (hsenders : c.senders = 0)
    (hqueue : c.queue = []) :
    m.Over g := by
  refine ⟨⟨c, hc, hsenders, hqueue⟩, ?_⟩
  have hledger := h.ledger.senders g
  rw [senders_of_getElem? hc, hsenders] at hledger
  omega

/-- Once the open channel is over, senders are opened on no channel. -/
theorem openSender_of_spent
    (h : m.Regular lent joined spent whole)
    (hwhole : whole)
    (hopen : m.Open g)
    (hspent : spent g)
    (capacity : Nat) :
    (m.openSender capacity).answer = none := by
  have hnot := ((h.spent g hspent).openSender capacity).2
  obtain ⟨t, ht, rfl, -⟩ := h.upright hwhole g hopen
  have hensure : m.ensure capacity = (t, m) := by
    unfold Mailbox.ensure
    rw [ht]
  unfold Mailbox.openSender at hnot ⊢
  rw [hensure] at hnot ⊢
  dsimp only at hnot ⊢
  split at hnot
  · exact absurd rfl hnot
  · next hclosed => rw [if_neg hclosed]

theorem fresh : Mailbox.fresh.Regular (fun _ => 0) (fun _ => False) (fun _ => False) whole where
  ledger := .fresh
  spent _ h := h.elim
  upright _ := .fresh
  tended _ := .fresh

/-- Other words for the same accounts; a mailbox may be known not to be whole any more. -/
theorem congr
    (h : m.Regular lent joined spent whole)
    (hlent : ∀ g, lent' g = lent g)
    (hjoined : ∀ g, joined' g ↔ joined g)
    (hwhole : whole' → whole) :
    m.Regular lent' joined' spent whole' where
  ledger := h.ledger.congr hlent hjoined
  spent := h.spent
  upright h' := h.upright (hwhole h')
  tended h' := (h.tended (hwhole h')).congr fun g => (hjoined g).2

/-! ## What operations keep -/

theorem openSender
    (h : m.Regular lent joined spent whole)
    (capacity : Nat) :
    (m.openSender capacity).box.Regular
      (fun g => lent g + if (m.openSender capacity).answer = some g then 1 else 0)
      (fun g => joined g ∨ (m.openSender capacity).answer = some g) spent whole where
  ledger := h.ledger.openSender capacity
  spent g hg := ((h.spent g hg).openSender capacity).1
  upright hwhole := (h.upright hwhole).openSender capacity
  tended hwhole := (h.tended hwhole).openSender h.ledger capacity

theorem openReceiver
    (h : m.Regular lent joined spent whole)
    (capacity : Nat) :
    (m.openReceiver capacity).box.Regular lent joined spent whole where
  ledger := h.ledger.openReceiver capacity
  spent g hg := (h.spent g hg).openReceiver capacity
  upright hwhole := (h.upright hwhole).openReceiver capacity
  tended hwhole := (h.tended hwhole).openReceiver h.ledger capacity

theorem cloneSender
    (h : m.Regular lent joined spent whole)
    (hgeneration : ∀ g, generation = some g → 0 < lent g) :
    (m.cloneSender generation).box.Regular
      (fun g => lent g + if generation = some g then 1 else 0) joined spent whole where
  ledger := h.ledger.cloneSender hgeneration
  spent g hg := (h.spent g hg).cloneSender fun heq => h.not_spent (hgeneration g heq) hg
  upright hwhole := (h.upright hwhole).cloneSender generation
  tended hwhole := (h.tended hwhole).cloneSender h.ledger hgeneration

theorem dropSender
    (h : m.Regular lent joined spent whole)
    (hlent : ∀ g, lent g = lent' g + if generation = some g then 1 else 0) :
    (m.dropSender generation).box.Regular lent' joined spent whole where
  ledger := h.ledger.dropSender hlent
  spent g hg := (h.spent g hg).dropSender generation
  upright hwhole := (h.upright hwhole).dropSender generation
  tended hwhole := (h.tended hwhole).dropSender h.ledger (h.upright hwhole)

theorem offer
    (h : m.Regular lent joined spent whole)
    (hgeneration : ∀ g, generation = some g → 0 < lent g)
    (p : Packet) :
    (m.offer generation p).box.Regular lent joined spent whole where
  ledger := h.ledger.steady (steady_offer m generation p)
  spent g hg := (h.spent g hg).offer (fun heq => h.not_spent (hgeneration g heq) hg) p
  upright hwhole := (h.upright hwhole).steady (steady_offer m generation p)
  tended hwhole := (h.tended hwhole).steady (steady_offer m generation p)

theorem join
    (h : m.Regular lent joined spent whole)
    (generation : Nat) :
    (m.join generation).box.Regular lent joined spent whole where
  ledger := h.ledger.steady (steady_join m generation)
  spent g hg := (h.spent g hg).join generation
  upright hwhole := (h.upright hwhole).steady (steady_join m generation)
  tended hwhole := (h.tended hwhole).steady (steady_join m generation)

theorem redeem
    {generation : Nat}
    (h : m.Regular lent joined spent whole)
    (hgeneration : 0 < lent generation)
    (ticket : Nat) (p : Packet) :
    (m.redeem generation ticket p).box.Regular lent joined spent whole where
  ledger := h.ledger.steady (steady_redeem m generation ticket p)
  spent g hg := (h.spent g hg).redeem (fun heq => h.not_spent (heq ▸ hgeneration) hg) ticket p
  upright hwhole := (h.upright hwhole).steady (steady_redeem m generation ticket p)
  tended hwhole := (h.tended hwhole).steady (steady_redeem m generation ticket p)

theorem forgetSend
    (h : m.Regular lent joined spent whole)
    (generation ticket : Nat) :
    (m.forgetSend generation ticket).box.Regular lent joined spent whole where
  ledger := h.ledger.steady (steady_forgetSend m generation ticket)
  spent g hg := (h.spent g hg).forgetSend generation ticket
  upright hwhole := (h.upright hwhole).steady (steady_forgetSend m generation ticket)
  tended hwhole := (h.tended hwhole).steady (steady_forgetSend m generation ticket)

theorem receive
    (h : m.Regular lent joined spent whole)
    (generation : Nat) (watcher : Option Watcher) :
    (m.receive generation watcher).box.Regular lent joined spent whole where
  ledger := h.ledger.receive generation watcher
  spent g hg := (h.spent g hg).receive generation watcher
  upright hwhole := (h.upright hwhole).receive generation watcher
  tended hwhole := (h.tended hwhole).receive generation watcher

theorem dropReceiver
    (h : m.Regular lent joined spent whole)
    (hopen : m.Open g)
    (hgiven : ¬ m.Keeps g) :
    (m.dropReceiver g).box.Regular lent joined spent whole where
  ledger := h.ledger.dropReceiver g
  spent other hother := (h.spent other hother).dropReceiver g
  upright hwhole := (h.upright hwhole).dropReceiver hopen
  tended hwhole :=
    (h.tended hwhole).dropReceiver h.ledger (h.upright hwhole) hopen hgiven

theorem release (h : m.Regular lent joined spent whole) :
    m.release.box.Regular lent joined spent False where
  ledger := h.ledger.release
  spent g hg := (h.spent g hg).release
  upright hwhole := hwhole.elim
  tended hwhole := hwhole.elim

end Regular
end Mailbox
end ScatterGather
