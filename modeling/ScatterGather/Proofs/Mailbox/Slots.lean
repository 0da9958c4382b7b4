import Mathlib.Data.List.Basic
import ScatterGather.Proofs.Mailbox.Evolution

/-!
# The slots of a channel

A slot of a channel is free, holds a packet, or is reserved for a waiting send. Sends wait only when
no slot is free, and a slot that becomes free is reserved at once for the send that has waited
longest. So no slot is lost, and none is given twice, whatever becomes of the sends that have one.

**Results.** Every operation on a mailbox keeps this for all of its channels. What is taken, and
what is given up, hands one slot to the next send that waits.
-/

namespace ScatterGather

namespace Channel

/-- A channel of this size on which `waits t` sends wait with the ticket `t`, `gone` if its receiver
was dropped. While sends wait without a slot no slot is free. -/
structure Fits (size : Nat) (waits : Nat → Nat) (gone : Prop) (c : Channel) : Prop where
  capacity : c.capacity = size
  bound : c.queue.length + c.granted.length ≤ size
  full : c.waiting ≠ [] → c.queue.length + c.granted.length = size
  ordered : (c.granted ++ c.waiting).Pairwise (· < ·)
  below : ∀ t ∈ c.granted ++ c.waiting, t < c.nextTicket
  closed : c.receiving = false → c.queue = [] ∧ c.granted = [] ∧ c.waiting = []
  dropped : gone → c.receiving = false
  held : c.receiving = true → ∀ t, (c.granted ++ c.waiting).count t = waits t

/-- What a channel becomes when one of its slots becomes free while those of `granted` stay
reserved: the slot goes to the send that has waited longest, if there is one. -/
structure HandsOn (c : Channel) (granted : List Nat) (c' : Channel) : Prop where
  granted : c'.granted = granted ++ c.waiting.take 1
  waiting : c'.waiting = c.waiting.drop 1

variable {size ticket : Nat} {waits waits' : Nat → Nat} {gone : Prop} {c : Channel}
variable {q : List Packet} {granted : List Nat}

/-- One slot is free, and goes to the oldest waiting send. -/
theorem grant_eq_of_free
    (h : 0 < c.free) :
    c.grant =
      { c with granted := c.granted ++ c.waiting.take 1, waiting := c.waiting.drop 1 } := by
  obtain ⟨capacity, queue, granted, waiting, nextTicket, senders, receiving, watcher⟩ := c
  cases waiting with
  | nil =>
      simp [grant]
  | cons first rest =>
      exact if_pos h

namespace Fits

theorem create
    (size : Nat)
    (hwaits : ∀ t, waits t = 0)
    (hgone : ¬ gone) :
    (Channel.create size).Fits size waits gone where
  capacity := rfl
  bound := Nat.zero_le _
  full h := absurd rfl h
  ordered := .nil
  below _ h := by cases h
  closed h := by cases h
  dropped h := absurd h hgone
  held _ t := (hwaits t).symm

/-- Slots do not depend on senders and watchers. -/
theorem retrack
    (h : c.Fits size waits gone)
    (senders : Nat) (watcher : Option Watcher) :
    Fits size waits gone { c with senders, watcher } where
  capacity := h.capacity
  bound := h.bound
  full := h.full
  ordered := h.ordered
  below := h.below
  closed := h.closed
  dropped := h.dropped
  held := h.held

theorem free_eq_zero_iff (h : c.Fits size waits gone) :
    c.free = 0 ↔ c.queue.length + c.granted.length = size := by
  have hbound := h.bound
  unfold free
  rw [h.capacity]
  omega

/-- While sends wait without a slot none is free. -/
theorem grant_eq (h : c.Fits size waits gone) : c.grant = c := by
  unfold grant
  split
  · next first rest hwaiting =>
      have hfull : c.free = 0 := h.free_eq_zero_iff.2 (h.full (by simp [hwaiting]))
      exact if_neg (by simp [hfull])
  · rfl

/-- One slot less is filled or reserved. -/
theorem grant_eq_of_shift
    (h : c.Fits size waits gone)
    (hroom : q.length + granted.length + 1 = c.queue.length + c.granted.length) :
    grant { c with queue := q, granted } =
      { c with
        queue := q
        granted := granted ++ c.waiting.take 1
        waiting := c.waiting.drop 1 } := by
  refine grant_eq_of_free ?_
  have hbound := h.bound
  have hsize := h.capacity
  show 0 < c.capacity - (q.length + granted.length)
  omega

/-- One slot less is filled or reserved, and `waits'` sends still wait. -/
theorem shift
    (h : c.Fits size waits gone)
    (hroom : q.length + granted.length + 1 = c.queue.length + c.granted.length)
    (hgranted : granted.Sublist c.granted)
    (hheld : c.receiving = true → ∀ t, (granted ++ c.waiting).count t = waits' t) :
    (grant { c with queue := q, granted }).Fits size waits' gone := by
  have hsame : granted ++ c.waiting.take 1 ++ c.waiting.drop 1 = granted ++ c.waiting := by
    rw [List.append_assoc, List.take_append_drop]
  have hsublist : (granted ++ c.waiting).Sublist (c.granted ++ c.waiting) :=
    hgranted.append_right c.waiting
  rw [h.grant_eq_of_shift hroom]
  refine ⟨h.capacity, ?_, ?_, ?_, ?_, ?_, h.dropped, ?_⟩
  · have hone : (c.waiting.take 1).length ≤ 1 := List.length_take_le 1 _
    have hbound := h.bound
    simp only [List.length_append]
    omega
  · intro hrest
    have htwo : 1 < c.waiting.length := by
      rw [← Nat.sub_pos_iff_lt, ← List.length_drop]
      exact List.length_pos_iff.2 hrest
    have hfull := h.full (List.length_pos_iff.1 (Nat.lt_trans Nat.zero_lt_one htwo))
    simp only [List.length_append, List.length_take]
    omega
  · simp only [hsame]
    exact h.ordered.sublist hsublist
  · simp only [hsame]
    exact fun t ht => h.below t (hsublist.subset ht)
  · intro hclosed
    obtain ⟨hqueue, hnone, -⟩ := h.closed hclosed
    rw [hqueue, hnone] at hroom
    exact absurd hroom (Nat.succ_ne_zero _)
  · simp only [hsame]
    exact hheld

/-- The packet at the front is taken, and its slot goes to the oldest waiting send. -/
theorem handsOn_take
    {p : Packet} {rest : List Packet}
    (h : c.Fits size waits gone)
    (hqueue : c.queue = p :: rest) :
    c.queue = p :: c.take.queue ∧ c.HandsOn c.granted c.take := by
  have hroom : c.queue.tail.length + c.granted.length + 1 = c.queue.length + c.granted.length := by
    rw [hqueue, List.tail_cons, List.length_cons]
    omega
  unfold Channel.take
  rw [h.grant_eq_of_shift hroom]
  refine ⟨?_, rfl, rfl⟩
  show c.queue = p :: c.queue.tail
  rw [hqueue, List.tail_cons]

theorem take
    {p : Packet} {rest : List Packet}
    (h : c.Fits size waits gone)
    (hqueue : c.queue = p :: rest) :
    c.take.Fits size waits gone := by
  refine h.shift ?_ (List.Sublist.refl _) h.held
  rw [hqueue, List.tail_cons, List.length_cons]
  omega

/-- A packet is put into a free slot, for which no send waits. -/
theorem push
    (h : c.Fits size waits gone)
    (hadmission : c.admission = .sent)
    (p : Packet) :
    (c.push p).Fits size waits gone := by
  obtain ⟨hreceiving, hfree⟩ := admission_eq_sent_iff.1 hadmission
  unfold free at hfree
  rw [h.capacity] at hfree
  refine ⟨h.capacity, ?_, ?_, h.ordered, h.below, ?_, h.dropped, h.held⟩
  · show (c.queue ++ [p]).length + c.granted.length ≤ size
    rw [List.length_append, List.length_singleton]
    omega
  · intro hwaiting
    have hfull := h.full hwaiting
    omega
  · intro hclosed
    cases hreceiving.symm.trans hclosed

/-- One send more waits, with a ticket that was not given before. -/
theorem join
    (h : c.Fits size waits gone)
    (hadmission : c.admission = .full)
    (hwaits : ∀ t, waits' t = waits t + if c.nextTicket = t then 1 else 0) :
    c.join.Fits size waits' gone := by
  obtain ⟨hreceiving, hfree⟩ := admission_eq_full_iff.1 hadmission
  have hfull := h.free_eq_zero_iff.1 hfree
  have hsplit : c.join.granted ++ c.join.waiting = (c.granted ++ c.waiting) ++ [c.nextTicket] :=
    (List.append_assoc _ _ _).symm
  refine ⟨h.capacity, h.bound, fun _ => hfull, ?_, ?_, ?_, h.dropped, ?_⟩
  · rw [hsplit, List.pairwise_append]
    refine ⟨h.ordered, List.pairwise_singleton _ _, fun t ht next hnext => ?_⟩
    rw [List.mem_singleton.1 hnext]
    exact h.below t ht
  · intro t ht
    rw [hsplit, List.mem_append, List.mem_singleton] at ht
    rcases ht with ht | rfl
    · exact Nat.lt_succ_of_lt (h.below t ht)
    · exact Nat.lt_succ_self _
  · intro hclosed
    cases hreceiving.symm.trans hclosed
  · intro _ t
    rw [hsplit, List.count_append, h.held hreceiving, hwaits, List.count_singleton]
    simp only [beq_iff_eq]

/-- Those that still wait when a send with this ticket does not. -/
theorem count_erase
    (h : c.Fits size waits gone)
    (hwaits : ∀ t, waits t = waits' t + if ticket = t then 1 else 0)
    (hreceiving : c.receiving = true)
    (t : Nat) :
    ((c.granted ++ c.waiting).erase ticket).count t = waits' t := by
  rw [List.count_erase, h.held hreceiving, hwaits]
  simp only [beq_iff_eq]
  omega

/-- A send with a reserved slot waits for no other. -/
theorem not_mem_waiting
    (h : c.Fits size waits gone)
    (hticket : ticket ∈ c.granted) :
    ticket ∉ c.waiting := fun hwaiting =>
  Nat.lt_irrefl ticket ((List.pairwise_append.1 h.ordered).2.2 ticket hticket ticket hwaiting)

/-- The slots that are filled or reserved, but for the one of a send that is given up. -/
theorem length_erase (hticket : ticket ∈ c.granted) :
    c.queue.length + (c.granted.erase ticket).length + 1 = c.queue.length + c.granted.length := by
  rw [Nat.add_assoc, List.length_erase_add_one hticket]

/-- A send fills the slot that was reserved for it. -/
theorem redeem
    (h : c.Fits size waits gone)
    (hredemption : c.redemption ticket = .sent)
    (hwaits : ∀ t, waits t = waits' t + if ticket = t then 1 else 0)
    (p : Packet) :
    (c.redeem ticket p).Fits size waits' gone := by
  obtain ⟨hreceiving, hticket⟩ := redemption_eq_sent_iff.1 hredemption
  have hroom : (c.queue ++ [p]).length + (c.granted.erase ticket).length =
      c.queue.length + c.granted.length := by
    rw [← length_erase hticket, List.length_append, List.length_singleton]
    omega
  have herase : c.granted.erase ticket ++ c.waiting = (c.granted ++ c.waiting).erase ticket :=
    (List.erase_append_left _ hticket).symm
  have hsublist : (c.granted.erase ticket ++ c.waiting).Sublist (c.granted ++ c.waiting) :=
    List.erase_sublist.append_right c.waiting
  refine ⟨h.capacity, ?_, ?_, h.ordered.sublist hsublist, ?_, ?_, h.dropped, ?_⟩
  · exact hroom ▸ h.bound
  · exact fun hwaiting => hroom.trans (h.full hwaiting)
  · exact fun t ht => h.below t (hsublist.subset ht)
  · intro hclosed
    cases hreceiving.symm.trans hclosed
  · intro _ t
    exact (congrArg (List.count t) herase).trans (h.count_erase hwaits hreceiving t)

/-- A send with a reserved slot is given up, and the slot goes to the next one. -/
theorem handsOn_forget
    (h : c.Fits size waits gone)
    (hticket : ticket ∈ c.granted) :
    (c.forget ticket).queue = c.queue ∧ c.HandsOn (c.granted.erase ticket) (c.forget ticket) := by
  unfold Channel.forget
  rw [List.erase_of_not_mem (h.not_mem_waiting hticket), h.grant_eq_of_shift (length_erase hticket)]
  exact ⟨rfl, rfl, rfl⟩

theorem forget
    (h : c.Fits size waits gone)
    (hwaits : ∀ t, waits t = waits' t + if ticket = t then 1 else 0) :
    (c.forget ticket).Fits size waits' gone := by
  by_cases hticket : ticket ∈ c.granted
  · unfold Channel.forget
    rw [List.erase_of_not_mem (h.not_mem_waiting hticket)]
    refine h.shift (length_erase hticket) List.erase_sublist fun hreceiving t => ?_
    rw [← List.erase_append_left _ hticket]
    exact h.count_erase hwaits hreceiving t
  · -- No slot was reserved for it, so that none becomes free.
    have hsublist : (c.granted ++ c.waiting.erase ticket).Sublist (c.granted ++ c.waiting) :=
      List.erase_sublist.append_left c.granted
    have herased : Fits size waits' gone { c with waiting := c.waiting.erase ticket } := by
      refine ⟨h.capacity, h.bound, ?_, h.ordered.sublist hsublist, ?_, ?_, h.dropped, ?_⟩
      · intro hrest
        refine h.full fun hnone => hrest ?_
        show c.waiting.erase ticket = []
        rw [hnone, List.erase_nil]
      · exact fun t ht => h.below t (hsublist.subset ht)
      · intro hclosed
        obtain ⟨hqueue, hgranted, hnone⟩ := h.closed hclosed
        refine ⟨hqueue, hgranted, ?_⟩
        show c.waiting.erase ticket = []
        rw [hnone, List.erase_nil]
      · intro hreceiving t
        show (c.granted ++ c.waiting.erase ticket).count t = waits' t
        rw [← List.erase_append_right _ hticket]
        exact h.count_erase hwaits hreceiving t
    unfold Channel.forget
    rw [List.erase_of_not_mem hticket, herased.grant_eq]
    exact herased

/-- The receiver is dropped: nothing is queued, nothing is reserved, and nobody waits in line. -/
theorem close
    (h : c.Fits size waits gone)
    (waits' : Nat → Nat) (gone' : Prop) :
    c.close.Fits size waits' gone' where
  capacity := h.capacity
  bound := Nat.zero_le _
  full hwaiting := absurd rfl hwaiting
  ordered := .nil
  below _ ht := by cases ht
  closed _ := ⟨rfl, rfl, rfl⟩
  dropped _ := rfl
  held hreceiving := by cases hreceiving

/-- On a closed channel nothing is said of the sends that wait. -/
theorem recount
    (h : c.Fits size waits gone)
    (hclosed : c.receiving = false)
    (waits' : Nat → Nat) :
    c.Fits size waits' gone where
  capacity := h.capacity
  bound := h.bound
  full := h.full
  ordered := h.ordered
  below := h.below
  closed := h.closed
  dropped := h.dropped
  held hreceiving := by cases hreceiving.symm.trans hclosed

end Fits
end Channel

namespace Mailbox

/-- All channels of a mailbox have this size, `waits g t` sends wait on the channel of the
generation `g` with the ticket `t`, and the receivers of the channels that are `gone` were
dropped. -/
structure Slots (size : Nat) (waits : Nat → Nat → Nat) (gone : Nat → Prop) (m : Mailbox) :
    Prop where
  fits : ∀ (g : Nat) (c : Channel), m.channels[g]? = some c → c.Fits size (waits g) (gone g)
  unborn : ∀ g : Nat, m.channels[g]? = none → (∀ t, waits g t = 0) ∧ ¬ gone g

variable {size generation ticket : Nat} {waits waits' : Nat → Nat → Nat} {gone : Nat → Prop}
variable {m m' : Mailbox} {f : Channel → Channel}

namespace Slots

theorem fresh (size : Nat) : Mailbox.fresh.Slots size (fun _ _ => 0) (fun _ => False) where
  fits g c hc := by cases hc
  unborn _ _ := ⟨fun _ => rfl, id⟩

theorem of_channels_eq
    (h : m.Slots size waits gone)
    (hchannels : m'.channels = m.channels) :
    m'.Slots size waits gone where
  fits g c hc := h.fits g c (hchannels ▸ hc)
  unborn g hg := h.unborn g (hchannels ▸ hg)

/-- One channel changes, and with it the sends that wait on it. -/
theorem exchange
    (h : m.Slots size waits gone)
    (hf : ∀ c, m.channels[generation]? = some c →
      c.Fits size (waits generation) (gone generation) →
        (f c).Fits size (waits' generation) (gone generation))
    (hnone : m.channels[generation]? = none → ∀ t, waits' generation t = 0)
    (hother : ∀ g, generation ≠ g → waits' g = waits g) :
    (m.modify generation f).Slots size waits' gone where
  fits g c hc := by
    rw [getElem?_modify] at hc
    obtain ⟨c₀, hc₀, rfl⟩ := Option.map_eq_some_iff.1 hc
    have hfits := h.fits g c₀ hc₀
    split
    · next heq =>
        subst heq
        exact hf c₀ hc₀ hfits
    · next hne =>
        rw [hother g hne]
        exact hfits
  unborn g hg := by
    rw [getElem?_modify, Option.map_eq_none_iff] at hg
    refine ⟨?_, (h.unborn g hg).2⟩
    by_cases heq : generation = g
    · subst heq
      exact hnone hg
    · rw [hother g heq]
      exact (h.unborn g hg).1

/-- One channel changes, but for the sends that wait on it. -/
theorem modify
    (h : m.Slots size waits gone)
    (hf : ∀ c, m.channels[generation]? = some c →
      c.Fits size (waits generation) (gone generation) →
        (f c).Fits size (waits generation) (gone generation)) :
    (m.modify generation f).Slots size waits gone :=
  h.exchange hf (fun hnone => (h.unborn generation hnone).1) fun _ _ => rfl

/-- One channel changes, and one send less waits on it. -/
theorem lessen
    (h : m.Slots size waits gone)
    (hwaits : ∀ g t, waits g t = waits' g t + if generation = g ∧ ticket = t then 1 else 0)
    (hf : ∀ c, m.channels[generation]? = some c →
      c.Fits size (waits generation) (gone generation) →
      (∀ t, waits generation t = waits' generation t + if ticket = t then 1 else 0) →
        (f c).Fits size (waits' generation) (gone generation)) :
    (m.modify generation f).Slots size waits' gone := by
  refine h.exchange (fun c hc hfits => hf c hc hfits fun t => ?_) (fun hnone t => ?_)
    fun g hne => ?_
  · rw [hwaits, if_congr (and_iff_right rfl) rfl rfl]
  · have hzero := (h.unborn generation hnone).1 t
    rw [hwaits] at hzero
    exact (Nat.add_eq_zero_iff.1 hzero).1
  · funext t
    rw [hwaits, if_neg fun hboth => hne hboth.1, Nat.add_zero]

/-- One send less waits on a closed channel, which does not change by this. -/
theorem recount
    (h : m.Slots size waits gone)
    (hwaits : ∀ g t, waits g t = waits' g t + if generation = g ∧ ticket = t then 1 else 0)
    (hclosed : ∀ c, m.channels[generation]? = some c → c.receiving = false) :
    m.Slots size waits' gone := by
  have hsame : (m.modify generation id).Slots size waits' gone :=
    h.lessen hwaits fun c hc hfits _ => hfits.recount (hclosed c hc) _
  exact hsame.of_channels_eq (List.modify_id generation m.channels).symm

/-! ## Opening -/

theorem ensure (h : m.Slots size waits gone) : (m.ensure size).2.Slots size waits gone := by
  unfold Mailbox.ensure
  split
  · exact h
  · constructor
    · intro g c hc
      replace hc : (m.channels ++ [Channel.create size])[g]? = some c := hc
      by_cases hlt : g < m.channels.length
      · rw [List.getElem?_append_left hlt] at hc
        exact h.fits g c hc
      · have hge := Nat.not_lt.1 hlt
        rw [List.getElem?_append_right hge] at hc
        rw [List.mem_singleton.1 (List.mem_of_getElem? hc)]
        obtain ⟨hwaits, hgone⟩ := h.unborn g (List.getElem?_eq_none hge)
        exact .create size hwaits hgone
    · intro g hg
      replace hg : (m.channels ++ [Channel.create size])[g]? = none := hg
      rw [List.getElem?_eq_none_iff, List.length_append] at hg
      exact h.unborn g (List.getElem?_eq_none (Nat.le_of_add_right_le hg))

theorem settle
    (h : m.Slots size waits gone)
    (t : Tracking) :
    (m.settle t).Slots size waits gone := by
  unfold Mailbox.settle
  split
  · have hdropped : (m.modify t.generation Channel.dropSender).Slots size waits gone :=
      h.modify fun c _ hfits => hfits.retrack _ _
    exact hdropped.of_channels_eq rfl
  · exact h.of_channels_eq rfl

theorem openSender (h : m.Slots size waits gone) :
    (m.openSender size).box.Slots size waits gone := by
  have hensured := h.ensure
  unfold Mailbox.openSender
  generalize m.ensure size = ensured at hensured
  obtain ⟨t, m₁⟩ := ensured
  dsimp only at hensured ⊢
  split
  · have hadded : (m₁.modify t.generation Channel.addSender).Slots size waits gone :=
      hensured.modify fun c _ hfits => hfits.retrack _ _
    exact hadded.settle _
  · exact hensured.settle _

theorem openReceiver (h : m.Slots size waits gone) :
    (m.openReceiver size).box.Slots size waits gone := by
  have hensured := h.ensure
  unfold Mailbox.openReceiver
  generalize m.ensure size = ensured at hensured
  obtain ⟨t, m₁⟩ := ensured
  dsimp only at hensured ⊢
  split
  · exact hensured.settle _
  · exact hensured.settle _

/-! ## Senders -/

theorem cloneSender
    (h : m.Slots size waits gone)
    (generation : Option Nat) :
    (m.cloneSender generation).box.Slots size waits gone := by
  unfold Mailbox.cloneSender
  split
  · exact h.modify fun c _ hfits => hfits.retrack _ _
  · exact h

theorem dropSender
    (h : m.Slots size waits gone)
    (generation : Option Nat) :
    (m.dropSender generation).box.Slots size waits gone := by
  unfold Mailbox.dropSender
  split
  · next g _ _ =>
      have hdropped : (m.modify g Channel.dropSender).Slots size waits gone :=
        h.modify fun c _ hfits => hfits.retrack _ _
      exact hdropped.of_channels_eq (channels_forgetIfFinished _)
  · exact h.of_channels_eq (channels_forgetIfFinished _)

theorem offer
    (h : m.Slots size waits gone)
    (generation : Option Nat) (p : Packet) :
    (m.offer generation p).box.Slots size waits gone := by
  unfold Mailbox.offer
  split
  · exact h
  · next g c hfound =>
      obtain ⟨-, hc⟩ := channel_of_bind hfound
      split
      · next hadmission =>
          refine h.modify fun c' hc' hfits => ?_
          cases hc.symm.trans hc'
          exact hfits.push hadmission p
      · exact h

/-- A send begins to wait only after it found its channel full. -/
theorem join
    {c : Channel}
    (h : m.Slots size waits gone)
    (hc : m.channels[generation]? = some c)
    (hadmission : c.admission = .full)
    (hwaits : ∀ g t, waits' g t =
      waits g t + if generation = g ∧ (m.join generation).answer = t then 1 else 0) :
    (m.join generation).box.Slots size waits' gone := by
  unfold Mailbox.join at hwaits ⊢
  rw [hc] at hwaits ⊢
  dsimp only at hwaits ⊢
  refine h.exchange (fun c' hc' hfits => ?_) (fun hnone => ?_) fun g hne => ?_
  · cases hc.symm.trans hc'
    exact hfits.join hadmission fun t => by rw [hwaits, if_congr (and_iff_right rfl) rfl rfl]
  · cases hc.symm.trans hnone
  · funext t
    rw [hwaits, if_neg fun hboth => hne hboth.1, Nat.add_zero]

theorem redeem_of_full
    (h : m.Slots size waits gone)
    {p : Packet}
    (hanswer : (m.redeem generation ticket p).answer = .full) :
    (m.redeem generation ticket p).box.Slots size waits gone := by
  unfold Mailbox.redeem at hanswer ⊢
  split at hanswer
  · exact h
  · split at hanswer
    · cases hanswer
    · exact h

/-- A waiting send that is sent, or refused, waits no longer. -/
theorem redeem
    (h : m.Slots size waits gone)
    (hwaits : ∀ g t, waits g t = waits' g t + if generation = g ∧ ticket = t then 1 else 0)
    {p : Packet}
    (hanswer : (m.redeem generation ticket p).answer ≠ .full) :
    (m.redeem generation ticket p).box.Slots size waits' gone := by
  unfold Mailbox.redeem at hanswer ⊢
  split at hanswer
  · next habsent =>
      refine h.recount hwaits fun c hc => ?_
      cases habsent.symm.trans hc
  · next c hc =>
      split at hanswer
      · next hredemption =>
          refine h.lessen hwaits fun c' hc' hfits hone => ?_
          cases hc.symm.trans hc'
          exact hfits.redeem hredemption hone p
      · next hunsent =>
          refine h.recount hwaits fun c' hc' => ?_
          cases hc.symm.trans hc'
          rw [← Bool.not_eq_true]
          intro hreceiving
          by_cases hticket : ticket ∈ c.granted
          · exact hunsent (Channel.redemption_eq_sent_iff.2 ⟨hreceiving, hticket⟩)
          · exact hanswer (Channel.redemption_eq_full_iff.2 ⟨hreceiving, hticket⟩)

theorem forgetSend
    (h : m.Slots size waits gone)
    (hwaits : ∀ g t, waits g t = waits' g t + if generation = g ∧ ticket = t then 1 else 0) :
    (m.forgetSend generation ticket).box.Slots size waits' gone :=
  h.lessen hwaits fun _ _ hfits hone => hfits.forget hone

/-! ## Receivers -/

theorem receive
    (h : m.Slots size waits gone)
    (generation : Nat) (watcher : Option Watcher) :
    (m.receive generation watcher).box.Slots size waits gone := by
  unfold Mailbox.receive
  split
  · exact h
  · next c hc =>
      split
      · next hreception =>
          obtain ⟨_, hqueue⟩ := Channel.queue_of_reception hreception
          refine h.modify fun c' hc' hfits => ?_
          cases hc.symm.trans hc'
          exact hfits.take hqueue
      · exact h
      · exact h.modify fun c _ hfits => hfits.retrack _ _

theorem dropReceiver
    (h : m.Slots size waits gone)
    (generation : Nat) :
    (m.dropReceiver generation).box.Slots size waits gone := by
  unfold Mailbox.dropReceiver
  refine modify ?_ fun c _ hfits => hfits.close _ _
  exact h.of_channels_eq (channels_forgetIfFinished _)

theorem release (h : m.Slots size waits gone) : m.release.box.Slots size waits gone := by
  unfold Mailbox.release
  split
  · exact h
  · next t _ =>
      refine of_channels_eq (h.modify fun c _ hfits => ?_) rfl
      have hdropped : (if t.holdsSender then c.dropSender else c).Fits size (waits t.generation)
          (gone t.generation) := by
        split
        · exact hfits.retrack _ _
        · exact hfits
      dsimp only
      split
      · exact hdropped.close _ _
      · exact hdropped

end Slots
end Mailbox
end ScatterGather
