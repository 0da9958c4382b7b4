import ScatterGather.Proofs.Mailbox.Closing

/-!
# For how long a channel is tracked

The channel that a mailbox tracks is its latest one. It is tracked for as long as it is needed:
until its receiver was dropped and no sender is left on it. Once it is forgotten it is closed, a
sender was opened on it, and none is left.

**Results.** One theorem for each operation says that it keeps this, if only receivers are dropped
that were given out, and each of them once.
-/

namespace ScatterGather
namespace Mailbox

variable {lent : Nat → Nat} {joined : Nat → Prop} {m m' : Mailbox} {t : Tracking} {g : Nat}
variable {generation : Option Nat}

/-- A channel is the latest of a mailbox and goes by what is known of its receiver: the drop of a
receiver is noted only after it was given out, and until then the channel is open. -/
structure Current (m : Mailbox) (t : Tracking) : Prop where
  latest : t.generation + 1 = m.channels.length
  unopened : t.holdsReceiver = true → t.receiverDropped = false
  listening : t.receiverDropped = false → m.Open t.generation

/-- A mailbox that tracks its latest channel for as long as that is needed. -/
structure Tended (joined : Nat → Prop) (m : Mailbox) : Prop where
  current : ∀ t, m.tracking = some t → m.Current t
  begun : ∀ t, m.tracking = some t → t.senderAttached = true ∨ t.holdsReceiver = false
  needed : ∀ t, m.tracking = some t → m.isFinished t = false
  forgotten : m.tracking = none → ∀ g, g + 1 = m.channels.length →
    ¬ m.Open g ∧ joined g ∧ m.senders g = 0

/-! ## What a change of a channel leaves alone -/

theorem open_modify_iff
    {f : Channel → Channel}
    (hf : ∀ c, (f c).receiving = c.receiving)
    (m : Mailbox) (generation g : Nat) :
    (m.modify generation f).Open g ↔ m.Open g := by
  unfold Open
  rw [getElem?_modify]
  cases m.channels[g]? with
  | none =>
      simp
  | some c =>
      by_cases hg : generation = g <;> simp [hg, hf]

theorem length_modify (m : Mailbox) (generation : Nat) (f : Channel → Channel) :
    (m.modify generation f).channels.length = m.channels.length :=
  List.length_modify _ _ _

theorem length_settle (m : Mailbox) (t : Tracking) :
    (m.settle t).channels.length = m.channels.length := by
  unfold settle
  split
  · exact length_modify _ _ _
  · rfl

theorem open_settle_iff (m : Mailbox) (t : Tracking) (g : Nat) :
    (m.settle t).Open g ↔ m.Open g := by
  unfold settle
  split
  · exact open_modify_iff (f := Channel.dropSender) (fun _ => rfl) m t.generation g
  · rfl

theorem senders_modify_of_eq
    {f : Channel → Channel}
    (hf : ∀ c, (f c).senders = c.senders)
    (m : Mailbox) (generation g : Nat) :
    (m.modify generation f).senders g = m.senders g := by
  unfold senders
  rw [getElem?_modify]
  cases m.channels[g]? with
  | none =>
      rfl
  | some c =>
      by_cases hg : generation = g <;> simp [hg, hf]

namespace Steady

theorem length_eq (h : m.Steady m') : m'.channels.length = m.channels.length := by
  have hbounds : ∀ g, m'.channels.length ≤ g ↔ m.channels.length ≤ g := by
    intro g
    rw [← List.getElem?_eq_none_iff, ← List.getElem?_eq_none_iff]
    exact h.channel_eq_none_iff g
  exact Nat.le_antisymm ((hbounds _).2 (Nat.le_refl _)) ((hbounds _).1 (Nat.le_refl _))

theorem open_iff
    (h : m.Steady m')
    (g : Nat) :
    m'.Open g ↔ m.Open g := by
  unfold Open
  have hchannels := h.channels g
  generalize m.channels[g]? = before, m'.channels[g]? = after at hchannels
  cases hchannels with
  | some hsteady =>
      simp [hsteady.receiving]
  | none =>
      simp

end Steady

theorem isFinished_of_senders_pos
    (h : 0 < m.senders t.generation) :
    m.isFinished t = false := by
  have hne : (m.senders t.generation == 0) = false := by
    rw [beq_eq_false_iff_ne]
    omega
  rw [isFinished, hne, Bool.and_false]

theorem isFinished_of_receiverDropped_eq_false
    (h : t.receiverDropped = false) :
    m.isFinished t = false := by
  simp [isFinished, h]

/-- A channel that is not needed: its receiver was dropped, and no sender is on it. -/
theorem isFinished_iff :
    m.isFinished t = true ↔
      t.receiverDropped = true ∧ t.holdsSender = false ∧ m.senders t.generation = 0 := by
  simp [isFinished, and_assoc]

theorem isFinished_congr
    (h : m'.senders t.generation = m.senders t.generation) :
    m'.isFinished t = m.isFinished t := by
  rw [isFinished, isFinished, h]

namespace Current

theorem frame
    (h : m.Current t)
    (hlength : m'.channels.length = m.channels.length)
    (hopen : ∀ g, m.Open g → m'.Open g) :
    m'.Current t where
  latest := h.latest.trans hlength.symm
  unopened := h.unopened
  listening hdropped := hopen _ (h.listening hdropped)

/-- What is settled goes by what was known before. -/
theorem settle
    (h : m.Current t)
    (hbegun : t.senderAttached = true ∨ t.holdsReceiver = false)
    (hneeded : ∀ t', (m.settle t).tracking = some t' → (m.settle t).isFinished t' = false) :
    (m.settle t).Tended joined := by
  refine ⟨?_, ?_, hneeded, ?_⟩
  · intro t' ht'
    obtain ⟨_, rfl⟩ := eq_of_tracking_settle ht'
    refine ⟨h.latest.trans (length_settle m t).symm, h.unopened, fun hdropped => ?_⟩
    exact (open_settle_iff m t _).2 (h.listening hdropped)
  · intro t' ht'
    obtain ⟨_, rfl⟩ := eq_of_tracking_settle ht'
    exact hbegun
  · intro hnone
    obtain ⟨holds, hsome⟩ := exists_tracking_settle m t
    cases hnone.symm.trans hsome

end Current

/-- Nothing is given up when the mailbox holds no sender, or is to keep it. -/
theorem settle_of_eq_false
    (h : (t.senderAttached && !t.holdsReceiver && t.holdsSender) = false) :
    m.settle t = { m with tracking := some t } := by
  rw [settle, if_neg (by rw [h]; simp)]

/-- Forgetting the current channel once it is not needed any more. -/
theorem tended_forgetIfFinished
    (hcurrent : ∀ t, m.tracking = some t → m.Current t)
    (hbegun : ∀ t, m.tracking = some t → t.senderAttached = true ∨ t.holdsReceiver = false)
    (hforgotten : m.tracking = none → ∀ g, g + 1 = m.channels.length →
      ¬ m.Open g ∧ joined g ∧ m.senders g = 0)
    (hclosed : ∀ t, m.tracking = some t → t.receiverDropped = true → ¬ m.Open t.generation)
    (hjoined : ∀ t, m.tracking = some t → t.holdsSender = false → joined t.generation) :
    m.forgetIfFinished.Tended joined := by
  unfold forgetIfFinished
  split
  · next t ht =>
      split
      · next hfinished =>
          obtain ⟨hdropped, hsender, hsenders⟩ := isFinished_iff.1 hfinished
          have hlatest := (hcurrent t ht).latest
          refine ⟨by simp, by simp, by simp, fun _ g hg => ?_⟩
          obtain rfl : g = t.generation := by
            replace hg : g + 1 = m.channels.length := hg
            omega
          exact ⟨hclosed t ht hdropped, hjoined t ht hsender, hsenders⟩
      · next hneeded =>
          refine ⟨hcurrent, hbegun, fun t' ht' => ?_, hforgotten⟩
          cases ht.symm.trans ht'
          simpa using hneeded
  · next hnone =>
      refine ⟨hcurrent, hbegun, fun t' ht' => ?_, hforgotten⟩
      cases hnone.symm.trans ht'

/-- It makes no difference whether the channel closes before or after it is forgotten. -/
theorem dropReceiver_box_eq (m : Mailbox) (g : Nat) :
    (m.dropReceiver g).box =
      forgetIfFinished { m.modify g Channel.close with
        tracking := m.tracking.map Tracking.withoutReceiver } := by
  unfold Mailbox.dropReceiver
  dsimp only
  cases ht : m.tracking with
  | none =>
      rfl
  | some t =>
      have hsenders : (m.modify g Channel.close).senders t.generation = m.senders t.generation :=
        senders_modify_of_eq (f := Channel.close) (fun _ => rfl) m g _
      have hfinished : isFinished { m.modify g Channel.close with
            tracking := some t.withoutReceiver } t.withoutReceiver =
          isFinished { m with tracking := some t.withoutReceiver } t.withoutReceiver :=
        isFinished_congr hsenders
      simp only [Option.map_some, Mailbox.forgetIfFinished, hfinished]
      split <;> rfl

namespace Ledger

/-- A channel of which the mailbox holds no sender any more was opened from both ends. -/
theorem joined_of_holdsSender_eq_false
    (h : m.Ledger lent joined)
    (ht : m.tracking = some t)
    (hsender : t.holdsSender = false) :
    joined t.generation ∧ t.holdsReceiver = false := by
  have hsettled := h.settled t ht
  rw [hsender] at hsettled
  obtain ⟨hattached, hreceiver⟩ : t.senderAttached = true ∧ t.holdsReceiver = false := by
    simpa using hsettled
  exact ⟨(h.attached t ht).1 hattached, hreceiver⟩

/-- A channel that a sender was just opened on has one. -/
theorem senders_pos_of_openSender
    {capacity : Nat}
    (h : m.Ledger lent joined)
    (hanswer : (m.openSender capacity).answer = some g) :
    0 < (m.openSender capacity).box.senders g := by
  rw [(h.openSender capacity).senders, if_pos hanswer]
  omega

end Ledger

theorem Upright.not_open
    (h : m.Upright)
    (ht : m.tracking = some t)
    (hdropped : t.receiverDropped = true) :
    ¬ m.Open t.generation := by
  intro hopen
  obtain ⟨t', ht', -, hkept⟩ := h _ hopen
  cases ht.symm.trans ht'
  rw [hdropped] at hkept
  cases hkept

namespace Tended

theorem fresh : Mailbox.fresh.Tended joined where
  current t ht := by cases ht
  begun t ht := by cases ht
  needed t ht := by cases ht
  forgotten _ g hg := by
    replace hg : g + 1 = 0 := hg
    omega

theorem congr
    {joined' : Nat → Prop}
    (h : m.Tended joined)
    (hjoined : ∀ g, joined g → joined' g) :
    m.Tended joined' where
  current := h.current
  begun := h.begun
  needed := h.needed
  forgotten ht g hg := by
    obtain ⟨hclosed, hg', hsenders⟩ := h.forgotten ht g hg
    exact ⟨hclosed, hjoined g hg', hsenders⟩

/-- What changes no sender, opens or closes no channel, and leaves alone what is tracked. -/
theorem frame
    (h : m.Tended joined)
    (htracking : m'.tracking = m.tracking)
    (hlength : m'.channels.length = m.channels.length)
    (hopen : ∀ g, m'.Open g ↔ m.Open g)
    (hsenders : ∀ g, m'.senders g = m.senders g) :
    m'.Tended joined where
  current t ht := (h.current t (htracking ▸ ht)).frame hlength fun g => (hopen g).2
  begun t ht := h.begun t (htracking ▸ ht)
  needed t ht := (isFinished_congr (hsenders _)).trans (h.needed t (htracking ▸ ht))
  forgotten ht g hg := by
    obtain ⟨hclosed, hjoined, hzero⟩ := h.forgotten (htracking ▸ ht) g (hg.trans hlength)
    exact ⟨fun hg' => hclosed ((hopen g).1 hg'), hjoined, (hsenders g).trans hzero⟩

theorem steady
    (h : m.Tended joined)
    (hsteady : m.Steady m') :
    m'.Tended joined :=
  h.frame hsteady.tracking hsteady.length_eq hsteady.open_iff hsteady.senders_eq

theorem modify
    {f : Channel → Channel}
    (h : m.Tended joined)
    (generation : Nat)
    (hf : ∀ c, (f c).senders = c.senders ∧ (f c).receiving = c.receiving) :
    (m.modify generation f).Tended joined :=
  h.frame rfl (length_modify _ _ _) (open_modify_iff (fun c => (hf c).2) m generation)
    (senders_modify_of_eq (fun c => (hf c).1) m generation)

theorem receive
    (h : m.Tended joined)
    (generation : Nat) (watcher : Option Watcher) :
    (m.receive generation watcher).box.Tended joined := by
  unfold Mailbox.receive
  split
  · exact h
  · split
    · exact h.modify _ fun c => ⟨(Channel.steady_take c).senders, (Channel.steady_take c).receiving⟩
    · exact h
    · exact h.modify _ fun c => ⟨rfl, rfl⟩

/-! ## Opening -/

/-- A channel that is created is needed: nobody dropped its receiver yet. -/
theorem ensure
    (h : m.Tended joined)
    (capacity : Nat) :
    (m.ensure capacity).2.Current (m.ensure capacity).1 ∧
      (m.ensure capacity).2.isFinished (m.ensure capacity).1 = false := by
  unfold Mailbox.ensure
  split
  · next t ht => exact ⟨h.current t ht, h.needed t ht⟩
  · refine ⟨⟨by simp [Tracking.ofNew], fun _ => rfl, fun _ => ?_⟩, ?_⟩
    · exact ⟨Channel.create capacity, by simp [Tracking.ofNew], rfl⟩
    · exact isFinished_of_receiverDropped_eq_false rfl

theorem openSender
    (h : m.Tended joined)
    (hledger : m.Ledger lent joined)
    (capacity : Nat) :
    (m.openSender capacity).box.Tended
      (fun g => joined g ∨ (m.openSender capacity).answer = some g) := by
  obtain ⟨hcurrent, hneeded⟩ := h.ensure capacity
  have hpositive : ∀ g, (m.openSender capacity).answer = some g →
      0 < (m.openSender capacity).box.senders g := fun _ => hledger.senders_pos_of_openSender
  unfold Mailbox.openSender at hpositive ⊢
  cases hm : m.ensure capacity with
  | mk t m₁ =>
      rw [hm] at hcurrent hneeded hpositive
      dsimp only at hcurrent hneeded hpositive ⊢
      have hattached : m₁.Current { t with senderAttached := true } :=
        ⟨hcurrent.latest, hcurrent.unopened, hcurrent.listening⟩
      split
      · next hgiven =>
          rw [if_pos hgiven] at hpositive
          have hadded := hattached.frame (length_modify m₁ t.generation Channel.addSender)
            fun g => (open_modify_iff (f := Channel.addSender) (fun _ => rfl) m₁ _ g).2
          refine hadded.settle (Or.inl rfl) fun t' ht' => isFinished_of_senders_pos ?_
          obtain ⟨_, rfl⟩ := eq_of_tracking_settle ht'
          exact hpositive _ rfl
      · next hclosed =>
          simp only [Bool.or_eq_true, not_or, Bool.not_eq_true] at hclosed
          have hsettled := settle_of_eq_false (m := m₁) (t := { t with senderAttached := true })
            (by simp [hclosed.1])
          refine hattached.settle (Or.inl rfl) fun t' ht' => ?_
          rw [hsettled] at ht' ⊢
          cases ht'
          exact hneeded

theorem openReceiver
    (h : m.Tended joined)
    (hledger : m.Ledger lent joined)
    (capacity : Nat) :
    (m.openReceiver capacity).box.Tended joined := by
  obtain ⟨hcurrent, hneeded⟩ := h.ensure capacity
  have hensured := hledger.ensure capacity
  have htracking := tracking_ensure m capacity
  unfold Mailbox.openReceiver
  cases hm : m.ensure capacity with
  | mk t m₁ =>
      rw [hm] at hcurrent hneeded hensured htracking
      dsimp only at hcurrent hneeded hensured htracking ⊢
      split
      · next hholds =>
          have hgiven : m₁.Current { t with holdsReceiver := false } :=
            ⟨hcurrent.latest, by simp, hcurrent.listening⟩
          refine hgiven.settle (Or.inr rfl) fun t' ht' => ?_
          obtain ⟨_, rfl⟩ := eq_of_tracking_settle ht'
          exact isFinished_of_receiverDropped_eq_false (hcurrent.unopened hholds)
      · next hgone =>
          have hsettled : (t.senderAttached && !t.holdsReceiver && t.holdsSender) = false := by
            have hheld := hensured.settled t htracking
            simp only [Bool.not_eq_true] at hgone
            rw [hheld, hgone]
            cases t.senderAttached <;> rfl
          refine hcurrent.settle (Or.inr (by simpa using hgone)) fun t' ht' => ?_
          rw [settle_of_eq_false hsettled] at ht' ⊢
          cases ht'
          exact hneeded

/-! ## Senders -/

theorem cloneSender
    (h : m.Tended joined)
    (hledger : m.Ledger lent joined)
    (hgeneration : ∀ g, generation = some g → 0 < lent g) :
    (m.cloneSender generation).box.Tended joined := by
  cases generation with
  | none =>
      exact h
  | some g =>
      have hpositive : 0 < m.senders g := by
        have hlent := hgeneration g rfl
        rw [hledger.senders]
        omega
      obtain ⟨c, hc⟩ := channel_of_senders_pos hpositive
      have hsenders := senders_modify hc Channel.addSender
      have hopen : ∀ g', (m.modify g Channel.addSender).Open g' ↔ m.Open g' :=
        open_modify_iff (f := Channel.addSender) (fun _ => rfl) m g
      refine ⟨?_, h.begun, ?_, ?_⟩
      · exact fun t ht => (h.current t ht).frame (length_modify _ _ _) fun g' => (hopen g').2
      · intro t ht
        have hbefore := h.needed t ht
        by_cases hg : g = t.generation
        · refine isFinished_of_senders_pos ?_
          show 0 < (m.modify g Channel.addSender).senders t.generation
          rw [hsenders, if_pos hg]
          exact Nat.succ_pos _
        · have hsame : (m.modify g Channel.addSender).senders t.generation =
              m.senders t.generation := by
            rw [hsenders, if_neg hg]
          exact (isFinished_congr hsame).trans hbefore
      · -- Nothing is lent on a channel that is forgotten.
        intro ht g' hg'
        have hlength : g' + 1 = m.channels.length := hg'.trans (length_modify _ _ _)
        obtain ⟨hclosed, hjoined, hzero⟩ := h.forgotten ht g' hlength
        have hne : g ≠ g' := by
          rintro rfl
          omega
        refine ⟨fun hopen' => hclosed ((hopen g').1 hopen'), hjoined, ?_⟩
        show (m.modify g Channel.addSender).senders g' = 0
        rw [hsenders, if_neg hne, hzero]

theorem forgetIfFinished
    (h : m.Tended joined)
    (hledger : m.Ledger lent joined)
    (hupright : m.Upright) :
    m.forgetIfFinished.Tended joined :=
  tended_forgetIfFinished h.current h.begun h.forgotten
    (fun _ ht hdropped => hupright.not_open ht hdropped)
    (fun _ ht hsender => (hledger.joined_of_holdsSender_eq_false ht hsender).1)

theorem dropSender
    (h : m.Tended joined)
    (hledger : m.Ledger lent joined)
    (hupright : m.Upright) :
    (m.dropSender generation).box.Tended joined := by
  unfold Mailbox.dropSender
  split
  · next g c hfound =>
      obtain ⟨rfl, hc⟩ := channel_of_bind hfound
      have hopen : ∀ other, (m.modify g Channel.dropSender).Open other ↔ m.Open other :=
        open_modify_iff (f := Channel.dropSender) (fun _ => rfl) m g
      refine tended_forgetIfFinished ?_ h.begun ?_ ?_ ?_
      · exact fun t ht => (h.current t ht).frame (length_modify _ _ _) fun g => (hopen g).2
      · intro ht g hg
        obtain ⟨hclosed, hjoined, hzero⟩ :=
          h.forgotten ht g (hg.trans (length_modify _ _ _))
        refine ⟨fun hg' => hclosed ((hopen g).1 hg'), hjoined, ?_⟩
        rw [senders_modify hc]
        split
        · next heq =>
            rw [heq] at hc
            rw [senders_of_getElem? hc] at hzero
            simp [Channel.dropSender, hzero]
        · exact hzero
      · exact fun t ht hdropped hg => hupright.not_open ht hdropped ((hopen _).1 hg)
      · exact fun t ht hsender => (hledger.joined_of_holdsSender_eq_false ht hsender).1
  · exact h.forgetIfFinished hledger hupright

/-! ## Receivers -/

/-- The receiver of the open channel was given out and is dropped: now the channel is closed, and
tracked only if a sender is left. -/
theorem dropReceiver
    (h : m.Tended joined)
    (hledger : m.Ledger lent joined)
    (hupright : m.Upright)
    (hopen : m.Open g)
    (hgiven : ¬ m.Keeps g) :
    (m.dropReceiver g).box.Tended joined := by
  obtain ⟨t, ht, rfl, -⟩ := hupright g hopen
  have hclosed : ¬ (m.modify t.generation Channel.close).Open t.generation := by
    rintro ⟨c', hc', hreceiving⟩
    rw [getElem?_modify] at hc'
    obtain ⟨c, -, rfl⟩ := Option.map_eq_some_iff.1 hc'
    rw [if_pos rfl] at hreceiving
    cases hreceiving
  rw [dropReceiver_box_eq, ht, Option.map_some]
  refine tended_forgetIfFinished ?_ ?_ (fun hnone => by cases hnone) ?_ ?_
  · intro t' ht'
    cases ht'
    refine ⟨(h.current t ht).latest.trans (length_modify _ _ _).symm, fun hholds => ?_, ?_⟩
    · exact absurd ⟨t, ht, rfl, hholds⟩ hgiven
    · intro hdropped
      cases hdropped
  · intro t' ht'
    cases ht'
    exact h.begun t ht
  · intro t' ht' _
    cases ht'
    exact hclosed
  · intro t' ht' hsender
    cases ht'
    exact (hledger.joined_of_holdsSender_eq_false ht hsender).1

end Tended
end Mailbox
end ScatterGather
