import ScatterGather.Proofs.Mailbox.Evolution

/-!
# The first channel of a mailbox

As long as nobody drops its receiver and it is not released, a mailbox has one channel only, so that
all that is sent to the mailbox is sent to that channel. As long as nobody even asked for its
receiver, the mailbox still has it.

**Results.** One theorem for each operation says which of this it keeps.
-/

namespace ScatterGather
namespace Mailbox

/-- The mailbox has had one channel at most, which is the current one if there is one, and whose
receiver was not dropped. -/
structure First (m : Mailbox) : Prop where
  one : m.channels.length ≤ 1
  current : ∀ t, m.tracking = some t → t.generation = 0 ∧ t.receiverDropped = false
  tracked : m.tracking = none → m.channels = []

/-- Besides, the mailbox still has the receiver of that channel. -/
structure Unreceived (m : Mailbox) : Prop extends First m where
  holds : ∀ t, m.tracking = some t → t.holdsReceiver = true

/-- What an operation keeps that neither gives the receiver out, nor drops it, nor releases the
mailbox. -/
structure Onward (m m' : Mailbox) : Prop where
  first : m.First → m'.First
  unreceived : m.Unreceived → m'.Unreceived

theorem first_fresh : fresh.First where
  one := Nat.zero_le 1
  current t ht := by cases ht
  tracked _ := rfl

theorem unreceived_fresh : fresh.Unreceived where
  toFirst := first_fresh
  holds t ht := by cases ht

namespace Onward

variable {m m' m'' : Mailbox}

theorem refl (m : Mailbox) : m.Onward m :=
  ⟨id, id⟩

theorem trans
    (h : m.Onward m')
    (h' : m'.Onward m'') :
    m.Onward m'' :=
  ⟨fun hm => h'.first (h.first hm), fun hm => h'.unreceived (h.unreceived hm)⟩

end Onward

variable {m : Mailbox}

/-- The one channel there may be is that of generation 0. -/
theorem First.eq_zero
    (h : m.First)
    {g : Nat}
    (hg : m.channels[g]? ≠ none) :
    g = 0 := by
  have hlt : g < m.channels.length := by
    rw [Ne, List.getElem?_eq_none_iff] at hg
    omega
  have hone := h.one
  omega

/-- A receiver that the mailbox has not got was never on a channel. -/
theorem Unreceived.kept
    (h : m.Unreceived)
    {g : Nat}
    (hg : m.channels[g]? ≠ none) :
    m.Keeps g := by
  cases ht : m.tracking with
  | none =>
      rw [h.tracked ht] at hg
      simp at hg
  | some t =>
      exact ⟨t, ht, (h.current t ht).1.trans (h.eq_zero hg).symm, h.holds t ht⟩

theorem First.modify
    (h : m.First)
    (generation : Nat) (f : Channel → Channel) :
    (m.modify generation f).First where
  one := by simpa [Mailbox.modify] using h.one
  current := h.current
  tracked ht := by simp [Mailbox.modify, h.tracked ht]

theorem onward_modify (m : Mailbox) (generation : Nat) (f : Channel → Channel) :
    m.Onward (m.modify generation f) :=
  ⟨fun h => h.modify generation f, fun h => ⟨h.toFirst.modify generation f, h.holds⟩⟩

theorem onward_ensure (m : Mailbox) (capacity : Nat) :
    m.Onward (m.ensure capacity).2 := by
  unfold ensure
  split
  · exact .refl m
  · next hnone =>
      have hfirst : m.First → First { channels := m.channels ++ [Channel.create capacity]
                                      tracking := some (.ofNew m.channels.length) } := by
        intro h
        have hempty := h.tracked hnone
        refine ⟨by simp [hempty], ?_, fun ht => by cases ht⟩
        intro t ht
        cases ht
        simp [hempty, Tracking.ofNew]
      refine ⟨hfirst, fun h => ⟨hfirst h.toFirst, ?_⟩⟩
      intro t ht
      cases ht
      rfl

theorem First.settle
    (h : m.First)
    {t : Tracking}
    (ht : t.generation = 0 ∧ t.receiverDropped = false) :
    (m.settle t).First := by
  unfold Mailbox.settle
  split
  · have hmodified := h.modify t.generation Channel.dropSender
    refine ⟨hmodified.one, ?_, fun hnone => by cases hnone⟩
    intro t' ht'
    cases ht'
    exact ht
  · refine ⟨h.one, ?_, fun hnone => by cases hnone⟩
    intro t' ht'
    cases ht'
    exact ht

/-- The tracking changes, but not in what it says of the receiver. -/
theorem onward_settle
    {t t₀ : Tracking}
    (ht₀ : m.tracking = some t₀)
    (hgeneration : t.generation = t₀.generation)
    (hdropped : t.receiverDropped = t₀.receiverDropped)
    (hholds : t.holdsReceiver = t₀.holdsReceiver) :
    m.Onward (m.settle t) := by
  have hfirst : m.First → (m.settle t).First := by
    intro h
    refine h.settle ?_
    rw [hgeneration, hdropped]
    exact h.current t₀ ht₀
  refine ⟨hfirst, fun h => ⟨hfirst h.toFirst, ?_⟩⟩
  intro t' ht'
  obtain ⟨_, rfl⟩ := eq_of_tracking_settle ht'
  exact hholds.trans (h.holds t₀ ht₀)

/-- A mailbox whose receiver was not dropped is not forgotten. -/
theorem First.forgetIfFinished_eq (h : m.First) : m.forgetIfFinished = m := by
  unfold Mailbox.forgetIfFinished
  split
  · next t ht =>
      have hdropped := (h.current t ht).2
      simp [isFinished, hdropped]
  · rfl

theorem onward_forgetIfFinished (m : Mailbox) : m.Onward m.forgetIfFinished where
  first h := by
    rw [h.forgetIfFinished_eq]
    exact h
  unreceived h := by
    rw [h.toFirst.forgetIfFinished_eq]
    exact h

/-! ## The operations -/

theorem onward_openSender (m : Mailbox) (capacity : Nat) :
    m.Onward (m.openSender capacity).box := by
  have hensure := onward_ensure m capacity
  have htracking := tracking_ensure m capacity
  unfold openSender
  cases h : m.ensure capacity with
  | mk t m₁ =>
      rw [h] at hensure htracking
      dsimp only
      split
      · have hadded := onward_modify m₁ t.generation Channel.addSender
        exact (hensure.trans hadded).trans (onward_settle htracking rfl rfl rfl)
      · exact hensure.trans (onward_settle htracking rfl rfl rfl)

theorem First.openReceiver
    (h : m.First)
    (capacity : Nat) :
    (m.openReceiver capacity).box.First := by
  have hensure := (onward_ensure m capacity).first h
  have htracking := tracking_ensure m capacity
  unfold Mailbox.openReceiver
  cases hm : m.ensure capacity with
  | mk t m₁ =>
      rw [hm] at hensure htracking
      dsimp only
      split
      · exact hensure.settle (hensure.current t htracking)
      · exact hensure.settle (hensure.current t htracking)

theorem onward_cloneSender (m : Mailbox) (generation : Option Nat) :
    m.Onward (m.cloneSender generation).box := by
  unfold cloneSender
  split
  · exact onward_modify m _ _
  · exact .refl m

theorem onward_dropSender (m : Mailbox) (generation : Option Nat) :
    m.Onward (m.dropSender generation).box := by
  unfold dropSender
  split
  · exact (onward_modify m _ _).trans (onward_forgetIfFinished _)
  · exact onward_forgetIfFinished m

theorem onward_offer (m : Mailbox) (generation : Option Nat) (p : Packet) :
    m.Onward (m.offer generation p).box := by
  unfold offer
  split
  · exact .refl m
  · split
    · exact onward_modify m _ _
    · exact .refl m

theorem onward_join (m : Mailbox) (generation : Nat) :
    m.Onward (m.join generation).box := by
  unfold join
  split
  · exact onward_modify m _ _
  · exact .refl m

theorem onward_redeem (m : Mailbox) (generation ticket : Nat) (p : Packet) :
    m.Onward (m.redeem generation ticket p).box := by
  unfold redeem
  split
  · exact .refl m
  · split
    · exact onward_modify m _ _
    · exact .refl m

theorem onward_forgetSend (m : Mailbox) (generation ticket : Nat) :
    m.Onward (m.forgetSend generation ticket).box :=
  onward_modify m _ _

theorem onward_receive (m : Mailbox) (generation : Nat) (watcher : Option Watcher) :
    m.Onward (m.receive generation watcher).box := by
  unfold receive
  split
  · exact .refl m
  · split
    · exact onward_modify m _ _
    · exact .refl m
    · exact onward_modify m _ _

end Mailbox
end ScatterGather
