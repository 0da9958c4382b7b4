import ScatterGather.Proofs.Mailbox.First
import ScatterGather.Proofs.Mailbox.Tracking

/-!
# The receivers that a mailbox has given out

A mailbox has the receiver of its current channel until somebody opens it. For as long as it has
that receiver it has a sender on the channel as well, so it does not forget the channel before.

**Results.** Only who opens a receiver is given one: one theorem for each operation says that what
was given out after it was given out before, but for the receiver that is opened.
-/

namespace ScatterGather
namespace Mailbox

variable {m m' m'' : Mailbox} {t : Tracking} {given given' : Nat → Prop}

/-- A mailbox that has a sender for as long as it has the receiver. -/
def Faithful (m : Mailbox) : Prop :=
  ∀ t, m.tracking = some t → t.holdsReceiver = true → t.holdsSender = true

/-- A mailbox before and after something that gives out at most the receivers that are `given`. -/
structure Gives (given : Nat → Prop) (m m' : Mailbox) : Prop where
  faithful : m'.Faithful
  given : ∀ g, (m'.slot g).Issued → (m.slot g).Issued ∨ given g

theorem faithful_fresh : fresh.Faithful := by
  intro t ht
  cases ht

theorem issued_iff {g : Nat} : (m.slot g).Issued ↔ g < m.channels.length ∧ ¬ m.Keeps g := by
  refine and_congr ?_ Iff.rfl
  show m.channels[g]? ≠ none ↔ _
  rw [Ne, List.getElem?_eq_none_iff, Nat.not_le]

theorem keeps_iff
    (ht : m.tracking = some t)
    (g : Nat) :
    m.Keeps g ↔ t.generation = g ∧ t.holdsReceiver = true := by
  constructor
  · rintro ⟨t', ht', hg, hholds⟩
    cases ht.symm.trans ht'
    exact ⟨hg, hholds⟩
  · rintro ⟨hg, hholds⟩
    exact ⟨t, ht, hg, hholds⟩

theorem keeps_settle_iff
    (m : Mailbox) (t : Tracking) (g : Nat) :
    (m.settle t).Keeps g ↔ t.generation = g ∧ t.holdsReceiver = true := by
  obtain ⟨holds, hsome⟩ := exists_tracking_settle m t
  exact keeps_iff hsome g

namespace Gives

theorem refl (h : m.Faithful) : m.Gives given m where
  faithful := h
  given _ hg := Or.inl hg

theorem trans
    (h : m.Gives given m')
    (h' : m'.Gives given m'') :
    m.Gives given m'' where
  faithful := h'.faithful
  given g hg := by
    rcases h'.given g hg with hgave | hgiven
    · exact h.given g hgave
    · exact Or.inr hgiven

theorem mono
    (h : m.Gives given m')
    (hmore : ∀ g, given g → given' g) :
    m.Gives given' m' where
  faithful := h.faithful
  given g hg := (h.given g hg).imp id (hmore g)

end Gives

/-- What creates no channel, and leaves alone what is tracked. -/
theorem Faithful.frame
    (h : m.Faithful)
    (htracking : m'.tracking = m.tracking)
    (hlength : m'.channels.length = m.channels.length) :
    m.Gives given m' where
  faithful t ht := h t (htracking ▸ ht)
  given g hg := by
    obtain ⟨hbelow, hkept⟩ := issued_iff.1 hg
    refine Or.inl (issued_iff.2 ⟨hlength ▸ hbelow, ?_⟩)
    rintro ⟨t, ht, hrest⟩
    exact hkept ⟨t, htracking.trans ht, hrest⟩

namespace Faithful

theorem modify
    (h : m.Faithful)
    (generation : Nat) (f : Channel → Channel) :
    m.Gives given (m.modify generation f) :=
  h.frame rfl (length_modify _ _ _)

theorem steady
    (h : m.Faithful)
    (hsteady : m.Steady m') :
    m.Gives given m' :=
  h.frame hsteady.tracking hsteady.length_eq

/-- The receiver of a channel that is created is not given out by that. -/
theorem ensure
    (h : m.Faithful)
    (capacity : Nat) :
    m.Gives given (m.ensure capacity).2 := by
  unfold Mailbox.ensure
  split
  · exact .refl h
  · next hnone =>
      refine ⟨?_, fun g hg => Or.inl (issued_iff.2 ⟨?_, ?_⟩)⟩
      · intro t ht _
        cases ht
        rfl
      · obtain ⟨hbelow, hkept⟩ := issued_iff.1 hg
        rw [List.length_append, List.length_singleton] at hbelow
        have hne : m.channels.length ≠ g := fun heq => hkept ⟨_, rfl, heq, rfl⟩
        omega
      · rintro ⟨t, ht, -⟩
        cases hnone.symm.trans ht

theorem settle
    {t₀ : Tracking}
    (ht₀ : m.tracking = some t₀)
    (hfaithful : t.holdsReceiver = true → t.holdsSender = true)
    (hgiven : ∀ g, t₀.generation = g → t₀.holdsReceiver = true →
      t.generation = g ∧ t.holdsReceiver = true ∨ given g) :
    m.Gives given (m.settle t) := by
  refine ⟨?_, fun g hg => ?_⟩
  · intro t' ht' hholds
    have hreceiver : t.holdsReceiver = true := by
      obtain ⟨_, rfl⟩ := eq_of_tracking_settle ht'
      exact hholds
    rw [settle_of_eq_false (by simp [hreceiver])] at ht'
    cases ht'
    exact hfaithful hreceiver
  · obtain ⟨hbelow, hkept⟩ := issued_iff.1 hg
    rw [keeps_settle_iff] at hkept
    by_cases hgave : m.Keeps g
    · obtain ⟨hgeneration, hholds⟩ := (keeps_iff ht₀ g).1 hgave
      rcases hgiven g hgeneration hholds with hsame | hnew
      · exact absurd hsame hkept
      · exact Or.inr hnew
    · exact Or.inl (issued_iff.2 ⟨length_settle m t ▸ hbelow, hgave⟩)

/-- A channel whose receiver the mailbox has is not forgotten. -/
theorem forgetIfFinished (h : m.Faithful) : m.Gives given m.forgetIfFinished := by
  unfold Mailbox.forgetIfFinished
  split
  · next t ht =>
      split
      · next hfinished =>
          obtain ⟨-, hsender, -⟩ := isFinished_iff.1 hfinished
          refine ⟨by simp [Faithful], fun g hg => Or.inl ⟨hg.1, fun hkept => ?_⟩⟩
          have hholds := h t ht ((keeps_iff ht g).1 hkept).2
          rw [hsender] at hholds
          cases hholds
      · exact .refl h
  · exact .refl h

/-! ## The operations -/

theorem openSender
    (h : m.Faithful)
    (capacity : Nat) :
    m.Gives given (m.openSender capacity).box := by
  have hensured : m.Gives given (m.ensure capacity).2 := h.ensure capacity
  have htracking := tracking_ensure m capacity
  unfold Mailbox.openSender
  cases hm : m.ensure capacity with
  | mk t m₁ =>
      rw [hm] at hensured htracking
      dsimp only at hensured htracking ⊢
      have hholds := hensured.faithful t htracking
      split
      · have hadded := hensured.trans (hensured.faithful.modify t.generation Channel.addSender)
        exact hadded.trans (settle htracking hholds fun _ hg hr => Or.inl ⟨hg, hr⟩)
      · exact hensured.trans (settle htracking hholds fun _ hg hr => Or.inl ⟨hg, hr⟩)

/-- Only the receiver that is opened is given out. -/
theorem openReceiver
    (h : m.Faithful)
    (capacity : Nat) :
    m.Gives ((m.openReceiver capacity).answer = some ·) (m.openReceiver capacity).box := by
  unfold Mailbox.openReceiver
  have htracking := tracking_ensure m capacity
  cases hm : m.ensure capacity with
  | mk t m₁ =>
      rw [hm] at htracking
      dsimp only at htracking ⊢
      split
      · have hensured : m.Gives (some t.generation = some ·) (m.ensure capacity).2 :=
          h.ensure capacity
        rw [hm] at hensured
        refine hensured.trans (settle htracking (by simp) fun g hg _ => ?_)
        exact Or.inr (congrArg some hg)
      · have hensured : m.Gives (none = some ·) (m.ensure capacity).2 := h.ensure capacity
        rw [hm] at hensured
        refine hensured.trans (settle htracking ?_ fun _ hg hr => Or.inl ⟨hg, hr⟩)
        exact hensured.faithful t htracking

theorem cloneSender
    (h : m.Faithful)
    (generation : Option Nat) :
    m.Gives given (m.cloneSender generation).box := by
  unfold Mailbox.cloneSender
  split
  · exact h.modify _ _
  · exact .refl h

theorem dropSender
    (h : m.Faithful)
    (generation : Option Nat) :
    m.Gives given (m.dropSender generation).box := by
  unfold Mailbox.dropSender
  split
  · next g c _ =>
      have hdropped : m.Gives given (m.modify g Channel.dropSender) := h.modify g _
      exact hdropped.trans hdropped.faithful.forgetIfFinished
  · exact h.forgetIfFinished

theorem receive
    (h : m.Faithful)
    (generation : Nat) (watcher : Option Watcher) :
    m.Gives given (m.receive generation watcher).box := by
  unfold Mailbox.receive
  split
  · exact .refl h
  · split
    · exact h.modify _ _
    · exact .refl h
    · exact h.modify _ _

theorem dropReceiver
    (h : m.Faithful)
    (generation : Nat) :
    m.Gives given (m.dropReceiver generation).box := by
  rw [dropReceiver_box_eq]
  have hnoted : m.Gives given { m.modify generation Channel.close with
      tracking := m.tracking.map Tracking.withoutReceiver } := by
    refine ⟨?_, fun g hg => Or.inl (issued_iff.2 ⟨?_, ?_⟩)⟩
    · intro t' ht' hholds
      obtain ⟨t, ht, rfl⟩ := Option.map_eq_some_iff.1 ht'
      exact h t ht hholds
    · exact length_modify m generation Channel.close ▸ (issued_iff.1 hg).1
    · rintro ⟨t, ht, hrest⟩
      exact hg.2 ⟨t.withoutReceiver, by simp [ht], hrest⟩
  exact hnoted.trans hnoted.faithful.forgetIfFinished

end Faithful
end Mailbox
end ScatterGather
