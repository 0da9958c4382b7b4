import ScatterGather.Proofs.Mailboxes.Locality
import ScatterGather.Proofs.Mailboxes.Tracked

/-!
# Channels of which a merge has no receiver

What there is of a channel in its mailbox is its state, and what is tracked of it while it is the
current one.

**Results.** Whatever a merge is used for, there is of a channel what there was before, unless the
channel is one of those that the merge is given receivers of. A mailbox of which it is given none
stays as it is.
-/

namespace ScatterGather

namespace Mailbox

variable {lent : Nat → Nat} {joined : Nat → Prop} {m m' m'' : Mailbox} {t t₀ : Tracking}
variable {g generation : Nat}

/-- There is of a channel in one state of a mailbox what there is of it in another one. -/
structure AgreesAt (g : Nat) (m m' : Mailbox) : Prop where
  channel : m'.channels[g]? = m.channels[g]?
  tracked : ∀ t, t.generation = g → (m'.tracking = some t ↔ m.tracking = some t)

namespace AgreesAt

theorem refl (g : Nat) (m : Mailbox) : AgreesAt g m m :=
  ⟨rfl, fun _ _ => Iff.rfl⟩

theorem trans
    (h : AgreesAt g m m')
    (h' : AgreesAt g m' m'') :
    AgreesAt g m m'' where
  channel := h'.channel.trans h.channel
  tracked t ht := (h'.tracked t ht).trans (h.tracked t ht)

/-- A channel that is not the current one, neither before nor after. -/
theorem of_untracked
    (hchannel : m'.channels[g]? = m.channels[g]?)
    (hbefore : ∀ t, m.tracking = some t → t.generation ≠ g)
    (hafter : ∀ t, m'.tracking = some t → t.generation ≠ g) :
    AgreesAt g m m' where
  channel := hchannel
  tracked t ht := iff_of_false (fun hsome => hafter t hsome ht) fun hsome => hbefore t hsome ht

end AgreesAt

/-- A mailbox is made of its channels and of what is tracked of them. -/
theorem eq_of_agreesAt (h : ∀ g, AgreesAt g m m') : m' = m := by
  have hchannels : m'.channels = m.channels := List.ext_getElem? fun g => (h g).channel
  have htracking : m'.tracking = m.tracking := by
    cases ht' : m'.tracking with
    | some t =>
        exact (((h t.generation).tracked t rfl).1 ht').symm
    | none =>
        cases ht : m.tracking with
        | none =>
            rfl
        | some t =>
            exact ht'.symm.trans (((h t.generation).tracked t rfl).2 ht)
  cases m
  cases m'
  cases hchannels
  cases htracking
  rfl

/-! ## Operations on other channels -/

theorem getElem?_modify_of_ne
    (hne : generation ≠ g)
    (m : Mailbox) (f : Channel → Channel) :
    (m.modify generation f).channels[g]? = m.channels[g]? := by
  rw [getElem?_modify]
  simp [hne]

theorem agreesAt_modify
    (hne : generation ≠ g)
    (m : Mailbox) (f : Channel → Channel) :
    AgreesAt g m (m.modify generation f) :=
  ⟨getElem?_modify_of_ne hne m f, fun _ _ => Iff.rfl⟩

theorem agreesAt_settle
    (ht₀ : m.tracking = some t₀)
    (hsame : t₀.generation = t.generation)
    (hne : t.generation ≠ g) :
    AgreesAt g m (m.settle t) := by
  refine .of_untracked ?_ ?_ ?_
  · unfold settle
    split
    · exact getElem?_modify_of_ne hne m Channel.dropSender
    · rfl
  · intro t' ht'
    cases ht₀.symm.trans ht'
    exact hsame ▸ hne
  · intro t' ht'
    obtain ⟨_, rfl⟩ := eq_of_tracking_settle ht'
    exact hne

theorem agreesAt_ensure
    (capacity : Nat)
    (hne : (m.ensure capacity).1.generation ≠ g) :
    AgreesAt g m (m.ensure capacity).2 := by
  unfold ensure at hne ⊢
  split at hne
  · exact .refl g m
  · next hnone =>
      refine .of_untracked ?_ (by simp [hnone]) ?_
      · replace hne : m.channels.length ≠ g := hne
        show (m.channels ++ [Channel.create capacity])[g]? = _
        rcases Nat.lt_or_gt_of_ne hne with hlt | hgt
        · have hlonger : (m.channels ++ [Channel.create capacity]).length ≤ g := by
            rw [List.length_append, List.length_singleton]
            exact hlt
          rw [List.getElem?_eq_none hlonger, List.getElem?_eq_none (Nat.le_of_lt hlt)]
        · exact List.getElem?_append_left hgt
      · intro t ht
        cases ht
        exact hne

/-- The receiver of one channel at most is given out. -/
theorem agreesAt_openReceiver
    (h : m.Ledger lent joined)
    (capacity : Nat)
    (hne : (m.openReceiver capacity).answer ≠ some g) :
    AgreesAt g m (m.openReceiver capacity).box := by
  by_cases hrefused : ∃ t, m.tracking = some t ∧ t.holdsReceiver = false
  · obtain ⟨t, ht, hgiven⟩ := hrefused
    rw [h.openReceiver_eq ht hgiven capacity]
    exact .refl g m
  · have hholds : (m.ensure capacity).1.holdsReceiver = true := by
      unfold ensure
      split
      · next t ht =>
          rw [← Bool.not_eq_false]
          exact fun hgiven => hrefused ⟨t, ht, hgiven⟩
      · rfl
    have htracking := tracking_ensure m capacity
    have hensured := fun hne => agreesAt_ensure (m := m) (g := g) capacity hne
    unfold Mailbox.openReceiver at hne ⊢
    cases hm : m.ensure capacity with
    | mk t m₁ =>
        rw [hm] at hholds htracking hensured hne
        dsimp only at hholds htracking hensured hne ⊢
        rw [if_pos hholds] at hne ⊢
        have hother : t.generation ≠ g := fun heq => hne (congrArg some heq)
        exact (hensured hother).trans (agreesAt_settle htracking rfl hother)

theorem agreesAt_receive
    (hne : generation ≠ g)
    (m : Mailbox) (watcher : Option Watcher) :
    AgreesAt g m (m.receive generation watcher).box := by
  unfold receive
  split
  · exact .refl g m
  · split
    · exact agreesAt_modify hne m _
    · exact .refl g m
    · exact agreesAt_modify hne m _

/-- The drop of the receiver of the current channel. -/
theorem agreesAt_dropReceiver
    (ht : m.tracking = some t)
    (hsame : t.generation = generation)
    (hne : generation ≠ g) :
    AgreesAt g m (m.dropReceiver generation).box := by
  rw [dropReceiver_box_eq]
  refine .of_untracked ?_ ?_ ?_
  · rw [channels_forgetIfFinished]
    exact getElem?_modify_of_ne hne m Channel.close
  · intro t' ht'
    cases ht.symm.trans ht'
    exact hsame ▸ hne
  · intro t' ht'
    obtain ⟨t₁, ht₁, rfl⟩ := Option.map_eq_some_iff.1 (tracking_of_forgetIfFinished ht')
    cases ht.symm.trans ht₁
    exact hsame ▸ hne

end Mailbox

namespace Mailboxes

variable {H : History} {given used : Receiver → Prop} {lent : Receiver → Nat}
variable {attached spent : Receiver → Prop} {s s' s'' : Mailboxes} {r other : Receiver}
variable {id : MailboxId}

/-- There is of a channel in one state of the mailboxes what there is of it in another one. -/
def AgreesOn (r : Receiver) (s s' : Mailboxes) : Prop :=
  Mailbox.AgreesAt r.generation (s.box r.id) (s'.box r.id)

theorem AgreesOn.trans
    (h : AgreesOn r s s')
    (h' : AgreesOn r s' s'') :
    AgreesOn r s s'' :=
  Mailbox.AgreesAt.trans h h'

theorem agreesOn_update
    {α : Type} {f : Mailbox → Mailbox.Outcome α}
    (h : id = r.id → Mailbox.AgreesAt r.generation (s.box id) (f (s.box id)).box) :
    AgreesOn r s (s.update id f).2 := by
  unfold AgreesOn
  rw [box_update]
  split
  · next heq =>
      subst heq
      exact h rfl
  · exact .refl _ _

theorem generation_ne
    (hid : other.id = r.id)
    (hne : other ≠ r) :
    other.generation ≠ r.generation := by
  intro hgeneration
  cases other
  cases r
  cases hid
  cases hgeneration
  exact hne rfl

/-- Whatever a merge is used for concerns the channels of its receivers. -/
theorem Serves.agreesOn
    (hserves : Serves given used s s')
    (h : s.Regular H lent attached spent)
    (hreleased : .released r.id ∉ H)
    (hgiven : ¬ given r)
    (hused : ¬ used r) :
    AgreesOn r s s' := by
  induction hserves with
  | refl =>
      exact .refl _ _
  | @openReceiver s' hbefore id hopened ih =>
      refine ih.trans ?_
      rw [openReceiver_eq] at hopened ⊢
      refine agreesOn_update (f := fun box => box.openReceiver s'.capacity) fun hid => ?_
      refine Mailbox.agreesAt_openReceiver ((h.serves hbefore) id).ledger s'.capacity ?_
      intro hanswer
      refine hgiven (hopened r ?_)
      rw [hanswer, hid]
  | @receive s' other _ hother watcher ih =>
      refine ih.trans (agreesOn_update fun hid => ?_)
      refine Mailbox.agreesAt_receive (generation_ne hid ?_) _ watcher
      rintro rfl
      exact hused hother
  | @dropReceiver s' other hbefore hopen _ hother ih =>
      refine ih.trans (agreesOn_update fun hid => ?_)
      obtain ⟨t, ht, hsame, -⟩ :=
        ((h.serves hbefore) other.id).upright (hid ▸ hreleased) other.generation hopen
      refine Mailbox.agreesAt_dropReceiver ht hsame (generation_ne hid ?_)
      rintro rfl
      exact hused hother
  | remerge _ merges nextMerge ih =>
      exact ih

theorem Serves.capacity_eq (hserves : Serves given used s s') : s'.capacity = s.capacity := by
  induction hserves with
  | refl =>
      rfl
  | @openReceiver s' _ id _ ih =>
      have hsame : (s'.openReceiver id).2.capacity = s'.capacity := by
        rw [openReceiver_eq]
        exact capacity_update s' id fun box => box.openReceiver s'.capacity
      exact hsame.trans ih
  | receive _ _ _ ih =>
      exact (capacity_update _ _ _).trans ih
  | dropReceiver _ _ _ _ ih =>
      exact (capacity_update _ _ _).trans ih
  | remerge _ merges nextMerge ih =>
      exact ih

/-- A mailbox of which a merge is given no receiver stays as it is. -/
theorem Serves.agrees
    (hserves : Serves given used s s')
    (h : s.Regular H lent attached spent)
    (hreleased : .released id ∉ H)
    (hgiven : ∀ r, given r → r.id ≠ id)
    (hused : ∀ r, used r → r.id ≠ id) :
    Agrees id s s' where
  box := Mailbox.eq_of_agreesAt fun g =>
    hserves.agreesOn (r := ⟨id, g⟩) h hreleased (fun hr => hgiven _ hr rfl) fun hr =>
      hused _ hr rfl
  capacity := hserves.capacity_eq

/-! ## Channels of other receivers -/

theorem channel_receive_of_ne
    (hne : r ≠ other)
    (s : Mailboxes) (watcher : Option Watcher) :
    ((s.receive r watcher).2.slot other).channel? = (s.slot other).channel? :=
  (agreesOn_update (f := fun box => box.receive r.generation watcher) fun hid =>
    Mailbox.agreesAt_receive (generation_ne hid hne) _ watcher).channel

theorem channel_dropReceiver_of_ne
    (hne : r ≠ other)
    (s : Mailboxes) :
    ((s.dropReceiver r).slot other).channel? = (s.slot other).channel? := by
  show ((s.dropReceiver r).box other.id).channels[other.generation]? =
    (s.box other.id).channels[other.generation]?
  unfold dropReceiver
  rw [box_update]
  split
  · next hid =>
      unfold Mailbox.dropReceiver
      rw [Mailbox.getElem?_modify_of_ne (generation_ne hid hne), Mailbox.channels_forgetIfFinished,
        hid]
  · rfl

theorem channel_dropReceivers_of_not_mem
    {receivers : List Receiver}
    (hr : r ∉ receivers)
    (s : Mailboxes) :
    ((receivers.foldl dropReceiver s).slot r).channel? = (s.slot r).channel? := by
  induction receivers generalizing s with
  | nil =>
      rfl
  | cons first rest ih =>
      rw [List.mem_cons, not_or] at hr
      exact (ih hr.2 (s.dropReceiver first)).trans (channel_dropReceiver_of_ne (Ne.symm hr.1) s)

end Mailboxes
end ScatterGather
