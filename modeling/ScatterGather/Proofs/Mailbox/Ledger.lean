import ScatterGather.Proofs.Mailbox.Evolution

/-!
# The senders of a mailbox, accounted for

Every sender on a channel of a mailbox is lent to somebody, but for the one that the mailbox itself
may hold on its current channel. It holds that one until both ends of the channel have been opened.

**Results.** One theorem for each operation says what it does to the senders that are lent, and
which channels have been attached to after it.
-/

namespace ScatterGather

/-- One if a sender is held on the channel of a generation, and nothing otherwise. -/
def Tracking.own (t : Tracking) (g : Nat) : Nat :=
  if t.generation = g ∧ t.holdsSender = true then 1 else 0

namespace Channel

/-- A channel before and after something that concerns neither its senders nor the life of its
receiver, and leaves no watcher. -/
structure Steady (c c' : Channel) : Prop where
  senders : c'.senders = c.senders
  receiving : c'.receiving = c.receiving
  watcher : ∀ w, c'.watcher = some w → c.watcher = some w

variable {c c' c'' : Channel}

theorem Steady.refl (c : Channel) : c.Steady c :=
  ⟨rfl, rfl, fun _ h => h⟩

theorem Steady.trans
    (h : c.Steady c')
    (h' : c'.Steady c'') :
    c.Steady c'' :=
  ⟨h'.senders.trans h.senders, h'.receiving.trans h.receiving,
    fun w hw => h.watcher w (h'.watcher w hw)⟩

theorem steady_grant (c : Channel) : c.Steady c.grant := by
  unfold grant
  split
  · split
    · exact ⟨rfl, rfl, fun _ h => h⟩
    · exact .refl c
  · exact .refl c

theorem steady_push (c : Channel) (p : Packet) : c.Steady (c.push p) :=
  ⟨rfl, rfl, fun _ h => by cases h⟩

theorem steady_join (c : Channel) : c.Steady c.join :=
  ⟨rfl, rfl, fun _ h => h⟩

theorem steady_redeem (c : Channel) (ticket : Nat) (p : Packet) : c.Steady (c.redeem ticket p) :=
  ⟨rfl, rfl, fun _ h => by cases h⟩

theorem steady_forget (c : Channel) (ticket : Nat) : c.Steady (c.forget ticket) := by
  have herased : c.Steady
      { c with granted := c.granted.erase ticket, waiting := c.waiting.erase ticket } :=
    ⟨rfl, rfl, fun _ h => h⟩
  exact herased.trans (steady_grant _)

theorem steady_take (c : Channel) : c.Steady c.take := by
  have htail : c.Steady { c with queue := c.queue.tail } := ⟨rfl, rfl, fun _ h => h⟩
  exact htail.trans (steady_grant _)

end Channel

namespace Mailbox

variable {lent lent' : Nat → Nat} {joined : Nat → Prop} {m m' : Mailbox} {generation : Option Nat}

/-- The senders that the mailbox itself holds on the channel of a generation. -/
def own (m : Mailbox) (g : Nat) : Nat :=
  match m.tracking with
  | some t => t.own g
  | none => 0

theorem own_of_tracking
    {t : Tracking}
    (ht : m.tracking = some t)
    (g : Nat) :
    m.own g = t.own g := by
  rw [own, ht]

theorem own_of_tracking_eq_none
    (ht : m.tracking = none)
    (g : Nat) :
    m.own g = 0 := by
  rw [own, ht]

theorem senders_of_getElem?
    {g : Nat} {c : Channel}
    (hc : m.channels[g]? = some c) :
    m.senders g = c.senders := by
  rw [senders, hc]

theorem senders_of_getElem?_eq_none
    {g : Nat}
    (hc : m.channels[g]? = none) :
    m.senders g = 0 := by
  rw [senders, hc]

/-- A channel with a sender is there. -/
theorem channel_of_senders_pos
    {g : Nat}
    (h : 0 < m.senders g) :
    ∃ c, m.channels[g]? = some c := by
  cases hc : m.channels[g]? with
  | none =>
      rw [senders_of_getElem?_eq_none hc] at h
      omega
  | some c =>
      exact ⟨c, rfl⟩

theorem senders_modify
    {g : Nat} {c : Channel}
    (hc : m.channels[g]? = some c)
    (f : Channel → Channel) (other : Nat) :
    (m.modify g f).senders other = if g = other then (f c).senders else m.senders other := by
  rw [senders, getElem?_modify, senders]
  by_cases hg : g = other
  · subst hg
    simp [hc]
  · cases m.channels[other]? <;> simp [hg]

/-- One channel more. -/
theorem senders_append
    {c : Channel}
    (hchannels : m'.channels = m.channels ++ [c])
    (g : Nat) :
    m'.senders g = if g = m.channels.length then c.senders else m.senders g := by
  unfold senders
  rw [hchannels]
  rcases Nat.lt_trichotomy g m.channels.length with hlt | rfl | hgt
  · rw [List.getElem?_append_left hlt, if_neg (by omega)]
  · simp
  · have habsent : m.channels[g]? = none := List.getElem?_eq_none (by omega)
    have habsent' : (m.channels ++ [c])[g]? = none := List.getElem?_eq_none (by simp; omega)
    rw [habsent, habsent', if_neg (by omega)]

/-- A mailbox before and after something that leaves its ends alone. -/
structure Steady (m m' : Mailbox) : Prop where
  tracking : m'.tracking = m.tracking
  channels : ∀ g : Nat, Option.Rel Channel.Steady m.channels[g]? m'.channels[g]?

theorem Steady.refl (m : Mailbox) : m.Steady m where
  tracking := rfl
  channels g := by
    cases m.channels[g]? with
    | none =>
        exact .none
    | some c =>
        exact .some (.refl c)

theorem steady_modify
    {f : Channel → Channel}
    (hf : ∀ c, Channel.Steady c (f c))
    (m : Mailbox) (g : Nat) :
    m.Steady (m.modify g f) where
  tracking := rfl
  channels other := by
    rw [getElem?_modify]
    cases m.channels[other]? with
    | none =>
        exact .none
    | some c =>
        refine .some ?_
        split
        · exact hf c
        · exact .refl c

theorem steady_offer (m : Mailbox) (generation : Option Nat) (p : Packet) :
    m.Steady (m.offer generation p).box := by
  unfold offer
  split
  · exact .refl m
  · split
    · exact steady_modify (fun c => Channel.steady_push c p) m _
    · exact .refl m

theorem steady_join (m : Mailbox) (generation : Nat) : m.Steady (m.join generation).box := by
  unfold join
  split
  · exact steady_modify Channel.steady_join m generation
  · exact .refl m

theorem steady_redeem (m : Mailbox) (generation ticket : Nat) (p : Packet) :
    m.Steady (m.redeem generation ticket p).box := by
  unfold redeem
  split
  · exact .refl m
  · split
    · exact steady_modify (fun c => Channel.steady_redeem c ticket p) m generation
    · exact .refl m

theorem steady_forgetSend (m : Mailbox) (generation ticket : Nat) :
    m.Steady (m.forgetSend generation ticket).box :=
  steady_modify (fun c => Channel.steady_forget c ticket) m generation

theorem Steady.senders_eq
    (h : m.Steady m')
    (g : Nat) :
    m'.senders g = m.senders g := by
  unfold senders
  have hchannels := h.channels g
  generalize m.channels[g]? = before, m'.channels[g]? = after at hchannels
  cases hchannels with
  | some hsteady =>
      exact hsteady.senders
  | none =>
      rfl

theorem Steady.channel_eq_none_iff
    (h : m.Steady m')
    (g : Nat) :
    m'.channels[g]? = none ↔ m.channels[g]? = none := by
  have hchannels := h.channels g
  generalize m.channels[g]? = before, m'.channels[g]? = after at hchannels
  cases hchannels <;> simp

/-- The senders of every channel are accounted for, and the mailbox holds one until both ends of its
current channel have been opened. `lent` counts the senders that others have, and `joined` are the
channels that a sender was opened on. -/
structure Ledger (lent : Nat → Nat) (joined : Nat → Prop) (m : Mailbox) : Prop where
  senders : ∀ g, m.senders g = m.own g + lent g
  settled : ∀ t, m.tracking = some t → t.holdsSender = !(t.senderAttached && !t.holdsReceiver)
  attached : ∀ t, m.tracking = some t → (t.senderAttached = true ↔ joined t.generation)
  current : ∀ t, m.tracking = some t → m.channels[t.generation]? ≠ none
  known : ∀ g, joined g → m.channels[g]? ≠ none

namespace Ledger

theorem congr
    {joined' : Nat → Prop}
    (h : m.Ledger lent joined)
    (hlent : ∀ g, lent' g = lent g)
    (hjoined : ∀ g, joined' g ↔ joined g) :
    m.Ledger lent' joined' := by
  obtain rfl : lent' = lent := funext hlent
  obtain rfl : joined' = joined := funext fun g => propext (hjoined g)
  exact h

theorem fresh : Mailbox.fresh.Ledger (fun _ => 0) (fun _ => False) where
  senders _ := rfl
  settled t ht := by cases ht
  attached t ht := by cases ht
  current t ht := by cases ht
  known _ h := h.elim

/-- What changes neither the senders of a channel nor what is tracked. -/
theorem frame
    (h : m.Ledger lent joined)
    (htracking : m'.tracking = m.tracking)
    (hsenders : ∀ g, m'.senders g = m.senders g)
    (hchannels : ∀ g : Nat, m.channels[g]? ≠ none → m'.channels[g]? ≠ none) :
    m'.Ledger lent joined where
  senders g := by rw [hsenders, h.senders, own, own, htracking]
  settled t ht := h.settled t (htracking ▸ ht)
  attached t ht := h.attached t (htracking ▸ ht)
  current t ht := hchannels _ (h.current t (htracking ▸ ht))
  known g hg := hchannels g (h.known g hg)

theorem steady
    (h : m.Ledger lent joined)
    (hsteady : m.Steady m') :
    m'.Ledger lent joined :=
  h.frame hsteady.tracking hsteady.senders_eq fun g hg hnone =>
    hg ((hsteady.channel_eq_none_iff g).1 hnone)

/-- Nothing is lent on a channel that is not there. -/
theorem lent_eq_zero
    (h : m.Ledger lent joined)
    {g : Nat}
    (hg : m.channels[g]? = none) :
    lent g = 0 := by
  have hsenders := h.senders g
  rw [senders_of_getElem?_eq_none hg] at hsenders
  omega

theorem exists_channel
    (h : m.Ledger lent joined)
    {g : Nat}
    (hg : 0 < lent g) :
    ∃ c, m.channels[g]? = some c := by
  refine channel_of_senders_pos ?_
  rw [h.senders]
  omega

theorem ensure
    (h : m.Ledger lent joined)
    (capacity : Nat) :
    (m.ensure capacity).2.Ledger lent joined := by
  unfold Mailbox.ensure
  split
  · exact h
  · next hnone =>
      have hnew : m.channels[m.channels.length]? = none := List.getElem?_eq_none (Nat.le_refl _)
      have hkept : ∀ g : Nat, m.channels[g]? ≠ none →
          (m.channels ++ [Channel.create capacity])[g]? ≠ none := by
        intro g hg
        rw [Ne, List.getElem?_eq_none_iff] at hg ⊢
        rw [List.length_append]
        omega
      -- Nothing can be lent on a channel that was not there: its one sender is the own one.
      refine ⟨?_, ?_, ?_, ?_, ?_⟩
      · intro g
        have hbefore := h.senders g
        rw [own_of_tracking_eq_none hnone] at hbefore
        rw [senders_append rfl, own_of_tracking rfl, Tracking.own, Tracking.ofNew]
        split
        · next heq => simp [heq, h.lent_eq_zero hnew, Channel.create]
        · next hne => rw [hbefore, if_neg fun h => hne h.1.symm]
      · intro t ht
        cases ht
        rfl
      · intro t ht
        cases ht
        simp only [Tracking.ofNew, Bool.false_eq_true, false_iff]
        exact fun hjoined => h.known _ hjoined hnew
      · intro t ht
        cases ht
        simp [Tracking.ofNew]
      · exact fun g hg => hkept g (h.known g hg)

/-- The mailbox gives up its sender, if both ends of the current channel have been opened. -/
theorem settle
    {t : Tracking}
    (hsenders : ∀ g, m.senders g = t.own g + lent g)
    (hheld : t.holdsSender = true ∨ (t.senderAttached = true ∧ t.holdsReceiver = false))
    (hattached : t.senderAttached = true ↔ joined t.generation)
    (hcurrent : m.channels[t.generation]? ≠ none)
    (hknown : ∀ g, joined g → m.channels[g]? ≠ none) :
    (m.settle t).Ledger lent joined := by
  obtain ⟨c, hc⟩ := Option.ne_none_iff_exists'.1 hcurrent
  unfold Mailbox.settle
  split
  · next hboth =>
      simp only [Bool.and_eq_true, Bool.not_eq_true'] at hboth
      obtain ⟨⟨hsender, hreceiver⟩, hholds⟩ := hboth
      have hkept : ∀ g : Nat, m.channels[g]? ≠ none →
          (m.modify t.generation Channel.dropSender).channels[g]? ≠ none := by
        intro g hg
        rw [getElem?_modify]
        simpa using hg
      refine ⟨?_, ?_, ?_, ?_, ?_⟩
      · intro g
        show (m.modify t.generation Channel.dropSender).senders g = _
        rw [senders_modify hc, own_of_tracking rfl]
        have hg := hsenders g
        simp only [Tracking.own] at hg ⊢
        split
        · next heq =>
            subst heq
            rw [senders_of_getElem? hc, if_pos ⟨rfl, hholds⟩] at hg
            simp only [Channel.dropSender]
            simp
            omega
        · next hne =>
            rw [if_neg fun h => hne h.1] at hg
            simpa using hg
      · intro t' ht'
        cases ht'
        simp [hsender, hreceiver]
      · intro t' ht'
        cases ht'
        exact hattached
      · intro t' ht'
        cases ht'
        exact hkept _ hcurrent
      · exact fun g hg => hkept g (hknown g hg)
  · next hboth =>
      refine ⟨hsenders, ?_, ?_, ?_, hknown⟩
      · intro t' ht'
        cases ht'
        rcases hheld with hholds | ⟨hsender, hreceiver⟩
        · simp only [hholds, Bool.and_true] at hboth ⊢
          simp [hboth]
        · simp only [hsender, hreceiver] at hboth ⊢
          simpa using hboth
      · intro t' ht'
        cases ht'
        exact hattached
      · intro t' ht'
        cases ht'
        exact hcurrent

/-- One channel has other senders, and as many more or less are lent. -/
theorem relend
    {g : Nat} {c : Channel} {f : Channel → Channel}
    (h : m.Ledger lent joined)
    (hc : m.channels[g]? = some c)
    (hlent : ∀ other, if g = other then (f c).senders = m.own other + lent' other
      else lent' other = lent other) :
    (m.modify g f).Ledger lent' joined where
  senders other := by
    have hother := hlent other
    have hown : (m.modify g f).own other = m.own other := rfl
    rw [senders_modify hc, hown]
    split at hother
    · next heq => rw [if_pos heq, hother]
    · next hne => rw [if_neg hne, hother, h.senders]
  settled := h.settled
  attached := h.attached
  current t ht := by
    have hcurrent := h.current t ht
    simpa [getElem?_modify] using hcurrent
  known other hother := by
    have hknown := h.known other hother
    simpa [getElem?_modify] using hknown

/-! ## Opening -/

theorem openSender
    (h : m.Ledger lent joined)
    (capacity : Nat) :
    (m.openSender capacity).box.Ledger
      (fun g => lent g + if (m.openSender capacity).answer = some g then 1 else 0)
      (fun g => joined g ∨ (m.openSender capacity).answer = some g) := by
  have hensured := h.ensure capacity
  have htracking := tracking_ensure m capacity
  unfold Mailbox.openSender
  cases hm : m.ensure capacity with
  | mk t m₁ =>
      rw [hm] at hensured htracking
      dsimp only at hensured htracking ⊢
      have hsettled := hensured.settled t htracking
      have hattached := hensured.attached t htracking
      have hcurrent := hensured.current t htracking
      obtain ⟨c, hc⟩ := Option.ne_none_iff_exists'.1 hcurrent
      have hsenders : ∀ g, m₁.senders g = t.own g + lent g := fun g => by
        rw [hensured.senders, own_of_tracking htracking]
      split
      · refine settle ?_ ?_ (by simp) ?_ ?_
        · intro g
          rw [senders_modify hc]
          have hg := hsenders g
          simp only [Tracking.own, Option.some.injEq] at hg ⊢
          split
          · next heq =>
              subst heq
              rw [senders_of_getElem? hc] at hg
              simp only [Channel.addSender, hg]
              omega
          · next hne => rw [hg, Nat.add_zero]
        · cases hholds : t.holdsSender with
          | true => exact Or.inl rfl
          | false => exact Or.inr ⟨rfl, by simp_all⟩
        · simp [getElem?_modify, hc]
        · rintro g (hg | hg)
          · simpa [getElem?_modify] using hensured.known g hg
          · cases hg
            simp [getElem?_modify, hc]
      · next hclosed =>
          -- No sender is left, not even the own one, so both ends were opened before.
          simp only [Bool.or_eq_true, decide_eq_true_eq, not_or, Bool.not_eq_true] at hclosed
          obtain ⟨hsender, hreceiver⟩ : t.senderAttached = true ∧ t.holdsReceiver = false := by
            simpa [hclosed.1] using hsettled
          have hgiven : (m₁.settle { t with senderAttached := true }).Ledger lent joined :=
            settle hsenders (Or.inr ⟨rfl, hreceiver⟩) (by simpa [hsender] using hattached) hcurrent
              hensured.known
          exact hgiven.congr (by simp) (by simp)

theorem openReceiver
    (h : m.Ledger lent joined)
    (capacity : Nat) :
    (m.openReceiver capacity).box.Ledger lent joined := by
  have hensured := h.ensure capacity
  have htracking := tracking_ensure m capacity
  unfold Mailbox.openReceiver
  cases hm : m.ensure capacity with
  | mk t m₁ =>
      rw [hm] at hensured htracking
      dsimp only at hensured htracking ⊢
      have hsettled := hensured.settled t htracking
      have hattached := hensured.attached t htracking
      have hcurrent := hensured.current t htracking
      have hsenders : ∀ g, m₁.senders g = t.own g + lent g := fun g => by
        rw [hensured.senders, own_of_tracking htracking]
      have hheld : t.holdsSender = true ∨ (t.senderAttached = true ∧ t.holdsReceiver = false) := by
        cases hholds : t.holdsSender with
        | true => exact Or.inl rfl
        | false => exact Or.inr (by simpa [hholds] using hsettled)
      split
      · exact settle hsenders (hheld.imp id fun h => ⟨h.1, rfl⟩) hattached hcurrent hensured.known
      · exact settle hsenders hheld hattached hcurrent hensured.known

/-! ## Senders -/

/-- The channel of a handle that is lent is there. -/
theorem cloneSender
    (h : m.Ledger lent joined)
    (hgeneration : ∀ g, generation = some g → 0 < lent g) :
    (m.cloneSender generation).box.Ledger
      (fun g => lent g + if generation = some g then 1 else 0) joined := by
  cases generation with
  | none =>
      exact h.congr (by simp) fun _ => Iff.rfl
  | some g =>
      obtain ⟨c, hc⟩ := h.exists_channel (hgeneration g rfl)
      refine h.relend hc (fun other => ?_)
      simp only [Option.some.injEq, Channel.addSender]
      split
      · next heq =>
          subst heq
          rw [← senders_of_getElem? hc, h.senders]
          omega
      · rfl

theorem forgetIfFinished (h : m.Ledger lent joined) : m.forgetIfFinished.Ledger lent joined := by
  unfold Mailbox.forgetIfFinished
  split
  · next t ht =>
      split
      · next hfinished =>
          simp only [isFinished, Bool.and_eq_true, Bool.not_eq_true'] at hfinished
          refine ⟨?_, by simp, by simp, by simp, h.known⟩
          intro g
          have hsenders := h.senders g
          rw [own_of_tracking ht, Tracking.own, if_neg (by simp [hfinished.1.2])] at hsenders
          rw [own_of_tracking_eq_none rfl]
          exact hsenders
      · exact h
  · exact h

theorem dropSender
    (h : m.Ledger lent joined)
    (hlent : ∀ g, lent g = lent' g + if generation = some g then 1 else 0) :
    (m.dropSender generation).box.Ledger lent' joined := by
  unfold Mailbox.dropSender
  split
  · next g c hfound =>
      obtain ⟨rfl, hc⟩ := channel_of_bind hfound
      refine (h.relend hc fun other => ?_).forgetIfFinished
      have hother := hlent other
      simp only [Option.some.injEq] at hother
      split
      · next heq =>
          subst heq
          have hsenders := h.senders g
          rw [senders_of_getElem? hc, hother, if_pos rfl] at hsenders
          simp only [Channel.dropSender, hsenders]
          omega
      · next hne => rw [hother, if_neg hne, Nat.add_zero]
  · next hnone =>
      refine (h.congr (fun g => ?_) fun _ => Iff.rfl).forgetIfFinished
      have hg := hlent g
      split at hg
      · next heq =>
          subst heq
          have habsent : m.channels[g]? = none := by simpa using hnone
          have hzero := h.lent_eq_zero habsent
          omega
      · exact hg.symm

/-! ## Receivers -/

theorem receive
    (h : m.Ledger lent joined)
    (generation : Nat) (watcher : Option Watcher) :
    (m.receive generation watcher).box.Ledger lent joined := by
  refine h.frame ?_ (fun g => senders_receive m generation g watcher) ?_
  · unfold Mailbox.receive
    split
    · rfl
    · split <;> rfl
  · intro g hg
    unfold Mailbox.receive
    split
    · exact hg
    · split
      · simpa [getElem?_modify] using hg
      · exact hg
      · simpa [getElem?_modify] using hg

theorem dropReceiver
    (h : m.Ledger lent joined)
    (generation : Nat) :
    (m.dropReceiver generation).box.Ledger lent joined := by
  have hnoted : Ledger lent joined { m with tracking := m.tracking.map .withoutReceiver } := by
    refine ⟨?_, ?_, ?_, ?_, h.known⟩
    · intro g
      have hsenders := h.senders g
      cases ht : m.tracking with
      | none =>
          rw [own_of_tracking_eq_none ht] at hsenders
          exact hsenders
      | some t =>
          rw [own_of_tracking ht] at hsenders
          exact hsenders
    · intro t ht
      obtain ⟨t₀, ht₀, rfl⟩ := Option.map_eq_some_iff.1 ht
      exact h.settled t₀ ht₀
    · intro t ht
      obtain ⟨t₀, ht₀, rfl⟩ := Option.map_eq_some_iff.1 ht
      exact h.attached t₀ ht₀
    · intro t ht
      obtain ⟨t₀, ht₀, rfl⟩ := Option.map_eq_some_iff.1 ht
      exact h.current t₀ ht₀
  refine hnoted.forgetIfFinished.frame rfl ?_ ?_
  · intro g
    rw [senders_dropReceiver, Mailbox.senders, Mailbox.senders, channels_forgetIfFinished]
  · intro g hg
    unfold Mailbox.dropReceiver
    simpa [getElem?_modify] using hg

theorem release (h : m.Ledger lent joined) : m.release.box.Ledger lent joined := by
  unfold Mailbox.release
  split
  · exact h
  · next t ht =>
      obtain ⟨c, hc⟩ := Option.ne_none_iff_exists'.1 (h.current t ht)
      refine ⟨?_, by simp, by simp, by simp, ?_⟩
      · intro g
        have hsenders := h.senders g
        rw [own_of_tracking ht, Tracking.own] at hsenders
        rw [own_of_tracking_eq_none rfl]
        refine (senders_modify hc _ g).trans ?_
        split
        · next heq =>
            subst heq
            rw [senders_of_getElem? hc] at hsenders
            cases hsender : t.holdsSender <;> cases t.holdsReceiver <;>
              simp [hsenders, hsender, Channel.dropSender, Channel.close]
        · next hne =>
            rw [if_neg fun h => hne h.1] at hsenders
            exact hsenders
      · intro g hg
        have hknown := h.known g hg
        simpa [getElem?_modify] using hknown

end Ledger
end Mailbox
end ScatterGather
