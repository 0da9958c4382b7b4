import ScatterGather.Mailbox.Basic

/-!
# What operations do to a mailbox

Most operations leave the packets of all channels alone. A send may put one packet at the end of one
queue, the receiver may take the first one, and the drop of a receiver, or a release, closes one
channel.

**Results.** One theorem for each operation says which of these it does, that new channels are empty
and received from, and that a receiver which the mailbox gave out never comes back to it.
-/

namespace ScatterGather

/-- What can happen to the packets of a channel. -/
inductive Change where
  | pushed (p : Packet)
  | took (p : Packet)
  | closed
deriving DecidableEq

namespace Change

/-- The packets that a change adds to what was accepted. -/
def accepted : Option Change → List Packet
  | some (.pushed p) => [p]
  | _ => []

/-- The packets that a change adds to what was taken. -/
def taken : Option Change → List Packet
  | some (.took p) => [p]
  | _ => []

/-- The change at a key, when at most one key sees a change. -/
def at? {κ : Type} [DecidableEq κ] (change : Option (κ × Change)) (key : κ) : Option Change :=
  match change with
  | some (changed, c) => if changed = key then some c else none
  | none => none

variable {κ : Type} [DecidableEq κ]

@[simp] theorem at?_none (key : κ) : at? none key = none := rfl

@[simp] theorem at?_self (key : κ) (c : Change) : at? (some (key, c)) key = some c := by
  simp [at?]

theorem at?_of_ne {changed key : κ} (h : changed ≠ key) (c : Change) :
    at? (some (changed, c)) key = none := by
  simp [at?, h]

end Change

namespace Channel

/-- A channel before and after a change, as far as its packets and its receiver are concerned. -/
inductive Becomes : Option Change → Channel → Channel → Prop
  | stays {c c' : Channel}
      (hqueue : c'.queue = c.queue)
      (hreceiving : c'.receiving = c.receiving) :
      Becomes none c c'
  | pushed {c c' : Channel} {p : Packet}
      (hreceiving : c.receiving = true)
      (hreceiving' : c'.receiving = true)
      (hqueue : c'.queue = c.queue ++ [p]) :
      Becomes (some (.pushed p)) c c'
  | took {c c' : Channel} {p : Packet}
      (hreceiving : c'.receiving = c.receiving)
      (hqueue : c.queue = p :: c'.queue) :
      Becomes (some (.took p)) c c'
  | closed {c c' : Channel}
      (hqueue : c'.queue = [])
      (hreceiving : c'.receiving = false) :
      Becomes (some .closed) c c'

theorem Becomes.refl (c : Channel) : Becomes none c c :=
  .stays rfl rfl

theorem Becomes.trans
    {c c' c'' : Channel}
    (h : Becomes none c c')
    (h' : Becomes none c' c'') :
    Becomes none c c'' := by
  cases h with
  | stays hqueue hreceiving =>
      cases h' with
      | stays hqueue' hreceiving' =>
          exact .stays (hqueue'.trans hqueue) (hreceiving'.trans hreceiving)

/-- Reserving a slot moves no packet. -/
theorem becomes_grant (c : Channel) : Becomes none c c.grant := by
  unfold grant
  split
  · split
    · exact .stays rfl rfl
    · exact .refl c
  · exact .refl c

theorem becomes_addSender (c : Channel) : Becomes none c c.addSender :=
  .stays rfl rfl

theorem becomes_dropSender (c : Channel) : Becomes none c c.dropSender :=
  .stays rfl rfl

theorem becomes_join (c : Channel) : Becomes none c c.join :=
  .stays rfl rfl

theorem becomes_watch (c : Channel) (watcher : Option Watcher) : Becomes none c (c.watch watcher) :=
  .stays rfl rfl

theorem becomes_forget (c : Channel) (ticket : Nat) : Becomes none c (c.forget ticket) := by
  have herased : Becomes none c
      { c with granted := c.granted.erase ticket, waiting := c.waiting.erase ticket } :=
    .stays rfl rfl
  exact herased.trans (becomes_grant _)

theorem becomes_close (c : Channel) : Becomes (some .closed) c c.close :=
  .closed rfl rfl

theorem admission_eq_sent_iff {c : Channel} :
    c.admission = .sent ↔ c.receiving = true ∧ 0 < c.free := by
  unfold admission
  cases c.receiving with
  | false =>
      simp
  | true =>
      by_cases hfree : 0 < c.free <;> simp [hfree]

theorem admission_eq_full_iff {c : Channel} :
    c.admission = .full ↔ c.receiving = true ∧ c.free = 0 := by
  unfold admission
  cases c.receiving with
  | false =>
      simp
  | true =>
      by_cases hfree : 0 < c.free
      · simp [hfree, Nat.ne_of_gt hfree]
      · simp [Nat.eq_zero_of_not_pos hfree]

theorem redemption_eq_sent_iff {c : Channel} {ticket : Nat} :
    c.redemption ticket = .sent ↔ c.receiving = true ∧ ticket ∈ c.granted := by
  unfold redemption
  cases c.receiving with
  | false =>
      simp
  | true =>
      by_cases hticket : ticket ∈ c.granted <;> simp [hticket]

theorem redemption_eq_full_iff {c : Channel} {ticket : Nat} :
    c.redemption ticket = .full ↔ c.receiving = true ∧ ticket ∉ c.granted := by
  unfold redemption
  cases c.receiving with
  | false =>
      simp
  | true =>
      by_cases hticket : ticket ∈ c.granted <;> simp [hticket]

theorem becomes_push
    {c : Channel}
    (h : c.admission = .sent)
    (p : Packet) :
    Becomes (some (.pushed p)) c (c.push p) := by
  obtain ⟨hreceiving, -⟩ := admission_eq_sent_iff.1 h
  exact .pushed hreceiving hreceiving rfl

theorem becomes_redeem
    {c : Channel} {ticket : Nat}
    (h : c.redemption ticket = .sent)
    (p : Packet) :
    Becomes (some (.pushed p)) c (c.redeem ticket p) := by
  obtain ⟨hreceiving, -⟩ := redemption_eq_sent_iff.1 h
  exact .pushed hreceiving hreceiving rfl

/-- What is found first is at the front of the queue. -/
theorem queue_of_reception
    {c : Channel} {p : Packet}
    (h : c.reception = .packet p) :
    ∃ rest, c.queue = p :: rest := by
  unfold reception at h
  split at h
  · next first rest hqueue =>
      cases h
      exact ⟨rest, hqueue⟩
  · split at h <;> cases h

theorem becomes_take
    {c : Channel} {p : Packet}
    (h : c.reception = .packet p) :
    Becomes (some (.took p)) c c.take := by
  obtain ⟨rest, hqueue⟩ := queue_of_reception h
  have hgrant := becomes_grant { c with queue := c.queue.tail }
  cases hgrant with
  | stays hsame hreceiving =>
      refine .took hreceiving ?_
      show c.queue = p :: (grant { c with queue := c.queue.tail }).queue
      rw [hsame, hqueue]
      rfl

end Channel

/-- What can be seen of one channel of a mailbox: the channel, if there is one yet, and whether the
mailbox itself still holds its receiver. -/
structure Slot where
  channel? : Option Channel
  kept : Prop

namespace Slot

/-- A slot before and after a change, which is one of a channel that was there. A new channel is
empty and received from, and a receiver that was given out does not come back. -/
structure Becomes (change : Option Change) (a b : Slot) : Prop where
  changed : change ≠ none → a.channel? ≠ none
  channel : ∀ c, a.channel? = some c →
    ∃ c', b.channel? = some c' ∧ Channel.Becomes change c c'
  fresh : a.channel? = none → ∀ c', b.channel? = some c' → c'.queue = [] ∧ c'.receiving = true
  kept : b.kept → a.kept ∨ (a.channel? = none ∧ b.channel? ≠ none)

variable {change : Option Change} {a b c : Slot}

theorem Becomes.refl (a : Slot) : Becomes none a a where
  changed h := absurd rfl h
  channel c h := ⟨c, h, .refl c⟩
  fresh h c' h' := by
    rw [h] at h'
    cases h'
  kept h := Or.inl h

/-- A channel that was there stays. -/
theorem Becomes.channel_ne_none
    (h : Becomes change a b)
    (ha : a.channel? ≠ none) :
    b.channel? ≠ none := by
  obtain ⟨c, hc⟩ := Option.ne_none_iff_exists'.1 ha
  obtain ⟨c', hc', -⟩ := h.channel c hc
  rw [hc']
  simp

theorem Becomes.trans
    (h : Becomes none a b)
    (h' : Becomes none b c) :
    Becomes none a c where
  changed h := absurd rfl h
  channel x hx := by
    obtain ⟨x', hx', hbecomes⟩ := h.channel x hx
    obtain ⟨x'', hx'', hbecomes'⟩ := h'.channel x' hx'
    exact ⟨x'', hx'', hbecomes.trans hbecomes'⟩
  fresh hnone x'' hx'' := by
    cases hb : b.channel? with
    | none =>
        exact h'.fresh hb x'' hx''
    | some x' =>
        obtain ⟨hqueue, hreceiving⟩ := h.fresh hnone x' hb
        obtain ⟨other, hother, hbecomes⟩ := h'.channel x' hb
        rw [hx''] at hother
        cases hother
        cases hbecomes with
        | stays hqueue' hreceiving' =>
            exact ⟨hqueue'.trans hqueue, hreceiving'.trans hreceiving⟩
  kept hkept := by
    rcases h'.kept hkept with hkept | ⟨hnone, hsome⟩
    · rcases h.kept hkept with hkept | ⟨hnone, hsome⟩
      · exact Or.inl hkept
      · exact Or.inr ⟨hnone, h'.channel_ne_none hsome⟩
    · refine Or.inr ⟨?_, hsome⟩
      cases ha : a.channel? with
      | none =>
          rfl
      | some x =>
          exact absurd hnone (h.channel_ne_none (by simp [ha]))

/-- The channel is there, and its receiver was given out. -/
def Issued (a : Slot) : Prop :=
  a.channel? ≠ none ∧ ¬ a.kept

theorem Becomes.issued
    (h : Becomes change a b)
    (ha : a.Issued) :
    b.Issued := by
  refine ⟨h.channel_ne_none ha.1, fun hkept => ?_⟩
  rcases h.kept hkept with hkept | ⟨hnone, -⟩
  · exact ha.2 hkept
  · exact ha.1 hnone

end Slot

namespace Mailbox

/-- The mailbox itself still holds the receiver of a generation. -/
def Keeps (m : Mailbox) (generation : Nat) : Prop :=
  ∃ t, m.tracking = some t ∧ t.generation = generation ∧ t.holdsReceiver = true

/-- What can be seen of a generation. -/
def slot (m : Mailbox) (generation : Nat) : Slot :=
  ⟨m.channels[generation]?, m.Keeps generation⟩

/-- A mailbox before and after an operation that changes at most one channel. -/
def Evolves (m : Mailbox) (change : Option (Nat × Change)) (m' : Mailbox) : Prop :=
  ∀ g, Slot.Becomes (Change.at? change g) (m.slot g) (m'.slot g)

namespace Evolves

variable {m m' m'' : Mailbox} {change : Option (Nat × Change)}

theorem refl (m : Mailbox) : m.Evolves none m :=
  fun g => .refl (m.slot g)

theorem trans
    (h : m.Evolves none m')
    (h' : m'.Evolves none m'') :
    m.Evolves none m'' :=
  fun g => (h g).trans (h' g)

/-- What is tracked may be given up, or be changed short of taking the receiver back. -/
theorem retrack
    (h : m.Evolves change m')
    {tracking : Option Tracking}
    (htracking : ∀ t, tracking = some t → ∃ t₀, m'.tracking = some t₀ ∧
      t.generation = t₀.generation ∧ (t.holdsReceiver = true → t₀.holdsReceiver = true)) :
    m.Evolves change { m' with tracking } := by
  intro g
  refine ⟨(h g).changed, (h g).channel, (h g).fresh, ?_⟩
  rintro ⟨t, ht, hg, hholds⟩
  obtain ⟨t₀, ht₀, hgeneration, hreceiver⟩ := htracking t ht
  exact (h g).kept ⟨t₀, ht₀, hgeneration.symm.trans hg, hreceiver hholds⟩

end Evolves

theorem getElem?_modify
    (m : Mailbox) (g i : Nat) (f : Channel → Channel) :
    (m.modify g f).channels[i]? = (m.channels[i]?).map fun c => if g = i then f c else c := by
  simp only [modify, List.getElem?_modify]
  rfl

theorem getElem?_modify_self
    {m : Mailbox} {g : Nat} {c : Channel}
    (hc : m.channels[g]? = some c)
    (f : Channel → Channel) :
    (m.modify g f).channels[g]? = some (f c) := by
  rw [getElem?_modify, hc, Option.map_some, if_pos rfl]

/-- Changing one channel. -/
theorem evolves_modify
    {m : Mailbox} {g : Nat} {c : Channel} {change : Change} {f : Channel → Channel}
    (hc : m.channels[g]? = some c)
    (h : Channel.Becomes (some change) c (f c)) :
    m.Evolves (some (g, change)) (m.modify g f) := by
  intro i
  by_cases hi : g = i
  · subst hi
    rw [Change.at?_self]
    refine ⟨?_, ?_, ?_, Or.inl⟩
    · simp [slot, hc]
    · intro c' hc'
      cases hc.symm.trans hc'
      exact ⟨f c, getElem?_modify_self hc f, h⟩
    · intro hnone
      cases hc.symm.trans hnone
  · rw [Change.at?_of_ne hi]
    have hslot : (m.modify g f).slot i = m.slot i := by
      simp [slot, hi, modify, Keeps]
    rw [hslot]
    exact .refl _

/-- Changing one channel but none of its packets. -/
theorem evolves_modify_quietly
    {m : Mailbox} {g : Nat} {f : Channel → Channel}
    (h : ∀ c, Channel.Becomes none c (f c)) :
    m.Evolves none (m.modify g f) := by
  intro i
  refine ⟨absurd rfl, ?_, ?_, Or.inl⟩
  · intro c hc
    refine ⟨if g = i then f c else c, ?_, ?_⟩
    · show (m.modify g f).channels[i]? = _
      rw [getElem?_modify, show m.channels[i]? = some c from hc]
      rfl
    · split
      · exact h c
      · exact .refl c
  · intro hc c' hc'
    replace hc' : (m.modify g f).channels[i]? = some c' := hc'
    rw [getElem?_modify, show m.channels[i]? = none from hc] at hc'
    cases hc'

/-! ## Opening -/

theorem evolves_ensure (m : Mailbox) (capacity : Nat) :
    m.Evolves none (m.ensure capacity).2 := by
  unfold ensure
  split
  · exact .refl m
  · next hnone =>
      intro g
      refine ⟨absurd rfl, ?_, ?_, ?_⟩
      · intro c hc
        have hlt : g < m.channels.length := (List.getElem?_eq_some_iff.1 hc).1
        have hc' : (m.channels ++ [Channel.create capacity])[g]? = some c := by
          rw [List.getElem?_append_left hlt]
          exact hc
        exact ⟨c, hc', .refl c⟩
      · intro hc c' hc'
        have hge : m.channels.length ≤ g := List.getElem?_eq_none_iff.1 hc
        replace hc' : (m.channels ++ [Channel.create capacity])[g]? = some c' := hc'
        rw [List.getElem?_append_right hge] at hc'
        have hmem := List.mem_of_getElem? hc'
        rw [List.mem_singleton.1 hmem]
        exact ⟨rfl, rfl⟩
      · rintro ⟨t, ht, hg, -⟩
        right
        cases ht
        rw [← hg]
        simp [slot, Tracking.ofNew]

/-- A mailbox that was opened tracks a channel. -/
theorem tracking_ensure (m : Mailbox) (capacity : Nat) :
    (m.ensure capacity).2.tracking = some (m.ensure capacity).1 := by
  unfold ensure
  split
  · next t ht => exact ht
  · rfl

/-- What is settled is what was to be tracked, but for the sender. -/
theorem exists_tracking_settle (m : Mailbox) (t : Tracking) :
    ∃ holds, (m.settle t).tracking = some { t with holdsSender := holds } := by
  unfold settle
  split
  · exact ⟨false, rfl⟩
  · exact ⟨t.holdsSender, rfl⟩

theorem eq_of_tracking_settle
    {m : Mailbox} {t t' : Tracking}
    (h : (m.settle t).tracking = some t') :
    ∃ holds, t' = { t with holdsSender := holds } := by
  obtain ⟨holds, hsome⟩ := exists_tracking_settle m t
  exact ⟨holds, Option.some.inj (h.symm.trans hsome)⟩

theorem evolves_settle
    {m : Mailbox} {t t₀ : Tracking}
    (ht₀ : m.tracking = some t₀)
    (hgeneration : t.generation = t₀.generation)
    (hreceiver : t.holdsReceiver = true → t₀.holdsReceiver = true) :
    m.Evolves none (m.settle t) := by
  unfold settle
  split
  · refine (evolves_modify_quietly Channel.becomes_dropSender).retrack ?_
    rintro t' ⟨rfl⟩
    exact ⟨t₀, ht₀, hgeneration, hreceiver⟩
  · refine (Evolves.refl m).retrack ?_
    rintro t' ⟨rfl⟩
    exact ⟨t₀, ht₀, hgeneration, hreceiver⟩

theorem evolves_openSender (m : Mailbox) (capacity : Nat) :
    m.Evolves none (m.openSender capacity).box := by
  have hensure := evolves_ensure m capacity
  have htracking := tracking_ensure m capacity
  unfold openSender
  cases h : m.ensure capacity with
  | mk t m₁ =>
      rw [h] at hensure htracking
      dsimp only
      split
      · have hadd : m₁.Evolves none (m₁.modify t.generation Channel.addSender) :=
          evolves_modify_quietly Channel.becomes_addSender
        exact (hensure.trans hadd).trans (evolves_settle htracking rfl id)
      · exact hensure.trans (evolves_settle htracking rfl id)

theorem evolves_openReceiver (m : Mailbox) (capacity : Nat) :
    m.Evolves none (m.openReceiver capacity).box := by
  have hensure := evolves_ensure m capacity
  have htracking := tracking_ensure m capacity
  unfold openReceiver
  cases h : m.ensure capacity with
  | mk t m₁ =>
      rw [h] at hensure htracking
      dsimp only
      split
      · exact hensure.trans (evolves_settle htracking rfl (by simp))
      · exact hensure.trans (evolves_settle htracking rfl id)

/-- The generation of a receiver that was given out: until then the mailbox had it or it did not
exist, and from then on the mailbox does not have it. -/
theorem openReceiver_answer
    {m : Mailbox} {capacity g : Nat}
    (h : (m.openReceiver capacity).answer = some g) :
    (m.Keeps g ∨ (m.channels[g]? = none ∧ (m.openReceiver capacity).box.channels[g]? ≠ none)) ∧
      ¬ (m.openReceiver capacity).box.Keeps g := by
  have hensure := evolves_ensure m capacity
  have htracking := tracking_ensure m capacity
  unfold openReceiver at h ⊢
  cases hm : m.ensure capacity with
  | mk t m₁ =>
      rw [hm] at hensure htracking
      simp only [hm] at h ⊢
      split at h
      · next hholds =>
          cases h
          rw [if_pos hholds]
          have hsettled := evolves_settle (t := { t with holdsReceiver := false })
            htracking rfl (by simp)
          refine ⟨?_, ?_⟩
          · refine ((hensure _).kept ⟨t, htracking, rfl, hholds⟩).imp id ?_
            rintro ⟨hnone, hsome⟩
            exact ⟨hnone, (hsettled _).channel_ne_none hsome⟩
          · rintro ⟨t', ht', -, hholds'⟩
            obtain ⟨_, rfl⟩ := eq_of_tracking_settle ht'
            cases hholds'
      · cases h

/-! ## Senders -/

theorem evolves_cloneSender (m : Mailbox) (generation : Option Nat) :
    m.Evolves none (m.cloneSender generation).box := by
  unfold cloneSender
  split
  · exact evolves_modify_quietly Channel.becomes_addSender
  · exact .refl m

theorem Evolves.forgetIfFinished
    {m m' : Mailbox} {change : Option (Nat × Change)}
    (h : m.Evolves change m') :
    m.Evolves change m'.forgetIfFinished := by
  unfold Mailbox.forgetIfFinished
  split
  · split
    · exact h.retrack (by simp)
    · exact h
  · exact h

theorem evolves_dropSender (m : Mailbox) (generation : Option Nat) :
    m.Evolves none (m.dropSender generation).box := by
  unfold dropSender
  split
  · exact (evolves_modify_quietly Channel.becomes_dropSender).forgetIfFinished
  · exact (Evolves.refl m).forgetIfFinished

/-- A handle whose channel was found is one of this generation. -/
theorem channel_of_bind
    {m : Mailbox} {generation : Option Nat} {g : Nat} {c : Channel}
    (h : (generation.bind fun g => (m.channels[g]?).map fun c => (g, c)) = some (g, c)) :
    generation = some g ∧ m.channels[g]? = some c := by
  obtain ⟨g', rfl, hmap⟩ := Option.bind_eq_some_iff.1 h
  obtain ⟨c', hc, heq⟩ := Option.map_eq_some_iff.1 hmap
  obtain ⟨rfl, rfl⟩ := Prod.mk.inj heq
  exact ⟨rfl, hc⟩

theorem evolves_offer
    (m : Mailbox) (generation : Option Nat) (p : Packet) :
    (∃ g, generation = some g ∧ (m.offer generation p).answer = .sent ∧
      m.Evolves (some (g, .pushed p)) (m.offer generation p).box) ∨
    ((m.offer generation p).answer ≠ .sent ∧ m.Evolves none (m.offer generation p).box) := by
  unfold offer
  split
  · exact Or.inr ⟨by simp, .refl m⟩
  · next g c hfound =>
      obtain ⟨rfl, hc⟩ := channel_of_bind hfound
      split
      · next hadmission =>
          exact Or.inl ⟨_, rfl, rfl, evolves_modify hc (Channel.becomes_push hadmission p)⟩
      · next hadmission => exact Or.inr ⟨hadmission, .refl m⟩

theorem evolves_join (m : Mailbox) (generation : Nat) :
    m.Evolves none (m.join generation).box := by
  unfold join
  split
  · exact evolves_modify_quietly Channel.becomes_join
  · exact .refl m

theorem evolves_redeem
    (m : Mailbox) (generation ticket : Nat) (p : Packet) :
    ((m.redeem generation ticket p).answer = .sent ∧
      m.Evolves (some (generation, .pushed p)) (m.redeem generation ticket p).box) ∨
    ((m.redeem generation ticket p).answer ≠ .sent ∧
      m.Evolves none (m.redeem generation ticket p).box) := by
  unfold redeem
  split
  · exact Or.inr ⟨by simp, .refl m⟩
  · next c hc =>
      split
      · next hredemption =>
          exact Or.inl ⟨rfl, evolves_modify hc (Channel.becomes_redeem hredemption p)⟩
      · next hredemption => exact Or.inr ⟨hredemption, .refl m⟩

theorem evolves_forgetSend (m : Mailbox) (generation ticket : Nat) :
    m.Evolves none (m.forgetSend generation ticket).box :=
  evolves_modify_quietly fun c => Channel.becomes_forget c ticket

/-! ## Receivers -/

/-- A receiver takes the first packet of its channel, or nothing changes. -/
theorem evolves_receive
    (m : Mailbox) (generation : Nat) (watcher : Option Watcher) :
    (∃ p, (m.receive generation watcher).answer = .packet p ∧
      m.Evolves (some (generation, .took p)) (m.receive generation watcher).box) ∨
    ((∀ p, (m.receive generation watcher).answer ≠ .packet p) ∧
      m.Evolves none (m.receive generation watcher).box) := by
  unfold receive
  split
  · exact Or.inr ⟨by simp, .refl m⟩
  · next c hc =>
      split
      · next p hreception =>
          exact Or.inl ⟨p, rfl, evolves_modify hc (Channel.becomes_take hreception)⟩
      · exact Or.inr ⟨by simp, .refl m⟩
      · exact Or.inr ⟨by simp, evolves_modify_quietly fun c => Channel.becomes_watch c watcher⟩

/-- A receiver finds the end of its channel only when nothing is queued. -/
theorem queue_of_receive_ended
    {m : Mailbox} {generation : Nat} {watcher : Option Watcher}
    (h : (m.receive generation watcher).answer = .ended) :
    ∀ c, m.channels[generation]? = some c → c.queue = [] := by
  intro c hc
  unfold receive at h
  rw [hc] at h
  dsimp only at h
  cases hqueue : c.queue with
  | nil =>
      rfl
  | cons p rest =>
      simp [Channel.reception, hqueue] at h

theorem woken_receive (m : Mailbox) (generation : Nat) (watcher : Option Watcher) :
    (m.receive generation watcher).woken = none := by
  unfold receive
  split
  · rfl
  · split <;> rfl

/-- Receiving changes no sender. -/
theorem senders_receive
    (m : Mailbox) (generation g : Nat) (watcher : Option Watcher) :
    (m.receive generation watcher).box.senders g = m.senders g := by
  have hmodify : ∀ f : Channel → Channel, (∀ c, (f c).senders = c.senders) →
      (m.modify generation f).senders g = m.senders g := by
    intro f hf
    unfold senders
    rw [getElem?_modify]
    cases m.channels[g]? with
    | none =>
        rfl
    | some c =>
        by_cases hg : generation = g <;> simp [hg, hf]
  unfold receive
  split
  · rfl
  · split
    · refine hmodify _ fun c => ?_
      unfold Channel.take Channel.grant
      split
      · split <;> rfl
      · rfl
    · rfl
    · exact hmodify _ fun c => rfl

/-- A receiver finds the end of its channel only when no sender is left. -/
theorem senders_of_receive_ended
    {m : Mailbox} {generation : Nat} {watcher : Option Watcher}
    (h : (m.receive generation watcher).answer = .ended) :
    m.senders generation = 0 := by
  unfold receive at h
  unfold senders
  split at h
  · next hnone => rw [hnone]
  · next c hc =>
      rw [hc]
      dsimp only at h ⊢
      split at h
      · cases h
      · next hreception =>
          unfold Channel.reception at hreception
          split at hreception
          · cases hreception
          · split at hreception
            · assumption
            · cases hreception
      · cases h

theorem channels_forgetIfFinished (m : Mailbox) : m.forgetIfFinished.channels = m.channels := by
  unfold forgetIfFinished
  split
  · split <;> rfl
  · rfl

theorem tracking_of_forgetIfFinished
    {m : Mailbox} {t : Tracking}
    (h : m.forgetIfFinished.tracking = some t) :
    m.tracking = some t := by
  unfold forgetIfFinished at h
  split at h
  · split at h
    · cases h
    · exact h
  · exact h

theorem evolves_dropReceiver
    {m : Mailbox} {generation : Nat}
    (h : m.channels[generation]? ≠ none) :
    m.Evolves (some (generation, .closed)) (m.dropReceiver generation).box := by
  obtain ⟨c, hc⟩ := Option.ne_none_iff_exists'.1 h
  have hclosed : m.Evolves (some (generation, .closed)) (m.modify generation Channel.close) :=
    evolves_modify hc (Channel.becomes_close c)
  let noted : Mailbox := { m with tracking := m.tracking.map Tracking.withoutReceiver }
  have hbox : (m.dropReceiver generation).box =
      { m.modify generation Channel.close with tracking := noted.forgetIfFinished.tracking } := by
    show noted.forgetIfFinished.modify generation Channel.close = _
    simp only [modify, channels_forgetIfFinished, noted]
  rw [hbox]
  refine hclosed.retrack ?_
  intro t ht
  obtain ⟨t₀, ht₀, rfl⟩ := Option.map_eq_some_iff.1 (tracking_of_forgetIfFinished ht)
  exact ⟨t₀, ht₀, rfl, id⟩

theorem senders_dropReceiver (m : Mailbox) (generation g : Nat) :
    (m.dropReceiver generation).box.senders g = m.senders g := by
  unfold dropReceiver
  dsimp only
  unfold senders
  rw [getElem?_modify, channels_forgetIfFinished]
  cases m.channels[g]? with
  | none =>
      rfl
  | some c =>
      by_cases hg : generation = g <;> simp [hg, Channel.close]

/-- A release closes the channel whose receiver the mailbox still had, if it had one. -/
theorem evolves_release
    {m : Mailbox}
    (h : ∀ g, m.Keeps g → m.channels[g]? ≠ none) :
    m.Evolves none m.release.box ∨
      ∃ g, m.Keeps g ∧ m.Evolves (some (g, .closed)) m.release.box ∧ ¬ m.release.box.Keeps g := by
  unfold release
  split
  · exact Or.inl (.refl m)
  · next t ht =>
      cases hholds : t.holdsReceiver with
      | true =>
          have hkeeps : m.Keeps t.generation := ⟨t, ht, rfl, hholds⟩
          obtain ⟨c, hc⟩ := Option.ne_none_iff_exists'.1 (h _ hkeeps)
          refine Or.inr ⟨t.generation, hkeeps, ?_, ?_⟩
          · refine (evolves_modify hc ?_).retrack (by simp)
            simp only [if_true]
            exact .closed rfl rfl
          · rintro ⟨t', ht', -⟩
            cases ht'
      | false =>
          refine Or.inl ((evolves_modify_quietly ?_).retrack (by simp))
          intro c
          split
          · exact Channel.becomes_dropSender c
          · exact .refl c

end Mailbox
end ScatterGather
