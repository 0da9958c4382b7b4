import ScatterGather.Proofs.Mailboxes.Custody

/-!
# The mailboxes that are tracked

A mailbox is tracked for as long as its latest channel is needed. It is needed until its receiver
was given out and is there no more, and senders were opened on it and none of them is left.

**Results.** Among mailboxes in order, those are tracked whose latest channel is needed. At most one
receiver of a mailbox is there at a time. As long as a mailbox is tracked, its receiver is given out
once: who asks again changes nothing.
-/

namespace ScatterGather

namespace Mailbox

variable {lent : Nat → Nat} {joined : Nat → Prop} {m : Mailbox} {t : Tracking}

/-- A sender that belongs to no channel is opened only when senders were opened before. -/
theorem Ledger.exists_joined_of_openSender
    {capacity : Nat}
    (h : m.Ledger lent joined)
    (hanswer : (m.openSender capacity).answer = none) :
    ∃ g, joined g := by
  have hensured := h.ensure capacity
  have htracking := tracking_ensure m capacity
  unfold Mailbox.openSender at hanswer
  cases hm : m.ensure capacity with
  | mk t m₁ =>
      rw [hm] at hensured htracking hanswer
      dsimp only at hensured htracking hanswer
      split at hanswer
      · cases hanswer
      · next hclosed =>
          simp only [Bool.or_eq_true, not_or, Bool.not_eq_true] at hclosed
          exact ⟨_, (hensured.joined_of_holdsSender_eq_false htracking hclosed.1).1⟩

/-- Who asks for a receiver that was given out changes nothing. -/
theorem Ledger.openReceiver_eq
    (h : m.Ledger lent joined)
    (ht : m.tracking = some t)
    (hgiven : t.holdsReceiver = false)
    (capacity : Nat) :
    m.openReceiver capacity = ⟨none, none, m⟩ := by
  have hkept : (t.senderAttached && !t.holdsReceiver && t.holdsSender) = false := by
    rw [h.settled t ht, hgiven]
    cases t.senderAttached <;> rfl
  have hensure : m.ensure capacity = (t, m) := by
    unfold Mailbox.ensure
    rw [ht]
  have hsame : m.settle t = m := by
    rw [settle_of_eq_false hkept, ← ht]
  rw [Mailbox.openReceiver, hensure]
  dsimp only
  rw [hgiven, hsame]
  rfl

end Mailbox

namespace Mailboxes

variable {H : History} {outer given : Receiver → Prop} {lent : Receiver → Nat}
variable {attached spent : Receiver → Prop} {s : Mailboxes} {r r' : Receiver} {id : MailboxId}
variable {t : Tracking}

/-- The channel of a receiver has been created. -/
def Created (s : Mailboxes) (r : Receiver) : Prop :=
  r.generation < (s.box r.id).channels.length

/-- The channel of a receiver is the last that was created for its mailbox. -/
def Latest (s : Mailboxes) (r : Receiver) : Prop :=
  r.generation + 1 = (s.box r.id).channels.length

theorem Latest.created (h : s.Latest r) : s.Created r := by
  unfold Latest at h
  unfold Created
  omega

/-! ## Tracked mailboxes -/

theorem find?_of_tracking (ht : (s.box id).tracking = some t) :
    Registry.find? s.boxes id = some (s.box id) := by
  unfold box at ht ⊢
  cases hfind : Registry.find? s.boxes id with
  | none =>
      rw [hfind] at ht
      cases ht
  | some m =>
      rfl

/-- Who asks for a receiver that was given out is refused, and nothing changes. -/
theorem openReceiver_of_holdsReceiver_eq_false
    {lent : Nat → Nat} {joined : Nat → Prop}
    (h : (s.box id).Ledger lent joined)
    (ht : (s.box id).tracking = some t)
    (hgone : t.holdsReceiver = false) :
    s.openReceiver id = (.error (.alreadyReceived id), s) := by
  rw [openReceiver_eq, update, h.openReceiver_eq ht hgone]
  dsimp only
  rw [Registry.set_of_find? (find?_of_tracking ht)]
  rfl

theorem mem_tracked_iff (hentries : (Registry.keys s.boxes).Nodup) :
    id ∈ s.tracked ↔ ∃ t, (s.box id).tracking = some t := by
  unfold tracked
  constructor
  · intro hmem
    obtain ⟨⟨other, m⟩, hentry, rfl⟩ := List.mem_map.1 hmem
    obtain ⟨hentry, hsome⟩ := List.mem_filter.1 hentry
    rw [box, Registry.find?_of_mem hentries hentry]
    exact Option.isSome_iff_exists.1 hsome
  · rintro ⟨t, ht⟩
    refine List.mem_map.2 ⟨(id, s.box id), List.mem_filter.2 ⟨?_, ?_⟩, rfl⟩
    · exact Registry.mem_of_find? (find?_of_tracking ht)
    · exact Option.isSome_iff_exists.2 ⟨t, ht⟩

theorem nodup_tracked (hentries : (Registry.keys s.boxes).Nodup) : s.tracked.Nodup :=
  List.Nodup.sublist (List.Sublist.map Prod.fst List.filter_sublist) hentries

/-! ## Receivers that are there -/

namespace Orderly

/-- The receiver of an open channel is there, if somebody ever had it. -/
theorem alive_of_open
    {holder : Option Nat}
    (h : s.Orderly H outer lent attached spent)
    (hholds : s.Holds outer holder r)
    (hopen : s.Open r) :
    s.Alive outer r := by
  cases holder with
  | none =>
      exact Or.inl hholds
  | some number =>
      obtain ⟨m, hm, hmem⟩ := hholds
      obtain ⟨i, hi⟩ := List.mem_iff_getElem?.1 hmem
      refine Or.inr ⟨number, m, hm, i, ?_, hi⟩
      by_contra hgone
      obtain ⟨-, c, hc, hclosed⟩ := (h.sound.follows number m hm).gone i r hi hgone
      obtain ⟨c', hc', hreceiving⟩ := hopen
      cases hc.symm.trans hc'
      rw [hclosed] at hreceiving
      cases hreceiving

/-- The receivers of a mailbox that are there are one. -/
theorem eq_of_alive
    (h : s.Orderly H outer lent attached spent)
    (hreleased : .released r.id ∉ H)
    (halive : s.Alive outer r)
    (halive' : s.Alive outer r')
    (hid : r.id = r'.id) :
    r = r' := by
  obtain ⟨id, g⟩ := r
  obtain ⟨id', g'⟩ := r'
  obtain rfl : id = id' := hid
  have hupright := (h.regular id).upright hreleased
  obtain ⟨t, ht, hg, -⟩ := hupright g (h.issued_of_alive halive).1
  obtain ⟨t', ht', hg', -⟩ := hupright g' (h.issued_of_alive halive').1
  cases ht.symm.trans ht'
  rw [← hg, ← hg']

/-! ## For how long a mailbox is tracked -/

theorem eq_of_latest
    (h : s.Orderly H outer lent attached spent)
    (hreleased : .released r.id ∉ H)
    (ht : (s.box r.id).tracking = some t)
    (hlatest : s.Latest r) :
    r = ⟨r.id, t.generation⟩ := by
  have hcurrent := (((h.regular r.id).tended hreleased).current t ht).latest
  rw [← Nat.succ.inj (hlatest.trans hcurrent.symm)]

/-- The receiver of a channel that is tracked is with its mailbox, or was given out. -/
theorem holdsReceiver_iff
    (h : s.Orderly H outer lent attached spent)
    (hcustody : s.Custody outer given)
    (ht : (s.box id).tracking = some t) :
    t.holdsReceiver = false ↔ given ⟨id, t.generation⟩ := by
  rw [← hcustody.issued]
  have hcurrent := (h.regular id).ledger.current t ht
  constructor
  · intro hgone
    refine ⟨hcurrent, fun hkept => ?_⟩
    rw [((Mailbox.keeps_iff ht _).1 hkept).2] at hgone
    cases hgone
  · rintro ⟨-, hkept⟩
    rw [← Bool.not_eq_true]
    exact fun hholds => hkept ((Mailbox.keeps_iff ht _).2 ⟨rfl, hholds⟩)

/-- The latest channel of a mailbox that is tracked is needed. -/
theorem needed_of_tracking
    (h : s.Orderly H outer lent attached spent)
    (hcustody : s.Custody outer given)
    (hreleased : .released r.id ∉ H)
    (ht : (s.box r.id).tracking = some t)
    (hlatest : s.Latest r) :
    ¬ ((given r ∧ ¬ s.Alive outer r) ∧ attached r ∧ lent r = 0) := by
  rintro ⟨⟨hgiven, hgone⟩, hattached, hlent⟩
  obtain ⟨hledger, -, -, htended⟩ := h.regular r.id
  replace htended := htended hreleased
  have hr := h.eq_of_latest hreleased ht hlatest
  rw [hr] at hgiven hattached hlent
  have hreceiver := (h.holdsReceiver_iff hcustody ht).2 hgiven
  have hsender : t.holdsSender = false := by
    rw [hledger.settled t ht, (hledger.attached t ht).2 hattached, hreceiver]
    rfl
  have hdropped : t.receiverDropped = true := by
    rw [← Bool.not_eq_false]
    intro hlistening
    have hopen := (htended.current t ht).listening hlistening
    obtain ⟨holder, hholds⟩ := hcustody.held _ hgiven hopen
    exact hgone (hr ▸ h.alive_of_open hholds hopen)
  have hsenders : (s.box r.id).senders t.generation = 0 := by
    rw [hledger.senders, Mailbox.own_of_tracking ht, Tracking.own, if_neg (by simp [hsender])]
    exact (Nat.zero_add _).trans hlent
  have hneeded := htended.needed t ht
  rw [Mailbox.isFinished_iff.2 ⟨hdropped, hsender, hsenders⟩] at hneeded
  cases hneeded

/-- The latest channel of a mailbox that was forgotten is not needed any more. -/
theorem not_needed_of_forgotten
    (h : s.Orderly H outer lent attached spent)
    (hcustody : s.Custody outer given)
    (hreleased : .released r.id ∉ H)
    (ht : (s.box r.id).tracking = none)
    (hlatest : s.Latest r) :
    (given r ∧ ¬ s.Alive outer r) ∧ attached r ∧ lent r = 0 := by
  obtain ⟨hledger, -, -, htended⟩ := h.regular r.id
  obtain ⟨hclosed, hjoined, hsenders⟩ := (htended hreleased).forgotten ht r.generation hlatest
  refine ⟨⟨(hcustody.issued r).1 ?_, fun halive => ?_⟩, hjoined, ?_⟩
  · refine Mailbox.issued_iff.2 ⟨hlatest.created, ?_⟩
    rintro ⟨t, ht', -⟩
    cases ht.symm.trans ht'
  · exact hclosed (h.issued_of_alive halive).1
  · have hledger' := hledger.senders r.generation
    rw [hsenders, Mailbox.own_of_tracking_eq_none ht, Nat.zero_add] at hledger'
    exact hledger'.symm

/-- A mailbox is tracked exactly as long as its latest channel is needed. -/
theorem mem_tracked_iff_of_latest
    (h : s.Orderly H outer lent attached spent)
    (hcustody : s.Custody outer given)
    (hentries : (Registry.keys s.boxes).Nodup)
    (hreleased : .released r.id ∉ H)
    (hlatest : s.Latest r) :
    r.id ∈ s.tracked ↔ ¬ ((given r ∧ ¬ s.Alive outer r) ∧ attached r ∧ lent r = 0) := by
  rw [mem_tracked_iff hentries]
  cases ht : (s.box r.id).tracking with
  | none =>
      have hdone := h.not_needed_of_forgotten hcustody hreleased ht hlatest
      exact iff_of_false (by simp) (not_not_intro hdone)
  | some t =>
      have hneeded := h.needed_of_tracking hcustody hreleased ht hlatest
      exact iff_of_true ⟨t, rfl⟩ hneeded

/-- A mailbox has a channel when a sender was opened on one, or a receiver given out. -/
theorem exists_latest_iff
    (h : s.Orderly H outer lent attached spent)
    (hcustody : s.Custody outer given)
    (hreleased : .released id ∉ H) :
    (∃ r, r.id = id ∧ s.Latest r) ↔ ∃ r, r.id = id ∧ (attached r ∨ given r) := by
  have hregular := h.regular id
  constructor
  · rintro ⟨r, rfl, hlatest⟩
    cases ht : (s.box r.id).tracking with
    | none =>
        exact ⟨r, rfl, Or.inr (h.not_needed_of_forgotten hcustody hreleased ht hlatest).1.1⟩
    | some t =>
        refine ⟨⟨r.id, t.generation⟩, rfl, ?_⟩
        rcases (hregular.tended hreleased).begun t ht with hattached | hgone
        · exact Or.inl ((hregular.ledger.attached t ht).1 hattached)
        · exact Or.inr ((h.holdsReceiver_iff hcustody ht).1 hgone)
  · rintro ⟨r, rfl, hr⟩
    have hthere : (s.box r.id).channels[r.generation]? ≠ none := by
      rcases hr with hattached | hgiven
      · exact hregular.ledger.known r.generation hattached
      · exact ((hcustody.issued r).2 hgiven).1
    rw [Ne, List.getElem?_eq_none_iff] at hthere
    refine ⟨⟨r.id, (s.box r.id).channels.length - 1⟩, rfl, ?_⟩
    show (s.box r.id).channels.length - 1 + 1 = (s.box r.id).channels.length
    omega

/-- As long as a mailbox is tracked, who asks for a receiver that was given out is refused, and
nothing changes. -/
theorem openReceiver_of_given
    (h : s.Orderly H outer lent attached spent)
    (hcustody : s.Custody outer given)
    (hreleased : .released r.id ∉ H)
    (ht : (s.box r.id).tracking = some t)
    (hlatest : s.Latest r)
    (hgiven : given r) :
    s.openReceiver r.id = (.error (.alreadyReceived r.id), s) := by
  have hledger := (h.regular r.id).ledger
  have hgone : t.holdsReceiver = false := by
    rw [h.eq_of_latest hreleased ht hlatest] at hgiven
    exact (h.holdsReceiver_iff hcustody ht).2 hgiven
  exact openReceiver_of_holdsReceiver_eq_false hledger ht hgone

end Orderly
end Mailboxes
end ScatterGather
