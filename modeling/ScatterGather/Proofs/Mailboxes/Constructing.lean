import ScatterGather.Proofs.Mailboxes.Apart

/-!
# Receivers opened all or none

A merge opens the receivers of its mailboxes one after the other. The first that is refused ends
this, and those that were opened before it are dropped again.

**Results.** A receiver is refused when it was given out before, and then nothing changes. Receivers
are opened all if the mailboxes are distinct and the receiver of none was given out. Otherwise it is
the first mailbox that stands for the second time, or whose receiver was given out, that is refused,
and the receivers of those before it are taken and dropped; apart from that nothing changes.
-/

namespace ScatterGather

namespace Mailbox

variable {lent : Nat → Nat} {joined : Nat → Prop} {m : Mailbox} {capacity : Nat}

/-- The current channel is tracked, and its receiver was given out. -/
def Taken (m : Mailbox) : Prop :=
  ∃ t, m.tracking = some t ∧ t.holdsReceiver = false

/-- The receiver of a channel was given out, and the channel is the current one. -/
def ReceivedFrom (m : Mailbox) (g : Nat) : Prop :=
  ∃ t, m.tracking = some t ∧ t.generation = g ∧ t.holdsReceiver = false

theorem ReceivedFrom.taken
    {g : Nat}
    (h : m.ReceivedFrom g) :
    m.Taken := by
  obtain ⟨t, ht, -, hgiven⟩ := h
  exact ⟨t, ht, hgiven⟩

/-- The generation whose receiver is to be given out: the current one, or a new one. -/
def offered (m : Mailbox) : Nat :=
  match m.tracking with
  | some t => t.generation
  | none => m.channels.length

/-- The receiver that is given out is that of the current channel. It is refused when it was given
out before. -/
theorem answer_openReceiver (m : Mailbox) (capacity : Nat) :
    (m.Taken → (m.openReceiver capacity).answer = none) ∧
      (¬ m.Taken → (m.openReceiver capacity).answer = some m.offered) := by
  unfold Taken openReceiver ensure offered
  cases ht : m.tracking with
  | none =>
      simp [Tracking.ofNew]
  | some t =>
      cases hholds : t.holdsReceiver <;> simp [hholds]

theorem woken_openReceiver (m : Mailbox) (capacity : Nat) :
    (m.openReceiver capacity).woken = none := by
  unfold openReceiver
  dsimp only
  split <;> rfl

/-- A receiver that was given out before is not the one to be given out. -/
theorem ne_offered_of_issued
    {g : Nat}
    (hissued : (m.slot g).Issued)
    (htaken : ¬ m.Taken) :
    g ≠ m.offered := by
  rintro rfl
  obtain ⟨hthere, hgiven⟩ := hissued
  unfold offered at hthere hgiven
  cases ht : m.tracking with
  | none =>
      rw [ht] at hthere
      exact hthere (List.getElem?_eq_none (Nat.le_refl _))
  | some t =>
      rw [ht] at hgiven
      refine hgiven ⟨t, ht, rfl, ?_⟩
      rw [← Bool.not_eq_false]
      exact fun hgone => htaken ⟨t, ht, hgone⟩

/-- The channel of a receiver that was given out is left alone. -/
theorem Ledger.channel_openReceiver
    {g : Nat}
    (h : m.Ledger lent joined)
    (hissued : (m.slot g).Issued)
    (capacity : Nat) :
    (m.openReceiver capacity).box.channels[g]? = m.channels[g]? := by
  refine (agreesAt_openReceiver h capacity fun hanswer => ?_).channel
  obtain ⟨hbefore, -⟩ := openReceiver_answer hanswer
  rcases hbefore with hkept | ⟨hnone, -⟩
  · exact hissued.2 hkept
  · exact hissued.1 hnone

/-- What is tracked of a mailbox after its receiver was given out. -/
theorem tracking_openReceiver
    (htaken : ¬ m.Taken)
    (capacity : Nat) :
    ∃ t, (m.openReceiver capacity).box.tracking = some t ∧ t.generation = m.offered ∧
      t.holdsReceiver = false ∧
      (t.senderAttached = true ↔ ∃ t₀, m.tracking = some t₀ ∧ t₀.senderAttached = true) := by
  unfold Taken at htaken
  unfold openReceiver ensure offered
  cases ht : m.tracking with
  | none =>
      obtain ⟨_, hsettled⟩ := exists_tracking_settle
        { channels := m.channels ++ [Channel.create capacity],
          tracking := some (Tracking.ofNew m.channels.length) }
        { Tracking.ofNew m.channels.length with holdsReceiver := false }
      exact ⟨_, hsettled, rfl, rfl, by simp [Tracking.ofNew]⟩
  | some t =>
      have hholds : t.holdsReceiver = true := by
        rw [← Bool.not_eq_false]
        exact fun hgiven => htaken ⟨t, ht, hgiven⟩
      obtain ⟨_, hsettled⟩ := exists_tracking_settle m { t with holdsReceiver := false }
      dsimp only
      rw [if_pos hholds]
      exact ⟨_, hsettled, rfl, rfl, by simp⟩

theorem receivedFrom_openReceiver
    (htaken : ¬ m.Taken)
    (capacity : Nat) :
    (m.openReceiver capacity).box.ReceivedFrom m.offered := by
  obtain ⟨t, ht, hcurrent, hgiven, -⟩ := tracking_openReceiver htaken capacity
  exact ⟨t, ht, hcurrent, hgiven⟩

/-- The mailbox after its receiver was taken and dropped. -/
def spend (m : Mailbox) (capacity : Nat) : Mailbox :=
  ((m.openReceiver capacity).box.dropReceiver m.offered).box

/-- What is left of a mailbox whose receiver was taken and dropped: the current channel is closed
and its other ones are as they were, and the mailbox is forgotten if it had been attached to and no
sender is left. -/
structure Spent (m m' : Mailbox) : Prop where
  closed : ∃ c, m'.channels[m.offered]? = some c ∧ c.receiving = false
  others : ∀ g, g ≠ m.offered → m'.channels[g]? = m.channels[g]?
  noted : ∀ t, m'.tracking = some t →
    t.generation = m.offered ∧ t.holdsReceiver = false ∧ t.receiverDropped = true
  forgotten : m'.tracking = none ↔
    (∃ t, m.tracking = some t ∧ t.senderAttached = true) ∧ m'.senders m.offered = 0

theorem Ledger.spent
    (h : m.Ledger lent joined)
    (htaken : ¬ m.Taken)
    (capacity : Nat) :
    m.Spent (m.spend capacity) := by
  have hopened := h.openReceiver capacity
  have hagrees : ∀ g, g ≠ m.offered → AgreesAt g m (m.openReceiver capacity).box := by
    intro g hg
    refine agreesAt_openReceiver h capacity fun heq => hg ?_
    rw [(answer_openReceiver m capacity).2 htaken] at heq
    exact (Option.some.inj heq).symm
  obtain ⟨t, ht, hcurrent, hgiven, hattached⟩ := tracking_openReceiver htaken capacity
  have hdropped := fun g hg => agreesAt_dropReceiver (g := g) ht hcurrent hg
  have hsenders := senders_dropReceiver (m.openReceiver capacity).box m.offered m.offered
  unfold spend
  generalize (m.openReceiver capacity).box = opened at *
  obtain ⟨c, hc⟩ := Option.ne_none_iff_exists'.1 (hopened.current t ht)
  have hholds : t.holdsSender = false ↔ t.senderAttached = true := by
    simp [hopened.settled t ht, hgiven]
  have htracking : (opened.dropReceiver m.offered).box.tracking =
      if isFinished { opened with tracking := some t.withoutReceiver } t.withoutReceiver then none
      else some t.withoutReceiver := by
    unfold Mailbox.dropReceiver
    simp only [ht, Option.map_some, Mailbox.forgetIfFinished]
    split <;> rfl
  refine ⟨?_, ?_, ?_, ?_⟩
  · refine ⟨c.close, ?_, rfl⟩
    show (modify _ m.offered Channel.close).channels[m.offered]? = _
    refine getElem?_modify_self ?_ Channel.close
    rw [channels_forgetIfFinished, ← hcurrent]
    exact hc
  · intro g hg
    exact ((hdropped g (Ne.symm hg)).channel).trans (hagrees g hg).channel
  · intro t' ht'
    rw [htracking] at ht'
    split at ht'
    · cases ht'
    · cases ht'
      exact ⟨hcurrent, hgiven, rfl⟩
  · rw [htracking, hsenders, ← hattached, ← hholds, ← hcurrent]
    have hfinished : isFinished { opened with tracking := some t.withoutReceiver }
          t.withoutReceiver = true ↔
        t.holdsSender = false ∧ opened.senders t.generation = 0 := by
      rw [isFinished_iff]
      exact and_iff_right rfl
    rw [← hfinished]
    split <;> simp [*]

end Mailbox

namespace MergeRequest

/-- The senders that a request is about: all of them, but for a singleton exchange only those on the
receiver's own mailbox address. -/
def candidates (r : MergeRequest) : List Server :=
  match r.routing with
  | .singleton => r.senders.filter fun s => s.host = r.host && s.mailboxPort = r.mailboxPort
  | _ => r.senders

/-- A singleton exchange is about one sender. -/
def Admitted (r : MergeRequest) : Prop :=
  r.routing = .singleton → r.candidates.length = 1

theorem chosen_of_admitted
    {r : MergeRequest}
    (h : r.Admitted) :
    r.chosen = .ok r.candidates := by
  unfold Admitted at h
  unfold chosen candidates at *
  cases hrouting : r.routing with
  | singleton =>
      rw [hrouting] at h
      exact if_pos (h rfl)
  | _ =>
      rfl

theorem chosen_of_not_admitted
    {r : MergeRequest}
    (h : ¬ r.Admitted) :
    r.chosen = .error (.notOneSender r.host r.mailboxPort r.candidates.length) := by
  unfold Admitted at h
  obtain ⟨hrouting, hlength⟩ := Classical.not_imp.1 h
  unfold chosen candidates at *
  rw [hrouting] at hlength ⊢
  exact if_neg hlength

/-- The mailboxes of the senders that a request is about. -/
def ids (r : MergeRequest) : List MailboxId :=
  r.candidates.map r.idOf

end MergeRequest

namespace Mailboxes

variable {s s' s'' : Mailboxes} {id : MailboxId} {before : List MailboxId} {opened : List Receiver}

/-- Nothing but mailboxes changed: no merge, and nothing that concerns the whole process. -/
structure SameButBoxes (s s' : Mailboxes) : Prop where
  host : s'.host = s.host
  mailboxPort : s'.mailboxPort = s.mailboxPort
  capacity : s'.capacity = s.capacity
  merges : s'.merges = s.merges
  nextMerge : s'.nextMerge = s.nextMerge

theorem SameButBoxes.refl (s : Mailboxes) : SameButBoxes s s :=
  ⟨rfl, rfl, rfl, rfl, rfl⟩

theorem SameButBoxes.trans
    (h : SameButBoxes s s')
    (h' : SameButBoxes s' s'') :
    SameButBoxes s s'' where
  host := h'.host.trans h.host
  mailboxPort := h'.mailboxPort.trans h.mailboxPort
  capacity := h'.capacity.trans h.capacity
  merges := h'.merges.trans h.merges
  nextMerge := h'.nextMerge.trans h.nextMerge

/-- The senders of all mailboxes are accounted for. -/
def Balanced (s : Mailboxes) : Prop :=
  ∀ id, ∃ lent joined, (s.box id).Ledger lent joined

theorem Orderly.balanced
    {H : History} {outer : Receiver → Prop} {lent : Receiver → Nat}
    {attached spent : Receiver → Prop}
    (h : s.Orderly H outer lent attached spent) :
    s.Balanced :=
  fun id => ⟨_, _, (h.regular id).ledger⟩

/-! ## One receiver -/

/-- Who asks for a receiver that was given out is refused, and nothing changes. -/
theorem openReceiver_of_taken
    (h : s.Balanced)
    (htaken : (s.box id).Taken) :
    s.openReceiver id = (.error (.alreadyReceived id), s) := by
  obtain ⟨lent, joined, hledger⟩ := h id
  obtain ⟨t, ht, hgiven⟩ := htaken
  exact openReceiver_of_holdsReceiver_eq_false hledger ht hgiven

theorem openReceiver_of_not_taken (htaken : ¬ (s.box id).Taken) :
    s.openReceiver id = (.ok ⟨id, (s.box id).offered⟩, (s.openReceiver id).2) := by
  rw [openReceiver_eq, (Mailbox.answer_openReceiver (s.box id) s.capacity).2 htaken]

/-- Nobody is woken when a receiver is opened. -/
theorem sameButBoxes_openReceiver (s : Mailboxes) (id : MailboxId) :
    SameButBoxes s (s.openReceiver id).2 := by
  rw [openReceiver_eq]
  dsimp only [update]
  rw [Mailbox.woken_openReceiver]
  exact ⟨rfl, rfl, rfl, rfl, rfl⟩

theorem sameButBoxes_dropReceivers (s : Mailboxes) (receivers : List Receiver) :
    SameButBoxes s (receivers.foldl dropReceiver s) := by
  induction receivers generalizing s with
  | nil =>
      exact .refl s
  | cons r rest ih =>
      have hfirst : SameButBoxes s (s.dropReceiver r) := ⟨rfl, rfl, rfl, rfl, rfl⟩
      exact hfirst.trans (ih (s.dropReceiver r))

theorem box_dropReceiver (s : Mailboxes) (r : Receiver) (other : MailboxId) :
    (s.dropReceiver r).box other =
      if r.id = other then ((s.box r.id).dropReceiver r.generation).box else s.box other :=
  box_update s r.id other fun box => box.dropReceiver r.generation

/-- Receivers of distinct mailboxes are dropped independently of each other. -/
theorem box_dropReceivers
    {receivers : List Receiver}
    (hnodup : (receivers.map Receiver.id).Nodup)
    (s : Mailboxes) :
    (∀ r ∈ receivers, (receivers.foldl dropReceiver s).box r.id =
      ((s.box r.id).dropReceiver r.generation).box) ∧
    ∀ id, id ∉ receivers.map Receiver.id →
      (receivers.foldl dropReceiver s).box id = s.box id := by
  induction receivers generalizing s with
  | nil =>
      exact ⟨by simp, fun _ _ => rfl⟩
  | cons r rest ih =>
      rw [List.map_cons, List.nodup_cons] at hnodup
      obtain ⟨hnew, hnodup⟩ := hnodup
      obtain ⟨hdropped, hothers⟩ := ih hnodup (s.dropReceiver r)
      constructor
      · refine List.forall_mem_cons.2 ⟨?_, fun other hother => ?_⟩
        · refine (hothers r.id hnew).trans ?_
          rw [box_dropReceiver, if_pos rfl]
        · have hne : r.id ≠ other.id := fun heq => hnew (heq ▸ List.mem_map_of_mem hother)
          refine (hdropped other hother).trans ?_
          rw [box_dropReceiver, if_neg hne]
      · intro id hid
        rw [List.map_cons, List.mem_cons, not_or] at hid
        refine (hothers id hid.2).trans ?_
        rw [box_dropReceiver, if_neg (Ne.symm hid.1)]

/-! ## Receivers in turn -/

/-- The receivers of mailboxes, all of which could be given out, were opened in turn. -/
structure Opens (s : Mailboxes) (before : List MailboxId) (opened : List Receiver)
    (s' : Mailboxes) : Prop where
  distinct : before.Nodup
  untaken : ∀ id ∈ before, ¬ (s.box id).Taken
  receivers : opened = before.map fun id => ⟨id, (s.box id).offered⟩
  boxes : ∀ id, s'.box id =
    if id ∈ before then ((s.box id).openReceiver s.capacity).box else s.box id
  same : SameButBoxes s s'

namespace Opens

theorem start (s : Mailboxes) : s.Opens [] [] s :=
  ⟨List.nodup_nil, by simp, rfl, by simp, .refl s⟩

theorem balanced
    (hbalanced : s.Balanced)
    (h : s.Opens before opened s') :
    s'.Balanced := by
  intro id
  obtain ⟨lent, joined, hledger⟩ := hbalanced id
  rw [h.boxes]
  split
  · exact ⟨lent, joined, hledger.openReceiver s.capacity⟩
  · exact ⟨lent, joined, hledger⟩

/-- What cannot be given out any more: what was given out from the start, and what was opened. -/
theorem taken_iff (h : s.Opens before opened s') :
    (s'.box id).Taken ↔ id ∈ before ∨ (s.box id).Taken := by
  rw [h.boxes]
  split
  · next hid =>
      refine iff_of_true ?_ (Or.inl hid)
      exact (Mailbox.receivedFrom_openReceiver (h.untaken id hid) s.capacity).taken
  · next hid =>
      rw [or_iff_right hid]

/-- One more receiver is opened. -/
theorem next
    (h : s.Opens before opened s')
    (htaken : ¬ (s'.box id).Taken) :
    s.Opens (before ++ [id]) (opened ++ [⟨id, (s'.box id).offered⟩]) (s'.openReceiver id).2 := by
  have hfree : id ∉ before ∧ ¬ (s.box id).Taken := by
    rwa [h.taken_iff, not_or] at htaken
  have hbox : s'.box id = s.box id := by
    rw [h.boxes, if_neg hfree.1]
  refine ⟨?_, ?_, ?_, ?_, h.same.trans (sameButBoxes_openReceiver s' id)⟩
  · rw [← List.concat_eq_append, List.nodup_concat]
    exact ⟨hfree.1, h.distinct⟩
  · intro other hother
    rcases List.mem_append.1 hother with hother | hother
    · exact h.untaken other hother
    · rw [List.mem_singleton.1 hother]
      exact hfree.2
  · rw [h.receivers, hbox, List.map_append]
    rfl
  · intro other
    rw [box_openReceiver, h.boxes other, h.same.capacity, hbox]
    by_cases heq : id = other
    · subst heq
      simp
    · simp [heq, Ne.symm heq]

theorem map_id (h : s.Opens before opened s') : opened.map Receiver.id = before := by
  rw [h.receivers, List.map_map]
  exact List.map_id before

/-- Those that were opened are dropped again. -/
theorem box_dropReceivers
    (h : s.Opens before opened s')
    (id : MailboxId) :
    (opened.foldl dropReceiver s').box id =
      if id ∈ before then (s.box id).spend s.capacity else s.box id := by
  obtain ⟨hdropped, hothers⟩ := Mailboxes.box_dropReceivers (h.map_id ▸ h.distinct) s'
  split
  · next hid =>
      have hmem : (⟨id, (s.box id).offered⟩ : Receiver) ∈ opened := by
        rw [h.receivers]
        exact List.mem_map_of_mem hid
      refine (hdropped _ hmem).trans ?_
      rw [h.boxes, if_pos hid]
      rfl
  · next hid =>
      rw [hothers id (h.map_id ▸ hid), h.boxes, if_neg hid]

end Opens

/-- Opening receivers was refused at one of the mailboxes, which stands for the second time or whose
receiver was given out, and the receivers of those before it were taken and dropped. -/
structure Refuses (s : Mailboxes) (ids : List MailboxId) (fault : MailboxFault) (s' : Mailboxes) :
    Prop where
  first : ∃ before id after, ids = before ++ id :: after ∧
    before.Nodup ∧ (∀ other ∈ before, ¬ (s.box other).Taken) ∧
    (id ∈ before ∨ (s.box id).Taken) ∧
    fault = .alreadyReceived id ∧
    (∀ other ∈ before, s'.box other = (s.box other).spend s.capacity ∧
      (s.box other).Spent (s'.box other)) ∧
    ∀ other, other ∉ before → s'.box other = s.box other
  same : SameButBoxes s s'

/-- Opening receivers in turn, of which some are open already. -/
theorem Opens.openReceivers
    (h : s.Opens before opened s')
    (hbalanced : s.Balanced)
    (ids : List MailboxId) :
    (∃ receivers, (s'.openReceivers opened ids).1 = .ok receivers ∧
      s.Opens (before ++ ids) receivers (s'.openReceivers opened ids).2) ∨
    (∃ fault, (s'.openReceivers opened ids).1 = .error fault ∧
      s.Refuses (before ++ ids) fault (s'.openReceivers opened ids).2) := by
  induction ids generalizing before opened s' with
  | nil =>
      rw [List.append_nil]
      exact Or.inl ⟨opened, rfl, h⟩
  | cons id ids ih =>
      unfold Mailboxes.openReceivers
      by_cases htaken : (s'.box id).Taken
      · rw [openReceiver_of_taken (h.balanced hbalanced) htaken]
        refine Or.inr ⟨_, rfl, ⟨before, id, ids, rfl, h.distinct, h.untaken,
          h.taken_iff.1 htaken, rfl, ?_, ?_⟩, h.same.trans (sameButBoxes_dropReceivers s' opened)⟩
        · intro other hother
          obtain ⟨lent, joined, hledger⟩ := hbalanced other
          rw [h.box_dropReceivers, if_pos hother]
          exact ⟨rfl, hledger.spent (h.untaken other hother) s.capacity⟩
        · intro other hother
          rw [h.box_dropReceivers, if_neg hother]
      · have hnext := ih (h.next htaken)
        rw [List.append_assoc, List.singleton_append] at hnext
        rw [openReceiver_of_not_taken htaken]
        exact hnext

/-- Receivers are opened all, or one is refused. -/
theorem openReceivers_cases
    (hbalanced : s.Balanced)
    (ids : List MailboxId) :
    (∃ receivers, (s.openReceivers [] ids).1 = .ok receivers ∧
      s.Opens ids receivers (s.openReceivers [] ids).2) ∨
    (∃ fault, (s.openReceivers [] ids).1 = .error fault ∧
      s.Refuses ids fault (s.openReceivers [] ids).2) :=
  (Opens.start s).openReceivers hbalanced ids

/-- One is refused only where not all could be given out. -/
theorem Refuses.not_available
    {ids : List MailboxId} {fault : MailboxFault}
    (h : s.Refuses ids fault s') :
    ¬ (ids.Nodup ∧ ∀ id ∈ ids, ¬ (s.box id).Taken) := by
  obtain ⟨before, id, after, rfl, -, -, hid, -⟩ := h.first
  rintro ⟨hdistinct, huntaken⟩
  rcases hid with hbefore | htaken
  · exact (List.nodup_append.1 hdistinct).2.2 id hbefore id List.mem_cons_self rfl
  · exact huntaken id (List.mem_append_right _ List.mem_cons_self) htaken

/-- The channel of a receiver that was given out before is left alone. -/
theorem Opens.channel_eq
    {r : Receiver}
    (h : s.Opens before opened s')
    (hbalanced : s.Balanced)
    (hissued : (s.slot r).Issued) :
    (s'.slot r).channel? = (s.slot r).channel? := by
  obtain ⟨lent, joined, hledger⟩ := hbalanced r.id
  show (s'.box r.id).channels[r.generation]? = (s.box r.id).channels[r.generation]?
  rw [h.boxes]
  split
  · exact hledger.channel_openReceiver hissued s.capacity
  · rfl

theorem Refuses.channel_eq
    {ids : List MailboxId} {fault : MailboxFault} {r : Receiver}
    (h : s.Refuses ids fault s')
    (hissued : (s.slot r).Issued) :
    (s'.slot r).channel? = (s.slot r).channel? := by
  obtain ⟨before, -, -, -, -, huntaken, -, -, hspent, hothers⟩ := h.first
  show (s'.box r.id).channels[r.generation]? = (s.box r.id).channels[r.generation]?
  by_cases hid : r.id ∈ before
  · have hne := Mailbox.ne_offered_of_issued hissued (huntaken r.id hid)
    exact (hspent r.id hid).2.others r.generation hne
  · rw [hothers r.id hid]

/-! ## A merge -/

variable {request : MergeRequest}

theorem openMerge_of_not_admitted
    (h : ¬ request.Admitted)
    (s : Mailboxes) :
    s.openMerge request =
      (.error (.notOneSender request.host request.mailboxPort request.candidates.length), s) := by
  rw [openMerge, MergeRequest.chosen_of_not_admitted h]

theorem openMerge_of_admitted
    (h : request.Admitted)
    (s : Mailboxes) :
    s.openMerge request =
      match s.openReceivers [] request.ids with
      | (.error fault, s) => (.error fault, s)
      | (.ok receivers, s) =>
        (.ok s.nextMerge, { s with
          merges := Registry.set s.merges s.nextMerge
            (.ofReceivers request.schema request.routing receivers)
          nextMerge := s.nextMerge + 1 }) := by
  rw [openMerge, MergeRequest.chosen_of_admitted h]
  rfl

/-- A merge has the mailboxes that were asked for: each is received from, and its receiver is not
given out again. -/
structure Gathers (s : Mailboxes) (request : MergeRequest) (number : Nat) (s' : Mailboxes) :
    Prop where
  merge : ∃ m, Registry.find? s'.merges number = some m ∧ m.ids = request.ids ∧
    m.schema = request.schema ∧ m.routing = request.routing ∧
    ∀ i r, m.receivers[i]? = some r → i ∈ m.live ∧ (s'.box r.id).ReceivedFrom r.generation
  refused : ∀ id ∈ request.ids, s'.openReceiver id = (.error (.alreadyReceived id), s')
  others : ∀ id, id ∉ request.ids → s'.box id = s.box id

theorem Opens.gathers
    {receivers : List Receiver} {number : Nat}
    (h : s.Opens request.ids receivers s')
    (hbalanced : s.Balanced)
    (hboxes : s''.boxes = s'.boxes)
    (hmerge : Registry.find? s''.merges number =
      some (.ofReceivers request.schema request.routing receivers)) :
    s.Gathers request number s'' := by
  have hbox : ∀ id, s''.box id = s'.box id := fun id => by rw [box, box, hboxes]
  have hreceived : ∀ id ∈ request.ids, (s''.box id).ReceivedFrom (s.box id).offered := by
    intro id hid
    rw [hbox, h.boxes, if_pos hid]
    exact Mailbox.receivedFrom_openReceiver (h.untaken id hid) s.capacity
  have hbalanced' : s''.Balanced := by
    intro id
    rw [hbox]
    exact h.balanced hbalanced id
  refine ⟨⟨_, hmerge, h.map_id, rfl, rfl, fun i r hr => ⟨?_, ?_⟩⟩, ?_, ?_⟩
  · exact List.mem_range.2 (List.getElem?_eq_some_iff.1 hr).1
  · have hmem : r ∈ receivers := List.mem_of_getElem? hr
    rw [h.receivers] at hmem
    obtain ⟨id, hid, rfl⟩ := List.mem_map.1 hmem
    exact hreceived id hid
  · exact fun id hid => openReceiver_of_taken hbalanced' (hreceived id hid).taken
  · intro id hid
    rw [hbox, h.boxes, if_neg hid]

/-- A merge is opened over all mailboxes that were asked for, or over none. -/
theorem openMerge_cases
    (hbalanced : s.Balanced)
    (hadmitted : request.Admitted) :
    (∃ number, (s.openMerge request).1 = .ok number ∧
      (request.ids.Nodup ∧ ∀ id ∈ request.ids, ¬ (s.box id).Taken) ∧
      s.Gathers request number (s.openMerge request).2) ∨
    (∃ fault, (s.openMerge request).1 = .error fault ∧
      s.Refuses request.ids fault (s.openMerge request).2) := by
  rw [openMerge_of_admitted hadmitted]
  rcases openReceivers_cases hbalanced request.ids with
    ⟨receivers, hok, hopens⟩ | ⟨fault, herror, hrefuses⟩
  · generalize s.openReceivers [] request.ids = answered at hok hopens
    obtain ⟨_, s'⟩ := answered
    obtain rfl := hok
    refine Or.inl ⟨_, rfl, ⟨hopens.distinct, hopens.untaken⟩, hopens.gathers hbalanced rfl ?_⟩
    exact (Registry.find?_set _ _ _ _).trans (if_pos rfl)
  · generalize s.openReceivers [] request.ids = answered at herror hrefuses
    obtain ⟨_, s'⟩ := answered
    obtain rfl := herror
    exact Or.inr ⟨_, rfl, hrefuses⟩

/-- What the opening of a merge does to the other ones: the channels of receivers that were given
out before are left alone, and so are the merges. -/
structure Beside (s : Mailboxes) (request : MergeRequest) (s' : Mailboxes) : Prop where
  channel_eq : ∀ r, (s.slot r).Issued → (s'.slot r).channel? = (s.slot r).channel?
  merges : s'.merges = s.merges ∨ ∃ receivers, s'.merges =
    Registry.set s.merges s.nextMerge (.ofReceivers request.schema request.routing receivers)

theorem openMerge_beside
    (hbalanced : s.Balanced)
    (request : MergeRequest) :
    s.Beside request (s.openMerge request).2 := by
  by_cases hadmitted : request.Admitted
  · rw [openMerge_of_admitted hadmitted]
    rcases openReceivers_cases hbalanced request.ids with
      ⟨receivers, hok, hopens⟩ | ⟨fault, herror, hrefuses⟩
    · generalize s.openReceivers [] request.ids = answered at hok hopens
      obtain ⟨_, s'⟩ := answered
      obtain rfl := hok
      refine ⟨fun r hissued => hopens.channel_eq hbalanced hissued, Or.inr ⟨receivers, ?_⟩⟩
      dsimp only
      rw [hopens.same.merges, hopens.same.nextMerge]
    · generalize s.openReceivers [] request.ids = answered at herror hrefuses
      obtain ⟨_, s'⟩ := answered
      obtain rfl := herror
      exact ⟨fun r => hrefuses.channel_eq, Or.inl hrefuses.same.merges⟩
  · rw [openMerge_of_not_admitted hadmitted]
    exact ⟨fun _ _ => rfl, Or.inl rfl⟩

end Mailboxes
end ScatterGather
