import ScatterGather.Proofs.Mailboxes.Tracked
import ScatterGather.Proofs.Session.Closing
import ScatterGather.Proofs.Session.Custody

/-!
# For how long mailboxes are tracked

A mailbox is tracked from when one of its ends is first opened until its channel is of no use to
anybody: its receiver was given out and dropped, and senders were opened on it, of which none is
left. When the mailbox is opened after that, it is tracked again, with a new channel.

**Results.** This is so after every run that releases nothing, and as many mailboxes are counted. A
mailbox has at most one receiver that is there, at one place; as long as the mailbox is tracked, who
asks for another one is refused and changes nothing. Once all channels are done with, nothing is
tracked.
-/

namespace ScatterGather

/-- A place where a receiver can be: a name that it is held under, or an input of a merge. -/
inductive Place where
  | name (name : String)
  | input (merge input : Nat)
deriving DecidableEq

namespace Session

variable {s : Session} {r r' : Receiver} {id : MailboxId} {place place' : Place}
variable {H : History} {attached spent given : Receiver → Prop}

/-- A receiver is at a place. A merge has those of its inputs that it still receives from. -/
def HasAt (s : Session) : Place → Receiver → Prop
  | .name name, r => s.find? name = some (.receiver r)
  | .input number i, r => ∃ m, Registry.find? s.mailboxes.merges number = some m ∧
      i ∈ m.live ∧ m.receivers[i]? = some r

/-- A run opened a sender of a mailbox, or was given its receiver. -/
def OpenedBy (s : Session) (steps : List Step) (id : MailboxId) : Prop :=
  (∃ sender ∈ s.opens steps, sender.id = id) ∨ ∃ r ∈ s.given steps, r.id = id

/-- A run was given a receiver, which is there no more. -/
def ReceiverDone (s : Session) (steps : List Step) (r : Receiver) : Prop :=
  r ∈ s.given steps ∧ ¬ (s.run steps).2.Alive r

/-- A run opened a mailbox, and is not done with both ends of the latest channel of it. -/
def Needs (s : Session) (steps : List Step) (id : MailboxId) : Prop :=
  s.OpenedBy steps id ∧ ∀ r, r.id = id → (s.run steps).2.mailboxes.Latest r →
    ¬ (s.ReceiverDone steps r ∧ s.SendersDone steps r)

/-! ## Receivers at their places -/

theorem alive_iff_hasAt : s.Alive r ↔ ∃ place, s.HasAt place r := by
  constructor
  · rintro (⟨name, hname⟩ | ⟨number, m, hm, i, hi, hr⟩)
    · exact ⟨.name name, hname⟩
    · exact ⟨.input number i, m, hm, hi, hr⟩
  · rintro ⟨name | ⟨number, i⟩, hplace⟩
    · exact Or.inl ⟨name, hplace⟩
    · obtain ⟨m, hm, hi, hr⟩ := hplace
      exact Or.inr ⟨number, m, hm, i, hi, hr⟩

/-- A receiver is at one place. -/
theorem Orderly.place_eq
    (h : s.Orderly H attached spent)
    (hplace : s.HasAt place r)
    (hplace' : s.HasAt place' r) :
    place = place' := by
  have hunique := h.mailboxes.sound.unique
  cases place with
  | name name =>
      have hname : s.mailboxes.Holds s.Receives none r := ⟨name, hplace⟩
      cases place' with
      | name other =>
          rw [h.single name other r hplace hplace']
      | input number i =>
          obtain ⟨m, hm, -, hr⟩ := hplace'
          cases hunique none (some number) r hname ⟨m, hm, List.mem_of_getElem? hr⟩
  | input number i =>
      obtain ⟨m, hm, -, hr⟩ := hplace
      have hheld : s.mailboxes.Holds s.Receives (some number) r := ⟨m, hm, List.mem_of_getElem? hr⟩
      cases place' with
      | name other =>
          cases hunique (some number) none r hheld ⟨other, hplace'⟩
      | input number' j =>
          obtain ⟨m', hm', -, hr'⟩ := hplace'
          cases hunique (some number) (some number') r hheld ⟨m', hm', List.mem_of_getElem? hr'⟩
          cases hm.symm.trans hm'
          have hnodup := (h.mailboxes.sound.follows number m hm).nodup
          have hi := (List.getElem?_eq_some_iff.1 hr).1
          rw [(List.getElem?_inj hi hnodup).1 (hr.trans hr'.symm)]

/-! ## Mailboxes that were opened -/

/-- Where a sender was opened, one was opened on a channel: one that belongs to no channel comes
after others. -/
theorem Orderly.exists_attached_of_mem_opens
    {steps : List Step} {sender : Sender}
    (h : s.Orderly H attached spent)
    (hsender : sender ∈ s.opens steps) :
    ∃ r : Receiver, r.id = sender.id ∧ (attached r ∨ r.sender ∈ s.opens steps) := by
  induction steps generalizing s H attached with
  | nil =>
      cases hsender
  | cons step steps ih =>
      rcases List.mem_append.1 hsender with hfirst | hrest
      · cases step with
        | openSender id name =>
            obtain rfl : sender = (s.mailboxes.openSender id).1 := List.mem_singleton.1 hfirst
            cases hanswer : ((s.mailboxes.box id).openSender s.mailboxes.capacity).answer with
            | none =>
                obtain ⟨g, hg⟩ :=
                  (h.mailboxes.regular id).ledger.exists_joined_of_openSender hanswer
                exact ⟨⟨id, g⟩, rfl, Or.inl hg⟩
            | some g =>
                have hopened : (⟨id, g⟩ : Receiver).sender = (s.mailboxes.openSender id).1 :=
                  congrArg (Sender.mk id) hanswer.symm
                exact ⟨⟨id, g⟩, rfl, Or.inr (hopened ▸ hsender)⟩
        | _ =>
            cases hfirst
      · obtain ⟨r, hid, hr⟩ := ih ((takes_step s step).orderly h) hrest
        refine ⟨r, hid, ?_⟩
        rw [opens, List.mem_append, ← or_assoc]
        exact hr

/-! ## Runs -/

/-- **Tracking.** After a run that releases nothing, those mailboxes are tracked that were opened
and whose latest channel is needed, and they are counted. A mailbox has one receiver at most that is
there, and at one place. If a mailbox is tracked and its receiver was given out, who asks for it is
refused, and nothing changes. Once the run is done with every channel there was, nothing is
tracked. -/
theorem mem_tracked_iff_needs
    (host : String) (mailboxPort : UInt16) (capacity : Nat) (steps : List Step)
    (hreleased : ∀ id, .release id ∉ steps) :
    let start := ofMailboxes (.create host mailboxPort capacity)
    let s := (start.run steps).2
    (∀ id, id ∈ s.mailboxes.tracked ↔ start.Needs steps id) ∧
    (∃ ids : List MailboxId, ids.Nodup ∧ (∀ id, id ∈ ids ↔ start.Needs steps id) ∧
      s.mailboxes.count = ids.length) ∧
    (∀ place place' r r', s.HasAt place r → s.HasAt place' r' → r.id = r'.id →
      place = place' ∧ r = r') ∧
    (∀ r, r.id ∈ s.mailboxes.tracked → s.mailboxes.Latest r → r ∈ start.given steps →
      ∀ name, s.step (.openReceiver r.id name) = (.failed (.alreadyReceived r.id), s)) ∧
    ((∀ r, s.mailboxes.Created r → start.ReceiverDone steps r ∧ start.SendersDone steps r) →
      s.mailboxes.count = 0) := by
  intro start s
  have horderly : s.Orderly (start.history (steps.map .step))
      (fun r => r.sender ∈ start.opens steps) (fun _ => False) :=
    orderly_run host mailboxPort capacity steps
  have hcustody : s.Custody (· ∈ start.given steps) :=
    custody_run host mailboxPort capacity hreleased
  have hentries : (Registry.keys s.mailboxes.boxes).Nodup :=
    (leaves_run start steps).entries List.nodup_nil
  have hnever : ∀ id, .released id ∉ start.history (steps.map .step) :=
    fun id => released_not_mem_history (hreleased id)
  have hopened : ∀ id, start.OpenedBy steps id ↔ ∃ r, r.id = id ∧ s.mailboxes.Latest r := by
    intro id
    rw [horderly.mailboxes.exists_latest_iff hcustody (hnever id)]
    constructor
    · rintro (⟨sender, hsender, rfl⟩ | ⟨r, hr, rfl⟩)
      · obtain ⟨r, hid, hr⟩ :=
          (orderly_start host mailboxPort capacity).exists_attached_of_mem_opens hsender
        exact ⟨r, hid, Or.inl (hr.resolve_left not_false)⟩
      · exact ⟨r, rfl, Or.inr hr⟩
    · rintro ⟨r, rfl, hr | hr⟩
      · exact Or.inl ⟨r.sender, hr, rfl⟩
      · exact Or.inr ⟨r, hr, rfl⟩
  have hlatest : ∀ r, s.mailboxes.Latest r → (r.id ∈ s.mailboxes.tracked ↔
      ¬ (start.ReceiverDone steps r ∧ start.SendersDone steps r)) := by
    intro r hr
    have hiff := horderly.mailboxes.mem_tracked_iff_of_latest hcustody hentries (hnever r.id) hr
    rwa [horderly.lent_eq_zero_iff_not_holdsSender] at hiff
  have htracked : ∀ id, id ∈ s.mailboxes.tracked ↔ start.Needs steps id := by
    intro id
    constructor
    · intro hid
      obtain ⟨t, ht⟩ := (Mailboxes.mem_tracked_iff hentries).1 hid
      have hcurrent := ((horderly.mailboxes.regular id).tended (hnever id)).current t ht
      refine ⟨(hopened id).2 ⟨⟨id, t.generation⟩, rfl, hcurrent.latest⟩, ?_⟩
      rintro r rfl hr
      exact (hlatest r hr).1 hid
    · rintro ⟨hid, hneeds⟩
      obtain ⟨r, rfl, hr⟩ := (hopened id).1 hid
      exact (hlatest r hr).2 (hneeds r rfl hr)
  refine ⟨htracked, ⟨s.mailboxes.tracked, Mailboxes.nodup_tracked hentries, htracked, rfl⟩,
    ?_, ?_, ?_⟩
  · intro place place' r r' hplace hplace' hid
    obtain rfl : r = r' := horderly.mailboxes.eq_of_alive (hnever r.id)
      (alive_iff_hasAt.2 ⟨place, hplace⟩) (alive_iff_hasAt.2 ⟨place', hplace'⟩) hid
    exact ⟨horderly.place_eq hplace hplace', rfl⟩
  · intro r hid hr hgiven name
    obtain ⟨t, ht⟩ := (Mailboxes.mem_tracked_iff hentries).1 hid
    have hrefused :=
      horderly.mailboxes.openReceiver_of_given hcustody (hnever r.id) ht hr hgiven
    rw [step_openReceiver_of_error (congrArg Prod.fst hrefused), hrefused]
    rfl
  · intro hdone
    refine List.length_eq_zero_iff.2 (List.eq_nil_iff_forall_not_mem.2 fun id hid => ?_)
    obtain ⟨hopen, hneeds⟩ := (htracked id).1 hid
    obtain ⟨r, rfl, hr⟩ := (hopened id).1 hopen
    exact hneeds r rfl hr (hdone r hr.created)

/-- A mailbox is used by a worker and its broker, who are done with it, and then by two others. -/
def takeTurns : List Step :=
  [.openReceiver soleId "in", .openSender soleId "a", .drop "in", .drop "a",
   .openSender soleId "b", .openReceiver soleId "again"]

/-- Nothing is tracked between the two uses, and the second receiver is the only one. -/
theorem mem_tracked_iff_needs_takeTurns :
    let start := ofMailboxes (.create "broker" 9000 4)
    let first := (start.run (takeTurns.take 4)).2
    let s := (start.run takeTurns).2
    (∀ id, .release id ∉ takeTurns) ∧
    (start.ReceiverDone (takeTurns.take 4) ⟨soleId, 0⟩ ∧
      start.SendersDone (takeTurns.take 4) ⟨soleId, 0⟩) ∧
    first.mailboxes.count = 0 ∧ ¬ start.Needs (takeTurns.take 4) soleId ∧
    start.Needs takeTurns soleId ∧ s.mailboxes.count = 1 ∧
    (∀ place r, s.HasAt place r → r.id = soleId → place = .name "again") ∧
    s.step (.openReceiver soleId "more") = (.failed (.alreadyReceived soleId), s) := by
  intro start first s
  have hreleased : ∀ id, .release id ∉ takeTurns := by simp [takeTurns]
  have hreleased' : ∀ id, .release id ∉ takeTurns.take 4 := by simp [takeTurns]
  obtain ⟨hneeds, -, hplaces, hrefused, -⟩ :=
    mem_tracked_iff_needs "broker" 9000 4 takeTurns hreleased
  obtain ⟨hneeds', -, -, -, hempty⟩ :=
    mem_tracked_iff_needs "broker" 9000 4 (takeTurns.take 4) hreleased'
  have hheld : first.held = [] := by decide +kernel
  have hmerges : first.mailboxes.merges = [] := by decide +kernel
  have hboxes : Registry.keys first.mailboxes.boxes = [soleId] := by decide +kernel
  have hchannels : (first.mailboxes.box soleId).channels.length = 1 := by decide +kernel
  have hgiven : ⟨soleId, 0⟩ ∈ start.given (takeTurns.take 4) := by decide +kernel
  have hopened : (⟨soleId, 0⟩ : Receiver).sender ∈ start.opens (takeTurns.take 4) := by
    decide +kernel
  have hname : ∀ name, first.find? name = none := by
    intro name
    rw [find?, hheld]
    rfl
  have hdone : start.ReceiverDone (takeTurns.take 4) ⟨soleId, 0⟩ ∧
      start.SendersDone (takeTurns.take 4) ⟨soleId, 0⟩ := by
    refine ⟨⟨hgiven, ?_⟩, hopened, ?_⟩
    · rintro (⟨name, hreceiver⟩ | ⟨number, m, hm, -⟩)
      · cases (hname name).symm.trans hreceiver
      · rw [show (start.run (takeTurns.take 4)).2.mailboxes.merges = [] from hmerges] at hm
        cases hm
    · rintro ⟨name, hsender | ⟨pending, hpending, -⟩⟩
      · cases (hname name).symm.trans hsender
      · cases (hname name).symm.trans hpending
  have hall : ∀ r, first.mailboxes.Created r →
      start.ReceiverDone (takeTurns.take 4) r ∧ start.SendersDone (takeTurns.take 4) r := by
    rintro ⟨id, g⟩ hcreated
    unfold Mailboxes.Created at hcreated
    by_cases hid : id = soleId
    · subst hid
      rw [hchannels] at hcreated
      obtain rfl : g = 0 := Nat.lt_one_iff.1 hcreated
      exact hdone
    · have habsent : Registry.find? first.mailboxes.boxes id = none := by
        by_contra hthere
        have hmem := Registry.mem_keys_iff.2 hthere
        rw [hboxes] at hmem
        exact hid (List.mem_singleton.1 hmem)
      rw [Mailboxes.box, habsent] at hcreated
      exact absurd hcreated (Nat.not_lt_zero g)
  have hcount := hempty hall
  have hunneeded : ¬ start.Needs (takeTurns.take 4) soleId := by
    intro hneeded
    have hmem := (hneeds' soleId).2 hneeded
    rw [List.length_eq_zero_iff.1 hcount] at hmem
    cases hmem
  -- What is computed stands where it is asked for: against `s` it would be run a second time.
  have hneeded : start.Needs takeTurns soleId := (hneeds soleId).1 (by decide +kernel)
  have hagain : ∀ place r, s.HasAt place r → r.id = soleId → place = .name "again" := by
    intro place r hplace hid
    exact (hplaces place (.name "again") r ⟨soleId, 1⟩ hplace
      (by unfold HasAt; decide +kernel) hid).1
  have hmore : s.step (.openReceiver soleId "more") = (.failed (.alreadyReceived soleId), s) :=
    hrefused ⟨soleId, 1⟩ (by decide +kernel) (by unfold Mailboxes.Latest; decide +kernel)
      (by decide +kernel) "more"
  refine ⟨hreleased, hdone, hcount, hunneeded, hneeded, by decide +kernel, hagain, hmore⟩

end Session
end ScatterGather
