import ScatterGather.Proofs.Mailboxes.History

/-!
# What a merge knows of its inputs

A merge marks the inputs whose end is known and counts the others. These marks and this count are
a tally of the pulls made so far: an input is marked exactly when a packet that ends a stream was
taken from it, or its mailbox was reported to have been broken off.

**Results.** Each thing that a pull can find takes a tally to a tally.
-/

namespace ScatterGather

namespace Pull

theorem eq_or_of_append_singleton
    {qs before after : List Pull} {q q' : Pull}
    (h : qs ++ [q] = before ++ q' :: after) :
    (before = qs ∧ q' = q) ∨ ∃ rest, qs = before ++ q' :: rest := by
  rcases List.eq_nil_or_concat after with rfl | ⟨rest, last, rfl⟩
  · obtain ⟨rfl, hq⟩ := List.append_inj' h rfl
    cases hq
    exact Or.inl ⟨rfl, rfl⟩
  · rw [List.concat_eq_append, ← List.cons_append, ← List.append_assoc] at h
    obtain ⟨rfl, -⟩ := List.append_inj' h rfl
    exact Or.inr ⟨rest, rfl⟩

/-- A pull did what it should, after the pulls in `before`: it passed on what it took, clean ends
apart; it ended the merge only when the end of every input was known; and it reported a mailbox to
have been broken off only if the end of that input was not known. -/
structure Faithful (receivers : List Receiver) (before : List Pull) (q : Pull) : Prop where
  inputs : ∀ i p, .took i p ∈ q.findings → i < receivers.length
  passed : ∀ i, (q.takes i).filter (· ≠ .cleanEnd) =
    (q.passed?.toList.filter fun entry => entry.1 = i).map Prod.snd
  packet : ∀ p, q.packet = some p →
    p = .cleanEnd ∨ (∃ i, q.passed? = some (i, p)) ∨
      ∃ i r, q.brokenOff? = some i ∧ receivers[i]? = some r ∧ p = Merge.brokenOff r.id
  cleanEnd : q.packet = some .cleanEnd → ∀ i < receivers.length, ∃ q' ∈ before ++ [q], q'.Ends i
  brokenOff : ∀ i, q.brokenOff? = some i →
    (∀ q' ∈ before, ¬ q'.Ends i) ∧ ∀ p ∈ q.takes i, p.isEnd = false

variable {receivers : List Receiver} {before : List Pull} {findings : List Finding}

/-- A pull that has not passed anything on has taken clean ends only. -/
theorem Faithful.silent
    (h : Faithful receivers before ⟨findings, none⟩)
    (i : Nat) :
    ((⟨findings, none⟩ : Pull).takes i).filter (· ≠ .cleanEnd) = [] := by
  rw [h.passed i]
  rfl

theorem faithful_start (receivers : List Receiver) (before : List Pull) :
    Faithful receivers before ⟨[], none⟩ where
  inputs i p hmem := by cases hmem
  passed i := rfl
  packet p hp := by cases hp
  cleanEnd h := by cases h
  brokenOff i h := by cases h

theorem Faithful.passCleanEnd
    (h : Faithful receivers before ⟨findings, none⟩)
    (hknown : ∀ i < receivers.length, ∃ q ∈ before ++ [⟨findings, some .cleanEnd⟩], q.Ends i) :
    Faithful receivers before ⟨findings, some .cleanEnd⟩ := by
  have hpassed : (⟨findings, some .cleanEnd⟩ : Pull).passed? = none := by
    unfold passed?
    split
    · next hp _ =>
        cases hp
        rfl
    · rfl
  have hbroken : (⟨findings, some .cleanEnd⟩ : Pull).brokenOff? = none := by
    unfold brokenOff?
    split
    · next hp _ =>
        cases hp
        rfl
    · rfl
  refine ⟨h.inputs, ?_, ?_, fun _ => hknown, ?_⟩
  · intro i
    rw [hpassed]
    exact h.silent i
  · intro p hp
    cases hp
    exact Or.inl rfl
  · intro i hi
    rw [hbroken] at hi
    cases hi

/-- A clean end is taken, and the pull goes on. -/
theorem Faithful.takeCleanEnd
    (h : Faithful receivers before ⟨findings, none⟩)
    {i : Nat}
    (hi : i < receivers.length) :
    Faithful receivers before ⟨findings ++ [.took i .cleanEnd], none⟩ := by
  refine ⟨?_, ?_, ?_, ?_, ?_⟩
  · intro j p hmem
    rcases List.mem_append.1 hmem with hmem | hmem
    · exact h.inputs j p hmem
    · cases List.mem_singleton.1 hmem
      exact hi
  · intro j
    rw [takes_append _ _ _ none, List.filter_append, h.silent j]
    by_cases hj : i = j <;> simp [Finding.takes, hj, passed?]
  · intro p hp
    cases hp
  · intro hp
    cases hp
  · intro j hj
    cases hj

/-- A packet is taken and passed on. -/
theorem Faithful.takeAndPass
    (h : Faithful receivers before ⟨findings, none⟩)
    {i : Nat} {p : Packet}
    (hi : i < receivers.length)
    (hp : p ≠ .cleanEnd) :
    Faithful receivers before ⟨findings ++ [.took i p], some p⟩ := by
  have hpassed : (⟨findings ++ [.took i p], some p⟩ : Pull).passed? = some (i, p) := by
    simp [passed?, hp]
  have hbroken : (⟨findings ++ [.took i p], some p⟩ : Pull).brokenOff? = none := by
    simp [brokenOff?]
  refine ⟨?_, ?_, ?_, ?_, ?_⟩
  · intro j p' hmem
    rcases List.mem_append.1 hmem with hmem | hmem
    · exact h.inputs j p' hmem
    · cases List.mem_singleton.1 hmem
      exact hi
  · intro j
    rw [takes_append _ _ _ none, List.filter_append, h.silent j, hpassed]
    by_cases hj : i = j <;> simp [Finding.takes, hj, hp]
  · intro p' hp'
    cases hp'
    exact Or.inr (Or.inl ⟨i, hpassed⟩)
  · intro hp'
    exact absurd (Option.some.inj hp') hp
  · intro j hj
    rw [hbroken] at hj
    cases hj

/-- An input is found to have nothing, or to have ended when its end was known, and the pull goes
on. -/
theorem Faithful.goOn
    (h : Faithful receivers before ⟨findings, none⟩)
    {f : Finding}
    (hf : ∀ j, f.takes j = []) :
    Faithful receivers before ⟨findings ++ [f], none⟩ := by
  refine ⟨?_, ?_, ?_, ?_, ?_⟩
  · intro j p hmem
    rcases List.mem_append.1 hmem with hmem | hmem
    · exact h.inputs j p hmem
    · cases List.mem_singleton.1 hmem
      simpa [Finding.takes] using hf j
  · intro j
    rw [takes_append _ _ _ none, List.filter_append, h.silent j]
    simp [hf, passed?]
  · intro p hp
    cases hp
  · intro hp
    cases hp
  · intro j hj
    cases hj

/-- An input is found to have ended although its end was not known. -/
theorem Faithful.breakOff
    (h : Faithful receivers before ⟨findings, none⟩)
    {i : Nat} {r : Receiver}
    (hr : receivers[i]? = some r)
    (hunknown : ∀ q ∈ before ++ [⟨findings, none⟩], ¬ q.Ends i) :
    Faithful receivers before ⟨findings ++ [.ended i], some (Merge.brokenOff r.id)⟩ := by
  have hne : Merge.brokenOff r.id ≠ .cleanEnd := by
    simp [Merge.brokenOff, Packet.failedEnd, Packet.cleanEnd]
  have hpassed :
      (⟨findings ++ [.ended i], some (Merge.brokenOff r.id)⟩ : Pull).passed? = none := by
    simp [passed?]
  have hbroken :
      (⟨findings ++ [.ended i], some (Merge.brokenOff r.id)⟩ : Pull).brokenOff? = some i := by
    simp [brokenOff?, hne]
  refine ⟨?_, ?_, ?_, ?_, ?_⟩
  · intro j p hmem
    rcases List.mem_append.1 hmem with hmem | hmem
    · exact h.inputs j p hmem
    · cases List.mem_singleton.1 hmem
  · intro j
    rw [takes_append _ _ _ none, List.filter_append, h.silent j, hpassed]
    simp [Finding.takes]
  · intro p hp
    cases hp
    exact Or.inr (Or.inr ⟨i, r, hbroken, hr, rfl⟩)
  · intro hp
    exact absurd (Option.some.inj hp) hne
  · intro j hj
    cases hbroken.symm.trans hj
    refine ⟨fun q hq => hunknown q (List.mem_append_left _ hq), ?_⟩
    intro p hp
    rw [takes_append _ _ _ none] at hp
    have hmem : p ∈ (⟨findings, none⟩ : Pull).takes i := by
      simpa [Finding.takes] using hp
    cases hend : p.isEnd with
    | false =>
        rfl
    | true =>
        exact absurd (Or.inl ⟨p, hmem, hend⟩) (hunknown _ (by simp))

theorem getLast?_of_passed?
    {q : Pull} {i : Nat} {p : Packet}
    (h : q.passed? = some (i, p)) :
    q.findings.getLast? = some (.took i p) := by
  unfold passed? at h
  split at h
  · next hlast =>
      split at h
      · cases h
      · cases h
        exact hlast
  · cases h

theorem mem_findings_of_passed?
    {q : Pull} {i : Nat} {p : Packet}
    (h : q.passed? = some (i, p)) :
    .took i p ∈ q.findings :=
  List.mem_of_getLast? (getLast?_of_passed? h)

/-- What a pull passes on, it took last. -/
theorem takes_of_passed?
    {q : Pull} {i : Nat} {p : Packet}
    (h : q.passed? = some (i, p)) :
    ∃ earlier, q.takes i = earlier ++ [p] := by
  obtain ⟨findings, hfindings⟩ := List.getLast?_eq_some_iff.1 (getLast?_of_passed? h)
  refine ⟨findings.flatMap (Finding.takes i), ?_⟩
  rw [takes, hfindings, List.flatMap_append]
  simp [Finding.takes]

theorem mem_findings_of_brokenOff?
    {q : Pull} {i : Nat}
    (h : q.brokenOff? = some i) :
    .ended i ∈ q.findings := by
  unfold brokenOff? at h
  split at h
  · next hlast =>
      split at h
      · cases h
      · cases h
        exact List.mem_of_getLast? hlast
  · cases h

theorem packet_of_brokenOff?
    {q : Pull} {i : Nat}
    (h : q.brokenOff? = some i) :
    ∃ p, q.packet = some p ∧ p ≠ .cleanEnd := by
  unfold brokenOff? at h
  split at h
  · next p _ hpacket _ =>
      split at h
      · cases h
      · next hne => exact ⟨p, hpacket, hne⟩
  · cases h

/-- A pull that passes a packet on does not report one itself. -/
theorem brokenOff?_of_passed?
    {q : Pull} {entry : Nat × Packet}
    (h : q.passed? = some entry) :
    q.brokenOff? = none := by
  unfold passed? at h
  unfold brokenOff?
  split at h
  · next hpacket hlast => simp [hpacket, hlast]
  · cases h

/-- The packet of a pull that reports a mailbox to have been broken off. -/
theorem Faithful.report
    {q : Pull} {i : Nat}
    (h : Faithful receivers before q)
    (hbroken : q.brokenOff? = some i) :
    ∃ r, receivers[i]? = some r ∧ q.packet = some (Merge.brokenOff r.id) := by
  obtain ⟨p, hpacket, hne⟩ := packet_of_brokenOff? hbroken
  rcases h.packet p hpacket with hclean | ⟨j, hpassed⟩ | ⟨j, r, hj, hr, rfl⟩
  · exact absurd hclean hne
  · rw [brokenOff?_of_passed? hpassed] at hbroken
    cases hbroken
  · cases hbroken.symm.trans hj
    exact ⟨r, hr, hpacket⟩

/-- What a pull relays is what it passed on. -/
theorem Faithful.relayed?_eq
    {q : Pull}
    (h : Faithful receivers before q) :
    q.relayed? = q.passed?.map Prod.snd := by
  cases hpacket : q.packet with
  | none =>
      simp [relayed?, passed?, hpacket]
  | some p =>
      rcases h.packet p hpacket with rfl | ⟨i, hpassed⟩ | ⟨i, r, hbroken, -, -⟩
      · have hnone : q.passed? = none := by
          unfold passed?
          rw [hpacket]
          split
          · next hp _ =>
              cases hp
              rfl
          · rfl
        simp [relayed?, hpacket, hnone]
      · have hne : p ≠ .cleanEnd := by
          rintro rfl
          unfold passed? at hpassed
          rw [hpacket] at hpassed
          split at hpassed
          · next hp _ =>
              cases hp
              cases hpassed
          · cases hpassed
        simp [relayed?, hpacket, hpassed, brokenOff?_of_passed? hpassed, hne]
      · have hnone : q.passed? = none := by
          cases hpassed : q.passed? with
          | none =>
              rfl
          | some entry =>
              rw [brokenOff?_of_passed? hpassed] at hbroken
              cases hbroken
        simp [relayed?, hpacket, hbroken, hnone]

theorem packet_of_relayed?
    {q : Pull} {p : Packet}
    (h : q.relayed? = some p) :
    q.packet = some p ∧ p ≠ .cleanEnd := by
  unfold relayed? at h
  split at h
  · next hpacket =>
      split at h
      · cases h
      · next hnone =>
          cases h
          exact ⟨hpacket, fun hclean => hnone (Or.inl hclean)⟩
  · cases h

theorem Faithful.packet_of_passed?
    {q : Pull} {i : Nat} {p : Packet}
    (hq : Faithful receivers before q)
    (h : q.passed? = some (i, p)) :
    q.packet = some p ∧ p ≠ .cleanEnd :=
  packet_of_relayed? (by rw [hq.relayed?_eq, h, Option.map_some])

/-- What pulls relay is made of what they took from each input, clean ends apart. -/
theorem isInterleaving_relayed
    {qs : List Pull}
    (h : ∀ q ∈ qs, ∃ before, Faithful receivers before q) :
    IsInterleaving receivers.length
      (fun i => (qs.flatMap fun q => q.takes i).filter (· ≠ .cleanEnd))
      (qs.filterMap relayed?) := by
  refine ⟨qs.filterMap passed?, ?_, ?_, ?_⟩
  · induction qs with
    | nil =>
        rfl
    | cons q qs ih =>
        obtain ⟨⟨before, hq⟩, hqs⟩ := List.forall_mem_cons.1 h
        rw [List.filterMap_cons, List.filterMap_cons, hq.relayed?_eq]
        cases q.passed? with
        | none =>
            exact ih hqs
        | some entry =>
            rw [List.map_cons, ih hqs]
            rfl
  · intro entry hentry
    obtain ⟨q, hq, hpassed⟩ := List.mem_filterMap.1 hentry
    obtain ⟨before, hfaithful⟩ := h q hq
    exact hfaithful.inputs entry.1 entry.2 (mem_findings_of_passed? hpassed)
  · intro i _
    dsimp only
    induction qs with
    | nil =>
        rfl
    | cons q qs ih =>
        obtain ⟨⟨before, hq⟩, hqs⟩ := List.forall_mem_cons.1 h
        rw [List.flatMap_cons, List.filter_append, ← ih hqs, hq.passed i, List.filterMap_cons]
        cases q.passed? with
        | none =>
            rfl
        | some entry =>
            by_cases hentry : entry.1 = i <;> simp [hentry]

theorem ends_none {i : Nat} :
    (⟨findings, none⟩ : Pull).Ends i ↔
      ∃ p ∈ (⟨findings, none⟩ : Pull).takes i, p.isEnd = true := by
  simp [Ends, brokenOff?]

theorem ends_cleanEnd {i : Nat} :
    (⟨findings, some .cleanEnd⟩ : Pull).Ends i ↔ (⟨findings, none⟩ : Pull).Ends i := by
  have hbroken : (⟨findings, some .cleanEnd⟩ : Pull).brokenOff? = none := by
    unfold brokenOff?
    split
    · next hp _ =>
        cases hp
        rfl
    · rfl
  rw [ends_none, Ends, hbroken]
  simp [takes]

theorem ends_took {i j : Nat} {p : Packet} {packet : Option Packet} :
    (⟨findings ++ [.took i p], packet⟩ : Pull).Ends j ↔
      (⟨findings, none⟩ : Pull).Ends j ∨ (j = i ∧ p.isEnd = true) := by
  have hbroken : (⟨findings ++ [.took i p], packet⟩ : Pull).brokenOff? = none := by
    unfold brokenOff?
    split
    · next hlast => simp at hlast
    · rfl
  rw [ends_none, Ends, hbroken, takes_append _ _ _ none]
  by_cases hj : i = j
  · subst hj
    simp [Finding.takes, or_and_right, exists_or]
  · simp [Finding.takes, hj, Ne.symm hj]

theorem ends_goOn
    {f : Finding}
    (hf : ∀ j, f.takes j = [])
    {j : Nat} :
    (⟨findings ++ [f], none⟩ : Pull).Ends j ↔ (⟨findings, none⟩ : Pull).Ends j := by
  rw [ends_none, ends_none, takes_append _ _ _ none]
  simp [hf]

theorem ends_breakOff {i j : Nat} {id : MailboxId} :
    (⟨findings ++ [.ended i], some (Merge.brokenOff id)⟩ : Pull).Ends j ↔
      (⟨findings, none⟩ : Pull).Ends j ∨ j = i := by
  have hne : Merge.brokenOff id ≠ .cleanEnd := by
    simp [Merge.brokenOff, Packet.failedEnd, Packet.cleanEnd]
  have hbroken : (⟨findings ++ [.ended i], some (Merge.brokenOff id)⟩ : Pull).brokenOff? =
      some i := by
    simp [brokenOff?, hne]
  rw [ends_none, Ends, hbroken, takes_append _ _ _ none, Option.some_inj]
  simp [Finding.takes, eq_comm (a := i)]

end Pull

namespace Merge

theorem receivers_finish (m : Merge) (i : Nat) : (m.finish i).receivers = m.receivers := by
  unfold finish
  split <;> rfl

theorem live_finish (m : Merge) (i : Nat) : (m.finish i).live = m.live := by
  unfold finish
  split <;> rfl

theorem length_finish (m : Merge) (i : Nat) :
    (m.finish i).finished.length = m.finished.length := by
  unfold finish
  split
  · exact List.length_set
  · rfl

theorem finished_finish
    {m : Merge} {i : Nat}
    (hi : i < m.finished.length)
    (j : Nat) :
    (m.finish i).finished[j]? = some true ↔ m.finished[j]? = some true ∨ j = i := by
  unfold finish
  split
  · next hfalse =>
      rw [List.getElem?_set]
      by_cases hj : i = j
      · subst hj
        simp [hi]
      · simp [hj, Ne.symm hj]
  · next hother =>
      constructor
      · exact Or.inl
      · rintro (htrue | rfl)
        · exact htrue
        · rw [List.getElem?_eq_getElem hi] at hother ⊢
          cases hvalue : m.finished[j] with
          | true =>
              rfl
          | false =>
              exact absurd (congrArg some hvalue) hother

theorem remaining_finish
    {m : Merge}
    (h : m.remaining = m.finished.count false)
    (i : Nat) :
    (m.finish i).remaining = (m.finish i).finished.count false := by
  unfold finish
  split
  · next hfalse =>
      obtain ⟨hi, hvalue⟩ := List.getElem?_eq_some_iff.1 hfalse
      show m.remaining - 1 = (m.finished.set i true).count false
      rw [List.count_set hi, hvalue, h]
      rfl
  · exact h

/-- The merge after a packet was taken from an input. -/
def note (m : Merge) (i : Nat) (p : Packet) : Merge :=
  if p.isEnd then m.finish i else m

theorem receivers_note (m : Merge) (i : Nat) (p : Packet) :
    (m.note i p).receivers = m.receivers := by
  unfold note
  split
  · exact receivers_finish m i
  · rfl

theorem live_note (m : Merge) (i : Nat) (p : Packet) : (m.note i p).live = m.live := by
  unfold note
  split
  · exact live_finish m i
  · rfl

theorem length_note (m : Merge) (i : Nat) (p : Packet) :
    (m.note i p).finished.length = m.finished.length := by
  unfold note
  split
  · exact length_finish m i
  · rfl

theorem remaining_note
    {m : Merge}
    (h : m.remaining = m.finished.count false)
    (i : Nat) (p : Packet) :
    (m.note i p).remaining = (m.note i p).finished.count false := by
  unfold note
  split
  · exact remaining_finish h i
  · exact h

theorem finished_note
    {m : Merge} {i : Nat} {p : Packet}
    (hi : i < m.finished.length)
    (j : Nat) :
    (m.note i p).finished[j]? = some true ↔
      m.finished[j]? = some true ∨ (j = i ∧ p.isEnd = true) := by
  unfold note
  split
  · next hend =>
      simp [finished_finish hi, hend]
  · next hend =>
      simp [hend]

theorem settled_finish (m : Merge) (i : Nat) : (m.finish i).settled = m.settled.finish i := by
  unfold finish settled
  dsimp only
  split <;> rfl

theorem settled_note (m : Merge) (i : Nat) (p : Packet) :
    (m.note i p).settled = m.settled.note i p := by
  unfold note
  split
  · exact settled_finish m i
  · rfl

/-- What the marks and the count of a merge say of its pulls. -/
structure Tally (m : Merge) (qs : List Pull) : Prop where
  length : m.finished.length = m.receivers.length
  remaining : m.remaining = m.finished.count false
  finished : ∀ i < m.receivers.length, m.finished[i]? = some true ↔ ∃ q ∈ qs, q.Ends i
  gone : ∀ i < m.receivers.length, i ∉ m.live → m.finished[i]? = some true
  brokenOff : ∀ q ∈ qs, ∀ i, q.brokenOff? = some i → i ∉ m.live
  cleanEnd : ∀ q ∈ qs, q.packet = some .cleanEnd → m.remaining = 0
  faithful : ∀ before q after, qs = before ++ q :: after → q.Faithful m.receivers before

namespace Tally

variable {m m' : Merge} {qs : List Pull} {q q' : Pull}

theorem start (schema : Schema) (routing : Routing) (receivers : List Receiver) :
    (Merge.ofReceivers schema routing receivers).Tally [] where
  length := List.length_replicate
  remaining := by simp [ofReceivers]
  finished i hi := by
    have hlt : i < receivers.length := hi
    simp [ofReceivers, hlt]
  gone i hi hlive := absurd (List.mem_range.2 hi) hlive
  brokenOff q hq := by cases hq
  cleanEnd q hq := by cases hq
  faithful before q after h := by
    have hlength := congrArg List.length h
    simp at hlength

/-- The queue of a merge does not matter. -/
theorem of_settled
    (h : m.Tally qs)
    (hsettled : m'.settled = m.settled) :
    m'.Tally qs := by
  cases m
  cases m'
  simp only [settled, mk.injEq] at hsettled
  obtain ⟨rfl, rfl, rfl, rfl, rfl, rfl, -⟩ := hsettled
  exact ⟨h.length, h.remaining, h.finished, h.gone, h.brokenOff, h.cleanEnd, h.faithful⟩

/-- Nothing is counted any more exactly when every end is known. -/
theorem remaining_eq_zero_iff (h : m.Tally qs) :
    m.remaining = 0 ↔ ∀ i < m.receivers.length, m.finished[i]? = some true := by
  rw [h.remaining, List.count_eq_zero]
  constructor
  · intro hnone i hi
    rw [← h.length] at hi
    rw [List.getElem?_eq_getElem hi]
    cases hvalue : m.finished[i] with
    | true =>
        rfl
    | false =>
        exact absurd (hvalue ▸ List.getElem_mem hi) hnone
  · intro hall hmem
    obtain ⟨i, hi, hvalue⟩ := List.getElem_of_mem hmem
    have htrue := hall i (h.length ▸ hi)
    rw [List.getElem?_eq_getElem hi, hvalue] at htrue
    cases htrue

/-- A pull begins. -/
theorem begin (h : m.Tally qs) : m.Tally (qs ++ [⟨[], none⟩]) := by
  have hquiet : ∀ i, ¬ (⟨[], none⟩ : Pull).Ends i := by
    intro i hends
    simp [Pull.ends_none, Pull.takes] at hends
  refine ⟨h.length, h.remaining, ?_, h.gone, ?_, ?_, ?_⟩
  · intro i hi
    rw [h.finished i hi]
    constructor
    · rintro ⟨q, hq, hends⟩
      exact ⟨q, List.mem_append_left _ hq, hends⟩
    · rintro ⟨q, hq, hends⟩
      rcases List.mem_append.1 hq with hq | hq
      · exact ⟨q, hq, hends⟩
      · cases List.mem_singleton.1 hq
        exact absurd hends (hquiet i)
  · intro q hq i hi
    rcases List.mem_append.1 hq with hq | hq
    · exact h.brokenOff q hq i hi
    · cases List.mem_singleton.1 hq
      cases hi
  · intro q hq hp
    rcases List.mem_append.1 hq with hq | hq
    · exact h.cleanEnd q hq hp
    · cases List.mem_singleton.1 hq
      cases hp
  · intro before q after heq
    rcases Pull.eq_or_of_append_singleton heq with ⟨rfl, rfl⟩ | ⟨rest, rfl⟩
    · exact Pull.faithful_start m.receivers _
    · exact h.faithful before q rest rfl

/-- The last pull, from which no packet has come yet, is replaced by what becomes of it. -/
theorem replace
    (h : m.Tally (qs ++ [q]))
    (hreceivers : m'.receivers = m.receivers)
    (hlength : m'.finished.length = m.finished.length)
    (hremaining : m'.remaining = m'.finished.count false)
    (hfinished : ∀ i < m.receivers.length,
      m'.finished[i]? = some true ↔ m.finished[i]? = some true ∨ q'.Ends i)
    (hends : ∀ i, q.Ends i → q'.Ends i)
    (hlive : ∀ i ∈ m'.live, i ∈ m.live)
    (hgone : ∀ i < m.receivers.length, i ∈ m.live → i ∉ m'.live → m'.finished[i]? = some true)
    (hbroken : ∀ i, q'.brokenOff? = some i → i ∉ m'.live)
    (hclean : q'.packet = some .cleanEnd → m'.remaining = 0)
    (hfaithful : q'.Faithful m.receivers qs) :
    m'.Tally (qs ++ [q']) := by
  have hfinished' : ∀ i < m'.receivers.length,
      m'.finished[i]? = some true ↔ ∃ q ∈ qs ++ [q'], q.Ends i := by
    intro i hi
    rw [hreceivers] at hi
    rw [hfinished i hi, h.finished i hi]
    constructor
    · rintro (⟨q₀, hq₀, hknown⟩ | hnew)
      · rcases List.mem_append.1 hq₀ with hq₀ | hq₀
        · exact ⟨q₀, List.mem_append_left _ hq₀, hknown⟩
        · cases List.mem_singleton.1 hq₀
          exact ⟨q', by simp, hends i hknown⟩
      · exact ⟨q', by simp, hnew⟩
    · rintro ⟨q₀, hq₀, hknown⟩
      rcases List.mem_append.1 hq₀ with hq₀ | hq₀
      · exact Or.inl ⟨q₀, List.mem_append_left _ hq₀, hknown⟩
      · cases List.mem_singleton.1 hq₀
        exact Or.inr hknown
  have hzero : m.remaining = 0 → m'.remaining = 0 := by
    intro hzero
    rw [hremaining, List.count_eq_zero]
    intro hmem
    obtain ⟨i, hi, hvalue⟩ := List.getElem_of_mem hmem
    have hi' : i < m.receivers.length := h.length ▸ hlength ▸ hi
    have htrue := (hfinished i hi').2 (Or.inl (h.remaining_eq_zero_iff.1 hzero i hi'))
    rw [List.getElem?_eq_getElem hi, hvalue] at htrue
    cases htrue
  refine ⟨?_, hremaining, hfinished', ?_, ?_, ?_, ?_⟩
  · rw [hlength, hreceivers, h.length]
  · intro i hi hnot
    rw [hreceivers] at hi
    by_cases hbefore : i ∈ m.live
    · exact hgone i hi hbefore hnot
    · exact (hfinished i hi).2 (Or.inl (h.gone i hi hbefore))
  · intro q₀ hq₀ i hi
    rcases List.mem_append.1 hq₀ with hq₀ | hq₀
    · exact fun hmem => h.brokenOff q₀ (List.mem_append_left _ hq₀) i hi (hlive i hmem)
    · cases List.mem_singleton.1 hq₀
      exact hbroken i hi
  · intro q₀ hq₀ hp
    rcases List.mem_append.1 hq₀ with hq₀ | hq₀
    · exact hzero (h.cleanEnd q₀ (List.mem_append_left _ hq₀) hp)
    · cases List.mem_singleton.1 hq₀
      exact hclean hp
  · intro before q₀ after heq
    rw [hreceivers]
    rcases Pull.eq_or_of_append_singleton heq with ⟨rfl, rfl⟩ | ⟨rest, rfl⟩
    · exact hfaithful
    · exact h.faithful before q₀ (rest ++ [q]) (by simp)

variable {findings : List Finding} {i : Nat}

theorem passCleanEnd
    (h : m.Tally (qs ++ [⟨findings, none⟩]))
    (hremaining : m.remaining = 0) :
    m.Tally (qs ++ [⟨findings, some .cleanEnd⟩]) := by
  have hfaithful := h.faithful qs ⟨findings, none⟩ [] (by simp)
  have hall := h.remaining_eq_zero_iff.1 hremaining
  have hknown : ∀ i < m.receivers.length, ∃ q ∈ qs ++ [⟨findings, some .cleanEnd⟩], q.Ends i := by
    intro i hi
    obtain ⟨q, hq, hends⟩ := (h.finished i hi).1 (hall i hi)
    rcases List.mem_append.1 hq with hq | hq
    · exact ⟨q, List.mem_append_left _ hq, hends⟩
    · cases List.mem_singleton.1 hq
      exact ⟨_, by simp, Pull.ends_cleanEnd.2 hends⟩
  have hpassed := hfaithful.passCleanEnd hknown
  refine h.replace rfl rfl h.remaining ?_ ?_ ?_ ?_ ?_ (fun _ => hremaining) hpassed
  · intro i hi
    simp [hall i hi]
  · intro i hends
    exact Pull.ends_cleanEnd.2 hends
  · exact fun i hi => hi
  · exact fun i hi hlive hnot => absurd hlive hnot
  · intro i hi
    obtain ⟨-, hfree⟩ := hpassed.brokenOff i hi
    unfold Pull.brokenOff? at hi
    split at hi
    · next hp _ =>
        cases hp
        cases hi
    · cases hi

theorem take
    (h : m.Tally (qs ++ [⟨findings, none⟩]))
    (hi : i < m.receivers.length)
    {p : Packet} {packet : Option Packet}
    (hpacket : packet ≠ some .cleanEnd)
    (hfaithful : Pull.Faithful m.receivers qs ⟨findings ++ [.took i p], packet⟩) :
    (note m i p).Tally (qs ++ [⟨findings ++ [.took i p], packet⟩]) := by
  have hbroken : ∀ j, (⟨findings ++ [.took i p], packet⟩ : Pull).brokenOff? ≠ some j := by
    intro j hj
    unfold Pull.brokenOff? at hj
    split at hj
    · next hlast => simp at hlast
    · cases hj
  have hlive := live_note m i p
  refine h.replace (receivers_note m i p) (length_note m i p) (remaining_note h.remaining i p)
    ?_ ?_ ?_ ?_ ?_ ?_ hfaithful
  · intro j hj
    rw [Pull.ends_took, finished_note (h.length ▸ hi)]
    constructor
    · rintro (htrue | hend)
      · exact Or.inl htrue
      · exact Or.inr (Or.inr hend)
    · rintro (htrue | hends | hend)
      · exact Or.inl htrue
      · exact Or.inl ((h.finished j hj).2 ⟨_, by simp, hends⟩)
      · exact Or.inr hend
  · exact fun j hends => Pull.ends_took.2 (Or.inl hends)
  · exact fun j hj => hlive ▸ hj
  · exact fun j hj hmem hnot => absurd (hlive ▸ hmem) hnot
  · exact fun j hj => absurd hj (hbroken j)
  · exact fun hclean => absurd hclean hpacket

/-- An input is found to have nothing, or its channel has ended and its end was known. -/
theorem goOn
    (h : m.Tally (qs ++ [⟨findings, none⟩]))
    {f : Finding} {live : List Nat}
    (hf : ∀ j, f.takes j = [])
    (hlive : ∀ j ∈ live, j ∈ m.live)
    (hgone : ∀ j < m.receivers.length, j ∈ m.live → j ∉ live → m.finished[j]? = some true) :
    Merge.Tally { m with live } (qs ++ [⟨findings ++ [f], none⟩]) := by
  have hfaithful := h.faithful qs ⟨findings, none⟩ [] (by simp)
  refine h.replace rfl rfl h.remaining ?_ ?_ hlive hgone ?_ ?_ (hfaithful.goOn hf)
  · intro j hj
    rw [Pull.ends_goOn hf]
    constructor
    · exact Or.inl
    · rintro (htrue | hends)
      · exact htrue
      · exact (h.finished j hj).2 ⟨_, by simp, hends⟩
  · exact fun j hends => (Pull.ends_goOn hf).2 hends
  · intro j hj
    cases hj
  · intro hclean
    cases hclean

/-- The channel of an input has ended and its end was not known. -/
theorem breakOff
    (h : m.Tally (qs ++ [⟨findings, none⟩]))
    {r : Receiver}
    (hr : m.receivers[i]? = some r)
    (hunknown : m.finished[i]? ≠ some true) :
    (Merge.finish { m with live := m.live.filter (· ≠ i) } i).Tally
      (qs ++ [⟨findings ++ [.ended i], some (Merge.brokenOff r.id)⟩]) := by
  have hi : i < m.receivers.length := (List.getElem?_eq_some_iff.1 hr).1
  have hne : Merge.brokenOff r.id ≠ .cleanEnd := by
    simp [Merge.brokenOff, Packet.failedEnd, Packet.cleanEnd]
  have hfaithful := h.faithful qs ⟨findings, none⟩ [] (by simp)
  have hnone : ∀ q ∈ qs ++ [⟨findings, none⟩], ¬ q.Ends i :=
    fun q hq hends => hunknown ((h.finished i hi).2 ⟨q, hq, hends⟩)
  have hlive : (Merge.finish { m with live := m.live.filter (· ≠ i) } i).live =
      m.live.filter (· ≠ i) :=
    live_finish _ i
  have hfinished := finished_finish (m := { m with live := m.live.filter (· ≠ i) })
    (h.length ▸ hi)
  refine h.replace ?_ ?_ ?_ ?_ ?_ ?_ ?_ ?_ ?_ (hfaithful.breakOff hr hnone)
  · exact receivers_finish _ i
  · exact length_finish _ i
  · exact remaining_finish (m := { m with live := m.live.filter (· ≠ i) }) h.remaining i
  · intro j hj
    rw [hfinished, Pull.ends_breakOff]
    constructor
    · rintro (htrue | rfl)
      · exact Or.inl htrue
      · exact Or.inr (Or.inr rfl)
    · rintro (htrue | hends | rfl)
      · exact Or.inl htrue
      · exact Or.inl ((h.finished j hj).2 ⟨_, by simp, hends⟩)
      · exact Or.inr rfl
  · exact fun j hends => Pull.ends_breakOff.2 (Or.inl hends)
  · intro j hj
    rw [hlive] at hj
    exact (List.mem_filter.1 hj).1
  · intro j hj hmem hnot
    rw [hlive] at hnot
    have hji : j = i := by simpa [hmem] using hnot
    exact (hfinished j).2 (Or.inr hji)
  · intro j hj
    have hji : i = j := by simpa [Pull.brokenOff?, hne] using hj
    rw [hlive, ← hji]
    simp
  · exact fun hclean => absurd (Option.some.inj hclean) hne

end Tally
end Merge
end ScatterGather
