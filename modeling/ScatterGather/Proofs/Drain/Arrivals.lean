import ScatterGather.Drain.Script
import ScatterGather.Proofs.Drain.Course

/-!
# Packets that come in time

What a receiver gives is a sequence of packets, each of them some time after it was asked for. When
a packet is asked for and whether it comes in time depends on the sequence and on the deadline
alone: it is asked for as soon as the one before it has come, which must be before the deadline, and
it must be there when the timer fires. Heartbeats take their time like any other packet.

**Results.** `Arrivals.Due.unique`: a sequence and a deadline leave no choice of how a drain ends.
`Script.follows`: a script gives the packets of its items, and after them its repetition.
-/

namespace ScatterGather

/-- An arrival as it looks to one who asked for it some time earlier. -/
def Arrival.postponed (passed : Nat) (arrival : Arrival) : Arrival :=
  { arrival with delay := passed + arrival.delay }

/-- How a packet ends a drain that has taken some blocks, if it does. -/
def Packet.verdict? (blocks : List Block) : Packet → Option Drain.Verdict
  | .endOfStream none => some (.complete blocks)
  | .endOfStream (some report) => some (.failed report)
  | _ => none

theorem Packet.isEnd_of_verdict
    {p : Packet} {blocks : List Block} {verdict : Drain.Verdict}
    (h : p.verdict? blocks = some verdict) :
    p.isEnd = true := by
  cases p with
  | endOfStream failure =>
      rfl
  | _ =>
      cases h

theorem Packet.isEnd_of_no_verdict
    {p : Packet} {blocks : List Block}
    (h : p.verdict? blocks = none) :
    p.isEnd = false := by
  cases p with
  | endOfStream failure =>
      cases failure <;> cases h
  | _ =>
      rfl

/-- Packets that come one after the other, each some time after it was asked for. In the place of a
missing one nothing ever comes. -/
abbrev Arrivals := Nat → Option Arrival

namespace Arrivals

variable {a : Arrivals} {deadline count other delay : Nat} {p q : Packet}

/-- When a packet is asked for, if each one is as soon as the one before it has come. -/
def askedAt (a : Arrivals) : (count : Nat) → Nat
  | 0 => 0
  | count + 1 => a.askedAt count + (a count).elim 0 Arrival.delay

/-- The blocks of rows among the first packets. -/
def blocks (a : Arrivals) (count : Nat) : List Block :=
  (List.range count).filterMap fun i => (a i).bind (·.packet.block?)

/-- A packet is asked for before the deadline, and is there when the timer fires. -/
structure InTime (a : Arrivals) (deadline count : Nat) (p : Packet) : Prop where
  asked : a.askedAt count < deadline
  comes : ∃ delay, a count = some ⟨delay, p⟩ ∧ a.askedAt count + delay ≤ Drain.expiry deadline

/-- The first packets all come in time, and none of them ends the stream. -/
def Passes (a : Arrivals) (deadline count : Nat) : Prop :=
  ∀ i < count, ∃ p, a.InTime deadline i p ∧ p.isEnd = false

/-- Packets are all asked for before the deadline, and none of them after the end of the stream. -/
def Asks (a : Arrivals) (deadline pulls : Nat) : Prop :=
  ∀ count < pulls, a.Passes deadline count ∧ a.askedAt count < deadline

theorem askedAt_succ
    (h : a count = some ⟨delay, p⟩) :
    a.askedAt (count + 1) = a.askedAt count + delay := by
  rw [askedAt, h]
  rfl

theorem blocks_succ
    (h : a count = some ⟨delay, p⟩) :
    a.blocks (count + 1) = a.blocks count ++ p.block?.toList := by
  rw [blocks, List.range_succ, List.filterMap_append, blocks]
  cases hp : p.block? <;> simp [h, hp]

theorem InTime.eq
    (hp : a.InTime deadline count p)
    (hq : a.InTime deadline count q) :
    p = q := by
  obtain ⟨-, delay, hp, -⟩ := hp
  obtain ⟨-, delay', hq, -⟩ := hq
  rw [hp] at hq
  cases hq
  rfl

theorem passes_zero (a : Arrivals) (deadline : Nat) : a.Passes deadline 0 := by
  simp [Passes]

theorem Passes.succ
    (hpasses : a.Passes deadline count)
    (hcomes : a.InTime deadline count p)
    (hend : p.isEnd = false) :
    a.Passes deadline (count + 1) := by
  intro i hi
  rcases Nat.lt_succ_iff_lt_or_eq.1 hi with hi | rfl
  · exact hpasses i hi
  · exact ⟨p, hcomes, hend⟩

theorem Passes.asks (hpasses : a.Passes deadline count) : a.Asks deadline count := by
  intro i hi
  obtain ⟨p, hcomes, -⟩ := hpasses i hi
  exact ⟨fun j hj => hpasses j (Nat.lt_trans hj hi), hcomes.asked⟩

theorem Passes.asks_succ
    (hpasses : a.Passes deadline count)
    (hasked : a.askedAt count < deadline) :
    a.Asks deadline (count + 1) := by
  intro i hi
  rcases Nat.lt_succ_iff_lt_or_eq.1 hi with hi | rfl
  · exact hpasses.asks i hi
  · exact ⟨hpasses, hasked⟩

/-! ## How a drain must end -/

/-- The first packet at which a drain must end: none that goes on comes in time. -/
structure Last (a : Arrivals) (deadline count : Nat) : Prop where
  passes : a.Passes deadline count
  ends : ∀ p, a.InTime deadline count p → p.isEnd = true

theorem Last.not_lt
    (h : a.Last deadline count)
    (hpasses : a.Passes deadline other) :
    ¬ count < other := by
  intro hlt
  obtain ⟨p, hp, hend⟩ := hpasses count hlt
  rw [h.ends p hp] at hend
  cases hend

theorem Last.eq
    (h : a.Last deadline count)
    (h' : a.Last deadline other) :
    count = other :=
  Nat.le_antisymm (Nat.not_lt.1 (h'.not_lt h.passes)) (Nat.not_lt.1 (h.not_lt h'.passes))

theorem Last.of_end
    (hpasses : a.Passes deadline count)
    (hcomes : a.InTime deadline count p)
    (hend : p.isEnd = true) :
    a.Last deadline count where
  passes := hpasses
  ends q hq := by
    rw [← hcomes.eq hq]
    exact hend

theorem Last.of_nothing
    (hpasses : a.Passes deadline count)
    (hnothing : ∀ p, ¬ a.InTime deadline count p) :
    a.Last deadline count where
  passes := hpasses
  ends p hp := absurd hp (hnothing p)

/-- How a drain of a sequence must end, and how many packets it must have asked for by then. -/
inductive Due (a : Arrivals) (deadline : Nat) : Drain.Verdict → (pulls : Nat) → Prop
  | ends
      {count : Nat} {p : Packet} {verdict : Drain.Verdict}
      (hpasses : a.Passes deadline count)
      (hcomes : a.InTime deadline count p)
      (hverdict : p.verdict? (a.blocks count) = some verdict) :
      Due a deadline verdict (count + 1)
  | timedOut
      {count : Nat}
      (hpasses : a.Passes deadline count)
      (hnothing : ∀ p, ¬ a.InTime deadline count p) :
      Due a deadline .timedOut (if a.askedAt count < deadline then count + 1 else count)

/-- A sequence and a deadline leave no choice. -/
theorem Due.unique
    {verdict verdict' : Drain.Verdict} {pulls pulls' : Nat}
    (h : a.Due deadline verdict pulls)
    (h' : a.Due deadline verdict' pulls') :
    verdict = verdict' ∧ pulls = pulls' := by
  cases h with
  | ends hpasses hcomes hverdict =>
      have hlast := Last.of_end hpasses hcomes (Packet.isEnd_of_verdict hverdict)
      cases h' with
      | ends hpasses' hcomes' hverdict' =>
          obtain rfl := hlast.eq (.of_end hpasses' hcomes' (Packet.isEnd_of_verdict hverdict'))
          obtain rfl := hcomes.eq hcomes'
          exact ⟨Option.some.inj (hverdict.symm.trans hverdict'), rfl⟩
      | timedOut hpasses' hnothing =>
          obtain rfl := hlast.eq (.of_nothing hpasses' hnothing)
          exact absurd hcomes (hnothing _)
  | timedOut hpasses hnothing =>
      have hlast := Last.of_nothing hpasses hnothing
      cases h' with
      | ends hpasses' hcomes hverdict =>
          obtain rfl := hlast.eq (.of_end hpasses' hcomes (Packet.isEnd_of_verdict hverdict))
          exact absurd hcomes (hnothing _)
      | timedOut hpasses' hnothing' =>
          obtain rfl := hlast.eq (.of_nothing hpasses' hnothing')
          exact ⟨rfl, rfl⟩

theorem Due.asks
    {verdict : Drain.Verdict} {pulls : Nat}
    (h : a.Due deadline verdict pulls) :
    a.Asks deadline pulls := by
  cases h with
  | ends hpasses hcomes _ =>
      exact hpasses.asks_succ hcomes.asked
  | timedOut hpasses _ =>
      split
      · next hasked =>
          exact hpasses.asks_succ hasked
      · exact hpasses.asks

theorem Due.finished
    {verdict : Drain.Verdict} {pulls : Nat}
    (h : a.Due deadline verdict pulls) :
    verdict ≠ .unfinished := by
  cases h with
  | @ends _ p _ _ _ hverdict =>
      rintro rfl
      cases p with
      | endOfStream failure =>
          cases failure <;> cases hverdict
      | _ =>
          cases hverdict
  | timedOut _ _ =>
      simp

theorem Due.exists_last
    {verdict : Drain.Verdict} {pulls : Nat}
    (h : a.Due deadline verdict pulls) :
    ∃ count, a.Last deadline count := by
  cases h with
  | ends hpasses hcomes hverdict =>
      exact ⟨_, .of_end hpasses hcomes (Packet.isEnd_of_verdict hverdict)⟩
  | timedOut hpasses hnothing =>
      exact ⟨_, .of_nothing hpasses hnothing⟩

theorem exists_due_complete_iff {blocks : List Block} :
    (∃ pulls, a.Due deadline (.complete blocks) pulls) ↔
      ∃ count, a.Passes deadline count ∧ a.InTime deadline count .cleanEnd ∧
        blocks = a.blocks count := by
  constructor
  · rintro ⟨pulls, hdue⟩
    cases hdue with
    | @ends count p _ hpasses hcomes hverdict =>
        rcases p with _ | _ | ⟨_ | _⟩ <;> cases hverdict
        exact ⟨count, hpasses, hcomes, rfl⟩
  · rintro ⟨count, hpasses, hcomes, rfl⟩
    exact ⟨_, .ends hpasses hcomes rfl⟩

theorem exists_due_failed_iff {report : FailureReport} :
    (∃ pulls, a.Due deadline (.failed report) pulls) ↔
      ∃ count, a.Passes deadline count ∧ a.InTime deadline count (.failedEnd report) := by
  constructor
  · rintro ⟨pulls, hdue⟩
    cases hdue with
    | @ends count p _ hpasses hcomes hverdict =>
        rcases p with _ | _ | ⟨_ | _⟩ <;> cases hverdict
        exact ⟨count, hpasses, hcomes⟩
  · rintro ⟨count, hpasses, hcomes⟩
    exact ⟨_, .ends hpasses hcomes rfl⟩

/-- Nothing comes in time if it is asked for too late, or is not there when the timer fires. -/
theorem forall_not_inTime_iff :
    (∀ p, ¬ a.InTime deadline count p) ↔
      deadline ≤ a.askedAt count ∨
        ∀ delay p, a count = some ⟨delay, p⟩ → Drain.expiry deadline < a.askedAt count + delay := by
  constructor
  · intro hnothing
    rcases Nat.lt_or_ge (a.askedAt count) deadline with hasked | hlate
    · refine Or.inr fun delay p hp => Nat.lt_of_not_le fun htime => ?_
      exact hnothing p ⟨hasked, delay, hp, htime⟩
    · exact Or.inl hlate
  · rintro hmissed p ⟨hasked, delay, hp, htime⟩
    rcases hmissed with hlate | hmissed
    · exact absurd hasked (Nat.not_lt.2 hlate)
    · exact absurd htime (Nat.not_le.2 (hmissed delay p hp))

theorem exists_due_timedOut_iff :
    (∃ pulls, a.Due deadline .timedOut pulls) ↔
      ∃ count, a.Passes deadline count ∧
        (deadline ≤ a.askedAt count ∨
          ∀ delay p, a count = some ⟨delay, p⟩ →
            Drain.expiry deadline < a.askedAt count + delay) := by
  constructor
  · rintro ⟨pulls, hdue⟩
    cases hdue with
    | @ends _ p _ _ _ hverdict =>
        rcases p with _ | _ | ⟨_ | _⟩ <;> cases hverdict
    | timedOut hpasses hnothing =>
        exact ⟨_, hpasses, forall_not_inTime_iff.1 hnothing⟩
  · rintro ⟨count, hpasses, hmissed⟩
    exact ⟨_, .timedOut hpasses (forall_not_inTime_iff.2 hmissed)⟩

end Arrivals

/-! ## Receivers that give a sequence -/

namespace Drain

variable {σ : Type}

/-- What comes of asking a receiver: an arrival, which leaves the receiver as given, or nothing at
all. Until then the receiver may wake its asker any number of times without having anything. -/
inductive Answers (poll : σ → Poll σ) (after : σ) : σ → Option Arrival → Prop
  | ready
      {x : σ} {p : Packet}
      (hpoll : poll x = .ready p after) :
      Answers poll after x (some ⟨0, p⟩)
  | never
      {x left : σ}
      (hpoll : poll x = .waits left none) :
      Answers poll after x none
  | waits
      {x left later : σ} {delay : Nat} {rest : Option Arrival}
      (hpoll : poll x = .waits left (some (delay, later)))
      (hdelay : 0 < delay)
      (hrest : Answers poll after later rest) :
      Answers poll after x (rest.map (Arrival.postponed delay))

/-- A receiver gives the packets of a sequence, and is in the given state when it is asked for each
of them. -/
def Follows (poll : σ → Poll σ) (states : Nat → σ) (a : Arrivals) : Prop :=
  ∀ count, Answers poll (states (count + 1)) (states count) (a count)

end Drain

namespace Script

/-- The sequence of packets that a script gives. -/
def arrivals (s : Script) : Arrivals :=
  fun count => s.items[count]?.or s.thereafter

/-- A script of which some items were given. -/
def after (s : Script) (count : Nat) : Script :=
  { s with items := s.items.drop count }

theorem next?_after (s : Script) (count : Nat) :
    (s.after count).next? =
      (s.arrivals count).map fun arrival => (arrival, s.after (count + 1)) := by
  rcases Nat.lt_or_ge count s.items.length with hlt | hge
  · have hitems : (s.after count).items = s.items[count] :: s.items.drop (count + 1) :=
      List.drop_eq_getElem_cons hlt
    simp only [next?, hitems, arrivals, List.getElem?_eq_getElem hlt]
    rfl
  · have hitems : (s.after count).items = [] := List.drop_eq_nil_of_le hge
    have hsame : s.after (count + 1) = s.after count := by
      rw [after, after, List.drop_eq_nil_of_le hge, List.drop_eq_nil_of_le (by omega)]
    simp only [next?, hitems, arrivals, List.getElem?_eq_none hge, hsame]
    rfl

/-- A script gives its items, and after the last of them its repetition. -/
theorem follows
    {s : Script}
    (h : s.awaited = none) :
    Drain.Follows poll s.after s.arrivals := by
  intro count
  have hawaited : (s.after count).awaited = none := h
  have hnext := s.next?_after count
  cases harrival : s.arrivals count with
  | none =>
      have hpoll : poll (s.after count) = .waits (s.after count) none := by
        simp only [poll, hawaited, hnext, harrival]
        rfl
      exact .never hpoll
  | some arrival =>
      obtain ⟨delay, p⟩ := arrival
      by_cases hdelay : delay = 0
      · have hpoll : poll (s.after count) = .ready p (s.after (count + 1)) := by
          simp only [poll, hawaited, hnext, harrival, Option.map_some, if_pos hdelay]
        rw [hdelay]
        exact .ready hpoll
      · have hpoll : poll (s.after count) = .waits (s.after (count + 1))
            (some (delay, { s.after (count + 1) with awaited := some p })) := by
          simp only [poll, hawaited, hnext, harrival, Option.map_some, if_neg hdelay]
        have hlater : poll { s.after (count + 1) with awaited := some p } =
            .ready p (s.after (count + 1)) := by
          show Poll.ready p { s.after (count + 1) with awaited := none } = _
          rw [← h]
          rfl
        exact .waits hpoll (Nat.pos_of_ne_zero hdelay) (.ready hlater)

end Script
end ScatterGather
