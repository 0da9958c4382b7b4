import ScatterGather.Proofs.Drain.Course
import ScatterGather.Proofs.Session.Ownership
import ScatterGather.Session.Drain

/-!
# Draining a merge of one's own

A drain and the interludes between its questions are acts on a session. They are noted while the
drain goes on, which changes nothing of it.

**Results.** However a drain ends, the session in which it does is what its acts make of the session
in which it began, and these are pulls from the merge and steps of others. If it ends well, nothing
but heartbeats and the blocks of its result came of the pulls, up to the last one, of which a clean
end came.
-/

namespace ScatterGather

/-- An act that is done while a merge is drained: a step of others, or a pull from the merge. -/
def Act.drains (number : Nat) : Act → Bool
  | .step _ => true
  | .pull k => k = number
  | _ => false

namespace Session

variable {s : Session} {number : Nat} {inputs : List Receiver}

/-- What others do before the next packet is asked for. -/
def interruption : List Interlude → List Step
  | interlude :: _ => if interlude.delay = 0 then interlude.steps else []
  | [] => []

theorem interrupt_eq (s : Session) (interludes : List Interlude) :
    (interrupt (s, interludes)).1 = (s.run (interruption interludes)).2 := by
  cases interludes with
  | nil =>
      rfl
  | cons interlude rest =>
      unfold interrupt interruption
      dsimp only
      split
      · rfl
      · rfl

/-- What others do while a drain waits. -/
def awakening (state : Session × List Interlude) : List Step :=
  match (interrupt state).2 with
  | interlude :: _ => interlude.steps
  | [] => []

/-- Asks a merge for its next packet, and notes all that is done. -/
def notingPoll (number : Nat) (noted : (Session × List Interlude) × List Act) :
    Poll ((Session × List Interlude) × List Act) :=
  let acts := noted.2 ++ (interruption noted.1.2).map .step ++ [.pull number]
  match pollMerge number noted.1 with
  | .ready p rest => .ready p (rest, acts)
  | .waits left none => .waits (left, acts) none
  | .waits left (some (delay, later)) =>
    .waits (left, acts) (some (delay, later, acts ++ (awakening noted.1).map .step))

theorem notingPoll_map (number : Nat) (noted : (Session × List Interlude) × List Act) :
    pollMerge number noted.1 = (notingPoll number noted).map Prod.fst := by
  unfold notingPoll
  dsimp only
  cases pollMerge number noted.1 with
  | ready p rest =>
      rfl
  | waits left wakeUp =>
      cases wakeUp with
      | none =>
          rfl
      | some entry =>
          rfl

/-- What is done while a merge is drained. -/
def drainActs (s : Session) (number : Nat) (timeout : Duration) (interludes : List Interlude) :
    List Act :=
  (Drain.run (notingPoll number) (s.stepBound interludes) timeout ((s, interludes), [])).receiver.2

/-! ## One question -/

/-- The session in which a merge is asked for its next packet. -/
def asked (state : Session × List Interlude) : Session :=
  (state.1.run (interruption state.2)).2

/-- What a merge answers when others have done their steps. -/
theorem pollMerge_eq (number : Nat) (state : Session × List Interlude) :
    pollMerge number state =
      let s := (asked state).perform (.pull number)
      match ((asked state).mailboxes.pull number).packet, (interrupt state).2 with
      | some p, interludes => .ready p (s, interludes)
      | none, [] => .waits (s, []) none
      | none, interlude :: rest =>
        .waits (s, interlude :: rest)
          (some (interlude.delay, (s.run interlude.steps).2, rest)) := by
  have hsession : asked state = (interrupt state).1 := (interrupt_eq state.1 state.2).symm
  rw [hsession]
  unfold pollMerge
  generalize interrupt state = interrupted
  obtain ⟨s, interludes⟩ := interrupted
  cases hpacket : (s.mailboxes.pull number).packet with
  | some p =>
      simp only [hpacket]
      rfl
  | none =>
      cases interludes <;> simp only [hpacket] <;> rfl

theorem pollMerge_ready
    {state rest : Session × List Interlude} {p : Packet}
    (h : pollMerge number state = .ready p rest) :
    ((asked state).mailboxes.pull number).packet = some p ∧
      rest.1 = (asked state).perform (.pull number) := by
  rw [pollMerge_eq] at h
  dsimp only at h
  split at h
  · next hpacket =>
      cases h
      exact ⟨hpacket, rfl⟩
  · cases h
  · cases h

theorem pollMerge_wakes
    {state left later : Session × List Interlude} {delay : Nat}
    (h : pollMerge number state = .waits left (some (delay, later))) :
    ((asked state).mailboxes.pull number).packet = none ∧
      later.1 = (((asked state).perform (.pull number)).run (awakening state)).2 := by
  rw [pollMerge_eq] at h
  dsimp only at h
  split at h
  · cases h
  · cases h
  · next hpacket hinterludes =>
      cases h
      unfold awakening
      rw [hinterludes]
      exact ⟨hpacket, rfl⟩

/-- What is left while there is nothing to give, whether anything will ever come or not. -/
theorem pollMerge_waits
    {state left : Session × List Interlude} {wakeUp : Option (Nat × Session × List Interlude)}
    (h : pollMerge number state = .waits left wakeUp) :
    left.1 = (asked state).perform (.pull number) := by
  rw [pollMerge_eq] at h
  dsimp only at h
  split at h
  · cases h
  · cases h
    rfl
  · cases h
    rfl

/-! ## A drain however it ends -/

/-- What is noted is what was done. -/
structure Noted (start : Session) (number : Nat)
    (noted : (Session × List Interlude) × List Act) : Prop where
  session : noted.1.1 = start.performAll noted.2
  drains : ∀ act ∈ noted.2, act.drains number = true

namespace Noted

variable {start : Session} {noted : (Session × List Interlude) × List Act}

/-- Others do some steps. -/
theorem steps
    (h : Noted start number noted)
    (steps : List Step) (interludes : List Interlude) :
    Noted start number (((noted.1.1.run steps).2, interludes), noted.2 ++ steps.map .step) where
  session := by
    rw [performAll_append, ← h.session, performAll_steps]
  drains act hact := by
    rcases List.mem_append.1 hact with hact | hact
    · exact h.drains act hact
    · obtain ⟨step, -, rfl⟩ := List.mem_map.1 hact
      rfl

/-- The merge is asked for its next packet. -/
theorem asks
    {left : Session × List Interlude}
    (h : Noted start number noted)
    (hleft : left.1 = (asked noted.1).perform (.pull number)) :
    Noted start number
      (left, noted.2 ++ (interruption noted.1.2).map .step ++ [.pull number]) where
  session := by
    have hasked := (h.steps (interruption noted.1.2) noted.1.2).session
    rw [performAll_append, ← hasked]
    exact hleft
  drains act hact := by
    rcases List.mem_append.1 hact with hact | hact
    · exact (h.steps (interruption noted.1.2) noted.1.2).drains act hact
    · rw [List.mem_singleton.1 hact]
      exact decide_eq_true rfl

end Noted

theorem stays_noted (start : Session) (number : Nat) :
    Drain.Stays (notingPoll number) (Noted start number) where
  ready noted p rest h hpoll := by
    unfold notingPoll at hpoll
    dsimp only at hpoll
    split at hpoll
    · next hready =>
        cases hpoll
        exact h.asks (pollMerge_ready hready).2
    · cases hpoll
    · cases hpoll
  left noted left wakeUp h hpoll := by
    unfold notingPoll at hpoll
    dsimp only at hpoll
    split at hpoll
    · cases hpoll
    · next hwaits =>
        cases hpoll
        exact h.asks (pollMerge_waits hwaits)
    · next hwaits =>
        cases hpoll
        exact h.asks (pollMerge_waits hwaits)
  wakes noted left delay later h hpoll := by
    unfold notingPoll at hpoll
    dsimp only at hpoll
    split at hpoll
    · cases hpoll
    · cases hpoll
    · next left _ later hwaits =>
        cases hpoll
        have hasked := (h.asks (pollMerge_waits hwaits)).steps (awakening noted.1) later.2
        rw [pollMerge_waits hwaits, ← (pollMerge_wakes hwaits).2] at hasked
        exact hasked

/-- A watched drain is the drain. -/
theorem drainMerge_eq_map
    (s : Session) (number : Nat) (timeout : Duration) (interludes : List Interlude) :
    s.drainMerge number timeout interludes =
      (Drain.run (notingPoll number) (s.stepBound interludes) timeout
        ((s, interludes), [])).map Prod.fst :=
  Drain.run_map (notingPoll_map number) (s.stepBound interludes) timeout ((s, interludes), [])

/-- **Every drain.** -/
theorem noted_drainMerge
    (s : Session) (number : Nat) (timeout : Duration) (interludes : List Interlude) :
    (s.drainMerge number timeout interludes).receiver.1 =
        s.performAll (s.drainActs number timeout interludes) ∧
      ∀ act ∈ s.drainActs number timeout interludes, act.drains number = true := by
  have hnoted := Drain.run_stays (stays_noted s number) (s.stepBound interludes) timeout
    (x := ((s, interludes), [])) ⟨rfl, by simp⟩
  rw [drainMerge_eq_map]
  exact ⟨hnoted.session, hnoted.drains⟩

/-! ## A complete drain -/

/-- A session in which a merge of one's own has given some packets since acts began. -/
structure Given (start : Session) (number : Nat) (inputs : List Receiver) (packets : List Packet)
    (s : Session) (acts : List Act) : Prop where
  session : s = start.performAll acts
  owns : s.Owns number inputs
  packets : (History.pulls (start.history acts) number).filterMap Pull.packet = packets

namespace Given

variable {start : Session} {packets : List Packet} {acts : List Act}

theorem steps
    (h : Given start number inputs packets s acts)
    (steps : List Step) :
    Given start number inputs packets (s.run steps).2 (acts ++ steps.map .step) where
  session := by
    rw [performAll_append, ← h.session, performAll_steps]
  owns := h.owns.run steps
  packets := by
    rw [history_append, ← h.session, History.pulls_append, h.owns.pulls_steps, List.append_nil]
    exact h.packets

theorem pull
    (h : Given start number inputs packets s acts) :
    Given start number inputs (packets ++ (s.mailboxes.pull number).packet.toList)
      (s.perform (.pull number)) (acts ++ [.pull number]) where
  session := by
    rw [performAll_append, ← h.session]
    rfl
  owns := h.owns.pull number
  packets := by
    have hevents : s.history [.pull number] =
        [.pulled number inputs (s.mailboxes.nextPull number)] := by
      rw [← h.owns.pullEvents]
      exact List.append_nil _
    rw [history_append, ← h.session, hevents, History.pulls_append, History.pulls_pulled,
      List.filterMap_append, h.packets]
    show packets ++ [s.mailboxes.nextPull number].filterMap Pull.packet =
      packets ++ (s.mailboxes.nextPull number).packet.toList
    cases hpacket : (s.mailboxes.nextPull number).packet with
    | none =>
        simp [hpacket]
    | some p =>
        simp [hpacket]

/-- Others do some steps, and the merge is asked for its next packet. -/
theorem asks
    {noted : (Session × List Interlude) × List Act}
    (h : Given start number inputs packets noted.1.1 noted.2) :
    Given start number inputs
      (packets ++ ((asked noted.1).mailboxes.pull number).packet.toList)
      ((asked noted.1).perform (.pull number))
      (noted.2 ++ (interruption noted.1.2).map .step ++ [.pull number]) :=
  (h.steps (interruption noted.1.2)).pull

end Given

/-- What is noted is what was done. -/
theorem given_gives
    {packets : List Packet} {start noted : (Session × List Interlude) × List Act}
    (h : Drain.Gives (notingPoll number) start packets noted)
    (hstart : start.2 = [])
    (howns : start.1.1.Owns number inputs) :
    Given start.1.1 number inputs packets noted.1.1 noted.2 := by
  induction h with
  | refl =>
      rw [hstart]
      exact ⟨rfl, howns, rfl⟩
  | @ready packets y z p _ hpoll ih =>
      have hasked := ih.asks
      unfold notingPoll at hpoll
      dsimp only at hpoll
      split at hpoll
      · next hready =>
          cases hpoll
          obtain ⟨hpacket, hrest⟩ := pollMerge_ready hready
          rw [hpacket] at hasked
          rw [hrest]
          exact hasked
      · cases hpoll
      · cases hpoll
  | @wakes packets y left z delay _ hpoll ih =>
      have hasked := ih.asks
      unfold notingPoll at hpoll
      dsimp only at hpoll
      split at hpoll
      · cases hpoll
      · cases hpoll
      · next hwaits =>
          cases hpoll
          obtain ⟨hpacket, hlater⟩ := pollMerge_wakes hwaits
          rw [hpacket, Option.toList_none, List.append_nil] at hasked
          rw [hlater]
          exact hasked.steps (awakening y.1)

/-- **A complete drain.** All that came of the pulls are packets that end nothing, among them the
blocks of the result, and then a clean end. -/
theorem drainMerge_complete
    {timeout : Duration} {interludes : List Interlude} {blocks : List Block}
    (howns : s.Owns number inputs)
    (hverdict : (s.drainMerge number timeout interludes).verdict = .complete blocks) :
    ∃ packets,
      Given s number inputs (packets ++ [.cleanEnd])
        (s.drainMerge number timeout interludes).receiver.1
        (s.drainActs number timeout interludes) ∧
      (∀ p ∈ packets, p.isEnd = false) ∧
      blocks = packets.filterMap Packet.block? := by
  have hnoted := drainMerge_eq_map s number timeout interludes
  have hcomplete : (Drain.run (notingPoll number) (s.stepBound interludes) timeout
      ((s, interludes), [])).verdict = .complete blocks := by
    rw [hnoted] at hverdict
    exact hverdict
  obtain ⟨packets, y, hgives, hready, hends, hblocks⟩ :=
    Drain.run_complete (s.stepBound interludes) timeout hcomplete
  refine ⟨packets, ?_, hends, hblocks⟩
  rw [hnoted]
  exact given_gives (hgives.ready hready) rfl howns

end Session
end ScatterGather
