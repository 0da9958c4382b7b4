import ScatterGather.Dispatch.Error
import ScatterGather.Proofs.Drain.Arrivals

/-!
# Drains keep their deadline

A drain of a receiver that gives a sequence of packets passes one packet after the other, asks for
each before the deadline and takes it if it comes in time. The first packet that ends the stream or
does not come in time ends the drain.

**Results.** `drained_iff`: what comes of a drain, in terms of the sequence and the deadline.
-/

namespace ScatterGather
namespace Drain

variable {σ : Type} {poll : σ → Poll σ} {states : Nat → σ} {a : Arrivals}
variable {deadline count steps : Nat} {d d' : Progress σ} {o : Outcome σ}

theorem le_expiry (deadline : Nat) : deadline ≤ expiry deadline := by
  simp only [expiry, Duration.perMillisecond]
  omega

/-- A packet is taken: it ends the drain, or its block is kept. -/
theorem Progress.take_eq (d : Progress σ) (p : Packet) (rest : σ) :
    d.take p rest =
      match p.verdict? d.blocks with
      | some verdict => .ends ⟨verdict, d.clock, d.asked, rest⟩
      | none =>
        .goesOn { d with
          pulls := d.asked
          blocks := d.blocks ++ p.block?.toList
          waiting := false
          receiver := rest } := by
  cases p with
  | data block =>
      rfl
  | heartbeat =>
      simp [Progress.take, Packet.verdict?, Packet.block?]
  | endOfStream failure =>
      cases failure <;> rfl

/-- A receiver that was asked for a packet some time ago has the rest of the delay before it. -/
def Pending (poll : σ → Poll σ) (states : Nat → σ) (a : Arrivals) (count clock : Nat) (x : σ) :
    Prop :=
  ∃ passed rest,
    clock = a.askedAt count + passed ∧
    a count = rest.map (Arrival.postponed passed) ∧
    Answers poll (states (count + 1)) x rest

theorem pending_asked (hfollows : Follows poll states a) (count : Nat) :
    Pending poll states a count (a.askedAt count) (states count) := by
  refine ⟨0, a count, rfl, ?_, hfollows count⟩
  cases a count <;> simp [Arrival.postponed]

/-- A drain that has passed the first packets of a sequence, and is about to ask for the next one or
waits for it. -/
structure Tracks (poll : σ → Poll σ) (states : Nat → σ) (a : Arrivals) (deadline count : Nat)
    (d : Progress σ) : Prop where
  passes : a.Passes deadline count
  blocks : d.blocks = a.blocks count
  asked : d.asked = count + 1
  idle : d.waiting = false → d.clock = a.askedAt count
  busy : d.waiting = true → a.askedAt count < deadline ∧ d.clock ≤ expiry deadline
  pending : Pending poll states a count d.clock d.receiver

theorem tracks_start (hfollows : Follows poll states a) :
    Tracks poll states a deadline 0 (.start (states 0)) where
  passes := a.passes_zero deadline
  blocks := rfl
  asked := rfl
  idle _ := rfl
  busy h := by cases h
  pending := pending_asked hfollows 0

/-! ## One step -/

/-- The packet that is there is taken: it ends the drain as it must, or is passed. -/
theorem Tracks.take
    {passed : Nat} {p : Packet}
    (hfollows : Follows poll states a)
    (h : Tracks poll states a deadline count d)
    (hasked : a.askedAt count < deadline)
    (htime : d.clock ≤ expiry deadline)
    (hclock : d.clock = a.askedAt count + passed)
    (hcomes : a count = some ⟨passed, p⟩) :
    (∃ d', d.take p (states (count + 1)) = .goesOn d' ∧ d'.waiting = false ∧
      Tracks poll states a deadline (count + 1) d') ∨
    ∃ o, d.take p (states (count + 1)) = .ends o ∧ a.Due deadline o.verdict o.pulls := by
  have hin : a.InTime deadline count p := ⟨hasked, passed, hcomes, hclock ▸ htime⟩
  have hnext : d.clock = a.askedAt (count + 1) := by rw [hclock, Arrivals.askedAt_succ hcomes]
  rw [d.take_eq, h.blocks]
  cases hverdict : p.verdict? (a.blocks count) with
  | some verdict =>
      refine Or.inr ⟨_, rfl, ?_⟩
      show a.Due deadline verdict d.asked
      rw [h.asked]
      exact .ends h.passes hin hverdict
  | none =>
      refine Or.inl ⟨_, rfl, rfl, ?_⟩
      exact {
        passes := h.passes.succ hin (Packet.isEnd_of_no_verdict hverdict)
        blocks := (Arrivals.blocks_succ hcomes).symm
        asked := congrArg (· + 1) h.asked
        idle := fun _ => hnext
        busy := by simp
        pending := hnext ▸ pending_asked hfollows (count + 1) }

/-- It is too late to ask for another packet. -/
theorem Tracks.late
    (h : Tracks poll states a deadline count d)
    (hidle : d.waiting = false)
    (hlate : deadline ≤ d.clock) :
    a.Due deadline .timedOut d.pulls := by
  rw [h.idle hidle] at hlate
  have hpulls : d.pulls = count := by
    have hasked := h.asked
    rw [Progress.asked, hidle] at hasked
    exact Nat.succ.inj hasked
  have hdue := Arrivals.Due.timedOut h.passes fun p hp => absurd hp.asked (Nat.not_lt.2 hlate)
  rwa [if_neg (Nat.not_lt.2 hlate), ← hpulls] at hdue

/-- A packet that was asked for is not there when the timer fires. -/
theorem Tracks.missed
    (h : Tracks poll states a deadline count d)
    (hasked : a.askedAt count < deadline)
    (hmissed : ∀ p, ¬ a.InTime deadline count p) :
    a.Due deadline .timedOut d.asked := by
  have hdue := Arrivals.Due.timedOut h.passes hmissed
  rwa [if_pos hasked, ← h.asked] at hdue

/-- A drain that does not stop asking has asked for its packet in time, and its timer has not fired
yet. -/
theorem Tracks.open
    (h : Tracks poll states a deadline count d)
    (hopen : d.waiting = false → d.clock < deadline) :
    a.askedAt count < deadline ∧ d.clock ≤ expiry deadline := by
  cases hwaiting : d.waiting with
  | true =>
      exact h.busy hwaiting
  | false =>
      have hlt := hopen hwaiting
      have hle := le_expiry deadline
      exact ⟨h.idle hwaiting ▸ hlt, by omega⟩

/-- A packet that is still a while away when the timer fires does not come in time. -/
theorem not_inTime_of_waits
    {clock passed delay : Nat} {rest : Option Arrival}
    (hclock : clock = a.askedAt count + passed)
    (hcomes : a count = (rest.map (Arrival.postponed delay)).map (Arrival.postponed passed))
    (hover : expiry deadline < clock + delay)
    (p : Packet) :
    ¬ a.InTime deadline count p := by
  rintro ⟨-, total, hp, htotal⟩
  rw [hcomes] at hp
  cases rest with
  | none =>
      cases hp
  | some arrival =>
      obtain rfl : passed + (delay + arrival.delay) = total :=
        congrArg Arrival.delay (Option.some.inj hp)
      omega

/-- What one step of a drain does: it passes a packet, it goes on waiting for it, or it ends as it
must. -/
theorem Tracks.step
    (hfollows : Follows poll states a)
    (h : Tracks poll states a deadline count d) :
    (∃ d', d.step poll deadline = .goesOn d' ∧ d'.waiting = false ∧
      Tracks poll states a deadline (count + 1) d') ∨
    (∃ d' left delay, d.step poll deadline = .goesOn d' ∧ d'.waiting = true ∧
      poll d.receiver = .waits left (some (delay, d'.receiver)) ∧
      Tracks poll states a deadline count d') ∨
    ∃ o, d.step poll deadline = .ends o ∧ a.Due deadline o.verdict o.pulls := by
  unfold Progress.step
  split
  · next hlate =>
      simp only [Bool.and_eq_true, Bool.not_eq_true', decide_eq_true_eq] at hlate
      exact Or.inr (Or.inr ⟨_, rfl, h.late hlate.1 hlate.2⟩)
  · next hopen =>
      obtain ⟨hasked, htime⟩ := h.open (by simpa using hopen)
      obtain ⟨passed, rest, hclock, hcomes, hanswers⟩ := h.pending
      cases hanswers with
      | ready hpoll =>
          rw [hpoll]
          rcases h.take hfollows hasked htime hclock hcomes with hpassed | hended
          · exact Or.inl hpassed
          · exact Or.inr (Or.inr hended)
      | never hpoll =>
          rw [hpoll]
          refine Or.inr (Or.inr ⟨_, rfl, h.missed hasked ?_⟩)
          rintro p ⟨-, delay, hp, -⟩
          rw [hcomes] at hp
          cases hp
      | @waits _ left later delay rest hpoll hdelay hrest =>
          rw [hpoll]
          dsimp only
          split
          · next hover =>
              simp only [Bool.or_eq_true, decide_eq_true_eq] at hover
              exact Or.inr (Or.inr ⟨_, rfl, h.missed hasked
                (not_inTime_of_waits hclock hcomes (by omega))⟩)
          · next hgoesOn =>
              simp only [Bool.or_eq_true, decide_eq_true_eq, not_or, Nat.not_le, Nat.not_lt]
                at hgoesOn
              refine Or.inr (Or.inl ⟨_, left, delay, rfl, rfl, rfl, ?_⟩)
              exact {
                passes := h.passes
                blocks := h.blocks
                asked := h.asked
                idle := by simp
                busy := fun _ => ⟨hasked, hgoesOn.2⟩
                pending := by
                  refine ⟨passed + delay, rest, ?_, ?_, hrest⟩
                  · show d.clock + delay = _
                    omega
                  · rw [hcomes]
                    cases rest <;> simp [Arrival.postponed, Nat.add_assoc] }

/-! ## Whole drains -/

theorem Tracks.asks (h : Tracks poll states a deadline count d) : a.Asks deadline d.pulls := by
  have hasked := h.asked
  unfold Progress.asked at hasked
  split at hasked
  · next hwaiting =>
      rw [hasked]
      exact h.passes.asks_succ (h.busy hwaiting).1
  · rw [Nat.succ.inj hasked]
    exact h.passes.asks

/-- A drain that has ended has done so as it must. -/
theorem Tracks.run
    (hfollows : Follows poll states a)
    (h : Tracks poll states a deadline count d)
    (steps : Nat) :
    a.Asks deadline (d.run poll deadline steps).pulls ∧
      ((d.run poll deadline steps).verdict ≠ .unfinished →
        a.Due deadline (d.run poll deadline steps).verdict (d.run poll deadline steps).pulls) := by
  induction steps generalizing count d with
  | zero =>
      exact ⟨h.asks, fun hfinished => absurd rfl hfinished⟩
  | succ steps ih =>
      unfold Progress.run
      rcases h.step hfollows with
        ⟨d', hstep, -, hpassed⟩ | ⟨d', -, -, hstep, -, -, hwaits⟩ | ⟨o, hstep, hdue⟩
      · rw [hstep]
        exact ih hpassed
      · rw [hstep]
        exact ih hwaits
      · rw [hstep]
        exact ⟨hdue.asks, fun _ => hdue⟩

/-- Some number of steps is enough for a drain. -/
def Progress.Ends (poll : σ → Poll σ) (deadline : Nat) (d : Progress σ) : Prop :=
  ∃ steps, (d.run poll deadline steps).verdict ≠ .unfinished

theorem Progress.Ends.of_goesOn
    (hstep : d.step poll deadline = .goesOn d')
    (h : d'.Ends poll deadline) :
    d.Ends poll deadline := by
  obtain ⟨steps, h⟩ := h
  refine ⟨steps + 1, ?_⟩
  unfold Progress.run
  rwa [hstep]

theorem Progress.Ends.of_ends
    (hstep : d.step poll deadline = .ends o)
    (h : o.verdict ≠ .unfinished) :
    d.Ends poll deadline := by
  refine ⟨1, ?_⟩
  unfold Progress.run
  rwa [hstep]

/-- A drain ends, or it passes the packet that it waits for and then ends if the rest does. -/
def Moves (poll : σ → Poll σ) (states : Nat → σ) (a : Arrivals) (deadline count : Nat)
    (d : Progress σ) : Prop :=
  d.Ends poll deadline ∨
    ∃ d', Tracks poll states a deadline (count + 1) d' ∧
      (d'.Ends poll deadline → d.Ends poll deadline)

theorem Moves.of_goesOn
    (hstep : d.step poll deadline = .goesOn d')
    (h : Moves poll states a deadline count d') :
    Moves poll states a deadline count d := by
  rcases h with hends | ⟨d'', hpassed, hback⟩
  · exact Or.inl (.of_goesOn hstep hends)
  · exact Or.inr ⟨d'', hpassed, fun hends => .of_goesOn hstep (hback hends)⟩

theorem Tracks.moves_or_waits
    (hfollows : Follows poll states a)
    (h : Tracks poll states a deadline count d) :
    Moves poll states a deadline count d ∨
      ∃ d' left delay, d.step poll deadline = .goesOn d' ∧
        poll d.receiver = .waits left (some (delay, d'.receiver)) ∧
        Tracks poll states a deadline count d' := by
  rcases h.step hfollows with
    ⟨d', hstep, -, hpassed⟩ | ⟨d', left, delay, hstep, -, hpoll, hwaits⟩ | ⟨o, hstep, hdue⟩
  · exact Or.inl (Or.inr ⟨d', hpassed, .of_goesOn hstep⟩)
  · exact Or.inr ⟨d', left, delay, hstep, hpoll, hwaits⟩
  · exact Or.inl (Or.inl (.of_ends hstep hdue.finished))

/-- However often its receiver wakes it, a drain comes to its packet or to its end. -/
theorem Tracks.moves
    {x : σ} {rest : Option Arrival}
    (hfollows : Follows poll states a)
    (h : Tracks poll states a deadline count d)
    (hanswers : Answers poll (states (count + 1)) x rest)
    (hx : d.receiver = x) :
    Moves poll states a deadline count d := by
  induction hanswers generalizing d with
  | ready hpoll =>
      rcases h.moves_or_waits hfollows with hmoves | ⟨d', left, delay, -, hwaits, -⟩
      · exact hmoves
      · rw [hx, hpoll] at hwaits
        cases hwaits
  | never hpoll =>
      rcases h.moves_or_waits hfollows with hmoves | ⟨d', left, delay, -, hwaits, -⟩
      · exact hmoves
      · rw [hx, hpoll] at hwaits
        cases hwaits
  | waits hpoll _ _ ih =>
      rcases h.moves_or_waits hfollows with hmoves | ⟨d', left, delay, hstep, hwaits, htracks⟩
      · exact hmoves
      · rw [hx, hpoll] at hwaits
        cases hwaits
        exact .of_goesOn hstep (ih htracks rfl)

/-- A drain ends if there is a packet at which it must. -/
theorem Tracks.ends
    {last : Nat}
    (hfollows : Follows poll states a)
    (hlast : a.Last deadline last)
    (h : Tracks poll states a deadline count d) :
    d.Ends poll deadline := by
  induction hgap : last - count generalizing count d with
  | zero =>
      obtain ⟨_, _, _, _, hanswers⟩ := h.pending
      rcases h.moves hfollows hanswers rfl with hends | ⟨d', hpassed, -⟩
      · exact hends
      · exact absurd (by omega) (hlast.not_lt hpassed.passes)
  | succ gap ih =>
      obtain ⟨_, _, _, _, hanswers⟩ := h.pending
      rcases h.moves hfollows hanswers rfl with hends | ⟨d', hpassed, hback⟩
      · exact hends
      · exact hback (ih hpassed (by omega))

/-- What comes of a drain that is granted the steps that it needs. -/
def Drained (poll : σ → Poll σ) (timeout : Duration) (x : σ)
    (result : Except QueryError (List Block)) : Prop :=
  ∃ steps, (run poll steps timeout x).verdict ≠ .unfinished ∧
    (run poll steps timeout x).blocks timeout = result

variable {timeout : Duration} {result result' : Except QueryError (List Block)}

theorem deadlineOf_of_lt (h : timeout.nanoseconds < horizon.nanoseconds) :
    deadlineOf timeout = timeout.nanoseconds :=
  if_pos h

theorem drained_iff_exists_due
    {verdict : Verdict}
    (hfollows : Follows poll states a)
    (hresult : ∀ o : Outcome σ, o.verdict ≠ .unfinished →
      (o.blocks timeout = result ↔ o.verdict = verdict)) :
    Drained poll timeout (states 0) result ↔
      ∃ pulls, a.Due (deadlineOf timeout) verdict pulls := by
  have htracks : Tracks poll states a (deadlineOf timeout) 0 (.start (states 0)) :=
    tracks_start hfollows
  constructor
  · rintro ⟨steps, hfinished, hblocks⟩
    have hdue := (htracks.run hfollows steps).2 hfinished
    exact ⟨_, (hresult _ hfinished).1 hblocks ▸ hdue⟩
  · rintro ⟨pulls, hdue⟩
    obtain ⟨last, hlast⟩ := hdue.exists_last
    obtain ⟨steps, hfinished⟩ := htracks.ends hfollows hlast
    have hverdict := (((htracks.run hfollows steps).2 hfinished).unique hdue).1
    exact ⟨steps, hfinished, (hresult _ hfinished).2 hverdict⟩

theorem Drained.unique
    (hfollows : Follows poll states a)
    (h : Drained poll timeout (states 0) result)
    (h' : Drained poll timeout (states 0) result') :
    result = result' := by
  have htracks : Tracks poll states a (deadlineOf timeout) 0 (.start (states 0)) :=
    tracks_start hfollows
  obtain ⟨steps, hfinished, rfl⟩ := h
  obtain ⟨steps', hfinished', rfl⟩ := h'
  have hverdict := (((htracks.run hfollows steps).2 hfinished).unique
    ((htracks.run hfollows steps').2 hfinished')).1
  change (run poll steps timeout (states 0)).verdict = _ at hverdict
  rw [Outcome.blocks, Outcome.blocks, hverdict]
  rfl

/-- **What comes of a drain.** For a receiver that gives any sequence of packets with any delays,
and a budget within the horizon: the drain gives blocks exactly if packets that come in time and end
nothing are followed by a clean end that comes in time, and these blocks are the ones among them;
it gives a report exactly if they are followed by the end with that report; and it times out with
its own budget exactly if they are followed by a packet that would be asked for too late or is not
there when the timer fires. Nothing else comes of it. However long it goes on, it asks for packets
before the deadline only and for none after the end of the stream, and without a budget for none at
all. -/
theorem drained_iff
    (hfollows : Follows poll states a)
    (htimeout : timeout.nanoseconds < horizon.nanoseconds) :
    let deadline := timeout.nanoseconds
    (∀ blocks, Drained poll timeout (states 0) (.ok blocks) ↔
      ∃ count, a.Passes deadline count ∧ a.InTime deadline count .cleanEnd ∧
        blocks = a.blocks count) ∧
    (∀ report, Drained poll timeout (states 0) (.error (.remote report)) ↔
      ∃ count, a.Passes deadline count ∧ a.InTime deadline count (.failedEnd report)) ∧
    (Drained poll timeout (states 0) (.error (.timeout timeout)) ↔
      ∃ count, a.Passes deadline count ∧
        (deadline ≤ a.askedAt count ∨
          ∀ delay p, a count = some ⟨delay, p⟩ → expiry deadline < a.askedAt count + delay)) ∧
    (∀ result result', Drained poll timeout (states 0) result →
      Drained poll timeout (states 0) result' → result = result') ∧
    (∀ steps, ∀ count < (run poll steps timeout (states 0)).pulls,
      a.Passes deadline count ∧ a.askedAt count < deadline) ∧
    (deadline = 0 → ∀ steps,
      run poll (steps + 1) timeout (states 0) = ⟨.timedOut, 0, 0, states 0⟩) := by
  intro deadline
  have hdeadline : deadlineOf timeout = deadline := deadlineOf_of_lt htimeout
  rw [← hdeadline]
  refine ⟨fun blocks => ?_, fun report => ?_, ?_, fun _ _ h h' => h.unique hfollows h', ?_, ?_⟩
  · rw [← Arrivals.exists_due_complete_iff]
    refine drained_iff_exists_due hfollows fun o hfinished => ?_
    unfold Outcome.blocks
    cases hverdict : o.verdict <;> simp
  · rw [← Arrivals.exists_due_failed_iff]
    refine drained_iff_exists_due hfollows fun o hfinished => ?_
    unfold Outcome.blocks
    cases hverdict : o.verdict <;> simp
  · rw [← Arrivals.exists_due_timedOut_iff]
    refine drained_iff_exists_due hfollows fun o hfinished => ?_
    unfold Outcome.blocks
    cases hverdict : o.verdict <;> simp [hverdict] at hfinished ⊢
  · exact fun steps => ((tracks_start hfollows).run hfollows steps).1
  · intro hzero steps
    have hstep : (Progress.start (states 0)).step poll (deadlineOf timeout) =
        .ends ⟨.timedOut, 0, 0, states 0⟩ := by
      rw [hzero]
      rfl
    unfold run Progress.run
    rw [hstep]

/-- A script whose end comes exactly at a deadline of ten milliseconds, and whose block comes
exactly at one of three. -/
theorem drained_iff_onTime :
    let b := Block.empty ⟨["n"], [.int]⟩
    let s := Script.ofItems
      [⟨3000000, .data b⟩, ⟨0, .heartbeat⟩, ⟨7000000, .cleanEnd⟩, ⟨0, .data b⟩] none
    let ten := Duration.ofMilliseconds 10
    let three := Duration.ofMilliseconds 3
    Follows Script.poll s.after s.arrivals ∧
    ten.nanoseconds < horizon.nanoseconds ∧ three.nanoseconds < horizon.nanoseconds ∧
    Drained Script.poll ten s (.ok [b]) ∧
    Drained Script.poll three s (.error (.timeout three)) := by
  intro b s ten three
  have hfollows : Follows Script.poll s.after s.arrivals := Script.follows rfl
  have hten : ten.nanoseconds < horizon.nanoseconds := by decide
  have hthree : three.nanoseconds < horizon.nanoseconds := by decide
  refine ⟨hfollows, hten, hthree, ?_, ?_⟩
  · obtain ⟨hcomplete, -⟩ := drained_iff hfollows hten
    have hblock : s.arrivals.Passes ten.nanoseconds 1 :=
      (Arrivals.passes_zero _ _).succ ⟨by decide, 3000000, rfl, by decide⟩ rfl
    have hheartbeat : s.arrivals.Passes ten.nanoseconds 2 :=
      hblock.succ ⟨by decide, 0, rfl, by decide⟩ rfl
    exact (hcomplete [b]).2 ⟨2, hheartbeat, ⟨by decide, 7000000, rfl, by decide⟩, rfl⟩
  · obtain ⟨-, -, htimedOut, -⟩ := drained_iff hfollows hthree
    have hblock : s.arrivals.Passes three.nanoseconds 1 :=
      (Arrivals.passes_zero _ _).succ ⟨by decide, 3000000, rfl, by decide⟩ rfl
    exact htimedOut.2 ⟨1, hblock, Or.inl (by decide)⟩

end Drain
end ScatterGather
