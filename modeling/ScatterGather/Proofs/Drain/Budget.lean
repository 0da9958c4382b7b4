import ScatterGather.Proofs.Drain.Deadline

/-!
# Drains with a longer budget

Two drains of one receiver that differ in their budgets only go side by side until the shorter
budget is used up. So a drain that ends otherwise ends in the same way with any longer budget, and
one that has not ended within the longer budget has not ended within the shorter one.

The steps granted to a drain are no part of its budget. A receiver that spends something whenever a
drain goes on needs no more of them than it has to spend.

**Results.** `comesTo_of_longer`: what a longer budget makes of the outcome of a drain.
`run_finished`: how many steps are enough for a receiver that spends. `drained_iff_of_finished`: once
the steps are enough, what a drain gives is all that can come of it.
-/

namespace ScatterGather
namespace Drain

variable {σ : Type} {poll : σ → Poll σ} {deadline deadline' steps more : Nat}
variable {d : Progress σ} {o o' : Outcome σ} {timeout timeout' : Duration} {x : σ}

theorem expiry_mono (hle : deadline ≤ deadline') : expiry deadline ≤ expiry deadline' := by
  simp only [expiry, Duration.perMillisecond]
  omega

/-! ## Two drains side by side -/

/-- A step with a later deadline is the same, unless the drain times out with the earlier one. -/
theorem Progress.step_of_later
    (hle : deadline ≤ deadline')
    (poll : σ → Poll σ) (d : Progress σ) :
    (∃ o, d.step poll deadline = .ends o ∧ o.verdict = .timedOut) ∨
      d.step poll deadline' = d.step poll deadline := by
  have hexpiry := expiry_mono hle
  unfold Progress.step
  split
  · exact Or.inl ⟨_, rfl, rfl⟩
  · next hopen =>
      simp only [Bool.and_eq_true, Bool.not_eq_true', decide_eq_true_eq, not_and, Nat.not_le]
        at hopen
      have hopen' : ¬ ((!d.waiting && decide (deadline' ≤ d.clock)) = true) := by
        simp only [Bool.and_eq_true, Bool.not_eq_true', decide_eq_true_eq, not_and, Nat.not_le]
        exact fun hidle => Nat.lt_of_lt_of_le (hopen hidle) hle
      rw [if_neg hopen']
      cases poll d.receiver with
      | ready p rest =>
          exact Or.inr rfl
      | waits left wakeUp =>
          cases wakeUp with
          | none =>
              exact Or.inl ⟨_, rfl, rfl⟩
          | some entry =>
              obtain ⟨delay, later⟩ := entry
              dsimp only
              split
              · exact Or.inl ⟨_, rfl, rfl⟩
              · next hgoesOn =>
                  simp only [Bool.or_eq_true, decide_eq_true_eq, not_or, Nat.not_le, Nat.not_lt]
                    at hgoesOn
                  obtain ⟨hclock, hdelay⟩ := hgoesOn
                  have hgoesOn' : ¬ ((decide (expiry deadline' ≤ d.clock) ||
                      decide (expiry deadline' < d.clock + delay)) = true) := by
                    simp only [Bool.or_eq_true, decide_eq_true_eq]
                    omega
                  exact Or.inr (if_neg hgoesOn')

/-- As many steps with a later deadline come to the same, unless the drain times out with the
earlier one. -/
theorem Progress.run_of_later
    (hle : deadline ≤ deadline')
    (poll : σ → Poll σ) (steps : Nat) (d : Progress σ) :
    (d.run poll deadline steps).verdict = .timedOut ∨
      d.run poll deadline' steps = d.run poll deadline steps := by
  induction steps generalizing d with
  | zero =>
      exact Or.inr rfl
  | succ steps ih =>
      unfold Progress.run
      rcases d.step_of_later hle poll with ⟨o, hstep, htimedOut⟩ | hsame
      · rw [hstep]
        exact Or.inl htimedOut
      · rw [hsame]
        cases d.step poll deadline with
        | goesOn d' =>
            exact ih d'
        | ends o =>
            exact Or.inr rfl

/-! ## Enough steps -/

/-- More steps than enough change nothing. -/
theorem Progress.run_of_le
    (hfinished : (d.run poll deadline steps).verdict ≠ .unfinished)
    (hle : steps ≤ more) :
    d.run poll deadline more = d.run poll deadline steps := by
  induction steps generalizing d more with
  | zero =>
      exact absurd rfl hfinished
  | succ steps ih =>
      obtain ⟨rest, rfl⟩ : ∃ rest, more = rest + 1 := ⟨more - 1, by omega⟩
      unfold Progress.run at hfinished ⊢
      cases hstep : d.step poll deadline with
      | goesOn d' =>
          rw [hstep] at hfinished
          exact ih hfinished (Nat.le_of_succ_le_succ hle)
      | ends o =>
          rfl

/-- What a receiver has to spend falls whenever a drain goes on: with every packet that does not end
the stream, and with every wait. -/
structure Spends (poll : σ → Poll σ) (funds : σ → Nat) : Prop where
  ready : ∀ x p rest, poll x = .ready p rest → p.isEnd = false → funds rest < funds x
  wakes : ∀ x left delay later, poll x = .waits left (some (delay, later)) → funds later < funds x

theorem Progress.finished_of_take
    {p : Packet} {rest : σ}
    (h : d.take p rest = .ends o) :
    o.verdict ≠ .unfinished := by
  cases p with
  | endOfStream failure =>
      cases failure <;> cases h <;> simp
  | _ => cases h

theorem Progress.finished_of_step (h : d.step poll deadline = .ends o) :
    o.verdict ≠ .unfinished := by
  unfold Progress.step at h
  split at h
  · cases h
    simp
  · split at h
    · exact finished_of_take h
    · cases h
      simp
    · split at h
      · cases h
        simp
      · cases h

theorem Progress.run_finished
    {funds : σ → Nat}
    (hspends : Spends poll funds)
    (hsteps : funds d.receiver < steps) :
    (d.run poll deadline steps).verdict ≠ .unfinished := by
  induction steps generalizing d with
  | zero =>
      exact absurd hsteps (Nat.not_lt_zero _)
  | succ steps ih =>
      unfold Progress.run
      cases hstep : d.step poll deadline with
      | ends o =>
          exact finished_of_step hstep
      | goesOn d' =>
          have hspent : funds d'.receiver < funds d.receiver := by
            rcases Progress.step_goesOn hstep with ⟨p, hready, hend, -⟩ | ⟨left, delay, hwaits, -⟩
            · exact hspends.ready _ p _ hready hend
            · exact hspends.wakes _ left delay _ hwaits
          exact ih (Nat.lt_of_lt_of_le hspent (Nat.le_of_lt_succ hsteps))

/-- **Enough steps.** A drain ends within more steps than its receiver has to spend. -/
theorem run_finished
    {funds : σ → Nat}
    (hspends : Spends poll funds)
    (hsteps : funds x < steps)
    (timeout : Duration) :
    (run poll steps timeout x).verdict ≠ .unfinished :=
  Progress.run_finished hspends hsteps

/-- The outcome of a drain that is granted the steps that it needs. -/
def ComesTo (poll : σ → Poll σ) (timeout : Duration) (x : σ) (o : Outcome σ) : Prop :=
  ∃ steps, run poll steps timeout x = o ∧ o.verdict ≠ .unfinished

theorem ComesTo.unique
    (h : ComesTo poll timeout x o)
    (h' : ComesTo poll timeout x o') :
    o' = o := by
  obtain ⟨steps, rfl, hfinished⟩ := h
  obtain ⟨steps', rfl, hfinished'⟩ := h'
  rcases Nat.le_total steps steps' with hle | hle
  · exact Progress.run_of_le hfinished hle
  · exact (Progress.run_of_le hfinished' hle).symm

/-- Whatever steps a drain needs, it gives what it gives within steps that are enough. -/
theorem drained_iff_of_finished
    (hfinished : (run poll steps timeout x).verdict ≠ .unfinished)
    (result : Except QueryError (List Block)) :
    Drained poll timeout x result ↔ (run poll steps timeout x).blocks timeout = result := by
  have hcomes : ComesTo poll timeout x (run poll steps timeout x) := ⟨steps, rfl, hfinished⟩
  constructor
  · rintro ⟨steps', hfinished', hresult⟩
    rw [← hresult, hcomes.unique ⟨steps', rfl, hfinished'⟩]
  · exact fun hresult => ⟨steps, hfinished, hresult⟩

theorem blocks_eq_of_ne_timedOut
    (hfinished : o.verdict ≠ .unfinished)
    (hverdict : o.verdict ≠ .timedOut)
    (timeout timeout' : Duration) :
    o.blocks timeout' = o.blocks timeout := by
  unfold Outcome.blocks
  cases hv : o.verdict with
  | complete blocks =>
      rfl
  | failed report =>
      rfl
  | timedOut =>
      exact absurd hv hverdict
  | unfinished =>
      exact absurd hv hfinished

theorem blocks_eq_timeout_iff
    (hfinished : o.verdict ≠ .unfinished)
    (timeout : Duration) :
    o.blocks timeout = .error (.timeout timeout) ↔ o.verdict = .timedOut := by
  unfold Outcome.blocks
  cases hv : o.verdict with
  | unfinished =>
      exact absurd hv hfinished
  | _ =>
      simp

/-- **A longer budget.** For every receiver and two budgets within the horizon: where a drain gives
blocks or the report of a failure, it comes to the same outcome with the longer budget and to no
other, so that it gives the same after as many pulls. Where it times out with the longer budget, it
times out with the shorter one. -/
theorem comesTo_of_longer
    (hle : timeout.nanoseconds ≤ timeout'.nanoseconds)
    (htimeout' : timeout'.nanoseconds < horizon.nanoseconds) :
    (∀ o, ComesTo poll timeout x o →
      ((∃ blocks, o.blocks timeout = .ok blocks) ∨
        ∃ report, o.blocks timeout = .error (.remote report)) →
      (∃ o', ComesTo poll timeout' x o') ∧
      ∀ o', ComesTo poll timeout' x o' →
        o' = o ∧ o'.blocks timeout' = o.blocks timeout ∧ o'.pulls = o.pulls) ∧
    (∀ o', ComesTo poll timeout' x o' → o'.blocks timeout' = .error (.timeout timeout') →
      (∃ o, ComesTo poll timeout x o) ∧
      ∀ o, ComesTo poll timeout x o → o.blocks timeout = .error (.timeout timeout)) := by
  have hdeadline : deadlineOf timeout ≤ deadlineOf timeout' := by
    rw [deadlineOf_of_lt htimeout', deadlineOf_of_lt (Nat.lt_of_le_of_lt hle htimeout')]
    exact hle
  have hboth := fun steps => Progress.run_of_later hdeadline poll steps (.start x)
  constructor
  · rintro o ⟨steps, rfl, hfinished⟩ hresult
    have hverdict : (run poll steps timeout x).verdict ≠ .timedOut := by
      intro htimedOut
      have hblocks := (blocks_eq_timeout_iff hfinished timeout).2 htimedOut
      rcases hresult with ⟨blocks, hok⟩ | ⟨report, hfailed⟩
      · cases hblocks.symm.trans hok
      · cases hblocks.symm.trans hfailed
    have hsame : run poll steps timeout' x = run poll steps timeout x :=
      (hboth steps).resolve_left hverdict
    have hcomes : ComesTo poll timeout' x (run poll steps timeout x) :=
      ⟨steps, hsame, hfinished⟩
    refine ⟨⟨_, hcomes⟩, fun o' ho' => ?_⟩
    obtain rfl := hcomes.unique ho'
    exact ⟨rfl, blocks_eq_of_ne_timedOut hfinished hverdict timeout timeout', rfl⟩
  · rintro o' ⟨steps, rfl, hfinished'⟩ hresult
    have htimedOut' := (blocks_eq_timeout_iff hfinished' timeout').1 hresult
    have htimedOut : (run poll steps timeout x).verdict = .timedOut := by
      rcases hboth steps with htimedOut | hsame
      · exact htimedOut
      · exact (congrArg Outcome.verdict hsame).symm.trans htimedOut'
    have hfinished : (run poll steps timeout x).verdict ≠ .unfinished := by
      rw [htimedOut]
      simp
    have hcomes : ComesTo poll timeout x (run poll steps timeout x) := ⟨steps, rfl, hfinished⟩
    refine ⟨⟨_, hcomes⟩, fun o ho => ?_⟩
    obtain rfl := hcomes.unique ho
    exact (blocks_eq_timeout_iff hfinished timeout).2 htimedOut

/-- A script whose end comes exactly at a deadline of ten milliseconds is drained in the same way
within a minute. Five milliseconds are not enough for it, so three are not. -/
theorem comesTo_of_longer_onTime :
    let b := Block.empty ⟨["n"], [.int]⟩
    let s := Script.ofItems
      [⟨3000000, .data b⟩, ⟨0, .heartbeat⟩, ⟨7000000, .cleanEnd⟩] none
    let three := Duration.ofMilliseconds 3
    let five := Duration.ofMilliseconds 5
    let ten := Duration.ofMilliseconds 10
    let minute := Duration.ofSeconds 60
    (three.nanoseconds ≤ five.nanoseconds ∧ five.nanoseconds < horizon.nanoseconds) ∧
    (ten.nanoseconds ≤ minute.nanoseconds ∧ minute.nanoseconds < horizon.nanoseconds) ∧
    ComesTo Script.poll ten s (s.drain ten) ∧ (s.drain ten).blocks ten = .ok [b] ∧
    (∀ o, ComesTo Script.poll minute s o → o.blocks minute = .ok [b] ∧ o.pulls = 3) ∧
    ComesTo Script.poll five s (s.drain five) ∧
    (s.drain five).blocks five = .error (.timeout five) ∧
    (∀ o, ComesTo Script.poll three s o → o.blocks three = .error (.timeout three)) := by
  intro b s three five ten minute
  have hfive : three.nanoseconds ≤ five.nanoseconds ∧
      five.nanoseconds < horizon.nanoseconds := by decide
  have hminute : ten.nanoseconds ≤ minute.nanoseconds ∧
      minute.nanoseconds < horizon.nanoseconds := by decide
  have hten : ComesTo Script.poll ten s (s.drain ten) := ⟨_, rfl, by decide⟩
  have hcomplete : (s.drain ten).blocks ten = .ok [b] := by
    rw [Outcome.blocks, show (s.drain ten).verdict = .complete [b] by decide]
  have hpulls : (s.drain ten).pulls = 3 := by decide
  have hlate : ComesTo Script.poll five s (s.drain five) := ⟨_, rfl, by decide⟩
  have htimedOut : (s.drain five).blocks five = .error (.timeout five) :=
    (blocks_eq_timeout_iff (by decide) five).2 (by decide)
  refine ⟨hfive, hminute, hten, hcomplete, fun o ho => ?_, hlate, htimedOut, ?_⟩
  · obtain ⟨-, hsame⟩ :=
      (comesTo_of_longer hminute.1 hminute.2).1 _ hten (Or.inl ⟨[b], hcomplete⟩)
    obtain ⟨-, hblocks, hasMany⟩ := hsame o ho
    exact ⟨hblocks.trans hcomplete, hasMany.trans hpulls⟩
  · exact ((comesTo_of_longer hfive.1 hfive.2).2 _ hlate htimedOut).2

end Drain
end ScatterGather
