import ScatterGather.Proofs.Drain.Deadline

/-!
# Scripts are granted enough steps

A receiver that has its packet whenever it wakes costs a drain two steps a packet. Of a script, a
drain passes the items at most, the repetitions that are asked for before the deadline, and one
packet more.

**Results.** `Script.drained_iff_drain`: what comes of a drain of a script is what `Script.drain`
gives.
-/

namespace ScatterGather
namespace Drain

variable {σ : Type} {poll : σ → Poll σ} {states : Nat → σ} {a : Arrivals}
variable {deadline count last steps : Nat} {d : Progress σ} {timeout : Duration}

/-- A receiver that has a packet whenever it wakes its asker. -/
def Prompt (poll : σ → Poll σ) : Prop :=
  ∀ x left delay later, poll x = .waits left (some (delay, later)) →
    ∃ p rest, poll later = .ready p rest

/-- A drain that has not ended yet has passed a packet for every two of its steps. -/
theorem Tracks.run_prompt
    (hprompt : Prompt poll)
    (hfollows : Follows poll states a)
    (h : Tracks poll states a deadline count d)
    (hready : d.waiting = true → ∃ p rest, poll d.receiver = .ready p rest)
    (hunfinished : (d.run poll deadline steps).verdict = .unfinished) :
    ∃ passed, a.Passes deadline passed ∧
      2 * count + d.waiting.toNat + steps ≤ 2 * passed + 1 := by
  induction steps generalizing count d with
  | zero =>
      exact ⟨count, h.passes, by have := d.waiting.toNat_le; omega⟩
  | succ steps ih =>
      unfold Progress.run at hunfinished
      rcases h.step hfollows with
        ⟨d', hstep, hidle, hpassed⟩ | ⟨d', left, delay, hstep, hbusy, hpoll, hwaits⟩ |
          ⟨o, hstep, hdue⟩
      · rw [hstep] at hunfinished
        obtain ⟨passed, hpasses, hle⟩ := ih hpassed (by simp [hidle]) hunfinished
        refine ⟨passed, hpasses, ?_⟩
        have hwait := d.waiting.toNat_le
        omega
      · rw [hstep] at hunfinished
        obtain ⟨passed, hpasses, hle⟩ :=
          ih hwaits (fun _ => hprompt _ _ _ _ hpoll) hunfinished
        refine ⟨passed, hpasses, ?_⟩
        -- A drain that was woken has its packet, so it did not wait before.
        have hidle : d.waiting = false := by
          cases hwaiting : d.waiting with
          | false =>
              rfl
          | true =>
              obtain ⟨p, rest, hnow⟩ := hready hwaiting
              rw [hnow] at hpoll
              cases hpoll
        rw [hbusy] at hle
        rw [hidle]
        simp only [Bool.toNat_true, Bool.toNat_false] at hle ⊢
        omega
      · rw [hstep] at hunfinished
        exact absurd hunfinished hdue.finished

/-- Two steps for each packet are enough. -/
theorem run_finished_of_prompt
    (hprompt : Prompt poll)
    (hfollows : Follows poll states a)
    (hlast : a.Last (deadlineOf timeout) last)
    (hsteps : 2 * (last + 1) ≤ steps) :
    (run poll steps timeout (states 0)).verdict ≠ .unfinished := by
  intro hunfinished
  have htracks : Tracks poll states a (deadlineOf timeout) 0 (.start (states 0)) :=
    tracks_start hfollows
  obtain ⟨passed, hpasses, hle⟩ :=
    htracks.run_prompt hprompt hfollows (by simp [Progress.start]) hunfinished
  have hlt := hlast.not_lt hpasses
  omega

end Drain

namespace Script

variable {s : Script} {deadline last : Nat} {timeout : Duration}

theorem prompt_poll : Drain.Prompt poll := by
  intro x left delay later hpoll
  unfold poll at hpoll
  split at hpoll
  · cases hpoll
  · split at hpoll
    · cases hpoll
    · split at hpoll
      · cases hpoll
      · cases hpoll
        exact ⟨_, _, rfl⟩

/-- After the items of a script its repetition comes again and again. -/
theorem askedAt_repeated
    {arrival : Arrival}
    (hthereafter : s.thereafter = some arrival)
    (repetitions : Nat) :
    s.arrivals.askedAt (s.items.length + repetitions) =
      s.arrivals.askedAt s.items.length + repetitions * arrival.delay := by
  induction repetitions with
  | zero =>
      simp
  | succ repetitions ih =>
      have harrival : s.arrivals (s.items.length + repetitions) =
          some ⟨arrival.delay, arrival.packet⟩ := by
        simp [arrivals, hthereafter]
      rw [← Nat.add_assoc, Arrivals.askedAt_succ harrival, ih, Nat.add_mul]
      omega

/-- The repetitions of a script that are asked for before a deadline, except the last of them. -/
def repetitions (s : Script) (deadline : Nat) : Nat :=
  match s.thereafter with
  | some arrival => deadline / arrival.delay
  | none => 0

theorem last_le_of_repeats
    {arrival : Arrival}
    (hthereafter : s.thereafter = some arrival)
    (h : s.arrivals.Last deadline last) :
    last ≤ s.items.length + deadline / arrival.delay + 1 := by
  refine Nat.le_of_not_lt fun hgt => ?_
  rcases Nat.eq_zero_or_pos arrival.delay with hzero | hpos
  · -- A repetition without delay that ends nothing would go on for ever.
    rw [hzero, Nat.div_zero, Nat.add_zero] at hgt
    obtain ⟨p, ⟨hasked, delay, hcomes, htime⟩, hend⟩ := h.passes s.items.length (by omega)
    obtain ⟨more, rfl⟩ : ∃ more, last = s.items.length + more := ⟨last - s.items.length, by omega⟩
    have hsame : s.arrivals.askedAt (s.items.length + more) =
        s.arrivals.askedAt s.items.length := by
      rw [askedAt_repeated hthereafter, hzero, Nat.mul_zero, Nat.add_zero]
    have hagain : s.arrivals (s.items.length + more) = s.arrivals s.items.length := by
      simp [arrivals]
    have hin : s.arrivals.InTime deadline (s.items.length + more) p :=
      ⟨hsame ▸ hasked, delay, hagain ▸ hcomes, hsame ▸ htime⟩
    rw [h.ends p hin] at hend
    cases hend
  · obtain ⟨p, hcomes, -⟩ :=
      h.passes (s.items.length + (deadline / arrival.delay + 1)) (by omega)
    have hasked := hcomes.asked
    rw [askedAt_repeated hthereafter] at hasked
    have hlate : deadline < (deadline / arrival.delay + 1) * arrival.delay :=
      (Nat.div_lt_iff_lt_mul hpos).1 (Nat.lt_succ_self _)
    omega

/-- A drain of a script ends with one of its items, or with one of the repetitions that are asked
for before the deadline, or with the one after them. -/
theorem last_le (h : s.arrivals.Last deadline last) :
    last ≤ s.items.length + s.repetitions deadline + 1 := by
  cases hthereafter : s.thereafter with
  | some arrival =>
      simp only [repetitions, hthereafter]
      exact last_le_of_repeats hthereafter h
  | none =>
      refine Nat.le_of_not_lt fun hgt => ?_
      obtain ⟨p, ⟨-, delay, hcomes, -⟩, -⟩ := h.passes s.items.length (by omega)
      simp [arrivals, hthereafter] at hcomes

/-- **A script is granted enough steps.** What comes of a drain of a script, whatever steps it
needs, is what comes of it within the steps that are granted. -/
theorem drained_iff_drain
    (h : s.awaited = none)
    (result : Except QueryError (List Block)) :
    Drain.Drained poll timeout s result ↔
      (s.drain timeout).verdict ≠ .unfinished ∧ (s.drain timeout).blocks timeout = result := by
  have hfollows := follows h
  have hstart : s.after 0 = s := rfl
  constructor
  · intro hdrained
    have hfinished : (s.drain timeout).verdict ≠ .unfinished := by
      obtain ⟨steps, hfinished, -⟩ := hdrained
      have htracks : Drain.Tracks poll s.after s.arrivals (Drain.deadlineOf timeout) 0 (.start s) :=
        Drain.tracks_start hfollows
      obtain ⟨last, hlast⟩ := ((htracks.run hfollows steps).2 hfinished).exists_last
      have hle := last_le hlast
      refine Drain.run_finished_of_prompt prompt_poll hfollows hlast ?_
      show 2 * (last + 1) ≤ 2 * (s.items.length + s.repetitions (Drain.deadlineOf timeout) + 2)
      omega
    have hown : Drain.Drained poll timeout (s.after 0) ((s.drain timeout).blocks timeout) :=
      ⟨_, hfinished, rfl⟩
    exact ⟨hfinished, hown.unique hfollows hdrained⟩
  · rintro ⟨hfinished, hresult⟩
    exact ⟨_, hfinished, hresult⟩

end Script
end ScatterGather
