import ScatterGather.Drain

/-!
# The course of a drain

**Results.** A drain that comes to a clean end has been given the blocks of its result, in their
order, with heartbeats between them and waits, then the clean end, and nothing else. What a drain
does depends on its receiver only through the answers that it gives. However a drain ends, it leaves
its receiver as the answers to its questions did.
-/

namespace ScatterGather

/-- The block of rows of a packet, if it is one. -/
def Packet.block? : Packet → Option Block
  | .data block => some block
  | _ => none

namespace Poll

variable {σ τ : Type}

/-- The answer of a receiver of which only a part is looked at. -/
def map (f : σ → τ) : Poll σ → Poll τ
  | .ready p rest => .ready p (f rest)
  | .waits left wakeUp => .waits (f left) (wakeUp.map fun entry => (entry.1, f entry.2))

end Poll

namespace Drain

variable {σ τ : Type} {poll : σ → Poll σ} {poll' : τ → Poll τ} {f : σ → τ} {deadline : Nat}
variable {x y z : σ} {d d' : Progress σ} {outcome : Outcome σ}

/-! ## Receivers of which only a part is looked at -/

/-- A drain whose receiver is looked at in part. -/
def Progress.map (f : σ → τ) (d : Progress σ) : Progress τ :=
  { clock := d.clock
    pulls := d.pulls
    blocks := d.blocks
    waiting := d.waiting
    receiver := f d.receiver }

/-- The outcome of a drain whose receiver is looked at in part. -/
def Outcome.map (f : σ → τ) (o : Outcome σ) : Outcome τ :=
  { verdict := o.verdict
    clock := o.clock
    pulls := o.pulls
    receiver := f o.receiver }

/-- A step of a drain whose receiver is looked at in part. -/
def Course.map (f : σ → τ) : Course σ → Course τ
  | .goesOn d => .goesOn (d.map f)
  | .ends o => .ends (o.map f)

theorem Progress.take_map (d : Progress σ) (p : Packet) (rest : σ) :
    (d.map f).take p (f rest) = (d.take p rest).map f := by
  cases p with
  | data block =>
      rfl
  | heartbeat =>
      rfl
  | endOfStream failure =>
      cases failure with
      | none =>
          rfl
      | some report =>
          rfl

theorem Progress.step_map
    (hpoll : ∀ x, poll' (f x) = (poll x).map f)
    (d : Progress σ) :
    (d.map f).step poll' deadline = (d.step poll deadline).map f := by
  have hreceiver : poll' (d.map f).receiver = (poll d.receiver).map f := hpoll d.receiver
  unfold Progress.step
  rw [hreceiver]
  show (if !d.waiting && deadline ≤ d.clock then _ else _) = _
  split
  · rfl
  · cases poll d.receiver with
    | ready p rest =>
        exact d.take_map p rest
    | waits left wakeUp =>
        cases wakeUp with
        | none =>
            rfl
        | some entry =>
            obtain ⟨delay, later⟩ := entry
            show (if expiry deadline ≤ d.clock || expiry deadline < d.clock + delay
              then _ else _) = _
            dsimp only
            split
            · rfl
            · rfl

theorem Progress.run_map
    (hpoll : ∀ x, poll' (f x) = (poll x).map f)
    (steps : Nat) (d : Progress σ) :
    (d.map f).run poll' deadline steps = (d.run poll deadline steps).map f := by
  induction steps generalizing d with
  | zero =>
      rfl
  | succ steps ih =>
      unfold Progress.run
      rw [Progress.step_map hpoll]
      cases d.step poll deadline with
      | goesOn d' =>
          exact ih d'
      | ends outcome =>
          rfl

theorem run_map
    (hpoll : ∀ x, poll' (f x) = (poll x).map f)
    (steps : Nat) (timeout : Duration) (x : σ) :
    run poll' steps timeout (f x) = (run poll steps timeout x).map f :=
  Progress.run_map hpoll steps (.start x)

/-! ## What a drain is given -/

/-- From one state of a receiver to a later one, and the packets that it gives on the way. -/
inductive Gives (poll : σ → Poll σ) (x : σ) : List Packet → σ → Prop where
  | refl : Gives poll x [] x
  | ready
      {packets : List Packet} {y z : σ} {p : Packet}
      (before : Gives poll x packets y)
      (hpoll : poll y = .ready p z) :
      Gives poll x (packets ++ [p]) z
  | wakes
      {packets : List Packet} {y left z : σ} {delay : Nat}
      (before : Gives poll x packets y)
      (hpoll : poll y = .waits left (some (delay, z))) :
      Gives poll x packets z

theorem Progress.step_goesOn (h : d.step poll deadline = .goesOn d') :
    (∃ p, poll d.receiver = .ready p d'.receiver ∧ p.isEnd = false ∧
      d'.blocks = d.blocks ++ p.block?.toList) ∨
    (∃ left delay, poll d.receiver = .waits left (some (delay, d'.receiver)) ∧
      d'.blocks = d.blocks) := by
  unfold Progress.step at h
  split at h
  · cases h
  · split at h
    · next p rest hready =>
        cases p with
        | data block =>
            cases h
            exact Or.inl ⟨_, hready, rfl, rfl⟩
        | heartbeat =>
            cases h
            exact Or.inl ⟨_, hready, rfl, (List.append_nil _).symm⟩
        | endOfStream failure =>
            cases failure <;> cases h
    · cases h
    · next left delay later hwaits =>
        split at h
        · cases h
        · cases h
          exact Or.inr ⟨left, delay, hwaits, rfl⟩

theorem Progress.step_complete
    {blocks : List Block}
    (h : d.step poll deadline = .ends outcome)
    (hverdict : outcome.verdict = .complete blocks) :
    poll d.receiver = .ready .cleanEnd outcome.receiver ∧ blocks = d.blocks := by
  unfold Progress.step at h
  split at h
  · cases h
    cases hverdict
  · split at h
    · next p rest hready =>
        cases p with
        | data block =>
            cases h
        | heartbeat =>
            cases h
        | endOfStream failure =>
            cases failure with
            | none =>
                cases h
                cases hverdict
                exact ⟨hready, rfl⟩
            | some report =>
                cases h
                cases hverdict
    · cases h
      cases hverdict
    · split at h
      · cases h
        cases hverdict
      · cases h

theorem Progress.run_complete
    {blocks : List Block} {packets : List Packet}
    (steps : Nat)
    (hgives : Gives poll x packets d.receiver)
    (hends : ∀ p ∈ packets, p.isEnd = false)
    (hblocks : d.blocks = packets.filterMap Packet.block?)
    (hverdict : (d.run poll deadline steps).verdict = .complete blocks) :
    ∃ packets y,
      Gives poll x packets y ∧
      poll y = .ready .cleanEnd (d.run poll deadline steps).receiver ∧
      (∀ p ∈ packets, p.isEnd = false) ∧
      blocks = packets.filterMap Packet.block? := by
  induction steps generalizing d packets with
  | zero =>
      cases hverdict
  | succ steps ih =>
      unfold Progress.run at hverdict ⊢
      cases hstep : d.step poll deadline with
      | goesOn d' =>
          rw [hstep] at hverdict
          rcases Progress.step_goesOn hstep with
            ⟨p, hready, hend, hmore⟩ | ⟨left, delay, hwaits, hsame⟩
          · refine ih (hgives.ready hready) ?_ ?_ hverdict
            · intro q hq
              rcases List.mem_append.1 hq with hq | hq
              · exact hends q hq
              · rw [List.mem_singleton.1 hq]
                exact hend
            · rw [hmore, hblocks, List.filterMap_append]
              cases p <;> rfl
          · exact ih (hgives.wakes hwaits) hends (hsame.trans hblocks) hverdict
      | ends outcome =>
          rw [hstep] at hverdict
          obtain ⟨hready, hsame⟩ := Progress.step_complete hstep hverdict
          exact ⟨packets, d.receiver, hgives, hready, hends, hsame.trans hblocks⟩

/-- **A complete drain.** -/
theorem run_complete
    {blocks : List Block}
    (steps : Nat) (timeout : Duration)
    (hverdict : (run poll steps timeout x).verdict = .complete blocks) :
    ∃ packets y,
      Gives poll x packets y ∧
      poll y = .ready .cleanEnd (run poll steps timeout x).receiver ∧
      (∀ p ∈ packets, p.isEnd = false) ∧
      blocks = packets.filterMap Packet.block? :=
  Progress.run_complete steps .refl (by simp) rfl hverdict

/-! ## What every drain keeps -/

/-- A property of a receiver that stays when it is asked, whatever it answers. -/
structure Stays (poll : σ → Poll σ) (P : σ → Prop) : Prop where
  ready : ∀ x p rest, P x → poll x = .ready p rest → P rest
  left : ∀ x left wakeUp, P x → poll x = .waits left wakeUp → P left
  wakes : ∀ x left delay later, P x → poll x = .waits left (some (delay, later)) → P later

/-- What is left of the receiver after a step of a drain. -/
def Course.receiver : Course σ → σ
  | .goesOn d => d.receiver
  | .ends o => o.receiver

theorem Progress.receiver_take (d : Progress σ) (p : Packet) (rest : σ) :
    (d.take p rest).receiver = rest := by
  cases p with
  | endOfStream failure => cases failure <;> rfl
  | _ => rfl

theorem Progress.step_stays
    {P : σ → Prop}
    (hpoll : Stays poll P)
    (h : P d.receiver) :
    P (d.step poll deadline).receiver := by
  unfold Progress.step
  split
  · exact h
  · split
    · next p rest hready =>
        rw [Progress.receiver_take]
        exact hpoll.ready _ p rest h hready
    · next left hwaits =>
        exact hpoll.left _ left none h hwaits
    · next left delay later hwaits =>
        split
        · exact hpoll.left _ left _ h hwaits
        · exact hpoll.wakes _ left delay later h hwaits

theorem Progress.run_stays
    {P : σ → Prop}
    (hpoll : Stays poll P)
    (steps : Nat)
    (h : P d.receiver) :
    P (d.run poll deadline steps).receiver := by
  induction steps generalizing d with
  | zero =>
      exact h
  | succ steps ih =>
      have hstep : P (d.step poll deadline).receiver := Progress.step_stays hpoll h
      unfold Progress.run
      cases hcourse : d.step poll deadline with
      | goesOn d' =>
          rw [hcourse] at hstep
          exact ih hstep
      | ends outcome =>
          rw [hcourse] at hstep
          exact hstep

/-- **Every drain**, whatever comes of it. -/
theorem run_stays
    {P : σ → Prop}
    (hpoll : Stays poll P)
    (steps : Nat) (timeout : Duration)
    (h : P x) :
    P (run poll steps timeout x).receiver :=
  Progress.run_stays hpoll steps h

end Drain
end ScatterGather
