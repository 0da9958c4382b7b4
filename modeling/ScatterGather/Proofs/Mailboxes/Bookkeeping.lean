import ScatterGather.Proofs.Mailboxes.Alert

/-!
# The books of a merge

A merge marks the inputs whose end is known and counts those that are not marked. The end of an
input may come to be known more than once: by several packets that end a stream, and by the end of
its channel. It is counted once.

**Results.** `notes_turn`: a turn marks the input whose end it makes known, and the count goes down
by one exactly if it was not marked. `turn_eq_cleanEnd_iff`: a turn ends the merge exactly when all
inputs are marked, since a merge goes on to receive from every input that is not.
-/

namespace ScatterGather

namespace Finding

/-- The input that was asked. -/
def input : Finding → Nat
  | took i _ => i
  | ended i => i
  | nothing i => i

/-- The input whose end is known from then on. -/
def ending? : Finding → Option Nat
  | took i p => if p.isEnd then some i else none
  | ended i => some i
  | nothing _ => none

end Finding

namespace Merge

variable {m m' : Merge} {i : Nat}

/-- The books of a merge are in order: one mark for each input, the others are counted, and an input
that is not marked is received from. -/
structure Books (m : Merge) : Prop where
  length : m.finished.length = m.receivers.length
  remaining : m.remaining = m.finished.count false
  live : ∀ i ∈ m.live, i < m.finished.length
  ready : ∀ i ∈ m.ready, i ∈ m.live
  unmarked : ∀ i : Nat, m.finished[i]? = some false → i ∈ m.live

/-- A merge before and after the end of an input came to be known, or of none. The end is counted if
it is the first of its input, and there was one to count then. -/
inductive Notes (m : Merge) : Option Nat → Merge → Prop
  | none
      {m' : Merge}
      (hfinished : m'.finished = m.finished)
      (hremaining : m'.remaining = m.remaining) :
      Notes m none m'
  | again
      {i : Nat} {m' : Merge}
      (hmarked : m.finished[i]? = some true)
      (hfinished : m'.finished = m.finished)
      (hremaining : m'.remaining = m.remaining) :
      Notes m (some i) m'
  | first
      {i : Nat} {m' : Merge}
      (hunmarked : m.finished[i]? = some false)
      (hfinished : m'.finished = m.finished.set i true)
      (hremaining : m'.remaining + 1 = m.remaining) :
      Notes m (some i) m'

theorem Notes.congr
    {m₀ : Merge} {ending : Option Nat}
    (h : m₀.Notes ending m')
    (hfinished : m₀.finished = m.finished)
    (hremaining : m₀.remaining = m.remaining) :
    m.Notes ending m' := by
  cases h with
  | none hfinished' hremaining' =>
      exact .none (hfinished'.trans hfinished) (hremaining'.trans hremaining)
  | again hmarked hfinished' hremaining' =>
      exact .again (hfinished ▸ hmarked) (hfinished'.trans hfinished)
        (hremaining'.trans hremaining)
  | first hunmarked hfinished' hremaining' =>
      exact .first (hfinished ▸ hunmarked) (hfinished ▸ hfinished')
        (hremaining'.trans hremaining)

theorem remaining_pos_of_unmarked
    (hremaining : m.remaining = m.finished.count false)
    (hunmarked : m.finished[i]? = some false) :
    0 < m.remaining := by
  rw [hremaining]
  exact List.count_pos_iff.2 (List.mem_of_getElem? hunmarked)

theorem notes_finish
    (hremaining : m.remaining = m.finished.count false)
    (hi : i < m.finished.length) :
    m.Notes (some i) (m.finish i) := by
  have hmark : m.finished[i]? = some m.finished[i] := List.getElem?_eq_getElem hi
  cases hvalue : m.finished[i] with
  | true =>
      rw [hvalue] at hmark
      have hsame : m.finish i = m := by simp [finish, hmark]
      exact .again hmark (congrArg finished hsame) (congrArg Merge.remaining hsame)
  | false =>
      rw [hvalue] at hmark
      have hpos := remaining_pos_of_unmarked hremaining hmark
      refine .first hmark ?_ ?_
      · simp [finish, hmark]
      · simp only [finish, hmark]
        omega

theorem finished_wake (m : Merge) (i : Nat) : (m.wake i).finished = m.finished := by
  unfold wake
  split <;> rfl

theorem remaining_wake (m : Merge) (i : Nat) : (m.wake i).remaining = m.remaining := by
  unfold wake
  split <;> rfl

/-- A packet is taken from an input. -/
theorem notes_took
    (hremaining : m.remaining = m.finished.count false)
    (hi : i < m.finished.length)
    (p : Packet) :
    m.Notes (Finding.took i p).ending? ((m.wake i).note i p) := by
  have hfinished := finished_wake m i
  have hcount := remaining_wake m i
  show m.Notes (if p.isEnd then some i else none)
    (if p.isEnd then (m.wake i).finish i else m.wake i)
  split
  · refine (notes_finish ?_ ?_).congr hfinished hcount
    · rw [hfinished, hcount, hremaining]
    · rw [hfinished]
      exact hi
  · exact .none hfinished hcount

/-- The channel of an input is found to have ended. -/
theorem notes_leave
    (hremaining : m.remaining = m.finished.count false)
    (hi : i < m.finished.length) :
    m.Notes (some i) (m.leave i) := by
  unfold leave
  dsimp only
  split
  · next hmarked =>
      rw [isFinished, List.getElem?_eq_getElem hi, Option.getD_some] at hmarked
      exact .again ((List.getElem?_eq_getElem hi).trans (congrArg some hmarked)) rfl rfl
  · exact (notes_finish (m := { m with live := m.live.filter (· ≠ i) }) hremaining hi).congr rfl rfl

/-- While an input is counted, there is one to receive from. -/
theorem Books.live_ne_nil
    (h : m.Books)
    (hremaining : m.remaining ≠ 0) :
    m.live ≠ [] := by
  rw [h.remaining, Ne, List.count_eq_zero, not_not] at hremaining
  obtain ⟨i, hi⟩ := List.mem_iff_getElem?.1 hremaining
  exact List.ne_nil_of_mem (h.unmarked i hi)

/-- Nothing is counted any more exactly when every input is marked. -/
theorem Books.remaining_eq_zero_iff (h : m.Books) :
    m.remaining = 0 ↔ ∀ marked ∈ m.finished, marked = true := by
  rw [h.remaining, List.count_eq_zero]
  constructor
  · intro hnone marked hmem
    cases marked with
    | true => rfl
    | false => exact absurd hmem hnone
  · intro hall hmem
    cases hall false hmem

end Merge

namespace Mailboxes

variable {H : History} {outer : Receiver → Prop} {s s' : Mailboxes} {number : Nat} {m : Merge}
variable {findings : List Finding}

/-- What is known of merges keeps their books. -/
theorem Sound.books
    (h : Sound H outer s)
    (hwired : s.Wired)
    (halert : s.Alert)
    (hm : Registry.find? s.merges number = some m) :
    m.Books := by
  have htally := (h.follows number m hm).tally
  refine ⟨htally.length, htally.remaining, ?_, hwired.ready number m hm, ?_⟩
  · rw [htally.length]
    exact halert.inputs number m hm
  · intro i hunmarked
    by_contra hgone
    have hi := (List.getElem?_eq_some_iff.1 hunmarked).1
    rw [htally.gone i (htally.length ▸ hi) hgone] at hunmarked
    cases hunmarked

/-! ## One turn -/

/-- A turn asks an input that the merge receives from. -/
theorem input_mem_live_of_turn
    (h : m.Books)
    {f : Finding}
    (hf : f ∈ (s.turn number m).1) :
    f.input ∈ m.live := by
  have hturns := turns_turn s number m
  generalize s.turn number m = answer at hturns hf
  cases hturns with
  | asks i ready r finding turn s' _ hready _ hasks =>
      have hlive : i ∈ m.live := h.ready i (hready ▸ List.mem_cons_self)
      cases List.mem_singleton.1 hf
      cases hasks <;> exact hlive
  | _ =>
      cases hf

/-- A turn notes what it finds. -/
theorem notes_turn
    (h : m.Books)
    (hm : Registry.find? s.merges number = some m) :
    ∃ m', Registry.find? (s.turn number m).2.2.merges number = some m' ∧
      m.Notes ((s.turn number m).1.findSome? Finding.ending?) m' := by
  have hturns := turns_turn s number m
  generalize s.turn number m = answer at hturns ⊢
  cases hturns with
  | cleanEnd _ =>
      exact ⟨m, hm, .none rfl rfl⟩
  | idle _ =>
      exact ⟨m, hm, .none rfl rfl⟩
  | skip i ready _ _ _ =>
      exact ⟨_, find?_setMerge s number _, .none rfl rfl⟩
  | asks i ready r finding turn s' _ hready _ hasks =>
      have hi : i < m.finished.length := h.live i (h.ready i (hready ▸ List.mem_cons_self))
      have hremaining : ({ m with ready } : Merge).remaining =
        ({ m with ready } : Merge).finished.count false := h.remaining
      rw [List.findSome?_singleton]
      cases hasks with
      | took p s₁ _ =>
          exact ⟨_, find?_setMerge s₁ number _,
            (Merge.notes_took hremaining hi p).congr rfl rfl⟩
      | ended s₁ _ =>
          exact ⟨_, find?_setMerge _ number _, (Merge.notes_leave hremaining hi).congr rfl rfl⟩
      | nothing s₁ _ =>
          exact ⟨_, find?_setMerge s₁ number _, .none rfl rfl⟩

/-- One who asks an input does not end the merge. -/
theorem Asks.turn_ne_cleanEnd
    {i : Nat} {r : Receiver} {finding : Finding} {turn : Turn}
    (h : s.Asks number i m r (finding, turn, s')) :
    turn ≠ .passes .cleanEnd := by
  cases h with
  | took p _ _ =>
      split
      · simp
      · next hp => simpa using hp
  | ended _ _ =>
      split
      · simp
      · simp [Merge.brokenOff, Packet.failedEnd, Packet.cleanEnd]
  | nothing _ _ =>
      simp

/-- A merge is ended by the count alone: while there is an input to count there is also one to
receive from. -/
theorem turn_eq_cleanEnd_iff (h : m.Books) :
    (s.turn number m).2.1 = .passes .cleanEnd ↔ m.remaining = 0 := by
  have hturns := turns_turn s number m
  generalize s.turn number m = answer at hturns ⊢
  cases hturns with
  | cleanEnd hdone =>
      have hzero : m.remaining = 0 := by
        rcases hdone with hzero | ⟨-, hnone⟩
        · exact hzero
        · by_contra hremaining
          exact h.live_ne_nil hremaining hnone
      simp [hzero]
  | idle hidle =>
      simp [hidle.remaining]
  | skip i ready hremaining _ _ =>
      simp [hremaining]
  | asks i ready r finding turn s' hremaining _ _ hasks =>
      simp [hremaining, hasks.turn_ne_cleanEnd]

/-! ## A whole pull -/

/-- Every input that is asked in a pull is one of the merge. -/
theorem Sound.input_lt_of_pullWithin
    (h : Sound (H ++ [.pulled number m.receivers ⟨findings, none⟩]) outer s)
    (hwired : s.Wired)
    (halert : s.Alert)
    (hm : Registry.find? s.merges number = some m)
    (turns : Nat) :
    ∀ f ∈ (s.pullWithin number turns).findings, f.input < m.receivers.length := by
  induction turns generalizing s m findings with
  | zero =>
      simp [Mailboxes.pullWithin]
  | succ turns ih =>
      have hbooks := h.books hwired halert hm
      have hfirst : ∀ f ∈ (s.turn number m).1, f.input < m.receivers.length := by
        intro f hf
        rw [← hbooks.length]
        exact hbooks.live _ (input_mem_live_of_turn hbooks hf)
      have hsound := h.turn hm
      have hwired' := (h.serves_turn hwired hm).2
      have halert' := halert.turn h hm
      obtain ⟨m', hm', hreceivers⟩ := merge_turn hm
      unfold Mailboxes.pullWithin
      rw [hm]
      dsimp only
      generalize s.turn number m = answer at hfirst hsound hwired' halert' hm' ⊢
      obtain ⟨found, turn, s'⟩ := answer
      cases turn with
      | passes p =>
          exact hfirst
      | idle =>
          exact hfirst
      | again =>
          rw [← hreceivers] at hsound hfirst ⊢
          intro f hf
          rcases List.mem_append.1 hf with hf | hf
          · exact hfirst f hf
          · exact ih hsound hwired' halert' hm' f hf

theorem Sound.input_lt_of_pull
    (h : Sound H outer s)
    (hwired : s.Wired)
    (halert : s.Alert)
    (hm : Registry.find? s.merges number = some m) :
    ∀ f ∈ (s.pull number).findings, f.input < m.receivers.length := by
  unfold Mailboxes.pull
  rw [hm]
  exact (h.beginPull hm).input_lt_of_pullWithin hwired halert hm _

/-- A pull ends the merge only when nothing is counted any more. -/
theorem Sound.remaining_of_pull_cleanEnd
    (h : Sound H outer s)
    (hm : Registry.find? s.merges number = some m)
    (hclean : (s.pull number).packet = some .cleanEnd) :
    ∃ m', Registry.find? (s.pull number).mailboxes.merges number = some m' ∧
      m'.receivers = m.receivers ∧ m'.remaining = 0 := by
  obtain ⟨hsound, m', hm', hreceivers⟩ := h.pull hm
  have htally := (hsound.follows number m' hm').tally
  rw [History.pulls_append, History.pulls_pulled] at htally
  exact ⟨m', hm', hreceivers,
    htally.cleanEnd _ (List.mem_append_right _ (List.mem_singleton_self _)) hclean⟩

end Mailboxes
end ScatterGather
