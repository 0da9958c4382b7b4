import Mathlib.Algebra.Order.BigOperators.Group.List
import Mathlib.Algebra.Order.Group.Nat
import Mathlib.Algebra.Ring.Nat
import ScatterGather.Proofs.Mailboxes.Serving

/-!
# Pulls that come back with nothing

A pull asks one input after another, and there is a bound on how many of them it asks. Each turn
after which it goes on takes a packet or shortens the queue, so that the bound is never met before
the queue is empty.

**Results.** A pull that passes nothing on has asked all inputs in the queue: the queue is empty,
and the end of some input is still to come.
-/

namespace ScatterGather

namespace Mailboxes

variable {s s' : Mailboxes} {number turns : Nat} {m : Merge} {r q : Receiver} {p : Packet}
variable {change : Option (Receiver × Change)}

/-! ## What is queued -/

/-- Where nothing is accepted, no more is queued. -/
theorem Evolves.queued_le
    (he : s.Evolves change s')
    (hchange : Change.accepted (Change.at? change q) = []) :
    s'.queued q ≤ s.queued q := by
  have hslot := he.slots q
  unfold queued
  cases hc : (s.box q.id).channels[q.generation]? with
  | none =>
      cases hc' : (s'.box q.id).channels[q.generation]? with
      | none =>
          exact Nat.le_refl _
      | some c' =>
          simp [(hslot.fresh hc c' hc').1]
  | some c =>
      obtain ⟨c', hc', hbecomes⟩ := hslot.channel c hc
      rw [show (s'.box q.id).channels[q.generation]? = some c' from hc']
      dsimp only
      generalize Change.at? change q = local? at hchange hbecomes
      cases hbecomes with
      | stays hqueue _ =>
          rw [hqueue]
      | pushed _ _ _ =>
          cases hchange
      | took _ hqueue =>
          rw [hqueue]
          exact Nat.le_succ _
      | closed hqueue _ =>
          rw [hqueue]
          exact Nat.zero_le _

/-- Where a packet is taken, less is queued. -/
theorem Evolves.queued_lt (he : s.Evolves (some (r, .took p)) s') : s'.queued r < s.queued r := by
  have hslot := he.slots r
  rw [Change.at?_self] at hslot
  obtain ⟨c, hc⟩ := Option.ne_none_iff_exists'.1 (hslot.changed (by simp))
  obtain ⟨c', hc', hbecomes⟩ := hslot.channel c hc
  unfold queued
  rw [show (s.box r.id).channels[r.generation]? = some c from hc,
    show (s'.box r.id).channels[r.generation]? = some c' from hc']
  cases hbecomes with
  | took _ hqueue =>
      dsimp only
      rw [hqueue]
      exact Nat.lt_succ_self _

/-- Asking an input never makes a queue longer, and shortens it if it gives a packet. -/
theorem queued_receive (s : Mailboxes) (r : Receiver) (watcher : Option Watcher) :
    (∀ q, (s.receive r watcher).2.queued q ≤ s.queued q) ∧
      ∀ p, (s.receive r watcher).1 = .packet p →
        (s.receive r watcher).2.queued r < s.queued r := by
  rcases evolves_receive s r watcher with ⟨p, -, he⟩ | ⟨hnone, he⟩
  · refine ⟨fun q => he.queued_le ?_, fun _ _ => he.queued_lt⟩
    by_cases hq : r = q <;> simp [Change.at?, hq, Change.accepted]
  · exact ⟨fun q => he.queued_le rfl, fun p hp => absurd hp (hnone p)⟩

theorem queued_dropReceiver_le (s : Mailboxes) (r q : Receiver) :
    (s.dropReceiver r).queued q ≤ s.queued q := by
  unfold queued
  have hbox : (s.dropReceiver r).box q.id =
      if r.id = q.id then ((s.box r.id).dropReceiver r.generation).box else s.box q.id :=
    box_update s r.id q.id fun box => box.dropReceiver r.generation
  rw [hbox]
  by_cases hid : r.id = q.id
  · rw [if_pos hid]
    unfold Mailbox.dropReceiver
    rw [Mailbox.getElem?_modify, Mailbox.channels_forgetIfFinished, hid]
    cases (s.box q.id).channels[q.generation]? with
    | none =>
        exact Nat.le_refl _
    | some c =>
        by_cases hg : r.generation = q.generation <;> simp [hg, Channel.close]
  · rw [if_neg hid]

/-! ## How much there is to ask -/

/-- How many turns a merge can take before its queue is empty. -/
def rank (s : Mailboxes) (m : Merge) : Nat :=
  (m.receivers.map s.queued).sum + m.ready.length

theorem rank_lt_of_ready
    {m' : Merge}
    (hqueued : ∀ q, s'.queued q ≤ s.queued q)
    (hreceivers : m'.receivers = m.receivers)
    (hready : m'.ready.length < m.ready.length) :
    s'.rank m' < s.rank m := by
  have hsum : (m'.receivers.map s'.queued).sum ≤ (m.receivers.map s.queued).sum := by
    rw [hreceivers]
    exact List.sum_le_sum fun q _ => hqueued q
  exact Nat.add_lt_add_of_le_of_lt hsum hready

theorem rank_lt_of_queued
    {m' : Merge}
    (hqueued : ∀ q, s'.queued q ≤ s.queued q)
    (hr : r ∈ m.receivers)
    (hless : s'.queued r < s.queued r)
    (hreceivers : m'.receivers = m.receivers)
    (hready : m'.ready.length ≤ m.ready.length) :
    s'.rank m' < s.rank m := by
  have hsum : (m'.receivers.map s'.queued).sum < (m.receivers.map s.queued).sum := by
    rw [hreceivers]
    exact List.sum_lt_sum _ _ (fun q _ => hqueued q) ⟨r, hr, hless⟩
  exact Nat.add_lt_add_of_lt_of_le hsum hready

/-- After a turn after which a merge goes on there is less to ask. -/
theorem rank_turn (hagain : (s.turn number m).2.1 = .again) :
    ∃ m', Registry.find? (s.turn number m).2.2.merges number = some m' ∧
      (s.turn number m).2.2.rank m' < s.rank m := by
  have hset : ∀ (t : Mailboxes) (m' : Merge), t.rank m' < s.rank m →
      ∃ m'', Registry.find? (t.setMerge number m').merges number = some m'' ∧
        (t.setMerge number m').rank m'' < s.rank m :=
    fun t m' hless => ⟨m', find?_setMerge t number m', hless⟩
  have hshorter : ∀ {i ready}, m.ready = i :: ready → ready.length < m.ready.length := by
    intro i ready hready
    rw [hready]
    exact Nat.lt_succ_self _
  have hturns := turns_turn s number m
  generalize s.turn number m = answer at hturns hagain ⊢
  cases hturns with
  | cleanEnd _ =>
      cases hagain
  | idle _ =>
      cases hagain
  | skip i ready _ hready _ =>
      exact hset _ _ (rank_lt_of_ready (fun _ => Nat.le_refl _) rfl (hshorter hready))
  | asks i ready r finding turn s' _ hready hr hasks =>
      obtain ⟨hle, hless⟩ := queued_receive s r (some ⟨number, i⟩)
      cases hasks with
      | took p s₁ hreceive =>
          rw [hreceive] at hle hless
          refine hset _ _ (rank_lt_of_queued hle (List.mem_of_getElem? hr) (hless p rfl) ?_ ?_)
          · rw [Merge.receivers_note_wake]
          · rw [Merge.ready_note]
            exact (Merge.length_ready_wake_le _ i).trans (hshorter hready)
      | ended s₁ hreceive =>
          rw [hreceive] at hle
          refine hset _ _ (rank_lt_of_ready ?_ ?_ ?_)
          · exact fun q => (queued_dropReceiver_le s₁ r q).trans (hle q)
          · rw [Merge.receivers_leave]
          · rw [Merge.ready_leave]
            exact hshorter hready
      | nothing s₁ hreceive =>
          rw [hreceive] at hle
          exact hset _ _ (rank_lt_of_ready hle rfl (hshorter hready))

/-! ## Nothing to give -/

/-- A turn comes to nothing when the queue is empty, and then it does nothing. -/
theorem idle_of_turn (hidle : (s.turn number m).2.1 = .idle) :
    m.Idle ∧ (s.turn number m).2.2 = s := by
  have hturns := turns_turn s number m
  generalize s.turn number m = answer at hturns hidle ⊢
  cases hturns with
  | cleanEnd _ =>
      cases hidle
  | idle hnothing =>
      exact ⟨hnothing, rfl⟩
  | skip _ _ _ _ _ =>
      cases hidle
  | asks i ready r finding turn s' _ _ _ hasks =>
      exact absurd hidle hasks.turn_ne_idle

theorem idle_of_pullWithin
    (hm : Registry.find? s.merges number = some m)
    (hturns : s.rank m < turns)
    (hnone : (s.pullWithin number turns).packet = none) :
    ∃ m', Registry.find? (s.pullWithin number turns).mailboxes.merges number = some m' ∧
      m'.Idle := by
  induction turns generalizing s m with
  | zero =>
      exact absurd hturns (Nat.not_lt_zero _)
  | succ turns ih =>
      have hidle : (s.turn number m).2.1 = .idle → m.Idle ∧ (s.turn number m).2.2 = s :=
        idle_of_turn
      have hagain : (s.turn number m).2.1 = .again →
          ∃ m', Registry.find? (s.turn number m).2.2.merges number = some m' ∧
            (s.turn number m).2.2.rank m' < s.rank m := rank_turn
      unfold pullWithin at hnone ⊢
      rw [hm] at hnone ⊢
      dsimp only at hnone ⊢
      generalize s.turn number m = answered at hnone hidle hagain ⊢
      obtain ⟨findings, turn, s'⟩ := answered
      cases turn with
      | passes p =>
          cases hnone
      | idle =>
          obtain ⟨hnothing, rfl⟩ := hidle rfl
          exact ⟨m, hm, hnothing⟩
      | again =>
          obtain ⟨m', hm', hless⟩ := hagain rfl
          exact ih hm' (Nat.lt_of_lt_of_le hless (Nat.le_of_lt_succ hturns)) hnone

/-- A pull that passes nothing on leaves a merge that has nothing to give. -/
theorem idle_of_pull
    (hm : Registry.find? s.merges number = some m)
    (hnone : (s.pull number).packet = none) :
    ∃ m', Registry.find? (s.pull number).mailboxes.merges number = some m' ∧ m'.Idle := by
  unfold pull at hnone ⊢
  rw [hm] at hnone ⊢
  exact idle_of_pullWithin hm (Nat.lt_succ_self _) hnone

end Mailboxes
end ScatterGather
