import ScatterGather.Proofs.Mailboxes.Tally

/-!
# Turns of a merge

In its turn a merge asks one of its inputs or none. What can come of it is listed here once, and
what is said of turns elsewhere goes by this list.

**Results.** `asks_ask`: an input that is asked gives one of three answers. `turns_turn`: a turn
comes to a clean end, or to nothing, or passes over an input that does not exist, or asks one.
-/

namespace ScatterGather

namespace Merge

theorem ready_finish (m : Merge) (i : Nat) : (m.finish i).ready = m.ready := by
  unfold finish
  split <;> rfl

theorem ready_note (m : Merge) (i : Nat) (p : Packet) : (m.note i p).ready = m.ready := by
  unfold note
  split
  · exact ready_finish m i
  · rfl

theorem length_ready_wake_le (m : Merge) (i : Nat) :
    (m.wake i).ready.length ≤ m.ready.length + 1 := by
  unfold wake
  split
  · exact Nat.le_succ _
  · exact Nat.le_of_eq (List.length_append)

theorem receivers_note_wake (m : Merge) (i : Nat) (p : Packet) :
    ((m.wake i).note i p).receivers = m.receivers :=
  (receivers_note _ i p).trans (receivers_of_settled (settled_wake m i))

theorem live_note_wake (m : Merge) (i : Nat) (p : Packet) :
    ((m.wake i).note i p).live = m.live :=
  (live_note _ i p).trans (live_of_settled (settled_wake m i))

/-- The merge after the channel of an input was found to have ended. -/
def leave (m : Merge) (i : Nat) : Merge :=
  let left := { m with live := m.live.filter (· ≠ i) }
  if m.isFinished i then left else left.finish i

theorem receivers_leave (m : Merge) (i : Nat) : (m.leave i).receivers = m.receivers := by
  unfold leave
  dsimp only
  split
  · rfl
  · exact receivers_finish _ i

theorem live_leave (m : Merge) (i : Nat) : (m.leave i).live = m.live.filter (· ≠ i) := by
  unfold leave
  dsimp only
  split
  · rfl
  · exact live_finish _ i

theorem ready_leave (m : Merge) (i : Nat) : (m.leave i).ready = m.ready := by
  unfold leave
  dsimp only
  split
  · rfl
  · exact ready_finish _ i

/-- A merge has nothing to give: its queue is empty, it still receives from an input, and the end of
some input is to come. -/
structure Idle (m : Merge) : Prop where
  remaining : m.remaining ≠ 0
  ready : m.ready = []
  live : m.live ≠ []

end Merge

namespace Mailboxes

/-! ## One question -/

theorem took_eq (s : Mailboxes) (number i : Nat) (m : Merge) (p : Packet) :
    s.took number i m p =
      (if p = .cleanEnd then .again else .passes p, s.setMerge number ((m.wake i).note i p)) := by
  unfold took
  split
  · rfl
  · rfl
  · next hclean hfailed =>
      cases p with
      | data block =>
          rfl
      | heartbeat =>
          rfl
      | endOfStream failure =>
          cases failure with
          | none =>
              exact absurd rfl hclean
          | some report =>
              exact absurd rfl (hfailed report)

theorem ended_eq (s : Mailboxes) (number i : Nat) (m : Merge) (r : Receiver) :
    s.ended number i m r =
      (if m.isFinished i then .again else .passes (Merge.brokenOff r.id),
        (s.dropReceiver r).setMerge number (m.leave i)) := by
  unfold ended Merge.leave
  dsimp only
  split <;> rfl

/-- What can come of asking an input: it gives a packet, or its channel is found to have ended, or
it has nothing for now. -/
inductive Asks (s : Mailboxes) (number i : Nat) (m : Merge) (r : Receiver) :
    Finding × Turn × Mailboxes → Prop where
  | took (p : Packet) (s' : Mailboxes)
      (hreceive : s.receive r (some ⟨number, i⟩) = (.packet p, s')) :
      Asks s number i m r (.took i p, if p = .cleanEnd then .again else .passes p,
        s'.setMerge number ((m.wake i).note i p))
  | ended (s' : Mailboxes)
      (hreceive : s.receive r (some ⟨number, i⟩) = (.ended, s')) :
      Asks s number i m r (.ended i,
        if m.isFinished i then .again else .passes (Merge.brokenOff r.id),
        (s'.dropReceiver r).setMerge number (m.leave i))
  | nothing (s' : Mailboxes)
      (hreceive : s.receive r (some ⟨number, i⟩) = (.pending, s')) :
      Asks s number i m r (.nothing i, .again, s'.setMerge number m)

theorem asks_ask (s : Mailboxes) (number i : Nat) (m : Merge) (r : Receiver) :
    s.Asks number i m r (s.ask number i m r) := by
  unfold ask
  split
  · next p s' hreceive =>
      rw [took_eq]
      exact .took p s' hreceive
  · next s' hreceive =>
      rw [ended_eq]
      exact .ended s' hreceive
  · next s' hreceive => exact .nothing s' hreceive

/-- One who asks an input has something to pass on, or may go on. -/
theorem Asks.turn_ne_idle
    {s s' : Mailboxes} {number i : Nat} {m : Merge} {r : Receiver} {finding : Finding} {turn : Turn}
    (h : s.Asks number i m r (finding, turn, s')) :
    turn ≠ .idle := by
  cases h with
  | took p _ _ =>
      split <;> simp
  | ended _ _ =>
      split <;> simp
  | nothing _ _ =>
      simp

/-! ## One turn -/

/-- What can come of a turn. -/
inductive Turns (s : Mailboxes) (number : Nat) (m : Merge) :
    List Finding × Turn × Mailboxes → Prop where
  | cleanEnd (hdone : m.remaining = 0 ∨ m.ready = [] ∧ m.live = []) :
      Turns s number m ([], .passes .cleanEnd, s)
  | idle (hidle : m.Idle) :
      Turns s number m ([], .idle, s)
  | skip (i : Nat) (ready : List Nat)
      (hremaining : m.remaining ≠ 0) (hready : m.ready = i :: ready)
      (hnone : m.receivers[i]? = none) :
      Turns s number m ([], .again, s.setMerge number { m with ready })
  | asks (i : Nat) (ready : List Nat) (r : Receiver)
      (finding : Finding) (turn : Turn) (s' : Mailboxes)
      (hremaining : m.remaining ≠ 0) (hready : m.ready = i :: ready)
      (hr : m.receivers[i]? = some r)
      (hasks : s.Asks number i { m with ready } r (finding, turn, s')) :
      Turns s number m ([finding], turn, s')

theorem turns_turn (s : Mailboxes) (number : Nat) (m : Merge) :
    s.Turns number m (s.turn number m) := by
  unfold turn
  split
  · next hremaining => exact .cleanEnd (Or.inl hremaining)
  · next hremaining =>
      split
      · next hready =>
          split
          · next hempty => exact .cleanEnd (Or.inr ⟨hready, List.isEmpty_iff.1 hempty⟩)
          · next hlive => exact .idle ⟨hremaining, hready, by simpa using hlive⟩
      · next i ready hready =>
          dsimp only
          split
          · next hnone => exact .skip i ready hremaining hready hnone
          · next r hr =>
              exact .asks i ready r _ _ _ hremaining hready hr
                (asks_ask s number i { m with ready } r)

end Mailboxes
end ScatterGather
