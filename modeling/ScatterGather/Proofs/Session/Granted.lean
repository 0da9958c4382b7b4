import ScatterGather.Proofs.Drain.Budget
import ScatterGather.Proofs.Mailboxes.Backlog
import ScatterGather.Proofs.Session.Draining

/-!
# Drains of a merge are granted enough steps

Whatever keeps the drain of a merge going is spent by it: a packet that was passed on is no longer
queued, and an interlude that came does not come again. Others may add packets to what is queued, but
no more than one with each of their steps.

**Results.** `drainMerge_finished`: the drain of a merge always ends. `drained_iff_drainMerge`: what
it gives is all that can come of it, whatever steps it were granted.
-/

namespace ScatterGather
namespace Session

variable {s s' : Session} {number : Nat}

/-! ## The steps of others -/

theorem backlog_hold_le (s : Session) (name : String) (h : Handle) (mailboxes : Mailboxes) :
    (s.hold name h mailboxes).mailboxes.backlog ≤ mailboxes.backlog := by
  unfold hold
  dsimp only
  split
  · exact mailboxes.backlog_dropHandle_le _
  · exact Nat.le_refl _

/-- A step adds one packet at most to what is queued. -/
theorem Takes.backlog_le
    {events : List Event} {opens : List Sender} {given : List Receiver}
    (h : s.Takes events opens given s') :
    s'.mailboxes.backlog ≤ s.mailboxes.backlog + 1 := by
  cases h with
  | idle =>
      exact Nat.le_succ _
  | openSender id name =>
      exact Nat.le_succ_of_le
        ((s.backlog_hold_le name _ _).trans (s.mailboxes.backlog_openSender_le id))
  | cloneSender hheld name =>
      exact Nat.le_succ_of_le
        ((s.backlog_hold_le name _ _).trans (s.mailboxes.backlog_cloneSender_le _))
  | drop hheld =>
      exact Nat.le_succ_of_le (s.mailboxes.backlog_dropHandle_le _)
  | send hheld p =>
      exact s.mailboxes.backlog_send_le _ p
  | sendWaiting hheld hdone =>
      exact s.mailboxes.backlog_sendWaiting_le _ _
  | wait hheld hwaits name =>
      exact (s.backlog_hold_le name _ _).trans (s.mailboxes.backlog_sendWaiting_le _ _)
  | retry hheld hfull =>
      exact s.mailboxes.backlog_retry_le _
  | redeem hheld hdone =>
      exact s.mailboxes.backlog_retry_le _
  | openReceiver hanswer name =>
      exact Nat.le_succ_of_le
        ((s.backlog_hold_le name _ _).trans (s.mailboxes.backlog_openReceiver_le _))
  | refuseReceiver hanswer =>
      exact Nat.le_succ_of_le (s.mailboxes.backlog_openReceiver_le _)
  | receive hheld =>
      exact Nat.le_succ_of_le (s.mailboxes.backlog_receive_le _ none)
  | openMerge hanswer name =>
      exact Nat.le_succ_of_le
        ((s.backlog_hold_le name _ _).trans (s.mailboxes.backlog_openMerge_le _))
  | refuseMerge request =>
      exact Nat.le_succ_of_le (s.mailboxes.backlog_openMerge_le request)
  | pull hheld =>
      exact Nat.le_succ_of_le (s.mailboxes.backlog_pull_le _)
  | release id =>
      exact Nat.le_succ_of_le (s.mailboxes.backlog_release_le id)

theorem backlog_run_le (s : Session) (steps : List Step) :
    (s.run steps).2.mailboxes.backlog ≤ s.mailboxes.backlog + steps.length := by
  induction steps generalizing s with
  | nil =>
      exact Nat.le_refl _
  | cons step steps ih =>
      have hstep := (s.takes_step step).backlog_le
      have hrest := ih (s.step step).2
      show ((s.step step).2.run steps).2.mailboxes.backlog ≤ _
      rw [List.length_cons]
      omega

/-! ## The drain -/

/-- What is outstanding in a drain: the packets that are queued or may be sent, and the interludes
that are to come. -/
def outstanding (state : Session × List Interlude) : Nat :=
  state.1.mailboxes.backlog + (state.2.flatMap Interlude.steps).length + state.2.length

/-- An interlude that comes is no longer outstanding, whatever is sent in it. -/
theorem outstanding_run_lt (s : Session) (interlude : Interlude) (rest : List Interlude) :
    outstanding ((s.run interlude.steps).2, rest) < outstanding (s, interlude :: rest) := by
  have hrun := s.backlog_run_le interlude.steps
  simp only [outstanding, List.flatMap_cons, List.length_append, List.length_cons]
  omega

theorem outstanding_interrupt_le (state : Session × List Interlude) :
    outstanding (interrupt state) ≤ outstanding state := by
  obtain ⟨s, interludes⟩ := state
  cases interludes with
  | nil =>
      exact Nat.le_refl _
  | cons interlude rest =>
      unfold interrupt
      dsimp only
      split
      · exact (outstanding_run_lt s interlude rest).le
      · exact Nat.le_refl _

/-- Whatever keeps a drain going is spent by it. -/
theorem spends_pollMerge (number : Nat) : Drain.Spends (pollMerge number) outstanding where
  ready state p rest hpoll hend := by
    have hinterrupt := outstanding_interrupt_le state
    unfold pollMerge at hpoll
    generalize interrupt state = interrupted at hpoll hinterrupt
    obtain ⟨s, interludes⟩ := interrupted
    dsimp only at hpoll
    split at hpoll
    · next hpacket =>
        cases hpoll
        have hpull := Mailboxes.backlog_pull_lt hpacket hend
        simp only [outstanding, withMailboxes] at hinterrupt ⊢
        omega
    · cases hpoll
    · cases hpoll
  wakes state left delay later hpoll := by
    have hinterrupt := outstanding_interrupt_le state
    unfold pollMerge at hpoll
    generalize interrupt state = interrupted at hpoll hinterrupt
    obtain ⟨s, interludes⟩ := interrupted
    dsimp only at hpoll
    split at hpoll
    · cases hpoll
    · cases hpoll
    · next interlude rest _ =>
        cases hpoll
        have hpull := s.mailboxes.backlog_pull_le number
        have hrun := outstanding_run_lt (s.withMailboxes (s.mailboxes.pull number).mailboxes)
          interlude rest
        simp only [outstanding, withMailboxes] at hinterrupt hrun ⊢
        omega

/-- **The drain of a merge ends**, with what others do meanwhile, and whoever holds the merge. -/
theorem drainMerge_finished
    (s : Session) (number : Nat) (timeout : Duration) (interludes : List Interlude) :
    (s.drainMerge number timeout interludes).verdict ≠ .unfinished := by
  refine Drain.run_finished (spends_pollMerge number) ?_ timeout
  show outstanding (s, interludes) < outstanding (s, interludes) + 2
  omega

/-- **What a drain of a merge gives.** It is what comes of it, whatever steps it needs. -/
theorem drained_iff_drainMerge
    (s : Session) (number : Nat) (timeout : Duration) (interludes : List Interlude)
    (result : Except QueryError (List Block)) :
    Drain.Drained (pollMerge number) timeout (s, interludes) result ↔
      (s.drainMerge number timeout interludes).blocks timeout = result :=
  Drain.drained_iff_of_finished (drainMerge_finished s number timeout interludes) result

end Session
end ScatterGather
