import ScatterGather.Proofs.Mailboxes.Alert
import ScatterGather.Proofs.Mailboxes.Idle
import ScatterGather.Proofs.Session.Closing
import ScatterGather.Proofs.Session.Merging
import ScatterGather.Proofs.Session.Motion

/-!
# When a merge has to wait

An input that has nothing to give leaves the queue of its merge. It comes back at the next push, or
when its channel ends, whatever brings this about: a sender that is dropped, or a waiting send, or a
release.

**Results.** Whatever motions are made, an input that is not in the queue has nothing to give, and
its mailbox is still open. So a merge has to wait only when all of its mailboxes are empty and open.
-/

namespace ScatterGather

variable {H H' : History} {outer attached spent : Receiver → Prop}

/-- A handle is dropped by the one who has it. -/
theorem Mailboxes.Alert.dropHandle
    {s : Mailboxes} {handle : Handle}
    (h : s.Alert)
    (hsound : s.Sound H outer)
    (houter : ∀ r, handle = .receiver r → outer r) :
    (s.dropHandle handle).Alert := by
  cases handle with
  | sender sender =>
      exact h.dropSender sender
  | pendingSend pending =>
      exact h.dropPendingSend pending
  | receiver r =>
      exact h.dropReceiver hsound (houter r rfl)
  | merge number =>
      exact h.dropMerge hsound number

theorem Mailboxes.Alert.pull
    {s : Mailboxes}
    (h : s.Alert)
    (hsound : s.Sound H outer)
    (number : Nat) :
    (s.pull number).mailboxes.Alert :=
  hsound.pull_induction number (fun hsound hm halert => halert.turn hsound hm) h

namespace Session

variable {s s' : Session} {r : Receiver} {events : List Event} {opened : List Sender}
variable {given : List Receiver}

/-- Nothing is queued on the channel of a receiver, and there may be something later: somebody holds
a sender, or the mailbox itself does. -/
structure Quiet (s : Session) (r : Receiver) : Prop where
  empty : ∃ c, (s.mailboxes.slot r).channel? = some c ∧ c.queue = [] ∧ c.receiving = true
  keptOpen : s.HoldsSender r ∨ ∃ t, (s.mailboxes.box r.id).tracking = some t ∧
    t.generation = r.generation ∧ t.holdsSender = true

/-! ## Runs -/

theorem alert_hold
    {mailboxes : Mailboxes} {handle : Handle}
    (h : mailboxes.Alert)
    (hsound : mailboxes.Sound H outer)
    (hheld : ∀ r, s.Receives r → outer r)
    (name : String) :
    (s.hold name handle mailboxes).mailboxes.Alert := by
  cases hold : s.find? name with
  | none =>
      rw [mailboxes_hold_of_eq_none hold]
      exact h
  | some old =>
      rw [mailboxes_hold_of_eq_some hold]
      exact h.dropHandle hsound fun r hr => hheld r ⟨name, hr ▸ hold⟩

theorem Takes.alert
    (ht : s.Takes events opened given s')
    (h : s.Orderly H attached spent)
    (halert : s.mailboxes.Alert) :
    s'.mailboxes.Alert := by
  have hbalanced := h.mailboxes.balanced
  have hsound := h.mailboxes.sound
  cases ht with
  | idle =>
      exact halert
  | openSender id name =>
      exact alert_hold (halert.openSender id) (h.mailboxes.openSender id).sound
        (fun _ hr => hr) name
  | @cloneSender held sender hheld name =>
      exact alert_hold (halert.cloneSender sender)
        (h.mailboxes.cloneSender fun _ => lent_pos hheld).sound (fun _ hr => hr) name
  | @drop held handle hheld =>
      exact halert.dropHandle hsound fun r hr => ⟨held, hr ▸ hheld⟩
  | @send held sender hheld p =>
      exact halert.send sender p
  | @sendWaiting held sender p hheld hdone =>
      exact halert.sendWaiting sender p
  | @wait held sender p pending hheld hwaits name =>
      exact alert_hold (halert.sendWaiting sender p) (hsound.sendWaiting sender p)
        (fun _ hr => hr) name
  | @retry held pending hheld hfull =>
      exact halert.retry pending
  | @redeem held pending hheld hdone =>
      exact halert.retry pending
  | @openReceiver id r hanswer name =>
      have hmem : .asked id ∈ H ++ [.asked id] :=
        List.mem_append_right _ (List.mem_singleton_self _)
      exact alert_hold (halert.openReceiver hbalanced hsound id)
        ((hsound.ask id).openReceiver hmem hanswer) (fun _ hr => Or.inl hr) name
  | @refuseReceiver id fault hanswer =>
      exact halert.openReceiver hbalanced hsound id
  | @receive held r hheld =>
      exact halert.receive hsound ⟨held, hheld⟩ none
  | @openMerge request number hanswer name =>
      exact alert_hold (halert.openMerge hbalanced hsound request) (hsound.openMerge request)
        (fun _ hr => hr) name
  | refuseMerge request =>
      exact halert.openMerge hbalanced hsound request
  | @pull held number hheld =>
      exact halert.pull hsound number
  | release id =>
      exact halert.release hsound id

theorem Orderly.alert_move
    (h : s.Orderly H attached spent)
    (halert : s.mailboxes.Alert)
    (motion : Motion) :
    (s.move motion).mailboxes.Alert := by
  have hsound := h.mailboxes.sound
  cases motion with
  | act act =>
      cases act with
      | step step =>
          exact (takes_step s step).alert h halert
      | openMerge request =>
          exact halert.openMerge h.mailboxes.balanced hsound request
      | pull number =>
          exact halert.pull hsound number
      | dropMerge number =>
          exact halert.dropMerge hsound number
  | turn number =>
      show (s.mailboxes.takeTurn number).Alert
      unfold Mailboxes.takeTurn
      split
      · next m hm => exact halert.turn hsound hm
      · exact halert

theorem Orderly.alert_moveAll
    (h : s.Orderly H attached spent)
    (halert : s.mailboxes.Alert)
    (motions : List Motion) :
    (s.moveAll motions).mailboxes.Alert :=
  h.moveAll_induction (P := fun s => s.mailboxes.Alert) alert_move halert motions

/-- Whatever motions are made from the start, merges are alert. -/
theorem alert_moveAll
    (host : String) (mailboxPort : UInt16) (capacity : Nat) (motions : List Motion) :
    ((ofMailboxes (.create host mailboxPort capacity)).moveAll motions).mailboxes.Alert :=
  (orderly_start host mailboxPort capacity).alert_moveAll
    (Mailboxes.alert_create host mailboxPort capacity) motions

/-! ## Inputs that wait -/

theorem Orderly.quiet
    {number i : Nat} {m : Merge}
    (h : s.Orderly H attached spent)
    (halert : s.mailboxes.Alert)
    (hm : Registry.find? s.mailboxes.merges number = some m)
    (hi : i ∈ m.live)
    (hidle : i ∉ m.ready) :
    ∃ r, m.receivers[i]? = some r ∧ s.Quiet r := by
  obtain ⟨r, hr⟩ := Option.ne_none_iff_exists'.1
    (mt List.getElem?_eq_none_iff.1 (Nat.not_le.2 (halert.inputs number m hm i hi)))
  obtain ⟨c, hc, hasleep⟩ := halert.asleep number m hm i hi hidle r hr
  obtain ⟨c', hc', hopen⟩ := (h.mailboxes.sound.follows number m hm).live i r hr hi
  cases hc.symm.trans hc'
  refine ⟨r, hr, ⟨c, hc, hasleep.queue, hopen⟩, ?_⟩
  have hsenders := (h.mailboxes.regular r.id).ledger.senders r.generation
  rw [Mailbox.senders_of_getElem? hc] at hsenders
  by_cases hlent : s.HoldsSender r
  · exact Or.inl hlent
  · have hzero : s.lent r = 0 := h.lent_eq_zero_iff_not_holdsSender.2 hlent
    have hown : 0 < (s.mailboxes.box r.id).own r.generation := by
      have hpos := hasleep.senders
      rw [hsenders, hzero, Nat.add_zero] at hpos
      exact hpos
    unfold Mailbox.own Tracking.own at hown
    split at hown
    · next t ht =>
        split at hown
        · next hholds => exact Or.inr ⟨t, ht, hholds⟩
        · cases hown
    · cases hown

/-- A merge that has nothing to give waits for a sender that has not ended, and all of its mailboxes
are empty and open. -/
theorem Orderly.quiet_of_idle
    {number : Nat} {m : Merge}
    (h : s.Orderly H attached spent)
    (halert : s.mailboxes.Alert)
    (hm : Registry.find? s.mailboxes.merges number = some m)
    (hidle : m.Idle) :
    (∃ i : Nat, m.finished[i]? = some false) ∧
      ∀ i ∈ m.live, ∃ r, m.receivers[i]? = some r ∧ s.Quiet r := by
  constructor
  · have hremaining := hidle.remaining
    rw [(h.mailboxes.sound.follows number m hm).tally.remaining, Ne, List.count_eq_zero,
      not_not] at hremaining
    exact List.mem_iff_getElem?.1 hremaining
  · intro i hi
    exact h.quiet halert hm hi (by simp [hidle.ready])

/-- **No lost wake-up.** After any motions the queue of a merge has inputs that it still receives
from, each at most once, and an input that is not in it has an empty mailbox that somebody, or the
mailbox itself, still holds open. So a merge passes nothing on only while a sender has not ended and
all of its mailboxes are empty and open. This holds for a pull as a whole, and for each of its
turns. -/
theorem waits_only_for_senders
    (host : String) (mailboxPort : UInt16) (capacity : Nat) (motions : List Motion)
    (number : Nat) (m : Merge) :
    let s := (ofMailboxes (.create host mailboxPort capacity)).moveAll motions
    let s' := s.withMailboxes (s.mailboxes.pull number).mailboxes
    Registry.find? s.mailboxes.merges number = some m →
      (m.ready.Nodup ∧ ∀ i ∈ m.ready, i ∈ m.live) ∧
      (∀ i ∈ m.live, i ∉ m.ready → ∃ r, m.receivers[i]? = some r ∧ s.Quiet r) ∧
      ((s.mailboxes.turn number m).2.1 = .idle →
        (∃ i : Nat, m.finished[i]? = some false) ∧
          ∀ i ∈ m.live, ∃ r, m.receivers[i]? = some r ∧ s.Quiet r) ∧
      ((s.mailboxes.pull number).packet = none →
        ∃ m', Registry.find? s'.mailboxes.merges number = some m' ∧
          (∃ i : Nat, m'.finished[i]? = some false) ∧
          ∀ i ∈ m'.live, ∃ r, m'.receivers[i]? = some r ∧ s'.Quiet r) := by
  intro s s' hm
  obtain ⟨H, attached, h⟩ := orderly_moveAll host mailboxPort capacity motions
  have halert : s.mailboxes.Alert := alert_moveAll host mailboxPort capacity motions
  have hwired := h.mailboxes.wired
  refine ⟨⟨hwired.nodup number m hm, hwired.ready number m hm⟩, ?_, ?_, ?_⟩
  · exact fun i hi hidle => h.quiet halert hm hi hidle
  · exact fun hidle => h.quiet_of_idle halert hm (Mailboxes.idle_of_turn hidle).1
  · intro hnone
    obtain ⟨m', hm', hidle⟩ := Mailboxes.idle_of_pull hm hnone
    exact ⟨m', hm', (h.pull number).quiet_of_idle (halert.pull h.mailboxes.sound number) hm' hidle⟩

/-- Two workers hold senders. One packet was taken from the first, after which neither has more. -/
def askInVain : List Motion :=
  [.act (.step (.openSender (hangUpRequest.idOf ⟨"worker-a", 8421, 8442⟩) "a")),
   .act (.step (.openSender (hangUpRequest.idOf ⟨"worker-b", 8421, 8442⟩) "b")),
   .act (.openMerge hangUpRequest),
   .act (.step (.send "a" .heartbeat)),
   .turn 0, .turn 0, .turn 0]

/-- The merge over both, whose queue is empty. -/
def askInVainMerge : Merge where
  schema := hangUpRequest.schema
  routing := hangUpRequest.routing
  receivers := hangUpRequest.senders.map fun server => ⟨hangUpRequest.idOf server, 0⟩
  finished := [false, false]
  remaining := 2
  live := [0, 1]
  ready := []

/-- The merge waits, and each of its inputs is held open by a worker that has sent nothing more. -/
theorem waits_only_for_senders_askInVain :
    let s := (ofMailboxes (.create "broker" 9000 4)).moveAll askInVain
    Registry.find? s.mailboxes.merges 0 = some askInVainMerge ∧
    (s.mailboxes.turn 0 askInVainMerge).2.1 = .idle ∧
    (s.mailboxes.pull 0).packet = none ∧
    ∀ i ∈ [0, 1], ∃ r, askInVainMerge.receivers[i]? = some r ∧ s.Quiet r := by
  intro s
  have hm : Registry.find? s.mailboxes.merges 0 = some askInVainMerge := by decide +kernel
  have hidle : (s.mailboxes.turn 0 askInVainMerge).2.1 = .idle := by decide +kernel
  have hnone : (s.mailboxes.pull 0).packet = none := by decide +kernel
  obtain ⟨-, -, hturn, -⟩ :=
    waits_only_for_senders "broker" 9000 4 askInVain 0 askInVainMerge hm
  exact ⟨hm, hidle, hnone, (hturn hidle).2⟩

end Session
end ScatterGather
