import ScatterGather.Proofs.Mailboxes.Slots
import ScatterGather.Proofs.Session.Deserting
import ScatterGather.Proofs.Session.Motion

/-!
# Buffers that are bounded, and sends that do not get stuck

A send that is offered while all slots of its channel are filled or reserved is answered that the
channel is full, or has to wait. Sends that wait compete with those that do not, they are tried
again and given up in any order, and they outlive the receiver.

**Results.** Whatever motions are made, no channel holds more than it has slots for, and no send
waits while there is a free slot. What is taken by the receiver, and what is given up by a waiting
send, goes to the send that has waited longest. When the receiver is dropped, all waiting sends are
refused from then on.
-/

namespace ScatterGather

/-- One if a handle is a waiting send with this ticket on the channel of a receiver, and nothing
otherwise. -/
def Handle.waitsOn (r : Receiver) (t : Nat) : Handle → Nat
  | .pendingSend pending => pending.waitsOn r t
  | _ => 0

namespace Mailboxes
namespace Slots

variable {size : Nat} {waits waits' : Receiver → Nat → Nat} {gone : Receiver → Prop} {s : Mailboxes}

theorem congr
    (h : s.Slots size waits gone)
    (hwaits : ∀ r t, waits' r t = waits r t) :
    s.Slots size waits' gone := by
  obtain rfl : waits' = waits := funext fun r => funext (hwaits r)
  exact h

/-- A waiting send that is dropped waits no longer. -/
theorem dropHandle
    {handle : Handle}
    (h : s.Slots size waits gone)
    (hwaits : ∀ r t, waits r t = waits' r t + handle.waitsOn r t) :
    (s.dropHandle handle).Slots size waits' gone := by
  cases handle with
  | sender sender =>
      exact (h.congr fun r t => (hwaits r t).symm).dropSender sender
  | pendingSend pending =>
      exact h.dropPendingSend hwaits
  | receiver r =>
      exact (h.congr fun r t => (hwaits r t).symm).dropReceiver r
  | merge number =>
      exact (h.congr fun r t => (hwaits r t).symm).dropMerge number

end Slots
end Mailboxes

namespace Session

variable {H : History} {attached spent gone : Receiver → Prop} {s s' : Session} {size : Nat}
variable {r : Receiver} {c : Channel} {name : String} {handle : Handle}
variable {events : List Event} {opened : List Sender} {given : List Receiver}

/-- How many sends that are held wait with this ticket on the channel of a receiver. -/
def waits (s : Session) (r : Receiver) (t : Nat) : Nat :=
  Registry.total (Handle.waitsOn r t) s.held

/-! ## Runs -/

theorem slots_hold
    {mailboxes : Mailboxes}
    (h : mailboxes.Slots size (fun r t => s.waits r t + handle.waitsOn r t) gone)
    (name : String) :
    (s.hold name handle mailboxes).mailboxes.Slots size (s.hold name handle mailboxes).waits
      gone := by
  cases hold : s.find? name with
  | none =>
      rw [mailboxes_hold_of_eq_none hold]
      exact h.congr fun r t => Registry.total_set_of_find?_eq_none hold handle
  | some old =>
      rw [mailboxes_hold_of_eq_some hold]
      exact h.dropHandle fun r t => (Registry.total_set_of_find? hold handle).symm

theorem Takes.slots
    (ht : s.Takes events opened given s')
    (h : s.Orderly H attached spent)
    (hslots : s.mailboxes.Slots size s.waits gone) :
    s'.mailboxes.Slots size s'.waits gone := by
  have hsound := h.mailboxes.sound
  have hwired := h.mailboxes.wired
  cases ht with
  | idle =>
      exact hslots
  | openSender id name =>
      exact slots_hold (hslots.openSender id) name
  | @cloneSender held sender _ name =>
      exact slots_hold (hslots.cloneSender sender) name
  | drop hheld =>
      exact hslots.dropHandle fun r t => Registry.total_erase h.names hheld
  | @send held sender _ p =>
      exact hslots.send sender p
  | @sendWaiting held sender p _ hdone =>
      have hsent := hslots.sendWaiting sender p
      rw [hdone] at hsent
      exact hsent
  | @wait held sender p pending _ hwaits name =>
      have hsent := hslots.sendWaiting sender p
      rw [hwaits] at hsent
      exact slots_hold hsent name
  | retry _ hfull =>
      exact hslots.retry_of_full hfull
  | redeem hheld hdone =>
      exact hslots.retry (fun r t => Registry.total_erase h.names hheld) hdone
  | @openReceiver id r _ name =>
      exact slots_hold (hslots.openReceiver id) name
  | @refuseReceiver id _ _ =>
      exact hslots.openReceiver id
  | @receive held r _ =>
      exact hslots.receive r none
  | @openMerge request number _ name =>
      exact slots_hold (hslots.serves (hsound.serves_openMerge request)) name
  | refuseMerge request =>
      exact hslots.serves (hsound.serves_openMerge request)
  | @pull held number _ =>
      exact hslots.serves (hsound.serves_pull hwired number).1
  | release id =>
      exact hslots.release id

theorem Orderly.slots_move
    (h : s.Orderly H attached spent)
    (hslots : s.mailboxes.Slots size s.waits gone)
    (motion : Motion) :
    (s.move motion).mailboxes.Slots size (s.move motion).waits gone := by
  have hsound := h.mailboxes.sound
  have hwired := h.mailboxes.wired
  cases motion with
  | act act =>
      cases act with
      | step step =>
          exact (takes_step s step).slots h hslots
      | openMerge request =>
          exact hslots.serves (hsound.serves_openMerge request)
      | pull number =>
          exact hslots.serves (hsound.serves_pull hwired number).1
      | dropMerge number =>
          exact hslots.dropMerge number
  | turn number =>
      show (s.mailboxes.takeTurn number).Slots size s.waits gone
      unfold Mailboxes.takeTurn
      split
      · next m hm => exact hslots.serves (hsound.serves_turn hwired hm).1
      · exact hslots

theorem Orderly.slots_moveAll
    (h : s.Orderly H attached spent)
    (hslots : s.mailboxes.Slots size s.waits gone)
    (motions : List Motion) :
    (s.moveAll motions).mailboxes.Slots size (s.moveAll motions).waits gone :=
  h.moveAll_induction (P := fun s => s.mailboxes.Slots size s.waits gone) slots_move hslots motions

/-! ## Sends that wait -/

/-- A send that is held waits with this ticket on the channel of a receiver. -/
def Waits (s : Session) (r : Receiver) (t : Nat) : Prop :=
  ∃ name pending, s.find? name = some (.pendingSend pending) ∧ pending.sender = r.sender ∧
    pending.ticket = t

theorem Orderly.waits_eq_zero_iff
    (h : s.Orderly H attached spent)
    (r : Receiver) (t : Nat) :
    s.waits r t = 0 ↔ ¬ s.Waits r t := by
  unfold waits
  rw [Registry.total_eq_zero_iff h.names]
  constructor
  · rintro hzero ⟨name, pending, hheld, hsender, hticket⟩
    have hnone : pending.waitsOn r t = 0 := hzero name _ hheld
    rw [PendingSend.waitsOn, if_pos ⟨hsender, hticket⟩] at hnone
    cases hnone
  · intro hnone name handle hheld
    cases handle with
    | pendingSend pending =>
        exact if_neg fun hboth => hnone ⟨name, pending, hheld, hboth⟩
    | _ =>
        rfl

/-- All sends that wait on the channel of a receiver are refused from now on. -/
def Closes (s : Session) (r : Receiver) : Prop :=
  ∀ motions name pending, (s.moveAll motions).find? name = some (.pendingSend pending) →
    pending.sender = r.sender →
      ((s.moveAll motions).step (.retry name)).1 = .failed (.closed r.id)

/-- A channel of this size, whose receiver was not dropped, as those see it who send on it. The
sends that wait are in line in the order in which they came, and those that have a slot reserved are
its front. -/
structure Buffers (s : Session) (size : Nat) (r : Receiver) (c : Channel) : Prop where
  bound : c.queue.length + c.granted.length ≤ size
  full : c.waiting ≠ [] → c.queue.length + c.granted.length = size
  ordered : (c.granted ++ c.waiting).Pairwise (· < ·)
  waits : ∀ t, t ∈ c.granted ++ c.waiting ↔ s.Waits r t
  send : ∀ name p, s.find? name = some (.sender r.sender) →
    ((s.step (.send name p)).1 = .full ↔ c.queue.length + c.granted.length = size)
  sendWaiting : ∀ name other p, s.find? name = some (.sender r.sender) →
    ((s.step (.sendWaiting name p other)).1 = .waiting ↔ c.queue.length + c.granted.length = size)
  retry : ∀ name pending, s.find? name = some (.pendingSend pending) →
    pending.sender = r.sender →
      (pending.ticket ∈ c.granted ∧ (s.step (.retry name)).1 = .sent) ∨
        (pending.ticket ∈ c.waiting ∧ (s.step (.retry name)).1 = .waiting)

/-- A slot that becomes free by a receive, or by the drop of a waiting send that has one, goes to
the oldest send that waits without. -/
structure HandsOn (s : Session) (r : Receiver) (c : Channel) : Prop where
  receive : ∀ name p, s.find? name = some (.receiver r) →
    (s.step (.receive name)).1 = .packet p →
      ∃ c', ((s.step (.receive name)).2.mailboxes.slot r).channel? = some c' ∧
        c.queue = p :: c'.queue ∧ c.HandsOn c.granted c'
  turn : ∀ number m i p, Registry.find? s.mailboxes.merges number = some m →
    m.receivers[i]? = some r → .took i p ∈ (s.mailboxes.turn number m).1 →
      ∃ c', ((s.move (.turn number)).mailboxes.slot r).channel? = some c' ∧
        c.queue = p :: c'.queue ∧ c.HandsOn c.granted c'
  drop : ∀ name pending, s.find? name = some (.pendingSend pending) →
    pending.sender = r.sender → pending.ticket ∈ c.granted →
      ∃ c', ((s.step (.drop name)).2.mailboxes.slot r).channel? = some c' ∧
        c'.queue = c.queue ∧ c.HandsOn (c.granted.erase pending.ticket) c'

/-- The receiver of a channel, or a merge that still receives from it. -/
def Has (s : Session) (r : Receiver) : Handle → Prop
  | .receiver other => other = r
  | .merge number => ∃ m, Registry.find? s.mailboxes.merges number = some m ∧
    ∃ i ∈ m.live, m.receivers[i]? = some r
  | _ => False

/-- Whoever drops the receiver of a channel closes it for all sends that wait. -/
structure Shuts (s : Session) (r : Receiver) : Prop where
  drop : ∀ name handle, s.find? name = some handle → s.Has r handle →
    (s.step (.drop name)).2.Closes r
  dropMerge : ∀ number, s.Has r (.merge number) → (s.move (.act (.dropMerge number))).Closes r
  release : (s.mailboxes.box r.id).Keeps r.generation → (s.step (.release r.id)).2.Closes r

theorem Orderly.closes
    (h : s.Orderly H attached spent)
    (hslots : s.mailboxes.Slots size s.waits gone)
    (hclosed : ∃ c, (s.mailboxes.slot r).channel? = some c ∧ c.receiving = false) :
    s.Closes r := by
  intro motions name pending hheld hpending
  have hnoted : s.mailboxes.Slots size s.waits (· = r) := by
    refine hslots.note fun other hother => ?_
    subst hother
    exact hclosed
  obtain ⟨c, hc, hreceiving⟩ := (h.slots_moveAll hnoted motions).closed rfl
  refine retry_of_not_open ?_ hheld hpending
  rintro ⟨c', hc', hopen⟩
  cases hc.symm.trans hc'
  cases hreceiving.symm.trans hopen

theorem answerSend_eq_full_iff (id : MailboxId) (answer : SendAnswer) :
    answerSend id answer = .full ↔ answer = .full := by
  cases answer <;> simp [answerSend]

theorem answerSend_ne_waiting (id : MailboxId) (answer : SendAnswer) :
    answerSend id answer ≠ .waiting := by
  cases answer <;> simp [answerSend]

theorem Orderly.buffers
    (h : s.Orderly H attached spent)
    (hslots : s.mailboxes.Slots size s.waits gone)
    (hc : (s.mailboxes.slot r).channel? = some c)
    (hreceiving : c.receiving = true) :
    s.Buffers size r c := by
  have hfits := hslots.fits hc
  have hfull : c.admission = .full ↔ c.queue.length + c.granted.length = size := by
    rw [Channel.admission_eq_full_iff, and_iff_right hreceiving]
    exact hfits.free_eq_zero_iff
  have hwaits : ∀ t, t ∈ c.granted ++ c.waiting ↔ s.Waits r t := by
    intro t
    rw [← not_iff_not, ← List.count_eq_zero, hfits.held hreceiving]
    exact h.waits_eq_zero_iff r t
  refine ⟨hfits.bound, hfits.full, hfits.ordered, hwaits, ?_, ?_, ?_⟩
  · intro name p hheld
    have hanswer : (s.step (.send name p)).1 = answerSend r.id c.admission := by
      rw [step_send hheld]
      exact congrArg (answerSend r.id) (Mailboxes.answer_send hc p)
    rw [hanswer, answerSend_eq_full_iff]
    exact hfull
  · intro name other p hheld
    rw [← hfull, ← Mailboxes.sendWaiting_isSome_iff hc p]
    cases hwaiting : (s.mailboxes.sendWaiting r.sender p).2.1 with
    | none =>
        rw [step_sendWaiting_of_none hheld hwaiting]
        simp [answerSend_ne_waiting]
    | some pending =>
        rw [step_sendWaiting_of_some hheld hwaiting]
        simp
  · intro name pending hheld hpending
    have hanswer := Mailboxes.answer_retry hc hpending
    have hmem := (hwaits pending.ticket).2 ⟨name, pending, hheld, hpending, rfl⟩
    by_cases hticket : pending.ticket ∈ c.granted
    · refine Or.inl ⟨hticket, ?_⟩
      rw [Channel.redemption_eq_sent_iff.2 ⟨hreceiving, hticket⟩] at hanswer
      rw [step_retry_of_ne_full hheld (by simp [hanswer]), hanswer]
      rfl
    · refine Or.inr ⟨(List.mem_append.1 hmem).resolve_left hticket, ?_⟩
      rw [Channel.redemption_eq_full_iff.2 ⟨hreceiving, hticket⟩] at hanswer
      rw [step_retry_of_full hheld hanswer]

theorem handsOn
    (hslots : s.mailboxes.Slots size s.waits gone)
    (hc : (s.mailboxes.slot r).channel? = some c) :
    s.HandsOn r c := by
  refine ⟨?_, ?_, ?_⟩
  · intro name p hheld hanswer
    have hreceived := hslots.handsOn_receive (p := p) none hc
    rw [step_receive hheld] at hanswer ⊢
    cases hreception : (s.mailboxes.receive r none).1 with
    | packet p' =>
        rw [hreception] at hanswer
        cases hanswer
        exact hreceived hreception
    | _ =>
        rw [hreception] at hanswer
        cases hanswer
  · intro number m i p hm hr htook
    have hturn := hslots.handsOn_turn hc hr htook
    show ∃ c', ((s.mailboxes.takeTurn number).slot r).channel? = some c' ∧ _
    rw [Mailboxes.takeTurn_of_find? hm]
    exact hturn
  · intro name pending hheld hpending hticket
    rw [step_drop hheld]
    exact hslots.handsOn_dropPendingSend hc hpending hticket

/-- The drop of a handle closes the channel whose receiver it has. -/
theorem closed_dropHandle
    (hslots : s.mailboxes.Slots size s.waits gone)
    (hc : (s.mailboxes.slot r).channel? = some c)
    (hhas : s.Has r handle) :
    ∃ c', ((s.mailboxes.dropHandle handle).slot r).channel? = some c' ∧ c'.receiving = false := by
  cases handle with
  | sender _ =>
      exact hhas.elim
  | pendingSend _ =>
      exact hhas.elim
  | receiver other =>
      obtain rfl : other = r := hhas
      exact ⟨c.close, Mailboxes.channel_dropReceiver hc, rfl⟩
  | merge number =>
      obtain ⟨m, hm, i, hi, hr⟩ := hhas
      show ∃ c', ((s.mailboxes.dropMerge number).slot r).channel? = some c' ∧ _
      unfold Mailboxes.dropMerge
      rw [hm]
      exact hslots.closed_dropReceivers hc (List.mem_filterMap.2 ⟨i, hi, hr⟩)

theorem Orderly.shuts
    (h : s.Orderly H attached spent)
    (hslots : s.mailboxes.Slots size s.waits gone)
    (hc : (s.mailboxes.slot r).channel? = some c) :
    s.Shuts r := by
  have hcloses : ∀ motion, (∃ c', ((s.move motion).mailboxes.slot r).channel? = some c' ∧
      c'.receiving = false) → (s.move motion).Closes r := by
    intro motion hclosed
    obtain ⟨_, _, hmoved⟩ := h.move motion
    exact hmoved.closes (h.slots_move hslots motion) hclosed
  refine ⟨?_, ?_, ?_⟩
  · intro name handle hheld hhas
    refine hcloses (.act (.step (.drop name))) ?_
    show ∃ c', ((s.step (.drop name)).2.mailboxes.slot r).channel? = some c' ∧ _
    rw [step_drop hheld]
    exact closed_dropHandle hslots hc hhas
  · intro number hhas
    exact hcloses (.act (.dropMerge number)) (closed_dropHandle hslots hc hhas)
  · intro hkeeps
    exact hcloses (.act (.step (.release r.id))) (Mailboxes.channel_release hc hkeeps)

/-- **Bounded buffers.** After any motions, a channel whose receiver was not dropped holds no more
packets and reserved slots than it has slots for, and all of them are in use while a send waits
without one. Only then is a send answered that it is full or has to wait. What becomes free goes to
the oldest send that waits without a slot. Once the receiver is dropped all waiting sends are
refused. -/
theorem buffers_moveAll
    (host : String) (mailboxPort : UInt16) (capacity : Nat) (motions : List Motion)
    (r : Receiver) (c : Channel) :
    let s := (ofMailboxes (.create host mailboxPort capacity)).moveAll motions
    (s.mailboxes.slot r).channel? = some c →
      (s.Alive r ∨ (s.mailboxes.box r.id).Keeps r.generation → c.receiving = true) ∧
      (c.receiving = true → s.Buffers (max capacity 1) r c ∧ s.HandsOn r c ∧ s.Shuts r) ∧
      (c.receiving = false → s.Closes r) := by
  intro s hc
  obtain ⟨H, attached, h⟩ := orderly_moveAll host mailboxPort capacity motions
  have hslots : s.mailboxes.Slots (max capacity 1) s.waits fun _ => False :=
    (orderly_start host mailboxPort capacity).slots_moveAll
      (Mailboxes.slots_create host mailboxPort capacity) motions
  refine ⟨?_, fun hreceiving => ?_, fun hclosed => h.closes hslots ⟨c, hc, hclosed⟩⟩
  · intro hattended
    obtain ⟨c', hc', hreceiving⟩ : ∃ c', (s.mailboxes.slot r).channel? = some c' ∧
        c'.receiving = true := by
      rcases hattended with halive | hkeeps
      · exact (h.mailboxes.issued_of_alive halive).1
      · exact ((h.mailboxes.sound.accounts r).kept hkeeps).2
    cases hc.symm.trans hc'
    exact hreceiving
  · exact ⟨h.buffers hslots hc hreceiving, handsOn hslots hc, h.shuts hslots hc⟩

/-- One packet is queued, two sends wait, and the receiver takes the packet. -/
def twoSendsWait : List Motion :=
  [.act (.step (.openSender soleId "worker")),
   .act (.step (.openReceiver soleId "broker")),
   .act (.step (.send "worker" .heartbeat)),
   .act (.step (.sendWaiting "worker" .cleanEnd "first")),
   .act (.step (.sendWaiting "worker" .cleanEnd "second")),
   .act (.step (.receive "broker"))]

/-- The channel after this, on which the first send has the only slot. -/
def twoSendsWaitChannel : Channel where
  capacity := 1
  queue := []
  granted := [0]
  waiting := [1]
  nextTicket := 2
  senders := 3
  receiving := true
  watcher := none

/-- When the first send is given up, its slot goes to the second one. -/
theorem buffers_moveAll_twoSendsWait :
    let s := (ofMailboxes (.create "broker" 9000 0)).moveAll twoSendsWait
    (s.mailboxes.slot ⟨soleId, 0⟩).channel? = some twoSendsWaitChannel ∧
    s.Buffers 1 ⟨soleId, 0⟩ twoSendsWaitChannel ∧
    (∃ c, ((s.step (.drop "first")).2.mailboxes.slot ⟨soleId, 0⟩).channel? = some c ∧
      c.granted = [1] ∧ c.waiting = []) ∧
    (s.step (.drop "broker")).2.Closes ⟨soleId, 0⟩ := by
  intro s
  have hc : (s.mailboxes.slot ⟨soleId, 0⟩).channel? = some twoSendsWaitChannel := by
    decide +kernel
  have hbroker : s.find? "broker" = some (.receiver ⟨soleId, 0⟩) := by decide +kernel
  have hfirst : s.find? "first" = some (.pendingSend ⟨soleId, 0, 0, .cleanEnd⟩) := by
    decide +kernel
  obtain ⟨-, hreceiving, -⟩ :=
    buffers_moveAll "broker" 9000 0 twoSendsWait ⟨soleId, 0⟩ twoSendsWaitChannel hc
  obtain ⟨hbuffers, hhands, hshuts⟩ := hreceiving rfl
  obtain ⟨c, hc', -, hgranted, hwaiting⟩ := hhands.drop "first" _ hfirst rfl (by decide)
  exact ⟨hc, hbuffers, ⟨c, hc', hgranted, hwaiting⟩, hshuts.drop "broker" _ hbroker rfl⟩

end Session
end ScatterGather
