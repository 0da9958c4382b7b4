import ScatterGather.Proofs.Session.Holding

/-!
# First in, first out

What was sent on a channel in a run is read off the answers: the packets that were offered through
handles on it and answered to be sent, in the order of these answers. What was yielded are the
packets that its receiver was answered, or that a merge found on it.

**Results.** What a channel yielded is the beginning of what was sent on it, through whichever
handles, and all of it once the receiver finds the end. A packet that was not answered to be sent is
not yielded.
-/

namespace ScatterGather
namespace Session

variable {s : Session} {r : Receiver}

/-- The packet that a step offers on the channel of a receiver: a send, a waiting send, or another
attempt of one that waits. -/
def offered (s : Session) (r : Receiver) : Step → Option Packet
  | .send held p =>
    match s.find? held with
    | some (.sender h) => if h = r.sender then some p else none
    | _ => none
  | .sendWaiting held p _ =>
    match s.find? held with
    | some (.sender h) => if h = r.sender then some p else none
    | _ => none
  | .retry held =>
    match s.find? held with
    | some (.pendingSend h) => if h.sender = r.sender then some h.packet else none
    | _ => none
  | _ => none

/-- The packets that a run offers on the channel of a receiver, in turn, with the answers. -/
def offers (s : Session) (r : Receiver) : List Step → List (Packet × Answer)
  | [] => []
  | step :: steps =>
    ((s.offered r step).map fun p => (p, (s.step step).1)).toList ++ (s.step step).2.offers r steps

/-- The packets that were answered to be sent. -/
def sent (offers : List (Packet × Answer)) : List Packet :=
  offers.filterMap fun offer => if offer.2 = .sent then some offer.1 else none

/-- The packets that a step yields from the channel of a receiver. -/
def stepYields (s : Session) (r : Receiver) : Step → List Packet
  | .receive held =>
    match s.find? held, (s.step (.receive held)).1 with
    | some (.receiver h), .packet p => if h = r then [p] else []
    | _, _ => []
  | .pull held =>
    match s.find? held with
    | some (.merge number) =>
      match Registry.find? s.mailboxes.merges number with
      | some m => (s.mailboxes.pull number).findings.flatMap (Finding.takesFrom m.receivers r)
      | none => []
    | _ => []
  | _ => []

/-- The packets that a run yields from the channel of a receiver, in turn. -/
def yields (s : Session) (r : Receiver) : List Step → List Packet
  | [] => []
  | step :: steps => s.stepYields r step ++ (s.step step).2.yields r steps

/-! ## What a history tells of this -/

theorem accepted_accepts (sender : Sender) (p : Packet) (answer : SendAnswer) (r : Receiver) :
    History.accepted (sender.accepts p answer) r =
      if sender = r.sender ∧ answer = .sent then [p] else [] := by
  obtain ⟨id, generation⟩ := sender
  obtain ⟨rid, g⟩ := r
  cases answer with
  | sent =>
      cases generation with
      | none =>
          simp [Sender.accepts, History.accepted, Receiver.sender]
      | some g' =>
          simp [Sender.accepts, History.accepted, Event.acceptedOn, Receiver.sender]
  | full =>
      simp [Sender.accepts, History.accepted]
  | closed =>
      simp [Sender.accepts, History.accepted]

theorem taken_accepts (sender : Sender) (p : Packet) (answer : SendAnswer) (r : Receiver) :
    History.taken (sender.accepts p answer) r = [] := by
  unfold Sender.accepts
  split <;> rfl

theorem accepted_receiveEvents (mailboxes : Mailboxes) (other r : Receiver) :
    History.accepted (mailboxes.receiveEvents other) r = [] := by
  unfold Mailboxes.receiveEvents
  split <;> rfl

theorem accepted_pullEvents (mailboxes : Mailboxes) (number : Nat) (r : Receiver) :
    History.accepted (mailboxes.pullEvents number) r = [] := by
  unfold Mailboxes.pullEvents
  split <;> rfl

theorem accepted_asks (request : MergeRequest) (r : Receiver) :
    History.accepted request.asks r = [] := by
  refine List.flatMap_eq_nil_iff.2 fun e he => ?_
  obtain ⟨id, rfl⟩ := mem_asks he
  rfl

theorem taken_asks (request : MergeRequest) (r : Receiver) :
    History.taken request.asks r = [] := by
  refine List.flatMap_eq_nil_iff.2 fun e he => ?_
  obtain ⟨id, rfl⟩ := mem_asks he
  rfl

/-- A packet that is offered through a handle on a channel is sent on it if that is the answer. -/
theorem sent_offer (sender : Sender) (p : Packet) (answer : Answer) (r : Receiver) :
    sent (((if sender = r.sender then some p else none).map fun q => (q, answer)).toList) =
      if sender = r.sender ∧ answer = .sent then [p] else [] := by
  by_cases hon : sender = r.sender <;> by_cases hanswer : answer = .sent <;>
    simp [sent, hon, hanswer]

theorem sent_append (offers more : List (Packet × Answer)) :
    sent (offers ++ more) = sent offers ++ sent more :=
  List.filterMap_append

/-- A send that waits has found no slot. -/
theorem sendWaiting_answer
    {mailboxes : Mailboxes} {sender : Sender} {p : Packet} {pending : PendingSend}
    (h : (mailboxes.sendWaiting sender p).2.1 = some pending) :
    (mailboxes.sendWaiting sender p).1 = .full := by
  unfold Mailboxes.sendWaiting at h ⊢
  dsimp only at h ⊢
  split at h
  · rfl
  · cases h

theorem answerSend_eq_sent_iff (id : MailboxId) (answer : SendAnswer) :
    answerSend id answer = .sent ↔ answer = .sent := by
  cases answer <;> simp [answerSend]

theorem offered_of_misses
    {step : Step}
    (h : s.Misses step)
    (r : Receiver) :
    s.offered r step = none := by
  cases step with
  | send | sendWaiting | retry =>
      simp only [offered]
      split
      · next hfound => exact absurd hfound (h _)
      · rfl
  | _ =>
      rfl

theorem stepYields_of_misses
    {step : Step}
    (h : s.Misses step)
    (r : Receiver) :
    s.stepYields r step = [] := by
  cases step with
  | receive =>
      simp only [stepYields]
      split
      · next hfound _ => exact absurd hfound (h _)
      · rfl
  | pull =>
      simp only [stepYields]
      split
      · next hfound => exact absurd hfound (h _)
      · rfl
  | _ =>
      rfl

/-- The answer to a send that may wait is that of its attempt, unless it waits. -/
theorem sendWaiting_sent_iff
    {held name : String} {sender : Sender} {p : Packet}
    (hheld : s.find? held = some (.sender sender)) :
    (s.step (.sendWaiting held p name)).1 = .sent ↔
      (s.mailboxes.sendWaiting sender p).1 = .sent := by
  cases hwaits : (s.mailboxes.sendWaiting sender p).2.1 with
  | none =>
      rw [step_sendWaiting_of_none hheld hwaits]
      exact answerSend_eq_sent_iff _ _
  | some pending =>
      rw [step_sendWaiting_of_some hheld hwaits, sendWaiting_answer hwaits]
      simp

theorem retry_sent_iff
    {held : String} {pending : PendingSend}
    (hheld : s.find? held = some (.pendingSend pending)) :
    (s.step (.retry held)).1 = .sent ↔ (s.mailboxes.retry pending).1 = .sent := by
  by_cases hfull : (s.mailboxes.retry pending).1 = .full
  · rw [step_retry_of_full hheld hfull, hfull]
    simp
  · rw [step_retry_of_ne_full hheld hfull]
    exact answerSend_eq_sent_iff _ _

/-- Accepted on a channel is what is answered to be sent. -/
theorem accepted_stepEvents (s : Session) (step : Step) (r : Receiver) :
    History.accepted (s.stepEvents step) r =
      sent ((s.offered r step).map fun p => (p, (s.step step).1)).toList := by
  cases s.uses_step step with
  | send hheld p =>
      rw [stepEvents_send hheld, accepted_accepts, step_send hheld]
      simp only [offered, hheld, sent_offer, answerSend_eq_sent_iff]
  | sendWaiting hheld p name =>
      rw [stepEvents_sendWaiting hheld, accepted_accepts]
      simp only [offered, hheld, sent_offer, sendWaiting_sent_iff hheld]
  | retry hheld =>
      rw [stepEvents_retry hheld, accepted_accepts]
      simp only [offered, hheld, sent_offer, retry_sent_iff hheld]
  | receive hheld =>
      rw [stepEvents_receive hheld]
      exact accepted_receiveEvents _ _ r
  | pull hheld =>
      rw [stepEvents_pull hheld]
      exact accepted_pullEvents _ _ r
  | openMerge request name =>
      exact accepted_asks request r
  | misses h =>
      rw [stepEvents_of_misses h, offered_of_misses h]
      rfl
  | _ =>
      rfl

/-- Taken from a channel is what a step yields. -/
theorem taken_stepEvents (s : Session) (step : Step) (r : Receiver) :
    History.taken (s.stepEvents step) r = s.stepYields r step := by
  cases s.uses_step step with
  | send hheld p =>
      rw [stepEvents_send hheld]
      exact taken_accepts _ _ _ r
  | sendWaiting hheld p name =>
      rw [stepEvents_sendWaiting hheld]
      exact taken_accepts _ _ _ r
  | retry hheld =>
      rw [stepEvents_retry hheld]
      exact taken_accepts _ _ _ r
  | receive hheld =>
      rw [stepEvents_receive hheld]
      simp only [stepYields, hheld, step_receive hheld, Mailboxes.receiveEvents]
      cases (s.mailboxes.receive _ none).1 <;>
        simp [answerReception, History.taken, Event.takenFrom]
  | @pull held number hheld =>
      rw [stepEvents_pull hheld]
      simp only [stepYields, hheld, Mailboxes.pullEvents]
      cases Registry.find? s.mailboxes.merges number with
      | none =>
          rfl
      | some m =>
          simp [History.taken, Event.takenFrom, Mailboxes.nextPull]
  | openMerge request name =>
      exact taken_asks request r
  | misses h =>
      rw [stepEvents_of_misses h, stepYields_of_misses h]
      rfl
  | _ =>
      rfl

theorem accepted_history (s : Session) (steps : List Step) (r : Receiver) :
    History.accepted (s.history (steps.map .step)) r = sent (s.offers r steps) := by
  induction steps generalizing s with
  | nil =>
      rfl
  | cons step steps ih =>
      show History.accepted
        (s.stepEvents step ++ (s.step step).2.history (steps.map .step)) r = _
      rw [History.accepted_append, accepted_stepEvents, ih, offers, sent_append]

theorem taken_history (s : Session) (steps : List Step) (r : Receiver) :
    History.taken (s.history (steps.map .step)) r = s.yields r steps := by
  induction steps generalizing s with
  | nil =>
      rfl
  | cons step steps ih =>
      show History.taken
        (s.stepEvents step ++ (s.step step).2.history (steps.map .step)) r = _
      rw [History.taken_append, taken_stepEvents, ih, yields]

/-- A packet is among those sent as often as it was answered to be sent. -/
theorem count_sent (offers : List (Packet × Answer)) (p : Packet) :
    (sent offers).count p = offers.count (p, .sent) := by
  induction offers with
  | nil =>
      rfl
  | cons offer offers ih =>
      obtain ⟨q, answer⟩ := offer
      by_cases hanswer : answer = .sent
      · by_cases hq : q = p <;> simp_all [sent]
      · simp_all [sent]

/-- A receiver that is there has all that was sent when it finds the end. -/
theorem yields_eq_sent_of_ended
    {host : String} {mailboxPort : UInt16} {capacity : Nat} {steps : List Step}
    {watcher : Option Watcher}
    (halive : ((ofMailboxes (.create host mailboxPort capacity)).run steps).2.Alive r)
    (hended : (((ofMailboxes (.create host mailboxPort capacity)).run steps).2.mailboxes.receive r
      watcher).1 = .ended) :
    (ofMailboxes (.create host mailboxPort capacity)).yields r steps =
      sent ((ofMailboxes (.create host mailboxPort capacity)).offers r steps) := by
  have h := (orderly_run host mailboxPort capacity steps).mailboxes
  obtain ⟨⟨c, hc, hreceiving⟩, -⟩ := h.issued_of_alive halive
  have haccepted := (h.sound.accounts r).queued c hc hreceiving
  rw [Mailboxes.queue_of_receive_ended hended c hc, List.append_nil, accepted_history,
    taken_history] at haccepted
  exact haccepted.symm

/-- **Delivery.** After every run, for the channel of every receiver:

* what was yielded from it is the beginning of what was answered to be sent on it, in the order of
  these answers;
* a packet was yielded at most as often as it was answered to be sent, and not at all if it was not;
* everything that was answered to be sent has been yielded if the receiver now finds the end, when
  it is asked by its name or by a merge, and if it is the receiver of an input whose end a merge
  has found. -/
theorem yields_prefix_sent
    (host : String) (mailboxPort : UInt16) (capacity : Nat) (steps : List Step) (r : Receiver) :
    let start := ofMailboxes (.create host mailboxPort capacity)
    let s := (start.run steps).2
    start.yields r steps <+: sent (start.offers r steps) ∧
    (∀ p, (start.yields r steps).count p ≤ (start.offers r steps).count (p, .sent)) ∧
    (∀ p, (∀ answer, (p, answer) ∈ start.offers r steps → answer ≠ .sent) →
      p ∉ start.yields r steps) ∧
    (∀ name, s.find? name = some (.receiver r) → (s.step (.receive name)).1 = .ended →
      start.yields r steps = sent (start.offers r steps)) ∧
    (∀ watcher, s.Alive r → (s.mailboxes.receive r watcher).1 = .ended →
      start.yields r steps = sent (start.offers r steps)) ∧
    (∀ number m i, Registry.find? s.mailboxes.merges number = some m → m.receivers[i]? = some r →
      i ∉ m.live → start.yields r steps = sent (start.offers r steps)) := by
  intro start s
  have h : s.Orderly (start.history (steps.map .step))
      (fun r => r.sender ∈ start.opens steps) (fun _ => False) :=
    orderly_run host mailboxPort capacity steps
  have hfirst := (h.mailboxes.sound.accounts r).inOrder
  rw [accepted_history, taken_history] at hfirst
  have hcount : ∀ p, (start.yields r steps).count p ≤ (start.offers r steps).count (p, .sent) := by
    intro p
    rw [← count_sent]
    exact hfirst.sublist.count_le p
  refine ⟨hfirst, hcount, fun p hnever hmem => ?_, ?_, ?_, ?_⟩
  · have hpos := List.count_pos_iff.2 hmem
    have hle := hcount p
    exact hnever .sent (List.count_pos_iff.1 (Nat.lt_of_lt_of_le hpos hle)) rfl
  · intro name hheld hended
    exact yields_eq_sent_of_ended (Or.inl ⟨name, hheld⟩) ((answers_receive hheld).1.1 hended)
  · exact fun watcher halive hended => yields_eq_sent_of_ended halive hended
  · intro number m i hm hr hgone
    have haccepted := ((h.mailboxes.sound.follows number m hm).gone i r hr hgone).1
    rw [accepted_history, taken_history] at haccepted
    exact haccepted.symm

/-- A worker fills a mailbox with room for one packet, has to abandon the next one, and goes. -/
def fillAndGo : List Step :=
  [.openSender soleId "a", .send "a" .heartbeat, .send "a" .cleanEnd, .openReceiver soleId "in",
   .receive "in", .drop "a"]

/-- The packet that was sent is all that comes, and the abandoned one never does. -/
theorem yields_prefix_sent_fillAndGo :
    let start := ofMailboxes (.create "broker" 9000 1)
    let s := (start.run fillAndGo).2
    start.offers ⟨soleId, 0⟩ fillAndGo = [(.heartbeat, .sent), (.cleanEnd, .full)] ∧
    s.find? "in" = some (.receiver ⟨soleId, 0⟩) ∧ (s.step (.receive "in")).1 = .ended ∧
    .cleanEnd ∉ start.yields ⟨soleId, 0⟩ fillAndGo ∧
    start.yields ⟨soleId, 0⟩ fillAndGo = [.heartbeat] := by
  have hoffers : (ofMailboxes (.create "broker" 9000 1)).offers ⟨soleId, 0⟩ fillAndGo =
      [(.heartbeat, .sent), (.cleanEnd, .full)] := by decide +kernel
  have hheld : ((ofMailboxes (.create "broker" 9000 1)).run fillAndGo).2.find? "in" =
      some (.receiver ⟨soleId, 0⟩) := by decide +kernel
  have hended : (((ofMailboxes (.create "broker" 9000 1)).run fillAndGo).2.step
      (.receive "in")).1 = .ended := by decide +kernel
  obtain ⟨-, -, hnever, hall, -⟩ := yields_prefix_sent "broker" 9000 1 fillAndGo ⟨soleId, 0⟩
  refine ⟨hoffers, hheld, hended, hnever .cleanEnd ?_, ?_⟩
  · rw [hoffers]
    simp [Packet.cleanEnd]
  · rw [hall "in" hheld hended, hoffers]
    rfl

end Session
end ScatterGather
