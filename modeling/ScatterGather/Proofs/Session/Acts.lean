import ScatterGather.Proofs.Mailboxes.Pull
import ScatterGather.Proofs.Session.Uses
import ScatterGather.Session.Program

/-!
# Acts on a session and their history

Whoever uses the mailboxes of a process does so by an act: a step on handles that are held by name,
or a use of a merge by its number. What an act adds to the history is read off the answers that the
operations on the mailboxes give.

**Results.** What a step may do is said once, in `Takes`. Whatever acts are done, in whatever order,
the mailboxes of a session agree with the history of these acts.
-/

namespace ScatterGather

/-- One use of the mailboxes of a session. -/
inductive Act where
  | step (step : Step)
  | openMerge (request : MergeRequest)
  | pull (number : Nat)
  | dropMerge (number : Nat)
deriving DecidableEq

/-- A step that asks for the receiver of a mailbox, by itself or for a merge. -/
def Step.asksFor (id : MailboxId) : Step → Bool
  | .openReceiver other _ => other = id
  | .openMerge request _ => .asked id ∈ request.asks
  | _ => false

namespace Mailboxes

/-- What a pull from a merge would be now. -/
def nextPull (s : Mailboxes) (number : Nat) : Pull :=
  ⟨(s.pull number).findings, (s.pull number).packet⟩

/-- What a pull from a merge adds to a history. -/
def pullEvents (s : Mailboxes) (number : Nat) : List Event :=
  match Registry.find? s.merges number with
  | some m => [.pulled number m.receivers (s.nextPull number)]
  | none => []

/-- What a receiver adds to a history when it is asked. -/
def receiveEvents (s : Mailboxes) (r : Receiver) : List Event :=
  match (s.receive r none).1 with
  | .packet p => [.received r p]
  | _ => []

end Mailboxes

namespace Session

/-- What a step adds to a history. -/
def stepEvents (s : Session) : Step → List Event
  | .send held p =>
    match s.find? held with
    | some (.sender h) => h.accepts p (s.mailboxes.send h p).1
    | _ => []
  | .sendWaiting held p _ =>
    match s.find? held with
    | some (.sender h) => h.accepts p (s.mailboxes.sendWaiting h p).1
    | _ => []
  | .retry held =>
    match s.find? held with
    | some (.pendingSend h) => h.sender.accepts h.packet (s.mailboxes.retry h).1
    | _ => []
  | .receive held =>
    match s.find? held with
    | some (.receiver h) => s.mailboxes.receiveEvents h
    | _ => []
  | .pull held =>
    match s.find? held with
    | some (.merge number) => s.mailboxes.pullEvents number
    | _ => []
  | .openReceiver id _ => [.asked id]
  | .openMerge request _ => request.asks
  | .release id => [.released id]
  | _ => []

/-- The senders that a step opens. -/
def stepOpens (s : Session) : Step → List Sender
  | .openSender id _ => [(s.mailboxes.openSender id).1]
  | _ => []

/-- The receivers that a step is given. -/
def stepGiven (s : Session) : Step → List Receiver
  | .openReceiver id _ => s.mailboxes.givenOut [id]
  | .openMerge request _ => s.mailboxes.givenTo request
  | _ => []

/-- What one step may add to a history, the senders it opens, the receivers it is given, and the
session after it. -/
inductive Takes (s : Session) :
    List Event → List Sender → List Receiver → Session → Prop where
  | idle : Takes s [] [] [] s
  | openSender (id : MailboxId) (name : String) :
      Takes s [] [(s.mailboxes.openSender id).1] []
        (s.hold name (.sender (s.mailboxes.openSender id).1) (s.mailboxes.openSender id).2)
  | cloneSender
      {held : String} {sender : Sender}
      (hheld : s.find? held = some (.sender sender))
      (name : String) :
      Takes s [] [] [] (s.hold name (.sender sender) (s.mailboxes.cloneSender sender))
  | drop
      {held : String} {handle : Handle}
      (hheld : s.find? held = some handle) :
      Takes s [] [] [] (s.without held (s.mailboxes.dropHandle handle))
  | send
      {held : String} {sender : Sender}
      (hheld : s.find? held = some (.sender sender))
      (p : Packet) :
      Takes s (sender.accepts p (s.mailboxes.send sender p).1) [] []
        (s.withMailboxes (s.mailboxes.send sender p).2)
  | sendWaiting
      {held : String} {sender : Sender} {p : Packet}
      (hheld : s.find? held = some (.sender sender))
      (hdone : (s.mailboxes.sendWaiting sender p).2.1 = none) :
      Takes s (sender.accepts p (s.mailboxes.sendWaiting sender p).1) [] []
        (s.withMailboxes (s.mailboxes.sendWaiting sender p).2.2)
  | wait
      {held : String} {sender : Sender} {p : Packet} {pending : PendingSend}
      (hheld : s.find? held = some (.sender sender))
      (hwaits : (s.mailboxes.sendWaiting sender p).2.1 = some pending)
      (name : String) :
      Takes s (sender.accepts p (s.mailboxes.sendWaiting sender p).1) [] []
        (s.hold name (.pendingSend pending) (s.mailboxes.sendWaiting sender p).2.2)
  | retry
      {held : String} {pending : PendingSend}
      (hheld : s.find? held = some (.pendingSend pending))
      (hfull : (s.mailboxes.retry pending).1 = .full) :
      Takes s (pending.sender.accepts pending.packet (s.mailboxes.retry pending).1) [] []
        (s.withMailboxes (s.mailboxes.retry pending).2)
  | redeem
      {held : String} {pending : PendingSend}
      (hheld : s.find? held = some (.pendingSend pending))
      (hdone : (s.mailboxes.retry pending).1 ≠ .full) :
      Takes s (pending.sender.accepts pending.packet (s.mailboxes.retry pending).1) [] []
        (s.without held (s.mailboxes.retry pending).2)
  | openReceiver
      {id : MailboxId} {r : Receiver}
      (hanswer : (s.mailboxes.openReceiver id).1 = .ok r)
      (name : String) :
      Takes s [.asked id] [] [r]
        (s.hold name (.receiver r) (s.mailboxes.openReceiver id).2)
  | refuseReceiver
      {id : MailboxId} {fault : MailboxFault}
      (hanswer : (s.mailboxes.openReceiver id).1 = .error fault) :
      Takes s [.asked id] [] [] (s.withMailboxes (s.mailboxes.openReceiver id).2)
  | receive
      {held : String} {r : Receiver}
      (hheld : s.find? held = some (.receiver r)) :
      Takes s (s.mailboxes.receiveEvents r) [] [] (s.withMailboxes (s.mailboxes.receive r none).2)
  | openMerge
      {request : MergeRequest} {number : Nat}
      (hanswer : (s.mailboxes.openMerge request).1 = .ok number)
      (name : String) :
      Takes s request.asks [] (s.mailboxes.givenTo request)
        (s.hold name (.merge number) (s.mailboxes.openMerge request).2)
  | refuseMerge (request : MergeRequest) :
      Takes s request.asks [] (s.mailboxes.givenTo request)
        (s.withMailboxes (s.mailboxes.openMerge request).2)
  | pull
      {held : String} {number : Nat}
      (hheld : s.find? held = some (.merge number)) :
      Takes s (s.mailboxes.pullEvents number) [] []
        (s.withMailboxes (s.mailboxes.pull number).mailboxes)
  | release (id : MailboxId) :
      Takes s [.released id] [] [] (s.withMailboxes (s.mailboxes.release id))

/-! ## What a step takes -/

section Steps

variable {s : Session} {held name : String} {p : Packet} {step : Step}

theorem stepEvents_send
    {sender : Sender}
    (hheld : s.find? held = some (.sender sender)) :
    s.stepEvents (.send held p) = sender.accepts p (s.mailboxes.send sender p).1 := by
  simp [stepEvents, hheld]

theorem stepEvents_sendWaiting
    {sender : Sender}
    (hheld : s.find? held = some (.sender sender)) :
    s.stepEvents (.sendWaiting held p name) =
      sender.accepts p (s.mailboxes.sendWaiting sender p).1 := by
  simp [stepEvents, hheld]

theorem stepEvents_retry
    {pending : PendingSend}
    (hheld : s.find? held = some (.pendingSend pending)) :
    s.stepEvents (.retry held) =
      pending.sender.accepts pending.packet (s.mailboxes.retry pending).1 := by
  simp [stepEvents, hheld]

theorem stepEvents_receive
    {r : Receiver}
    (hheld : s.find? held = some (.receiver r)) :
    s.stepEvents (.receive held) = s.mailboxes.receiveEvents r := by
  simp [stepEvents, hheld]

theorem stepEvents_pull
    {number : Nat}
    (hheld : s.find? held = some (.merge number)) :
    s.stepEvents (.pull held) = s.mailboxes.pullEvents number := by
  simp [stepEvents, hheld]

theorem stepEvents_of_misses (h : s.Misses step) : s.stepEvents step = [] := by
  cases step with
  | openReceiver | openMerge | release => exact h.elim
  | openSender | cloneSender | drop => rfl
  | _ =>
      simp only [stepEvents]
      split
      · next hfound => exact absurd hfound (h _)
      · rfl

theorem takes_of_misses (h : s.Misses step) :
    s.Takes (s.stepEvents step) (s.stepOpens step) (s.stepGiven step) (s.step step).2 := by
  have hopens : s.stepOpens step = [] := by
    cases step with
    | openSender => exact h.elim
    | _ => rfl
  have hgiven : s.stepGiven step = [] := by
    cases step with
    | openReceiver | openMerge => exact h.elim
    | _ => rfl
  rw [step_of_misses h, stepEvents_of_misses h, hopens, hgiven]
  exact .idle

/-- A send waits or it does not. -/
theorem takes_sendWaiting
    {sender : Sender}
    (hheld : s.find? held = some (.sender sender))
    (p : Packet) (name : String) :
    s.Takes (s.stepEvents (.sendWaiting held p name)) [] []
      (s.step (.sendWaiting held p name)).2 := by
  rw [stepEvents_sendWaiting hheld]
  cases hwaits : (s.mailboxes.sendWaiting sender p).2.1 with
  | none =>
      rw [step_sendWaiting_of_none hheld hwaits]
      exact .sendWaiting hheld hwaits
  | some pending =>
      rw [step_sendWaiting_of_some hheld hwaits]
      exact .wait hheld hwaits name

/-- A waiting send goes on waiting or is gone. -/
theorem takes_retry
    {pending : PendingSend}
    (hheld : s.find? held = some (.pendingSend pending)) :
    s.Takes (s.stepEvents (.retry held)) [] [] (s.step (.retry held)).2 := by
  rw [stepEvents_retry hheld]
  by_cases hfull : (s.mailboxes.retry pending).1 = .full
  · rw [step_retry_of_full hheld hfull]
    exact .retry hheld hfull
  · rw [step_retry_of_ne_full hheld hfull]
    exact .redeem hheld hfull

/-- A receiver is given out or refused. -/
theorem takes_openReceiver (s : Session) (id : MailboxId) (name : String) :
    s.Takes [.asked id] [] (s.mailboxes.givenOut [id]) (s.step (.openReceiver id name)).2 := by
  cases hanswer : (s.mailboxes.openReceiver id).1 with
  | error fault =>
      have hgiven : s.mailboxes.givenOut [id] = [] :=
        Mailboxes.givenOut_of_error (Prod.ext hanswer rfl) []
      rw [step_openReceiver_of_error hanswer, hgiven]
      exact .refuseReceiver hanswer
  | ok r =>
      have hgiven : s.mailboxes.givenOut [id] = [r] :=
        Mailboxes.givenOut_of_ok (Prod.ext hanswer rfl) []
      rw [step_openReceiver_of_ok hanswer, hgiven]
      exact .openReceiver hanswer name

/-- A merge is opened or refused. -/
theorem takes_openMerge (s : Session) (request : MergeRequest) (name : String) :
    s.Takes request.asks [] (s.mailboxes.givenTo request)
      (s.step (.openMerge request name)).2 := by
  rcases s.step_openMerge request name with hrefused | ⟨number, hanswer, hopened⟩
  · rw [hrefused]
    exact .refuseMerge request
  · rw [hopened]
    exact .openMerge hanswer name

/-- **What a step takes.** -/
theorem takes_step (s : Session) (step : Step) :
    s.Takes (s.stepEvents step) (s.stepOpens step) (s.stepGiven step) (s.step step).2 := by
  cases s.uses_step step with
  | openSender id name =>
      exact .openSender id name
  | openReceiver id name =>
      exact takes_openReceiver s id name
  | openMerge request name =>
      exact takes_openMerge s request name
  | release id =>
      exact .release id
  | cloneSender hheld name =>
      rw [step_cloneSender hheld]
      exact .cloneSender hheld name
  | drop hheld =>
      rw [step_drop hheld]
      exact .drop hheld
  | send hheld p =>
      rw [step_send hheld, stepEvents_send hheld]
      exact .send hheld p
  | sendWaiting hheld p name =>
      exact takes_sendWaiting hheld p name
  | retry hheld =>
      exact takes_retry hheld
  | receive hheld =>
      rw [step_receive hheld, stepEvents_receive hheld]
      exact .receive hheld
  | pull hheld =>
      rw [step_pull hheld, stepEvents_pull hheld]
      exact .pull hheld
  | misses h =>
      exact takes_of_misses h

end Steps

/-- What an act adds to a history. -/
def events (s : Session) : Act → List Event
  | .step step => s.stepEvents step
  | .openMerge request => request.asks
  | .pull number => s.mailboxes.pullEvents number
  | .dropMerge _ => []

/-- Does one act. -/
def perform (s : Session) : Act → Session
  | .step step => (s.step step).2
  | .openMerge request => s.withMailboxes (s.mailboxes.openMerge request).2
  | .pull number => s.withMailboxes (s.mailboxes.pull number).mailboxes
  | .dropMerge number => s.withMailboxes (s.mailboxes.dropMerge number)

/-- Does acts in turn. -/
def performAll (s : Session) : List Act → Session
  | [] => s
  | act :: acts => (s.perform act).performAll acts

/-- The history of acts done in turn. -/
def history (s : Session) : List Act → History
  | [] => []
  | act :: acts => s.events act ++ (s.perform act).history acts

variable {H : History} {s : Session}

theorem performAll_append (s : Session) (acts more : List Act) :
    s.performAll (acts ++ more) = (s.performAll acts).performAll more := by
  induction acts generalizing s with
  | nil =>
      rfl
  | cons act acts ih =>
      exact ih (s.perform act)

theorem history_append (s : Session) (acts more : List Act) :
    s.history (acts ++ more) = s.history acts ++ (s.performAll acts).history more := by
  induction acts generalizing s with
  | nil =>
      rfl
  | cons act acts ih =>
      simp only [List.cons_append, history, performAll, ih, List.append_assoc]

/-- A run is made of acts. -/
theorem performAll_steps (s : Session) (steps : List Step) :
    s.performAll (steps.map .step) = (s.run steps).2 := by
  induction steps generalizing s with
  | nil =>
      rfl
  | cons step steps ih =>
      exact ih (s.step step).2

theorem run_append (s : Session) (steps more : List Step) :
    (s.run (steps ++ more)).2 = ((s.run steps).2.run more).2 := by
  rw [← performAll_steps, List.map_append, performAll_append, performAll_steps, performAll_steps]

/-- The receivers that are held by name. -/
def Receives (s : Session) (r : Receiver) : Prop :=
  ∃ name, s.find? name = some (.receiver r)

/-- The mailboxes of a session agree with a history. -/
def Sound (H : History) (s : Session) : Prop :=
  s.mailboxes.Sound H s.Receives

/-! ## Agreement is kept -/

theorem sound_withMailboxes
    {mailboxes : Mailboxes}
    (h : mailboxes.Sound H s.Receives) :
    (s.withMailboxes mailboxes).Sound H :=
  h

/-- A handle is dropped. -/
theorem sound_dropHandle
    {outer : Receiver → Prop} {mailboxes : Mailboxes}
    (h : mailboxes.Sound H outer)
    (handle : Handle)
    (houter : ∀ r, handle = .receiver r → outer r) :
    (mailboxes.dropHandle handle).Sound H outer := by
  cases handle with
  | sender sender =>
      exact h.quietly (Mailboxes.evolves_dropSender mailboxes sender)
        (Mailboxes.onward_dropSender mailboxes sender).retains
  | pendingSend pending =>
      exact h.dropPendingSend pending
  | receiver r =>
      exact h.dropReceiver (houter r rfl)
  | merge number =>
      exact h.dropMerge number

/-- A new handle is held, and the one that it replaces is dropped. -/
theorem sound_hold
    {outer : Receiver → Prop} {mailboxes : Mailboxes} {handle : Handle}
    (h : mailboxes.Sound H outer)
    (name : String)
    (hheld : ∀ r, s.Receives r → outer r)
    (hnew : ∀ r, handle = .receiver r → outer r) :
    (s.hold name handle mailboxes).Sound H := by
  have hreceives : ∀ r, (s.hold name handle mailboxes).Receives r → outer r := by
    rintro r ⟨other, hother⟩
    have hfind : (if name = other then some handle else s.find? other) = some (.receiver r) := by
      rw [← hother]
      exact (Registry.find?_set s.held name other handle).symm
    split at hfind
    · exact hnew r (Option.some.inj hfind)
    · exact hheld r ⟨other, hfind⟩
  refine Mailboxes.Sound.mono ?_ hreceives
  unfold hold
  dsimp only
  split
  · next old hold =>
      exact sound_dropHandle h old fun r hr => hheld r ⟨name, hr ▸ hold⟩
  · exact h

/-- A name is taken away. -/
theorem sound_without
    {mailboxes : Mailboxes}
    (h : mailboxes.Sound H s.Receives)
    (name : String) :
    (s.without name mailboxes).Sound H := by
  refine h.mono ?_
  rintro r ⟨other, hother⟩
  have hfind : (if name = other then none else s.find? other) = some (.receiver r) := by
    rw [← hother]
    exact (Registry.find?_erase s.held name other).symm
  split at hfind
  · cases hfind
  · exact ⟨other, hfind⟩

theorem sound_receive
    {r : Receiver}
    (h : s.Sound H)
    (hr : s.Receives r) :
    (s.mailboxes.receive r none).2.Sound (H ++ s.mailboxes.receiveEvents r) s.Receives := by
  have ho := Mailboxes.onward_receive s.mailboxes r none
  unfold Mailboxes.receiveEvents
  rcases Mailboxes.evolves_receive s.mailboxes r none with ⟨p, hanswer, he⟩ | ⟨hanswer, he⟩
  · rw [hanswer]
    exact Mailboxes.Sound.receive h he ho hr
  · split
    · next p hp => exact absurd hp (hanswer p)
    · rw [List.append_nil]
      exact Mailboxes.Sound.quietly h he ho.retains

theorem sound_pull
    (h : s.Sound H)
    (number : Nat) :
    (s.mailboxes.pull number).mailboxes.Sound (H ++ s.mailboxes.pullEvents number) s.Receives := by
  unfold Mailboxes.pullEvents
  split
  · next m hm => exact (Mailboxes.Sound.pull h hm).1
  · next hm =>
      rw [Mailboxes.pull_of_find?_eq_none hm, List.append_nil]
      exact h

theorem sound_silently (h : s.Sound H) : s.Sound (H ++ []) := by
  rw [List.append_nil]
  exact h

theorem Takes.sound
    {events : List Event} {opened : List Sender} {given : List Receiver} {s' : Session}
    (ht : s.Takes events opened given s')
    (h : s.Sound H) :
    s'.Sound (H ++ events) := by
  cases ht with
  | idle =>
      exact sound_silently h
  | openSender id name =>
      have hopened := Mailboxes.Sound.quietly h (Mailboxes.evolves_openSender _ id)
        (Mailboxes.onward_openSender _ id).retains
      exact sound_silently
        (sound_hold hopened name (fun _ hr => hr) fun r hr => by cases hr)
  | @cloneSender held sender _ name =>
      have hcloned := Mailboxes.Sound.quietly h (Mailboxes.evolves_cloneSender _ sender)
        (Mailboxes.onward_cloneSender _ sender).retains
      exact sound_silently
        (sound_hold hcloned name (fun _ hr => hr) fun r hr => by cases hr)
  | drop hheld =>
      exact sound_silently (sound_without (sound_dropHandle h _ fun r hr => ⟨_, hr ▸ hheld⟩) _)
  | @send held sender _ p =>
      exact Mailboxes.Sound.send h sender p
  | @sendWaiting held sender p _ _ =>
      exact Mailboxes.Sound.sendWaiting h sender p
  | @wait held sender p pending _ _ name =>
      have hsent := Mailboxes.Sound.sendWaiting h sender p
      exact sound_hold hsent name (fun _ hr => hr) fun r hr => by cases hr
  | @retry held pending _ _ =>
      exact Mailboxes.Sound.retry h pending
  | @redeem held pending _ _ =>
      exact sound_without (Mailboxes.Sound.retry h pending) held
  | @openReceiver id r hanswer name =>
      have hmem : .asked id ∈ H ++ [.asked id] :=
        List.mem_append_right _ (List.mem_singleton_self _)
      have hopened := (Mailboxes.Sound.ask h id).openReceiver hmem hanswer
      refine sound_hold hopened name (fun _ hr => Or.inl hr) ?_
      intro other hother
      cases hother
      exact Or.inr rfl
  | @refuseReceiver id fault _ =>
      have hmem : .asked id ∈ H ++ [.asked id] :=
        List.mem_append_right _ (List.mem_singleton_self _)
      exact (Mailboxes.Sound.ask h id).quietly (Mailboxes.evolves_openReceiver _ id)
        (Mailboxes.retains_openReceiver hmem)
  | receive hheld =>
      exact sound_receive h ⟨_, hheld⟩
  | @openMerge request number _ name =>
      have hopened := Mailboxes.Sound.openMerge h request
      exact sound_hold hopened name (fun _ hr => hr) fun r hr => by cases hr
  | refuseMerge request =>
      exact Mailboxes.Sound.openMerge h request
  | pull _ =>
      exact sound_pull h _
  | release id =>
      exact Mailboxes.Sound.release h id

theorem sound_perform
    (h : s.Sound H)
    (act : Act) :
    (s.perform act).Sound (H ++ s.events act) := by
  cases act with
  | step step =>
      exact (takes_step s step).sound h
  | openMerge request =>
      exact Mailboxes.Sound.openMerge h request
  | pull number =>
      exact sound_pull h number
  | dropMerge number =>
      refine sound_silently ?_
      exact Mailboxes.Sound.dropMerge h number

theorem sound_performAll
    (h : s.Sound H)
    (acts : List Act) :
    (s.performAll acts).Sound (H ++ s.history acts) := by
  induction acts generalizing s H with
  | nil =>
      exact sound_silently h
  | cons act acts ih =>
      rw [history, ← List.append_assoc]
      exact ih (sound_perform h act)

/-- Mailboxes on which nothing was done agree with the empty history. -/
theorem sound_start (host : String) (mailboxPort : UInt16) (capacity : Nat) :
    (ofMailboxes (.create host mailboxPort capacity)).Sound [] := by
  have hslot : ∀ r, (Mailboxes.create host mailboxPort capacity).slot r = ⟨none, False⟩ := by
    intro r
    have hkept : ¬ Mailbox.fresh.Keeps r.generation := by
      rintro ⟨t, ht, -⟩
      cases ht
    show Slot.mk Mailbox.fresh.channels[r.generation]? (Mailbox.fresh.Keeps r.generation) = _
    rw [eq_false hkept]
    rfl
  have hholds : ∀ holder r, ¬ (Mailboxes.create host mailboxPort capacity).Holds
      (ofMailboxes (.create host mailboxPort capacity)).Receives holder r := by
    rintro (_ | number) r hholder
    · obtain ⟨name, hname⟩ := hholder
      cases hname
    · obtain ⟨m, hm, -⟩ := hholder
      cases hm
  refine ⟨?_, ?_, ?_, ?_, ?_, ?_, ?_⟩
  · intro r
    show Account [] [] ((Mailboxes.create host mailboxPort capacity).slot r)
    rw [hslot]
    exact ⟨by simp, by simp, List.prefix_refl _, fun _ => rfl, fun hkept => hkept.elim⟩
  · exact fun holder r hholder => absurd hholder (hholds holder r)
  · exact fun holder _ r hholder => absurd hholder (hholds holder r)
  · intro number m hm
    cases hm
  · intro number inputs q hmem
    cases hmem
  · intro number m hm
    cases hm
  · intro id _
    have hbox : (Mailboxes.create host mailboxPort capacity).box id = .fresh := rfl
    exact ⟨Or.inl (hbox ▸ Mailbox.first_fresh), fun _ => hbox ▸ Mailbox.unreceived_fresh⟩

/-- **Agreement.** From the start, whatever acts are done, the mailboxes of a session agree with the
history of these acts. -/
theorem sound_history
    (host : String) (mailboxPort : UInt16) (capacity : Nat) (acts : List Act) :
    ((ofMailboxes (.create host mailboxPort capacity)).performAll acts).Sound
      ((ofMailboxes (.create host mailboxPort capacity)).history acts) := by
  have h := sound_performAll (sound_start host mailboxPort capacity) acts
  rwa [List.nil_append] at h

/-! ## Requests of others -/

theorem mem_accepts
    {sender : Sender} {p : Packet} {answer : SendAnswer} {e : Event}
    (h : e ∈ sender.accepts p answer) :
    ∃ r q, e = .accepted r q := by
  unfold Sender.accepts at h
  split at h
  · exact ⟨_, _, List.mem_singleton.1 h⟩
  · cases h

theorem mem_receiveEvents
    {mailboxes : Mailboxes} {r : Receiver} {e : Event}
    (h : e ∈ mailboxes.receiveEvents r) :
    ∃ p, e = .received r p := by
  unfold Mailboxes.receiveEvents at h
  split at h
  · exact ⟨_, List.mem_singleton.1 h⟩
  · cases h

theorem mem_pullEvents
    {mailboxes : Mailboxes} {number : Nat} {e : Event}
    (h : e ∈ mailboxes.pullEvents number) :
    ∃ inputs q, e = .pulled number inputs q := by
  unfold Mailboxes.pullEvents at h
  split at h
  · exact ⟨_, _, List.mem_singleton.1 h⟩
  · cases h

theorem mem_asks
    {request : MergeRequest} {e : Event}
    (h : e ∈ request.asks) :
    ∃ id, e = .asked id := by
  unfold MergeRequest.asks at h
  split at h
  · obtain ⟨id, -, hid⟩ := List.mem_map.1 h
    exact ⟨id, hid.symm⟩
  · cases h

/-- What a step adds to a history, as far as receivers and whole mailboxes are concerned. -/
theorem mem_stepEvents
    {step : Step} {e : Event}
    (h : e ∈ s.stepEvents step) :
    (∀ id, e = .asked id → step.asksFor id = true) ∧
      ∀ id, e = .released id → step = .release id := by
  have hother : (∀ id, e ≠ .asked id ∧ e ≠ .released id) →
      (∀ id, e = .asked id → step.asksFor id = true) ∧
        ∀ id, e = .released id → step = .release id := by
    intro hnot
    exact ⟨fun id heq => absurd heq (hnot id).1, fun id heq => absurd heq (hnot id).2⟩
  cases s.uses_step step with
  | openReceiver id name =>
      cases List.mem_singleton.1 h
      simp [Step.asksFor]
  | openMerge request name =>
      obtain ⟨id, rfl⟩ := mem_asks h
      simpa [Step.asksFor, stepEvents] using h
  | release id =>
      cases List.mem_singleton.1 h
      simp
  | send hheld p =>
      rw [stepEvents_send hheld] at h
      obtain ⟨r, q, rfl⟩ := mem_accepts h
      exact hother (by simp)
  | sendWaiting hheld p name =>
      rw [stepEvents_sendWaiting hheld] at h
      obtain ⟨r, q, rfl⟩ := mem_accepts h
      exact hother (by simp)
  | retry hheld =>
      rw [stepEvents_retry hheld] at h
      obtain ⟨r, q, rfl⟩ := mem_accepts h
      exact hother (by simp)
  | receive hheld =>
      rw [stepEvents_receive hheld] at h
      obtain ⟨p, rfl⟩ := mem_receiveEvents h
      exact hother (by simp)
  | pull hheld =>
      rw [stepEvents_pull hheld] at h
      obtain ⟨inputs, q, rfl⟩ := mem_pullEvents h
      exact hother (by simp)
  | misses hmisses =>
      rw [stepEvents_of_misses hmisses] at h
      cases h
  | _ =>
      cases h

/-- A receiver that was asked for in a run was asked for by one of its steps. -/
theorem asksFor_of_mem_history
    {steps : List Step} {id : MailboxId}
    (h : .asked id ∈ s.history (steps.map .step)) :
    ∃ step ∈ steps, step.asksFor id = true := by
  induction steps generalizing s with
  | nil =>
      cases h
  | cons step steps ih =>
      rcases List.mem_append.1 h with hfirst | hrest
      · exact ⟨step, List.mem_cons_self, (mem_stepEvents hfirst).1 id rfl⟩
      · obtain ⟨other, hother, hasks⟩ := ih hrest
        exact ⟨other, List.mem_cons_of_mem _ hother, hasks⟩

/-- A mailbox is released by a release only. -/
theorem release_of_mem_history
    {acts : List Act} {id : MailboxId}
    (h : .released id ∈ s.history acts) :
    .step (.release id) ∈ acts := by
  induction acts generalizing s with
  | nil =>
      cases h
  | cons act acts ih =>
      rcases List.mem_append.1 h with hfirst | hrest
      · cases act with
        | step step =>
            rw [← (mem_stepEvents hfirst).2 id rfl]
            exact List.mem_cons_self
        | openMerge request =>
            obtain ⟨other, heq⟩ := mem_asks hfirst
            cases heq
        | pull number =>
            obtain ⟨inputs, q, heq⟩ := mem_pullEvents hfirst
            cases heq
        | dropMerge number =>
            cases hfirst
      · exact List.mem_cons_of_mem _ (ih hrest)

end Session
end ScatterGather
