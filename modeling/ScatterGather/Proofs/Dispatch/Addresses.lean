import ScatterGather.Proofs.Dispatch.Order
import ScatterGather.Proofs.Session.Ownership
import ScatterGather.Proofs.Text

/-!
# The addresses of mailboxes

A worker that was asked to run a stage sends to the mailbox that it makes out from the request: it
reads there which query it belongs to and which worker it is, as text. The query receives from
mailboxes that it makes out from the plan.

**Results.** They are the same mailboxes in the same order, for every number of a query and for
every port.
-/

namespace ScatterGather

/-! ## Mailboxes as workers make them out -/

/-- The mailbox that a worker makes out from a request, when it sends to the given address. -/
def Request.mailbox? (r : Request) (host : String) (mailboxPort : UInt16) : Option MailboxId := do
  let request ← lookup? r.metadata MetadataKey.request
  let senderHost ← lookup? r.metadata MetadataKey.host
  let senderPort ← lookup? r.metadata MetadataKey.mailboxPort
  let request ← Numeral.signed? (2 ^ 63) request.toList
  let senderPort ← Numeral.bounded? (2 ^ 16) senderPort.toList
  pure
    { request := Int64.ofInt request
      stage := r.stage
      senderHost
      senderPort := UInt16.ofNat senderPort
      receiverHost := host
      receiverPort := mailboxPort }

/-- A worker makes out the mailbox from which the query receives what it sends. -/
theorem BoundPlan.mailbox?_request
    (p : BoundPlan) (request : Int64) (host : String) (mailboxPort : UInt16) :
    (p.request request).mailbox? host mailboxPort = some
      { request
        stage := p.stage
        senderHost := p.server.host
        senderPort := p.server.mailboxPort
        receiverHost := host
        receiverPort := mailboxPort } := by
  have hrequest : Numeral.signed? (2 ^ 63) (toString request.toInt).toList = some request.toInt :=
    Numeral.signed?_toString request.le_toInt request.toInt_lt
  have hport : Numeral.bounded? (2 ^ 16) (toString p.server.mailboxPort.toNat).toList =
      some p.server.mailboxPort.toNat :=
    Numeral.bounded?_toString p.server.mailboxPort.toNat_lt
  have hmetadata : (p.request request).metadata = [
      (MetadataKey.request, toString request.toInt),
      (MetadataKey.host, p.server.host),
      (MetadataKey.mailboxPort, toString p.server.mailboxPort.toNat)] := rfl
  have hlookup :
      lookup? (p.request request).metadata MetadataKey.request = some (toString request.toInt) ∧
      lookup? (p.request request).metadata MetadataKey.host = some p.server.host ∧
      lookup? (p.request request).metadata MetadataKey.mailboxPort =
        some (toString p.server.mailboxPort.toNat) := by
    rw [hmetadata]
    simp [lookup?, MetadataKey.request, MetadataKey.host, MetadataKey.mailboxPort]
  unfold Request.mailbox?
  rw [hlookup.1, hlookup.2.1, hlookup.2.2]
  simp only [Option.bind_eq_bind, Option.bind_some]
  rw [hrequest, hport]
  simp [BoundPlan.request]

/-! ## Mailboxes as the query makes them out -/

namespace Dispatcher

variable {ω γ : Type} {d : Dispatcher ω γ} {request : Int64} {plan : Plan} {w : World ω γ}

/-- A query has come so far that it was dispatched and the mailboxes of its gathering are open, as
the inputs of the merge with a number. -/
structure Opens (d : Dispatcher ω γ) (request : Int64) (plan : Plan) (w : World ω γ)
    (g : Gathering) (dispatched : World ω γ) (number : Nat) (mailboxes : Mailboxes) : Prop where
  gathering : plan.gathering = .ok g
  dispatch : ∃ reduceStage, d.dispatch request plan w = (.ok reduceStage, dispatched)
  merge : dispatched.session.mailboxes.openMerge
    (g.mergeRequest request dispatched.session.mailboxes.host
      dispatched.session.mailboxes.mailboxPort) = (.ok number, mailboxes)

/-- The mailbox from which a query that is received at an address receives what a target sends. -/
def mailboxOf (request : Int64) (host : String) (mailboxPort : UInt16) (target : Int32 × Server) :
    MailboxId where
  request := request
  stage := target.1
  senderHost := target.2.host
  senderPort := target.2.mailboxPort
  receiverHost := host
  receiverPort := mailboxPort

/-- What is made out from a request that served a target. -/
theorem mailbox?_of_serves
    {pool : Pool γ} {target : Int32 × Server} {submission : Submitted γ}
    (h : submission.Serves pool plan request target)
    (host : String) (mailboxPort : UInt16) :
    submission.request.stage = target.1 ∧
      submission.request.mailbox? host mailboxPort =
        some (mailboxOf request host mailboxPort target) := by
  obtain ⟨bound, hbound, hrequest⟩ := h.request
  unfold Plan.bind at hbound
  split at hbound
  · cases hbound
    rw [hrequest]
    exact ⟨rfl, BoundPlan.mailbox?_request _ request host mailboxPort⟩
  · cases hbound

/-- What is made out from the requests for one stage. -/
theorem mailbox?_of_stage
    {pool : Pool γ} {targets : List (Int32 × Server)} {submissions : List (Submitted γ)}
    (h : List.Forall₂ (fun target submission => submission.Serves pool plan request target)
      targets submissions)
    (stage : Int32) (host : String) (mailboxPort : UInt16) :
    ((submissions.map Submitted.request).filter fun r => r.stage = stage).map
        (fun r => r.mailbox? host mailboxPort) =
      ((targets.filter fun target => target.1 = stage).map Prod.snd).map
        fun server => some (mailboxOf request host mailboxPort (stage, server)) := by
  induction h with
  | nil =>
      rfl
  | @cons target submission targets submissions hserves _ ih =>
      obtain ⟨hstage, hmailbox⟩ := mailbox?_of_serves hserves host mailboxPort
      rw [List.map_cons]
      by_cases heq : target.1 = stage
      · subst heq
        rw [List.filter_cons_of_pos (by simpa using hstage),
          List.filter_cons_of_pos (by simp), List.map_cons, List.map_cons, List.map_cons, ih,
          hmailbox]
      · rw [List.filter_cons_of_neg (by simpa [hstage] using heq),
          List.filter_cons_of_neg (by simpa using heq), ih]

theorem validate_of_dispatch
    {reduceStage : Int32} {dispatched : World ω γ}
    (h : d.dispatch request plan w = (.ok reduceStage, dispatched)) :
    plan.validate = .ok () := by
  unfold dispatch at h
  split at h
  · cases h
  · next hvalid => exact hvalid

/-- **Both sides agree on the mailboxes.** Once a query was dispatched and its receivers are open,
the mailboxes that they are on are, in order, those that the workers of the stage that feeds the
reduce stage make out from their requests, in the order in which these were submitted. -/
theorem ids_of_opens
    {g : Gathering} {dispatched : World ω γ} {number : Nat} {mailboxes : Mailboxes}
    (d : Dispatcher ω γ) (request : Int64) (plan : Plan) (w : World ω γ)
    (hbuilt : plan.Built)
    (hopens : d.Opens request plan w g dispatched number mailboxes)
    (hstage : plan.reduceStage? ≠ some g.senderStage) :
    let requests :=
      (d.recording.dispatch request plan w.watched).2.record.submissions.map Submitted.request
    ∃ m, Registry.find? mailboxes.merges number = some m ∧
      (requests.filter fun r => r.stage = g.senderStage).map
          (fun r => r.mailbox? w.session.mailboxes.host w.session.mailboxes.mailboxPort) =
        m.ids.map some := by
  intro requests
  obtain ⟨reduceStage, hdispatch⟩ := hopens.dispatch
  obtain ⟨recorded, rfl, hrecorded⟩ := exists_recorded hdispatch
  obtain ⟨submissions, steps, hleads, hserves⟩ := dispatch_leads hrecorded
  obtain ⟨senders, m, hchosen, hm, hids⟩ := Mailboxes.ids_openMerge hopens.merge
  have hsenders : g.senders = senders := Except.ok.inj hchosen
  have hrequests : requests = submissions.map Submitted.request := by
    show (d.recording.dispatch request plan w.watched).2.record.submissions.map _ = _
    rw [hrecorded, hleads.submissions]
    rfl
  -- The clients may use the mailboxes meanwhile, but not move them to another address.
  have hleaves := Session.leaves_run w.session steps
  rw [← show recorded.session = (w.session.run steps).2 from hleads.session] at hleaves
  have hservers : (plan.targets.filter fun target => target.1 = g.senderStage).map Prod.snd =
      senders := by
    obtain ⟨placement, hplacement, hplaced⟩ := Plan.placement_of_gathering hopens.gathering
    obtain ⟨root, hroot⟩ := hbuilt.exists_root hplacement
    have hruns := Plan.isReduceStage_of_ne hbuilt (validate_of_dispatch hdispatch) hplacement hstage
    rw [Plan.isReduceStage_eq hroot] at hruns
    rw [(plan.ordered_targets hbuilt).servers _ root placement hroot hruns hplacement, ← hplaced,
      hsenders]
  refine ⟨m, hm, ?_⟩
  rw [hrequests, mailbox?_of_stage hserves, hservers, hids, List.map_map, ← hleaves.host,
    ← hleaves.mailboxPort]
  rfl

/-- Every worker accepts. -/
def obliging : Network Unit Unit where
  connect _ _ outside := (.ok (), outside)
  submit _ _ outside := .done (.ok ⟨[]⟩, outside)
  close _ outside := outside

/-- Two workers on different ports, for a query with a negative number. -/
theorem ids_of_opens_negative :
    let w : World Unit Unit := ⟨.empty, Session.ofMailboxes (.create "broker" 9000 4), ()⟩
    let g : Gathering :=
      ⟨1, [⟨"a", 8421, 8442⟩, ⟨"b", 8421, 8443⟩], ⟨["v"], [.int]⟩, ⟨["v"], [.int]⟩⟩
    let dispatched := ((ofNetwork obliging).dispatch (-7) threeTargets w).2
    let mailboxes :=
      (dispatched.session.mailboxes.openMerge (g.mergeRequest (-7) "broker" 9000)).2
    threeTargets.Built ∧
    (ofNetwork obliging).Opens (-7) threeTargets w g dispatched 0 mailboxes ∧
    threeTargets.reduceStage? ≠ some g.senderStage ∧
    ∃ m, Registry.find? mailboxes.merges 0 = some m ∧
      m.ids = [⟨-7, 1, "a", 8442, "broker", 9000⟩, ⟨-7, 1, "b", 8443, "broker", 9000⟩] := by
  intro w g dispatched mailboxes
  have hbuilt : threeTargets.Built :=
    .addStage _ _ _ (.addStage _ _ _ (.addStage _ _ _ (.ofFields _)))
  have hanswer : ((ofNetwork obliging).dispatch (-7) threeTargets w).1 = .ok 0 := by
    decide +kernel
  have haddress : dispatched.session.mailboxes.host = "broker" ∧
      dispatched.session.mailboxes.mailboxPort = 9000 := by
    decide +kernel
  have hnumber : (dispatched.session.mailboxes.openMerge (g.mergeRequest (-7)
      dispatched.session.mailboxes.host dispatched.session.mailboxes.mailboxPort)).1 = .ok 0 := by
    decide +kernel
  have hopens : (ofNetwork obliging).Opens (-7) threeTargets w g dispatched 0 mailboxes := by
    refine ⟨by decide +kernel, ⟨0, Prod.ext hanswer rfl⟩, Prod.ext hnumber ?_⟩
    rw [haddress.1, haddress.2]
  have hstage : threeTargets.reduceStage? ≠ some g.senderStage := by decide +kernel
  obtain ⟨m, hm, hids⟩ :=
    ids_of_opens (ofNetwork obliging) (-7) threeTargets w hbuilt hopens hstage
  have hmadeOut : ((((ofNetwork obliging).recording.dispatch (-7) threeTargets
      w.watched).2.record.submissions.map Submitted.request).filter
        fun r => r.stage = g.senderStage).map (fun r => r.mailbox? "broker" 9000) =
      [some ⟨-7, 1, "a", 8442, "broker", 9000⟩, some ⟨-7, 1, "b", 8443, "broker", 9000⟩] := by
    decide +kernel
  refine ⟨hbuilt, hopens, hstage, m, hm, ?_⟩
  have hsome : m.ids.map some =
      [⟨-7, 1, "a", 8442, "broker", 9000⟩, ⟨-7, 1, "b", 8443, "broker", 9000⟩].map some :=
    hids.symm.trans hmadeOut
  exact List.map_injective_iff.2 (fun _ _ => Option.some.inj) hsome

end Dispatcher
end ScatterGather
