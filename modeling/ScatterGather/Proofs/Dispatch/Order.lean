import ScatterGather.Proofs.Dispatch.Recording
import ScatterGather.Proofs.Plan.Building
import ScatterGather.Proofs.Wire.Plan

/-!
# The order of a dispatch

The targets of a plan are asked one after the other. The first one that fails ends the dispatch: no
later one is asked, and what is answered is why that one failed.

**Results.** `dispatch_inOrder`: what is on record of a dispatch is one request for each target up
to where it ended, in their order, each through the pooled client of its target.
-/

namespace ScatterGather

variable {ω γ : Type}

/-- A submission that asks a target to run its stage, through the client that a pool has for it. -/
structure Submitted.Asks (pool : Pool γ) (plan : Plan) (request : Int64)
    (target : Int32 × Server) (submission : Submitted γ) : Prop where
  client : Registry.find? pool.clients (Pool.key target.2.host target.2.servicePort) =
    some submission.client
  stage : submission.request.stage = target.1
  metadata : submission.request.metadata = [
    ("REQUEST_ID", toString request.toInt),
    ("SERVER_INSTANCE_HOST", target.2.host),
    ("SERVER_INSTANCE_PORT", toString target.2.mailboxPort.toNat)]
  plan : ∃ root, plan.roots.get? target.1 = some root ∧
    submission.request.plan = (BoundPlan.mk target.1 target.2 root plan.placements).toBytes ∧
    (submission.request.plan.length < 2 ^ 64 → BoundPlan.ofBytes submission.request.plan =
      .ok ⟨target.1, target.2, root, plan.placements⟩)

/-- A submission through which a target was asked, and which it accepted. -/
structure Submitted.Answered (pool : Pool γ) (plan : Plan) (request : Int64)
    (target : Int32 × Server) (submission : Submitted γ) : Prop where
  asks : submission.Asks pool plan request target
  accepted : ∃ response, submission.response = .ok response ∧ response.error? = none

/-- How a target can fail in a world, with what is submitted to it if anything is. -/
inductive Dispatcher.FailsAt (d : Dispatcher ω γ) (target : Int32 × Server)
    (w : World (ω × Record γ) γ) : QueryError → List (Submitted γ) → Prop
  | closed (hclosed : w.pool.closed = true) : FailsAt d target w .poolClosed []
  | unreachable
      {e : QueryError}
      (hopen : w.pool.closed = false)
      (hnone : Registry.find? w.pool.clients
        (Pool.key target.2.host target.2.servicePort) = none)
      (hconnect : (d.network.connect target.2.host target.2.servicePort w.outside.1).1 = .error e) :
      FailsAt d target w e []
  | failed
      {e : QueryError} {submission : Submitted γ}
      (hopen : w.pool.closed = false)
      (hresponse : submission.response = .error e) :
      FailsAt d target w e [submission]
  | rejected
      {submission : Submitted γ} {response : Response} {reason : String}
      (hopen : w.pool.closed = false)
      (hresponse : submission.response = .ok response)
      (hreason : response.error? = some reason) :
      FailsAt d target w (.rejected target.1 target.2 reason) [submission]

variable {request : Int64} {plan : Plan} {d : Dispatcher ω γ} {w w' : World (ω × Record γ) γ}
variable {target : Int32 × Server}

theorem Submitted.asks_of_bind
    {pool : Pool γ} {client : γ} {bound : BoundPlan} {response : Except QueryError Response}
    (hbound : plan.bind target.1 target.2 = .ok bound)
    (hclient : Registry.find? pool.clients (Pool.key target.2.host target.2.servicePort) =
      some client) :
    Submitted.Asks pool plan request target ⟨client, bound.request request, response⟩ := by
  unfold Plan.bind at hbound
  split at hbound
  · next root hroot =>
      cases hbound
      refine ⟨hclient, rfl, rfl, root, hroot, rfl, fun hlength => ?_⟩
      have hread := (Wire.lawful_boundPlan _ hlength).bind_write [] fun left => .ok left.1
      rwa [List.append_nil] at hread
  · cases hbound

theorem Submitted.Serves.answered
    {pool : Pool γ} {submission : Submitted γ}
    (h : submission.Serves pool plan request target) :
    submission.Answered pool plan request target := by
  obtain ⟨hclient, ⟨bound, hbound, hrequest⟩, haccepted⟩ := h
  obtain ⟨client, _, response⟩ := submission
  cases hrequest
  exact ⟨asks_of_bind hbound hclient, haccepted⟩

theorem Submitted.Answered.mono
    {pool pool' : Pool γ} {submission : Submitted γ}
    (h : submission.Answered pool plan request target)
    (hkeeps : pool.Keeps pool') :
    submission.Answered pool' plan request target :=
  ⟨{ h.asks with client := hkeeps _ _ h.asks.client }, h.accepted⟩

namespace Pool

/-- Why there is no client of an endpoint. -/
theorem getOrConnect_error
    {network : Network ω γ} {host : String} {servicePort : UInt16} {pool pool' : Pool γ}
    {outside outside' : ω} {e : QueryError}
    (h : pool.getOrConnect network host servicePort outside = (.error e, pool', outside')) :
    (pool.closed = true ∧ e = .poolClosed) ∨
    (pool.closed = false ∧ Registry.find? pool.clients (key host servicePort) = none ∧
      (network.connect host servicePort outside).1 = .error e) := by
  unfold getOrConnect at h
  split at h
  · next hclosed =>
      cases h
      exact Or.inl ⟨hclosed, rfl⟩
  · next hopen =>
      have hopen : pool.closed = false := by simpa using hopen
      split at h
      · cases h
      · next hnone =>
          split at h
          · next hconnect =>
              cases h
              exact Or.inr ⟨hopen, hnone, by rw [hconnect]⟩
          · cases h

/-- A closed pool gives no client. -/
theorem closed_of_getOrConnect
    {network : Network ω γ} {host : String} {servicePort : UInt16} {pool pool' : Pool γ}
    {outside outside' : ω} {client : γ}
    (h : pool.getOrConnect network host servicePort outside = (.ok client, pool', outside')) :
    pool.closed = false := by
  unfold getOrConnect at h
  split at h
  · cases h
  · next hopen =>
      simpa using hopen

end Pool

theorem World.open_of_client
    {host : String} {servicePort : UInt16} {client : γ}
    (h : w.client d.network.recording host servicePort = (.ok client, w')) :
    w.pool.closed = false := by
  unfold World.client at h
  rw [Pool.getOrConnect_recording] at h
  cases hgiven : w.pool.getOrConnect d.network host servicePort w.outside.1 with
  | mk answer rest =>
      rw [hgiven] at h
      cases h
      exact Pool.closed_of_getOrConnect hgiven

namespace Dispatcher

theorem failsAt_of_client
    {e : QueryError}
    (h : w.client d.network.recording target.2.host target.2.servicePort = (.error e, w')) :
    d.FailsAt target w e [] := by
  unfold World.client at h
  rw [Pool.getOrConnect_recording] at h
  cases hgiven : w.pool.getOrConnect d.network target.2.host target.2.servicePort w.outside.1 with
  | mk answer rest =>
      rw [hgiven] at h
      cases h
      rcases Pool.getOrConnect_error hgiven with ⟨hclosed, rfl⟩ | ⟨hopen, hnone, hconnect⟩
      · exact .closed hclosed
      · exact .unreachable hopen hnone hconnect

/-- A target that fails leaves on record what was submitted to it. -/
theorem dispatchTo_fails
    {e : QueryError}
    (hroot : ∃ root, plan.roots.get? target.1 = some root)
    (h : d.recording.dispatchTo request plan target w = (.error e, w')) :
    ∃ asked steps,
      w.Leads asked steps w' ∧ d.FailsAt target w e asked ∧
      ∀ submission ∈ asked, submission.Asks w'.pool plan request target := by
  have hnetwork : d.recording.network = d.network.recording := rfl
  unfold dispatchTo at h
  rw [hnetwork] at h
  dsimp only at h
  split at h
  · next fault hbound =>
      obtain ⟨root, hroot⟩ := hroot
      rw [Plan.bind, hroot] at hbound
      cases hbound
  · next bound hbound =>
      have hclient := w.leads_client d.network target.2.host target.2.servicePort
      split at h
      · next w₁ hconnect =>
          cases h
          rw [hconnect] at hclient
          exact ⟨[], [], hclient, failsAt_of_client hconnect, by simp⟩
      · next client w₁ hconnect =>
          rw [hconnect] at hclient
          have hfound := World.find?_client
            (show (w.client d.network.recording _ _).1 = .ok client by rw [hconnect])
          rw [hconnect] at hfound
          have hopen := World.open_of_client hconnect
          have hsent := w₁.leads_send d.network client (bound.request request)
          split at h
          · next hsend =>
              cases h
              rw [hsend] at hsent
              refine ⟨_, _, hclient.trans hsent, .failed hopen rfl, ?_⟩
              simpa using Submitted.asks_of_bind hbound (hsent.pool _ _ hfound)
          · next response w₂ hsend =>
              rw [hsend] at hsent
              split at h
              · next reason hreason =>
                  cases h
                  refine ⟨_, _, hclient.trans hsent, .rejected hopen rfl hreason, ?_⟩
                  simpa using Submitted.asks_of_bind hbound (hsent.pool _ _ hfound)
              · cases h

/-- Up to the first target that fails, all went well. -/
theorem dispatchAll_fails
    {targets : List (Int32 × Server)} {e : QueryError}
    (h : d.recording.dispatchAll request plan targets w = (.error e, w')) :
    ∃ before target after reached,
      targets = before ++ target :: after ∧
      d.recording.dispatchAll request plan before w = (.ok (), reached) ∧
      d.recording.dispatchTo request plan target reached = (.error e, w') := by
  induction targets generalizing w with
  | nil =>
      cases h
  | cons target targets ih =>
      unfold dispatchAll at h
      split at h
      · next hfirst =>
          cases h
          exact ⟨[], target, targets, w, rfl, rfl, hfirst⟩
      · next w₁ hfirst =>
          obtain ⟨before, failing, after, reached, rfl, hbefore, hfails⟩ := ih h
          refine ⟨target :: before, failing, after, reached, rfl, ?_, hfails⟩
          unfold dispatchAll
          rw [hfirst]
          exact hbefore

theorem dispatchAll_answered
    {targets : List (Int32 × Server)}
    (h : d.recording.dispatchAll request plan targets w = (.ok (), w')) :
    ∃ served steps,
      w.Leads served steps w' ∧
      List.Forall₂ (Submitted.Answered w'.pool plan request) targets served := by
  obtain ⟨served, steps, hleads, hserves⟩ := dispatchAll_leads h
  exact ⟨served, steps, hleads, hserves.imp fun _ _ h => h.answered⟩

theorem dispatch_of_validate
    (hvalid : plan.validate = .ok ())
    (w : World ω γ) :
    d.dispatch request plan w =
      ((d.dispatchAll request plan plan.targets w).1.map fun _ => plan.leftOut,
        (d.dispatchAll request plan plan.targets w).2) := by
  rw [dispatch, hvalid]
  dsimp only
  cases d.dispatchAll request plan plan.targets w with
  | mk answer left =>
      cases answer <;> rfl

/-- **Targets are asked in order, up to the first that fails.** Whatever the network does and
whatever is in the pool, a plan that can be dispatched is dispatched to its workers stage by stage.
If that goes well, every target was asked once, in order, and accepted, and the answer is the reduce
stage, if there is one. Otherwise it goes well up to some target; that one fails, for a reason of
its own, which is the answer, and no later one is asked. Every request goes through the pooled
client of its target and carries the number of the query, its stage bound to its worker, and
which worker that is. -/
theorem dispatch_inOrder
    (d : Dispatcher ω γ) (request : Int64) (plan : Plan) (w : World ω γ)
    (hbuilt : plan.Built)
    (hvalid : plan.validate = .ok ()) :
    plan.Ordered plan.targets ∧
    ∃ answer left,
      d.recording.dispatch request plan w.watched = (answer, left) ∧
      d.dispatch request plan w = (answer, left.forget) ∧
      w.pool.Keeps left.pool ∧
      (∀ reduceStage, answer = .ok reduceStage →
        reduceStage = plan.reduceStage?.getD Plan.noReduceStage ∧
        List.Forall₂ (Submitted.Answered left.pool plan request) plan.targets
          left.record.submissions) ∧
      (∀ e, answer = .error e →
        ∃ before target after reached served asked,
          plan.targets = before ++ target :: after ∧
          d.recording.dispatchAll request plan before w.watched = (.ok (), reached) ∧
          left.record.submissions = served ++ asked ∧
          List.Forall₂ (Submitted.Answered left.pool plan request) before served ∧
          d.FailsAt target reached e asked ∧
          ∀ submission ∈ asked, submission.Asks left.pool plan request target) := by
  refine ⟨plan.ordered_targets hbuilt, ?_⟩
  cases hall : d.recording.dispatchAll request plan plan.targets w.watched with
  | mk answer left =>
      have hdispatch : d.recording.dispatch request plan w.watched =
          (answer.map fun _ => plan.leftOut, left) := by
        rw [dispatch_of_validate hvalid, hall]
      have hforget : d.dispatch request plan w = (answer.map fun _ => plan.leftOut, left.forget) :=
        (dispatch_forget w.watched).trans (by rw [hdispatch]; rfl)
      refine ⟨_, left, hdispatch, hforget, ?_⟩
      cases answer with
      | ok done =>
          obtain ⟨served, steps, hleads, hanswered⟩ := dispatchAll_answered hall
          refine ⟨hleads.pool, ?_, by simp [Except.map]⟩
          rintro reduceStage hstage
          cases hstage
          refine ⟨plan.leftOut_of_validate hbuilt hvalid, ?_⟩
          rw [hleads.submissions]
          exact hanswered
      | error fault =>
          obtain ⟨before, target, after, reached, hsplit, hbefore, hfails⟩ :=
            dispatchAll_fails hall
          obtain ⟨served, steps, hserved, hanswered⟩ := dispatchAll_answered hbefore
          have hroot : ∃ root, plan.roots.get? target.1 = some root := by
            obtain ⟨root, _, hroot, -⟩ :=
              (plan.ordered_targets hbuilt).runs target (by simp [hsplit])
            exact ⟨root, hroot⟩
          obtain ⟨asked, following, hasked, hfault, hasks⟩ := dispatchTo_fails hroot hfails
          have hleads := hserved.trans hasked
          refine ⟨hleads.pool, by simp [Except.map], ?_⟩
          rintro e he
          cases he
          refine ⟨before, target, after, reached, served, asked, hsplit, hbefore,
            hleads.submissions, ?_, hfault, hasks⟩
          exact hanswered.imp fun _ _ h => h.mono hasked.pool

/-- A stage on two workers and one on a third, and the stage that gathers what they send. -/
def threeTargets : Plan :=
  (((Plan.ofFields [⟨0, "v"⟩]).addStage 3 (.scan "t" ["v"] ⟨["v"], [.int]⟩)
      ⟨[⟨"c", 8421, 8442⟩], .broadcast⟩).addStage 0 (.receive 1 ⟨["v"], [.int]⟩ .randomDistributed)
      ⟨[], .singleton⟩).addStage 1
    (.send 0 ⟨["v"], [.int]⟩ .randomDistributed (.scan "t" ["v"] ⟨["v"], [.int]⟩))
    ⟨[⟨"a", 8421, 8442⟩, ⟨"b", 8421, 8443⟩], .randomDistributed⟩

/-- Every worker accepts but one. -/
def refusing : Network Unit String where
  connect host _ outside := (.ok host, outside)
  submit client _ outside :=
    .done (.ok ⟨if client = "b" then [("ERROR", "full")] else []⟩, outside)
  close _ outside := outside

/-- The second of three targets rejects its stage: the first one was asked before it, the third one
is not asked. -/
theorem dispatch_inOrder_refused :
    let w : World Unit String := ⟨.empty, Session.ofMailboxes (.create "broker" 9000 4), ()⟩
    let server : Server := ⟨"b", 8421, 8443⟩
    threeTargets.Built ∧ threeTargets.validate = .ok () ∧
    ∃ left served submission,
      (ofNetwork refusing).recording.dispatch 7 threeTargets w.watched =
        (.error (.rejected 1 server "full"), left) ∧
      left.record.submissions = served ++ [submission] ∧
      List.Forall₂ (Submitted.Answered left.pool threeTargets 7)
        [(1, ⟨"a", 8421, 8442⟩)] served ∧
      submission.Asks left.pool threeTargets 7 (1, server) := by
  intro w server
  have hbuilt : threeTargets.Built :=
    .addStage _ _ _ (.addStage _ _ _ (.addStage _ _ _ (.ofFields _)))
  have hvalid : threeTargets.validate = .ok () := by decide +kernel
  have hrejected : ((ofNetwork refusing).dispatch 7 threeTargets w).1 =
      .error (.rejected 1 server "full") := by decide +kernel
  obtain ⟨-, answer, left, hwatched, hdispatch, -, -, hfailed⟩ :=
    dispatch_inOrder (ofNetwork refusing) 7 threeTargets w hbuilt hvalid
  have hcount : ((ofNetwork refusing).recording.dispatch 7 threeTargets
      w.watched).2.record.submissions.length = 2 := by decide +kernel
  have htargets : threeTargets.targets =
      [(1, ⟨"a", 8421, 8442⟩), (1, server), (3, ⟨"c", 8421, 8442⟩)] := by decide +kernel
  have hanswer : answer = .error (.rejected 1 server "full") := by
    rw [hdispatch] at hrejected
    exact hrejected
  subst hanswer
  obtain ⟨before, target, after, reached, served, asked, hsplit, -, hrecord, hserved,
    hfails, hasks⟩ := hfailed _ rfl
  rw [hwatched, hrecord, List.length_append, ← hserved.length_eq] at hcount
  obtain ⟨submission, rfl⟩ : ∃ submission, asked = [submission] := by
    generalize hfault : QueryError.rejected 1 server "full" = fault at hfails
    cases hfails with
    | closed => cases hfault
    | unreachable _ _ hconnect => cases hconnect
    | failed => exact ⟨_, rfl⟩
    | rejected => exact ⟨_, rfl⟩
  rw [htargets] at hsplit
  match before, hcount with
  | [_], _ =>
      obtain ⟨hfirst, hrest⟩ := List.cons.inj hsplit
      cases hfirst
      cases (List.cons.inj hrest).1
      exact ⟨hbuilt, hvalid, left, served, submission, hwatched, hrecord, hserved,
        hasks submission (by simp)⟩

end Dispatcher
end ScatterGather
