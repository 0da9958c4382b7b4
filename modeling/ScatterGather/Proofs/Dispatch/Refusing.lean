import ScatterGather.Proofs.Dispatch.Lossless
import ScatterGather.Proofs.Dispatch.Order

/-!
# Plans that are refused

A plan is checked before anything is done with it: a dispatch validates it first, and a query looks
for what it will gather even before that. While stages are sent each of them is looked up again, in
the one of the plan's two maps that was not walked through.

**Results.** `planFault_iff_refused`: the plan alone decides whether it is found at fault. If it is,
no client was made, nothing was submitted and no mailbox was touched; a plan that passes the check
is never found at fault later.
-/

namespace ScatterGather

variable {ω γ : Type}

/-- A network that finds fault with no plan, whatever it does. -/
structure Network.BlamesNoPlan (network : Network ω γ) : Prop where
  connect : ∀ host servicePort outside fault,
    (network.connect host servicePort outside).1 ≠ .error (.plan fault)
  submit : ∀ client request outside session fault,
    ((network.submit client request outside).run session).1.1 ≠ .error (.plan fault)

namespace Plan

variable {p : Plan}

/-- The reduce stage takes the output of another stage. -/
theorem receive_of_reduceStage?
    {stage : Int32}
    (h : p.reduceStage? = some stage) :
    ∃ sender schema routing, p.roots.get? stage = some (.receive sender schema routing) := by
  obtain ⟨⟨_, root⟩, hfind, rfl⟩ := Option.map_eq_some_iff.1 h
  have hreceive := List.find?_some hfind
  have hroot := NumberMap.get?_eq_some_iff.2 (List.mem_of_find?_eq_some hfind)
  cases root with
  | receive sender schema routing =>
      exact ⟨sender, schema, routing, hroot⟩
  | send =>
      cases hreceive
  | scan =>
      cases hreceive
  | project =>
      cases hreceive

/-- Why there is nothing to gather: no reduce stage, no stage that feeds it, or no root stage. -/
theorem gathering_fails_iff (h : p.Built) :
    (∃ fault, p.gathering = .error fault) ↔
      p.reduceStage? = none ∨
      (∃ stage sender schema routing,
        p.reduceStage? = some stage ∧
        p.roots.get? stage = some (.receive sender schema routing) ∧
        p.roots.get? sender = none) ∨
      p.roots.get? rootStage = none := by
  cases hreduce : p.reduceStage? with
  | none =>
      simp [gathering, hreduce]
  | some reduce =>
      obtain ⟨sender, schema, routing, hroot⟩ := receive_of_reduceStage? hreduce
      cases hplacement : p.placements.get? sender with
      | none =>
          have hsender := h.get?_placements_eq_none_iff.1 hplacement
          refine iff_of_true ⟨.missingSender sender, ?_⟩
            (Or.inr (Or.inl ⟨reduce, sender, schema, routing, rfl, hroot, hsender⟩))
          simp [gathering, hreduce, hroot, hplacement]
      | some placement =>
          obtain ⟨node, hnode⟩ := h.exists_root hplacement
          cases hresult : p.roots.get? rootStage with
          | none =>
              refine iff_of_true ⟨.missingStage rootStage, ?_⟩ (Or.inr (Or.inr rfl))
              simp [gathering, hreduce, hroot, hplacement, hresult]
          | some root =>
              simp [gathering, hreduce, hroot, hplacement, hresult, hnode]

end Plan

namespace Pool

theorem getOrConnect_ne_planFault
    {network : Network ω γ}
    (hnetwork : network.BlamesNoPlan)
    (host : String) (servicePort : UInt16) (pool : Pool γ) (outside : ω) (fault : PlanFault) :
    (pool.getOrConnect network host servicePort outside).1 ≠ .error (.plan fault) := by
  intro h
  rcases getOrConnect_error (Prod.ext h rfl) with ⟨-, he⟩ | ⟨-, -, he⟩
  · cases he
  · exact hnetwork.connect host servicePort outside fault he

end Pool

namespace Session

/-- Nothing that comes of a gathering is the plan's fault. -/
theorem gather_ne_planFault
    (s : Session) (g : Gathering) (request : Int64) (timeout : Duration)
    (interludes : List Interlude) (fault : PlanFault) :
    (s.gather g request timeout interludes).1 ≠ .error (.plan fault) := by
  unfold gather
  dsimp only
  split
  · simp
  · dsimp only [Drain.Outcome.blocks]
    split <;> simp

end Session

namespace Dispatcher

variable {d : Dispatcher ω γ} {request : Int64} {plan : Plan} {timeout : Option Duration}
variable {interludes : List Interlude} {fault : PlanFault}

/-- Sending a stage that can be bound finds no fault with the plan. -/
theorem dispatchTo_ne_planFault
    {target : Int32 × Server}
    (hnetwork : d.network.BlamesNoPlan)
    (hbound : ∃ bound, plan.bind target.1 target.2 = .ok bound)
    (w : World ω γ) (fault : PlanFault) :
    (d.dispatchTo request plan target w).1 ≠ .error (.plan fault) := by
  obtain ⟨bound, hbound⟩ := hbound
  unfold dispatchTo
  dsimp only
  rw [hbound]
  dsimp only
  split
  · next e w₁ hclient =>
      have hne := Pool.getOrConnect_ne_planFault hnetwork target.2.host target.2.servicePort
        w.pool w.outside fault
      have hanswer : (w.client d.network target.2.host target.2.servicePort).1 = .error e := by
        rw [hclient]
      intro h
      cases h
      exact hne hanswer
  · next client w₁ _ =>
      split
      · next e w₂ hsend =>
          have hne := hnetwork.submit client (bound.request request) w₁.outside w₁.session fault
          have hanswer : (w₁.send d.network client (bound.request request)).1 = .error e := by
            rw [hsend]
          intro h
          cases h
          exact hne hanswer
      · split <;> simp

theorem dispatchAll_ne_planFault
    {targets : List (Int32 × Server)}
    (hnetwork : d.network.BlamesNoPlan)
    (hbound : ∀ target ∈ targets, ∃ bound, plan.bind target.1 target.2 = .ok bound)
    (w : World ω γ) (fault : PlanFault) :
    (d.dispatchAll request plan targets w).1 ≠ .error (.plan fault) := by
  induction targets generalizing w with
  | nil =>
      simp [dispatchAll]
  | cons target targets ih =>
      obtain ⟨hfirst, hrest⟩ := List.forall_mem_cons.1 hbound
      have hne : (d.dispatchTo request plan target w).1 ≠ .error (.plan fault) :=
        dispatchTo_ne_planFault hnetwork hfirst w fault
      unfold dispatchAll
      split
      · next e w₁ hfails =>
          intro h
          cases h
          exact hne (by rw [hfails])
      · exact ih hrest _

/-- A plan that is not valid is refused at once. -/
theorem dispatch_of_validate_error
    (hfault : plan.validate = .error fault)
    (w : World ω γ) :
    d.dispatch request plan w = (.error (.plan fault), w) := by
  rw [dispatch, hfault]

theorem dispatch_planFault_iff
    (hnetwork : d.network.BlamesNoPlan)
    (w : World ω γ) (fault : PlanFault) :
    (d.dispatch request plan w).1 = .error (.plan fault) ↔ plan.validate = .error fault := by
  cases hvalid : plan.validate with
  | error found =>
      rw [dispatch_of_validate_error hvalid]
      simp
  | ok _ =>
      have hne : (d.dispatchAll request plan plan.targets w).1 ≠ .error (.plan fault) :=
        dispatchAll_ne_planFault hnetwork (fun _ => Plan.bind_of_mem_targets hvalid) w fault
      rw [dispatch_of_validate hvalid]
      cases hall : (d.dispatchAll request plan plan.targets w).1 with
      | ok _ =>
          simp [Except.map]
      | error e =>
          rw [hall] at hne
          simpa [Except.map] using hne

/-- What a plan is refused for when a query is run. -/
theorem run_planFault_iff
    (hnetwork : d.network.BlamesNoPlan)
    (w : World ω γ) (fault : PlanFault) :
    (d.run request plan timeout interludes w).1 = .error (.plan fault) ↔
      plan.gathering = .error fault ∨
      (∃ g, plan.gathering = .ok g) ∧ plan.validate = .error fault := by
  unfold run
  cases hgathering : plan.gathering with
  | error found =>
      simp
  | ok g =>
      have hdispatch : (d.dispatch request plan w).1 = .error (.plan fault) ↔
          plan.validate = .error fault :=
        dispatch_planFault_iff hnetwork w fault
      rw [← hdispatch]
      dsimp only
      cases d.dispatch request plan w with
      | mk answer dispatched =>
          cases answer with
          | error e =>
              simp
          | ok reduceStage =>
              have hgather := dispatched.session.gather_ne_planFault g request
                (timeout.getD d.defaultTimeout) interludes fault
              dsimp only
              generalize dispatched.session.gather g request (timeout.getD d.defaultTimeout)
                interludes = gathered at hgather ⊢
              obtain ⟨answer, session⟩ := gathered
              cases answer with
              | error e =>
                  simpa using hgather
              | ok blocks =>
                  dsimp only
                  generalize ResultTable.ofBlocks blocks plan.fields g.sourceSchema = table
                  cases table <;> simp [Except.mapError]

theorem exists_run_planFault_iff
    (hnetwork : d.network.BlamesNoPlan)
    (w : World ω γ) :
    (∃ fault, (d.run request plan timeout interludes w).1 = .error (.plan fault)) ↔
      (∃ fault, plan.gathering = .error fault) ∨ ∃ fault, plan.validate = .error fault := by
  simp only [run_planFault_iff hnetwork]
  cases plan.gathering with
  | error fault =>
      simp
  | ok g =>
      simp

/-- What refuses a plan is done before anything else, by every dispatcher. -/
theorem run_of_refused
    (h : plan.gathering = .error fault ∨
      (∃ g, plan.gathering = .ok g) ∧ plan.validate = .error fault)
    (w : World ω γ) :
    d.run request plan timeout interludes w = (.error (.plan fault), w) ∧
      d.trace request plan timeout interludes w = ⟨[], [], []⟩ := by
  unfold run trace
  rcases h with hgathering | ⟨⟨g, hgathering⟩, hfault⟩
  · simp [hgathering]
  · simp only [hgathering, dispatch_of_validate_error hfault]
    exact ⟨trivial, rfl⟩

/-- **Refused plans leave no trace.** Whatever is in the pool and the mailboxes, of a plan that was
built and a network that finds fault with no plan:

* a dispatch finds the plan at fault exactly when it is not valid;
* a query does so exactly when the plan has no reduce stage, or lacks the stage that feeds the first
  one, or lacks the root stage, or is not valid;
* when either does, it is the same for every dispatcher, whatever its network is and keeps count of:
  the world stays as it was, and what is on record of a query is that nothing was submitted and
  nothing done to a mailbox;
* every worker of a stage of a valid plan can be given its stage, so once the plan has passed the
  check it is never found at fault. -/
theorem planFault_iff_refused
    (d : Dispatcher ω γ) (request : Int64) (plan : Plan) (timeout : Option Duration)
    (interludes : List Interlude) (w : World ω γ)
    (hnetwork : d.network.BlamesNoPlan)
    (hbuilt : plan.Built) :
    (∀ fault, (d.dispatch request plan w).1 = .error (.plan fault) ↔
      plan.validate = .error fault) ∧
    ((∃ fault, (d.run request plan timeout interludes w).1 = .error (.plan fault)) ↔
      plan.reduceStage? = none ∨
      (∃ stage sender schema routing,
        plan.reduceStage? = some stage ∧
        plan.roots.get? stage = some (.receive sender schema routing) ∧
        plan.roots.get? sender = none) ∨
      plan.roots.get? Plan.rootStage = none ∨
      ∃ fault, plan.validate = .error fault) ∧
    (∀ fault, (d.dispatch request plan w).1 = .error (.plan fault) →
      ∀ {ω' γ' : Type} (d' : Dispatcher ω' γ') (w' : World ω' γ'),
        d'.dispatch request plan w' = (.error (.plan fault), w')) ∧
    (∀ fault, (d.run request plan timeout interludes w).1 = .error (.plan fault) →
      ∀ {ω' γ' : Type} (d' : Dispatcher ω' γ') (w' : World ω' γ'),
        d'.run request plan timeout interludes w' = (.error (.plan fault), w') ∧
        d'.trace request plan timeout interludes w' = ⟨[], [], []⟩) ∧
    (plan.validate = .ok () → ∀ target ∈ plan.targets, ∃ bound,
      plan.bind target.1 target.2 = .ok bound) := by
  refine ⟨dispatch_planFault_iff hnetwork w, ?_, ?_, ?_, ?_⟩
  · rw [exists_run_planFault_iff hnetwork w, plan.gathering_fails_iff hbuilt, or_assoc, or_assoc]
  · intro fault hfault ω' γ' d' w'
    exact dispatch_of_validate_error ((dispatch_planFault_iff hnetwork w fault).1 hfault) w'
  · intro fault hfault ω' γ' d' w'
    exact run_of_refused ((run_planFault_iff hnetwork w fault).1 hfault) w'
  · intro hvalid target htarget
    exact Plan.bind_of_mem_targets hvalid htarget

/-- A plan with a reduce stage, whose other stage was placed on no worker. -/
def unassigned : Plan :=
  ((Plan.ofFields [⟨0, "v"⟩]).addStage 0 (.receive 1 ⟨["v"], [.int]⟩ .randomDistributed)
      ⟨[⟨"broker", 8421, 9000⟩], .randomDistributed⟩).addStage 1
    (.scan "t" ["v"] ⟨["v"], [.int]⟩) ⟨[], .randomDistributed⟩

/-- The plan is refused before anything is sent. -/
theorem planFault_iff_refused_unassigned :
    let w : World Unit String := ⟨.empty, Session.ofMailboxes (.create "broker" 9000 4), ()⟩
    refusing.BlamesNoPlan ∧ unassigned.Built ∧
    (ofNetwork refusing).dispatch 7 unassigned w = (.error (.plan (.unassigned 1)), w) ∧
    (ofNetwork refusing).run 7 unassigned none [] w = (.error (.plan (.unassigned 1)), w) ∧
    (ofNetwork refusing).trace 7 unassigned none [] w = ⟨[], [], []⟩ := by
  intro w
  have hnetwork : refusing.BlamesNoPlan :=
    ⟨by simp [refusing], by simp [refusing, Program.run]⟩
  have hbuilt : unassigned.Built := .addStage _ _ _ (.addStage _ _ _ (.ofFields _))
  obtain ⟨hdispatch, -, hdispatched, hrun, -⟩ :=
    planFault_iff_refused (ofNetwork refusing) 7 unassigned none [] w hnetwork hbuilt
  have hinvalid : unassigned.validate = .error (.unassigned 1) := by decide +kernel
  have hrefused : ((ofNetwork refusing).run 7 unassigned none [] w).1 =
      .error (.plan (.unassigned 1)) := by decide +kernel
  have hnothing := hrun _ hrefused (ofNetwork refusing) w
  exact ⟨hnetwork, hbuilt, hdispatched _ ((hdispatch _).2 hinvalid) (ofNetwork refusing) w,
    hnothing.1, hnothing.2⟩

end Dispatcher
end ScatterGather
