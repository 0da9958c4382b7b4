import ScatterGather.Proofs.Dispatch.Addresses
import ScatterGather.Proofs.Plan.Validating
import ScatterGather.Proofs.Session.Granted

/-!
# The answers of a dispatch and of a query

A dispatch that goes well answers with a number: that of the stage that it left out, or the one that
stands for none. Any number may be that of a stage, also the latter. A query goes on from there: it
opens the mailboxes of its gathering and drains them.

**Results.** `dispatch_eq_noReduceStage_iff`: what can be told from the answer of a dispatch. A plan
whose reduce stage has the number that stands for none is dispatched, and answered as if it had none.
`drained_run`: a query answers with what comes of its drain, whatever steps that needs.
-/

namespace ScatterGather

/-- A plan that passes the check has no reduce stage exactly when none is found. -/
theorem Plan.reduceStage?_eq_none_iff
    {p : Plan}
    (h : p.Built)
    (hvalid : p.validate = .ok ()) :
    p.reduceStage? = none ↔ ∀ stage, ¬ p.Receives stage := by
  simp only [← reduceStage?_eq_some_iff h hvalid]
  exact Option.eq_none_iff_forall_ne_some

namespace Dispatcher

variable {ω γ : Type} {d : Dispatcher ω γ} {request : Int64} {plan : Plan} {w : World ω γ}
variable {answer : Int32}

/-- The answer is what is found when the reduce stage is looked for. -/
theorem reduceStage_of_dispatch
    (hbuilt : plan.Built)
    (h : (d.dispatch request plan w).1 = .ok answer) :
    plan.validate = .ok () ∧ answer = plan.reduceStage?.getD Plan.noReduceStage := by
  have hvalid : plan.validate = .ok () := validate_of_dispatch (Prod.ext h rfl)
  rw [dispatch_of_validate hvalid] at h
  cases hall : (d.dispatchAll request plan plan.targets w).1 with
  | error e =>
      rw [hall] at h
      cases h
  | ok done =>
      rw [hall] at h
      cases h
      exact ⟨hvalid, Plan.leftOut_of_validate hbuilt hvalid⟩

/-- **What the answer of a dispatch tells.** Whatever the clients do, when a plan that was built is
dispatched and that goes well:

* the answer is the stage whose root takes the output of another stage, if there is one;
* it is the number that stands for none exactly when there is no such stage, or the stage has that
  number;
* so it stands for none and for nothing else exactly when the stage of that number is no such stage;
* looking for the reduce stage tells the two apart in any case. -/
theorem dispatch_eq_noReduceStage_iff
    (d : Dispatcher ω γ) (request : Int64) (plan : Plan) (w : World ω γ)
    (hbuilt : plan.Built)
    (h : (d.dispatch request plan w).1 = .ok answer) :
    (∀ stage, plan.Receives stage → answer = stage) ∧
    (answer = Plan.noReduceStage ↔
      (∀ stage, ¬ plan.Receives stage) ∨ plan.Receives Plan.noReduceStage) ∧
    ((answer = Plan.noReduceStage ↔ ∀ stage, ¬ plan.Receives stage) ↔
      ¬ plan.Receives Plan.noReduceStage) ∧
    (plan.reduceStage? = none ↔ ∀ stage, ¬ plan.Receives stage) := by
  obtain ⟨hvalid, hanswer⟩ := reduceStage_of_dispatch hbuilt h
  have hnone := Plan.reduceStage?_eq_none_iff hbuilt hvalid
  have hsome : ∀ stage, plan.reduceStage? = some stage ↔ plan.Receives stage := fun stage =>
    Plan.reduceStage?_eq_some_iff hbuilt hvalid
  have hstands : answer = Plan.noReduceStage ↔
      (∀ stage, ¬ plan.Receives stage) ∨ plan.Receives Plan.noReduceStage := by
    rw [← hnone, ← hsome, hanswer]
    cases plan.reduceStage? <;> simp
  refine ⟨fun stage hstage => ?_, hstands, ?_, hnone⟩
  · rw [hanswer, (hsome stage).2 hstage]
    rfl
  · rw [hstands]
    constructor
    · intro honly hreceives
      exact honly.1 (Or.inr hreceives) _ hreceives
    · exact fun hreceives => or_iff_left hreceives

/-- A stage on one worker, and the stage that gathers what it sends, under the number that stands
for none. -/
def belowZero : Plan :=
  ((Plan.ofFields [⟨0, "v"⟩]).addStage (-1) (.receive 4 ⟨["v"], [.int]⟩ .randomDistributed)
      ⟨[⟨"broker", 8421, 9000⟩], .singleton⟩).addStage 4
    (.send (-1) ⟨["v"], [.int]⟩ .randomDistributed (.scan "t" ["v"] ⟨["v"], [.int]⟩))
    ⟨[⟨"a", 8421, 8442⟩], .randomDistributed⟩

/-- The plan has a reduce stage, which is found when it is looked for, and is answered like one that
has none. -/
theorem dispatch_eq_noReduceStage_iff_belowZero :
    let w : World Unit Unit := ⟨.empty, Session.ofMailboxes (.create "broker" 9000 4), ()⟩
    belowZero.Built ∧
    ((ofNetwork obliging).dispatch 7 belowZero w).1 = .ok Plan.noReduceStage ∧
    belowZero.Receives Plan.noReduceStage ∧
    belowZero.reduceStage? ≠ none := by
  intro w
  have hbuilt : belowZero.Built := .addStage _ _ _ (.addStage _ _ _ (.ofFields _))
  have hanswer : ((ofNetwork obliging).dispatch 7 belowZero w).1 = .ok Plan.noReduceStage := by
    decide +kernel
  have hreceives : belowZero.Receives Plan.noReduceStage := ⟨_, rfl, rfl⟩
  obtain ⟨-, -, -, hnone⟩ :=
    dispatch_eq_noReduceStage_iff (ofNetwork obliging) 7 belowZero w hbuilt hanswer
  exact ⟨hbuilt, hanswer, hreceives, fun hfound => hnone.1 hfound _ hreceives⟩

/-- The number that stands for none may be the answer for a plan that has a reduce stage. -/
theorem noReduceStage_ambiguous :
    ¬ ∀ (d : Dispatcher Unit Unit) (request : Int64) (plan : Plan) (w : World Unit Unit)
        (answer : Int32),
      plan.Built → (d.dispatch request plan w).1 = .ok answer →
        (answer = Plan.noReduceStage ↔ ∀ stage, ¬ plan.Receives stage) := by
  intro hclaim
  have hbuilt : belowZero.Built := .addStage _ _ _ (.addStage _ _ _ (.ofFields _))
  have hanswer : ((ofNetwork obliging).dispatch 7 belowZero
      ⟨.empty, Session.ofMailboxes (.create "broker" 9000 4), ()⟩).1 = .ok Plan.noReduceStage := by
    decide +kernel
  have hreceives : belowZero.Receives Plan.noReduceStage := ⟨_, rfl, rfl⟩
  exact (hclaim _ _ _ _ _ hbuilt hanswer).1 rfl _ hreceives

/-! ## The answer of a query -/

/-- A query whose mailboxes are open drains them. -/
theorem run_of_opens
    {g : Gathering} {dispatched : World ω γ} {number : Nat} {mailboxes : Mailboxes}
    (h : d.Opens request plan w g dispatched number mailboxes)
    (timeout : Option Duration) (interludes : List Interlude) :
    let budget := timeout.getD d.defaultTimeout
    let outcome :=
      (dispatched.session.withMailboxes mailboxes).drainMerge number budget interludes
    (d.run request plan timeout interludes w).1 = match outcome.blocks budget with
      | .ok blocks => (ResultTable.ofBlocks blocks plan.fields g.sourceSchema).mapError .table
      | .error e => .error e := by
  obtain ⟨reduceStage, hdispatch⟩ := h.dispatch
  intro budget outcome
  unfold run Session.gather
  simp only [h.gathering, hdispatch, h.merge]
  cases outcome.blocks budget <;> rfl

/-- **The answer of a query.** Once the mailboxes of its gathering are open, one thing can come of
draining them, whatever steps that needs. The query answers with it, projected if it is blocks. -/
theorem drained_run
    {g : Gathering} {dispatched : World ω γ} {number : Nat} {mailboxes : Mailboxes}
    (h : d.Opens request plan w g dispatched number mailboxes)
    (timeout : Option Duration) (interludes : List Interlude) :
    ∃ result,
      (∀ other, Drain.Drained (Session.pollMerge number) (timeout.getD d.defaultTimeout)
        (dispatched.session.withMailboxes mailboxes, interludes) other ↔ other = result) ∧
      (d.run request plan timeout interludes w).1 = match result with
        | .ok blocks => (ResultTable.ofBlocks blocks plan.fields g.sourceSchema).mapError .table
        | .error e => .error e := by
  refine ⟨_, fun other => ?_, run_of_opens h timeout interludes⟩
  rw [Session.drained_iff_drainMerge]
  exact eq_comm

end Dispatcher
end ScatterGather
