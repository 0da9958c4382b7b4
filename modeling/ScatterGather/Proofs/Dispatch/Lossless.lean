import ScatterGather.Proofs.Dispatch.Gathering
import ScatterGather.Proofs.Dispatch.Recording

/-!
# A query from end to end

**Results.** `run_lossless`: if a query gives a result, then each of its stages was accepted by each
of its workers, and the result is made of what the workers of the stage that feeds the reduce stage
sent up to their clean ends: nothing of it is lost, made twice or put into another order.
-/

namespace ScatterGather

variable {ω γ : Type}

/-- What is done when a query is run: the requests that are submitted, the steps that are taken on
the mailboxes while they are, and what is done to gather. -/
structure Trace (γ : Type) where
  submissions : List (Submitted γ)
  dispatch : List Step
  gathering : List Act

namespace Dispatcher

/-- What is done when a query is run. -/
def trace (d : Dispatcher ω γ) (request : Int64) (plan : Plan) (timeout : Option Duration)
    (interludes : List Interlude) (w : World ω γ) : Trace γ :=
  match plan.gathering with
  | .error _ => ⟨[], [], []⟩
  | .ok g =>
    match d.recording.dispatch request plan w.watched with
    | (.error _, w) => ⟨w.record.submissions, w.record.steps, []⟩
    | (.ok _, w) => ⟨w.record.submissions, w.record.steps,
        w.session.gatherActs g request (timeout.getD d.defaultTimeout) interludes⟩

variable {d : Dispatcher ω γ} {request : Int64} {plan : Plan} {timeout : Option Duration}
variable {interludes : List Interlude} {w : World ω γ} {table : ResultTable}

/-- A query that gives a result was dispatched and gathered well. -/
theorem run_eq_ok (h : (d.run request plan timeout interludes w).1 = .ok table) :
    ∃ g reduceStage dispatched blocks,
      plan.gathering = .ok g ∧
      d.dispatch request plan w = (.ok reduceStage, dispatched) ∧
      (dispatched.session.gather g request (timeout.getD d.defaultTimeout) interludes).1 =
        .ok blocks ∧
      ResultTable.ofBlocks blocks plan.fields g.sourceSchema = .ok table ∧
      (d.run request plan timeout interludes w).2 = { dispatched with
        session :=
          (dispatched.session.gather g request (timeout.getD d.defaultTimeout) interludes).2 } := by
  unfold run at h ⊢
  cases hgathering : plan.gathering with
  | error fault =>
      rw [hgathering] at h
      cases h
  | ok g =>
      rw [hgathering] at h
      dsimp only at h ⊢
      cases hdispatch : d.dispatch request plan w with
      | mk answer dispatched =>
          rw [hdispatch] at h
          cases answer with
          | error e =>
              cases h
          | ok reduceStage =>
              refine ⟨g, reduceStage, dispatched, ?_⟩
              dsimp only at h ⊢
              cases hgather : dispatched.session.gather g request
                  (timeout.getD d.defaultTimeout) interludes with
              | mk answer session =>
                  rw [hgather] at h
                  cases answer with
                  | error e =>
                      cases h
                  | ok blocks =>
                      refine ⟨blocks, rfl, rfl, rfl, ?_, rfl⟩
                      dsimp only at h
                      cases htable : ResultTable.ofBlocks blocks plan.fields g.sourceSchema with
                      | error fault =>
                          rw [htable] at h
                          cases h
                      | ok found =>
                          rw [htable] at h
                          cases h
                          rfl

/-- What is on record of a query that was dispatched well. -/
theorem trace_eq
    {g : Gathering} {reduceStage : Int32} {dispatched : World ω γ}
    (hgathering : plan.gathering = .ok g)
    (hdispatch : d.dispatch request plan w = (.ok reduceStage, dispatched))
    (timeout : Option Duration) (interludes : List Interlude) :
    ∃ recorded,
      recorded.forget = dispatched ∧
      d.recording.dispatch request plan w.watched = (.ok reduceStage, recorded) ∧
      d.trace request plan timeout interludes w =
        ⟨recorded.record.submissions, recorded.record.steps,
          dispatched.session.gatherActs g request (timeout.getD d.defaultTimeout) interludes⟩ := by
  obtain ⟨recorded, hforget, hrecorded⟩ := exists_recorded hdispatch
  refine ⟨recorded, hforget, hrecorded, ?_⟩
  subst hforget
  unfold trace
  rw [hgathering, hrecorded]
  rfl

/-- **Nothing is lost from end to end.** From the start, whatever others did `before`, whatever the
network does and whatever comes in the interludes: if a query gives a result, while nobody asked
for the receivers of its mailboxes before it did and nobody released them, then

* each stage but the reduce stage was submitted once to each of its workers, through the client that
  the pool has for it, nothing else was submitted, and every response was an acceptance;
* the query gathered from the mailbox of every worker of the stage that feeds the reduce stage, took
  a clean end from each of them, and no failed one;
* the result is made of an interleaving of one list of blocks for each of these workers, which is a
  prefix of those that were sent to its mailbox and has all that were sent before the first clean
  end. -/
theorem run_lossless
    (d : Dispatcher ω γ) (request : Int64) (plan : Plan) (timeout : Option Duration)
    (interludes : List Interlude)
    (host : String) (mailboxPort : UInt16) (capacity : Nat) (before : List Step)
    (pool : Pool γ) (outside : ω) (table : ResultTable) :
    let start := Session.ofMailboxes (.create host mailboxPort capacity)
    let w : World ω γ := ⟨pool, (start.run before).2, outside⟩
    let left := (d.run request plan timeout interludes w).2
    let trace := d.trace request plan timeout interludes w
    let early := (before ++ trace.dispatch).map Act.step
    let H := start.history (early ++ trace.gathering)
    let number := (start.performAll early).mailboxes.nextMerge
    let mailbox := fun (g : Gathering) => (g.mergeRequest request host mailboxPort).idOf
    (∀ g, plan.gathering = .ok g → ∀ server ∈ g.senders,
      (∀ step ∈ before ++ trace.dispatch, step.asksFor (mailbox g server) = false) ∧
        .step (.release (mailbox g server)) ∉ early ++ trace.gathering) →
    (d.run request plan timeout interludes w).1 = .ok table →
    ∃ g, plan.gathering = .ok g ∧
      left.session = start.performAll (early ++ trace.gathering) ∧
      List.Forall₂ (fun target submitted => submitted.Serves left.pool plan request target)
        plan.targets trace.submissions ∧
      (∀ inputs q, .pulled number inputs q ∈ H →
        inputs = g.senders.map fun server => ⟨mailbox g server, 0⟩) ∧
      (∀ i < g.senders.length,
        .cleanEnd ∈ H.takenBy number i ∧ ∀ report, .failedEnd report ∉ H.takenBy number i) ∧
      ∃ blocks parts,
        ResultTable.ofBlocks blocks plan.fields g.sourceSchema = .ok table ∧
        IsInterleaving g.senders.length parts blocks ∧
        ∀ i server, g.senders[i]? = some server →
          parts i <+: (H.sentTo (mailbox g server)).filterMap Packet.block? ∧
          ((H.sentTo (mailbox g server)).takeWhile (· ≠ .cleanEnd)).filterMap Packet.block? <+:
            parts i := by
  intro start w left trace early H number mailbox hspared hok
  obtain ⟨g, reduceStage, dispatched, blocks, hgathering, hdispatch, hgather, htable, hleft⟩ :=
    run_eq_ok hok
  obtain ⟨recorded, hrecorded, hrun, htrace⟩ :=
    trace_eq hgathering hdispatch timeout interludes
  obtain ⟨submissions, steps, hleads, hserves⟩ := dispatch_leads hrun
  subst hrecorded
  have hsubmissions : trace.submissions = submissions :=
    (congrArg Trace.submissions htrace).trans hleads.submissions
  have hsteps : trace.dispatch = steps := (congrArg Trace.dispatch htrace).trans hleads.steps
  have hsession : recorded.forget.session = start.performAll early := by
    show recorded.session = start.performAll ((before ++ trace.dispatch).map Act.step)
    rw [hleads.session, Session.performAll_steps, Session.run_append, hsteps]
    rfl
  have hacts : trace.gathering = (start.performAll early).gatherActs g request
      (timeout.getD d.defaultTimeout) interludes :=
    hsession ▸ congrArg Trace.gathering htrace
  have huntouched : ∀ server ∈ g.senders,
      .asked (mailbox g server) ∉ start.history early ∧ .released (mailbox g server) ∉ H := by
    intro server hserver
    obtain ⟨hasked, hreleased⟩ := hspared g hgathering server hserver
    refine ⟨fun hmem => ?_, fun hmem => hreleased (Session.release_of_mem_history hmem)⟩
    obtain ⟨step, hstep, hasks⟩ := Session.asksFor_of_mem_history hmem
    rw [hasked step hstep] at hasks
    cases hasks
  rw [hsession] at hgather
  obtain ⟨hafter, hpulled, htaken, parts, hparts, hsent⟩ :=
    Session.gather_faithful host mailboxPort capacity (before ++ trace.dispatch) g request
      (timeout.getD d.defaultTimeout) interludes
      (hacts ▸ huntouched) hgather
  rw [← hacts] at hafter hpulled htaken hsent
  have hpool : left.pool = recorded.pool := congrArg World.pool hleft
  have hended : left.session = ((start.performAll early).gather g request
      (timeout.getD d.defaultTimeout) interludes).2 :=
    hsession ▸ congrArg World.session hleft
  refine ⟨g, hgathering, hended.trans hafter, ?_, hpulled, htaken, blocks, parts, htable, hparts,
    hsent⟩
  rw [hsubmissions, hpool]
  exact hserves

/-- A stage that runs on two workers, and the stage that gathers what they send. -/
def twoWorkers : Plan :=
  ((Plan.ofFields [⟨0, "v"⟩]).addStage 0 (.receive 1 ⟨["v"], [.int]⟩ .randomDistributed)
      ⟨[⟨"broker", 8421, 9000⟩], .randomDistributed⟩).addStage 1
    (.send 0 ⟨["v"], [.int]⟩ .randomDistributed (.scan "t" ["v"] ⟨["v"], [.int]⟩))
    ⟨[⟨"worker-a", 8421, 8442⟩, ⟨"worker-b", 8421, 8442⟩], .randomDistributed⟩

/-- What is gathered of their output. -/
def twoWorkersGathering : Gathering where
  senderStage := 1
  senders := [⟨"worker-a", 8421, 8442⟩, ⟨"worker-b", 8421, 8442⟩]
  schema := ⟨["v"], [.int]⟩
  sourceSchema := ⟨["v"], [.int]⟩

/-- The mailbox of one of them. -/
def workerMailbox (host : String) : MailboxId :=
  { request := 1
    stage := 1
    senderHost := host
    senderPort := 8442
    receiverHost := "broker"
    receiverPort := 9000 }

/-- A block of one row. -/
def oneRow (n : UInt8) : Block where
  schema := ⟨["v"], [.int]⟩
  rowCount := 1
  fixed := [n, 0, 0, 0]
  varying := []
  nullRows := [[]]

/-- Every request is accepted, and the second worker opens its mailbox meanwhile. -/
def accepting : Network Unit Unit where
  connect _ _ outside := (.ok (), outside)
  submit _ _ outside :=
    .act (.openSender (workerMailbox "worker-b") "b") fun _ => .done (.ok ⟨[]⟩, outside)
  close _ outside := outside

/-- The first worker is done before the query is run. -/
def firstWorker : List Step :=
  [.openSender (workerMailbox "worker-a") "a",
   .send "a" (.data (oneRow 1)),
   .send "a" .cleanEnd,
   .drop "a"]

/-- The second worker sends while the query waits. -/
def secondWorker : List Interlude :=
  [⟨5, [.send "b" (.data (oneRow 2)), .send "b" .cleanEnd, .drop "b"]⟩]

/-- Both rows are in the result, and the clean end of each worker was taken. -/
theorem run_lossless_twoWorkers :
    let start := Session.ofMailboxes (.create "broker" 9000 4)
    let w : World Unit Unit := ⟨.empty, (start.run firstWorker).2, ()⟩
    let trace := (ofNetwork accepting).trace 1 twoWorkers none secondWorker w
    let H := start.history ((firstWorker ++ trace.dispatch).map Act.step ++ trace.gathering)
    let table : ResultTable := ⟨⟨["v"], [.int]⟩, [[.int 1], [.int 2]]⟩
    ((ofNetwork accepting).run 1 twoWorkers none secondWorker w).1 = .ok table ∧
    trace.submissions.length = 2 ∧
    .cleanEnd ∈ H.takenBy 0 0 ∧ .cleanEnd ∈ H.takenBy 0 1 := by
  intro start w trace H table
  have hgathering : twoWorkers.gathering = .ok twoWorkersGathering := by decide +kernel
  have hok : ((ofNetwork accepting).run 1 twoWorkers none secondWorker w).1 = .ok table := by
    decide +kernel
  have hspared : ∀ g, twoWorkers.gathering = .ok g → ∀ server ∈ g.senders,
      (∀ step ∈ firstWorker ++ trace.dispatch,
        step.asksFor ((g.mergeRequest 1 "broker" 9000).idOf server) = false) ∧
      .step (.release ((g.mergeRequest 1 "broker" 9000).idOf server)) ∉
        (firstWorker ++ trace.dispatch).map Act.step ++ trace.gathering := by
    intro g hg
    cases hgathering.symm.trans hg
    decide +kernel
  obtain ⟨g, hg, -, hserves, -, htaken, -⟩ :=
    run_lossless (ofNetwork accepting) 1 twoWorkers none secondWorker "broker" 9000 4 firstWorker
      .empty () table hspared hok
  cases hgathering.symm.trans hg
  have hnumber :
      (start.performAll ((firstWorker ++ trace.dispatch).map Act.step)).mailboxes.nextMerge =
        0 := by
    decide +kernel
  rw [hnumber] at htaken
  exact ⟨hok, hserves.length_eq.symm, (htaken 0 (by decide)).1, (htaken 1 (by decide)).1⟩

end Dispatcher
end ScatterGather
