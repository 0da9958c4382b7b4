import ScatterGather.Proofs.Dispatch.Lossless
import ScatterGather.Proofs.Mailboxes.Apart
import ScatterGather.Proofs.Session.Deserting

/-!
# What a query leaves behind

A query may end at once, while it is dispatched, when one of its mailboxes cannot be opened, while
it is drained, or when its result is put together. What it did by then to the mailboxes of its
process is to open a merge, to drain it and to drop it, or less.

**Results.** `run_tearsDown`: however a query ends, nobody receives any more from the channels that
it opened receivers of, and it did nothing to any other channel.
-/

namespace ScatterGather
namespace Session

variable {H : History} {attached spent : Receiver → Prop} {s : Session} {number : Nat}
variable {inputs : List Receiver} {acts front back : List Act} {act : Act} {r : Receiver}

/-! ## A merge of one's own from its opening on -/

/-- What is done with a merge of one's own: it is refused, or opened, drained and dropped. -/
inductive Conducts (s : Session) : List Act → Prop where
  | nothing : Conducts s []
  | refused
      {request : MergeRequest} {fault : MailboxFault}
      (hanswer : (s.mailboxes.openMerge request).1 = .error fault) :
      Conducts s [.openMerge request]
  | drained
      {request : MergeRequest} {number : Nat} {acts : List Act}
      (hanswer : (s.mailboxes.openMerge request).1 = .ok number)
      (hacts : ∀ act ∈ acts, act.drains number = true) :
      Conducts s (mergeActs request number acts)

theorem conducts_gatherActs
    (s : Session) (g : Gathering) (request : Int64) (timeout : Duration)
    (interludes : List Interlude) :
    s.Conducts (s.gatherActs g request timeout interludes) := by
  unfold gatherActs
  dsimp only
  split
  · next fault mailboxes hopen =>
      exact .refused (congrArg Prod.fst hopen)
  · next number mailboxes hopen =>
      exact .drained (congrArg Prod.fst hopen) (noted_drainMerge _ number timeout interludes).2

/-- **Gathering however it ends.** -/
theorem gather_eq_performAll
    (s : Session) (g : Gathering) (request : Int64) (timeout : Duration)
    (interludes : List Interlude) :
    (s.gather g request timeout interludes).2 =
      s.performAll (s.gatherActs g request timeout interludes) := by
  unfold gather gatherActs
  dsimp only
  generalize g.mergeRequest request s.mailboxes.host s.mailboxes.mailboxPort = merge
  cases hopen : s.mailboxes.openMerge merge with
  | mk answer mailboxes =>
      cases answer with
      | error fault =>
          show s.withMailboxes mailboxes = s.withMailboxes (s.mailboxes.openMerge merge).2
          rw [hopen]
      | ok number =>
          dsimp only
          rw [performAll_mergeActs, hopen, ← (noted_drainMerge _ number timeout interludes).1]
          rfl

theorem along_receiversOf_mergeActs
    {request : MergeRequest}
    (hacts : ∀ act ∈ acts, act.drains number = true) :
    along receiversOf s (mergeActs request number acts) = s.mailboxes.givenTo request := by
  have hnone := fun s => along_receiversOf_of_drains hacts s
  unfold mergeActs
  rw [List.cons_append, along, along_append, hnone]
  exact List.append_nil _

theorem Orderly.owns_openMerge
    {request : MergeRequest}
    (h : s.Orderly H attached spent)
    (hnumbered : s.Numbered)
    (hanswer : (s.mailboxes.openMerge request).1 = .ok number) :
    (s.perform (.openMerge request)).Owns number (s.mailboxes.givenTo request) := by
  have hsound : s.Sound H := h.mailboxes.sound
  obtain ⟨-, receivers, -, -, howns, -⟩ := hsound.owns_openMerge hnumbered hanswer
  have hinputs := Mailboxes.inputs?_openMerge hanswer
  cases howns.inputs.symm.trans hinputs
  exact howns

/-- However it ended, none of its channels is open. -/
theorem Conducts.not_open
    (h : s.Conducts acts)
    (ho : s.Orderly H attached spent)
    (hnumbered : s.Numbered)
    (hr : r ∈ along receiversOf s acts) :
    ¬ (s.performAll acts).mailboxes.Open r := by
  cases h with
  | nothing =>
      cases hr
  | @refused request fault hanswer =>
      have hgiven : r ∈ s.mailboxes.givenTo request := by
        simpa [along, receiversOf] using hr
      refine ((ho.mailboxes.sound.opened_openMerge request).2.resolve_left ?_) r hgiven
      rintro ⟨number, hok⟩
      cases hok.symm.trans hanswer
  | @drained request number acts hanswer hacts =>
      rw [along_receiversOf_mergeActs hacts] at hr
      have hopened := ho.perform (.openMerge request)
      have howns := (ho.owns_openMerge hnumbered hanswer).performAll hacts
      have hdrained := (hopened.performAll acts).mailboxes.sound
      obtain ⟨m, hm, hreceivers⟩ := howns.find?
      rw [performAll_mergeActs]
      exact hdrained.not_open_dropMerge hm (hreceivers ▸ hr)

/-- Pulling from a merge of one's own and dropping it concerns its receivers. -/
theorem Owns.serves
    (h : s.Owns number inputs)
    (ho : s.Orderly H attached spent)
    (hact : act = .pull number ∨ act = .dropMerge number) :
    Mailboxes.Serves (fun _ => False) (· ∈ inputs) s.mailboxes (s.perform act).mailboxes := by
  have hsound := ho.mailboxes.sound
  have hwired := ho.mailboxes.wired
  have hinputs : ∀ r, s.mailboxes.Holds s.Receives (some number) r → r ∈ inputs := by
    rintro r ⟨m, hm, hr⟩
    obtain ⟨m', hm', rfl⟩ := h.find?
    cases hm.symm.trans hm'
    exact hr
  rcases hact with rfl | rfl
  · exact (hsound.serves_pull hwired number).1.mono (fun _ => id) hinputs
  · exact (hsound.serves_dropMerge hwired number).mono (fun _ => id) hinputs

/-- What comes before an entry of a list with one more at its end. -/
theorem mem_of_concat_eq
    {α : Type} {xs front back : List α} {x y : α}
    (h : xs ++ [y] = front ++ x :: back) :
    (∀ a ∈ front, a ∈ xs) ∧ (x ∈ xs ∨ x = y) := by
  rcases List.eq_nil_or_concat back with rfl | ⟨rest, z, rfl⟩
  · obtain ⟨rfl, heq⟩ := List.append_inj' h rfl
    cases heq
    exact ⟨fun _ ha => ha, Or.inr rfl⟩
  · rw [List.concat_eq_append, ← List.cons_append, ← List.append_assoc] at h
    obtain ⟨rfl, -⟩ := List.append_inj' h rfl
    exact ⟨fun a ha => List.mem_append_left _ ha, Or.inl (by simp)⟩

/-- Each use of a merge of one's own concerns the receivers that it is given. -/
theorem Conducts.serves
    (h : s.Conducts acts)
    (ho : s.Orderly H attached spent)
    (hnumbered : s.Numbered)
    (hacts : acts = front ++ act :: back)
    (hact : act.byNumber = true) :
    Mailboxes.Serves (· ∈ along receiversOf s acts) (· ∈ along receiversOf s acts)
      (s.performAll front).mailboxes ((s.performAll front).perform act).mailboxes := by
  have hopens : ∀ request, Mailboxes.Serves (· ∈ s.mailboxes.givenTo request)
      (· ∈ s.mailboxes.givenTo request) s.mailboxes (s.perform (.openMerge request)).mailboxes :=
    fun request =>
      (ho.mailboxes.sound.serves_openMerge request).mono (fun _ => id) fun _ => And.right
  cases h with
  | nothing =>
      simp at hacts
  | @refused request fault hanswer =>
      have hgiven : along receiversOf s [.openMerge request] = s.mailboxes.givenTo request :=
        List.append_nil _
      rw [hgiven]
      cases front with
      | nil =>
          cases hacts
          exact hopens request
      | cons first front =>
          simp at hacts
  | @drained request number acts hanswer hdrains =>
      rw [along_receiversOf_mergeActs hdrains]
      cases front with
      | nil =>
          cases hacts
          exact hopens request
      | cons first front =>
          unfold mergeActs at hacts
          rw [List.cons_append, List.cons_append] at hacts
          obtain ⟨rfl, hrest⟩ := List.cons.inj hacts
          obtain ⟨hfront, hlast⟩ := mem_of_concat_eq hrest
          -- After its opening the merge stays one's own up to the act, a pull or the drop.
          have howns := (ho.owns_openMerge hnumbered hanswer).performAll
            fun act hmem => hdrains act (hfront act hmem)
          have hreached := (ho.perform (.openMerge request)).performAll front
          refine (howns.serves hreached ?_).mono (fun _ hfalse => hfalse.elim) fun _ hr => hr
          rcases hlast with hmem | rfl
          · have hdrain := hdrains act hmem
            cases act with
            | pull k => exact Or.inl (congrArg Act.pull (of_decide_eq_true hdrain))
            | step step => cases hact
            | openMerge request => cases hdrain
            | dropMerge k => cases hdrain
          · exact Or.inr rfl

/-- Uses of merges by their numbers come after the steps before them. -/
theorem exists_front_of_byNumber
    {early : List Step}
    (h : early.map Act.step ++ acts = front ++ act :: back)
    (hact : act.byNumber = true) :
    ∃ rest, front = early.map Act.step ++ rest ∧ acts = rest ++ act :: back := by
  rcases List.append_eq_append_iff.1 h with ⟨rest, hfront, hrest⟩ | ⟨rest, hearly, hrest⟩
  · exact ⟨rest, hfront, hrest⟩
  · cases rest with
    | nil =>
        refine ⟨[], ?_, hrest.symm⟩
        rw [hearly, List.append_nil, List.append_nil]
    | cons first rest =>
        obtain ⟨rfl, -⟩ := List.cons.inj hrest
        have hmem : act ∈ early.map Act.step := by simp [hearly]
        obtain ⟨step, -, rfl⟩ := List.mem_map.1 hmem
        cases hact

/-! ## From the start -/

section FromTheStart

variable {host : String} {mailboxPort : UInt16} {capacity : Nat} {early more : List Step}
variable {own : List Act} {start : Session}

theorem along_receiversOf_early (start : Session) (early : List Step) (own : List Act) :
    along receiversOf start (early.map .step ++ own) =
      along receiversOf (start.performAll (early.map .step)) own := by
  have hearly : ∀ act ∈ early.map Act.step, act.drains 0 = true := by
    intro act hact
    obtain ⟨step, -, rfl⟩ := List.mem_map.1 hact
    rfl
  rw [along_append, along_receiversOf_of_drains hearly, List.nil_append]

/-- The channels of a merge of one's own are deserted once one is done with it. -/
theorem Conducts.deserted
    (hstart : start = ofMailboxes (.create host mailboxPort capacity))
    (h : (start.performAll (early.map .step)).Conducts own)
    (hreleased : ∀ id, .step (.release id) ∉ early.map .step ++ own)
    (hr : r ∈ along receiversOf start (early.map .step ++ own))
    (hmore : ∀ id, .release id ∉ more) :
    ((start.performAll (early.map .step ++ own)).run more).2.Deserted
      (r.sender ∈ along sendersOf start (early.map .step ++ own ++ more.map .step)) r := by
  subst hstart
  have hall : ∀ id, .step (.release id) ∉ early.map .step ++ own ++ more.map .step := by
    intro id hmem
    rcases List.mem_append.1 hmem with hmem | hmem
    · exact hreleased id hmem
    · obtain ⟨step, hstep, heq⟩ := List.mem_map.1 hmem
      cases heq
      exact hmore id hstep
  have hearly := (orderly_start host mailboxPort capacity).performAll (early.map .step)
  have hnumbered := (numbered_start (.create host mailboxPort capacity)).run early
  rw [← performAll_steps] at hnumbered
  refine (reached_performAll host mailboxPort capacity hreleased).deserted
    (reached_performAll host mailboxPort capacity hall) hmore (mem_along_givenBy hr) ?_
  rw [performAll_append]
  exact h.not_open hearly hnumbered (along_receiversOf_early _ early own ▸ hr)

/-- A merge of one's own concerns no other channels and no other mailboxes. -/
theorem Conducts.serves_after
    (hstart : start = ofMailboxes (.create host mailboxPort capacity))
    (h : (start.performAll (early.map .step)).Conducts own)
    (hacts : early.map .step ++ own = front ++ act :: back)
    (hact : act.byNumber = true) :
    Mailboxes.Serves (· ∈ along receiversOf start (early.map .step ++ own))
      (· ∈ along receiversOf start (early.map .step ++ own))
      (start.performAll front).mailboxes ((start.performAll front).perform act).mailboxes := by
  subst hstart
  have hearly := (orderly_start host mailboxPort capacity).performAll (early.map .step)
  have hnumbered := (numbered_start (.create host mailboxPort capacity)).run early
  rw [← performAll_steps] at hnumbered
  obtain ⟨rest, rfl, hrest⟩ := exists_front_of_byNumber hacts hact
  rw [along_receiversOf_early, performAll_append]
  exact h.serves hearly hnumbered hrest hact

end FromTheStart

end Session

namespace Dispatcher

variable {ω γ : Type}

/-! ## A query however it ends -/

/-- What a query did to the mailboxes of its process is on record. -/
theorem run_eq_performAll
    (d : Dispatcher ω γ) (request : Int64) (plan : Plan) (timeout : Option Duration)
    (interludes : List Interlude) (w : World ω γ) :
    let trace := d.trace request plan timeout interludes w
    let dispatched := w.session.performAll (trace.dispatch.map .step)
    (d.run request plan timeout interludes w).2.session =
        dispatched.performAll trace.gathering ∧
      dispatched.Conducts trace.gathering := by
  unfold trace run
  cases plan.gathering with
  | error fault =>
      exact ⟨rfl, .nothing⟩
  | ok g =>
      dsimp only
      cases hdispatch : d.dispatch request plan w with
      | mk answer dispatched =>
          obtain ⟨recorded, rfl, hrecorded⟩ := exists_recorded hdispatch
          obtain ⟨submissions, steps, hleads, -⟩ := leads_dispatch d request plan w.watched
          rw [hrecorded] at hleads ⊢
          have hsession : recorded.session =
              w.session.performAll (recorded.record.steps.map .step) := by
            rw [Session.performAll_steps, hleads.steps]
            exact hleads.session
          cases answer with
          | error e =>
              exact ⟨hsession, .nothing⟩
          | ok _ =>
              dsimp only
              rw [← hsession]
              refine ⟨?_, Session.conducts_gatherActs _ _ _ _ _⟩
              rw [← Session.gather_eq_performAll]
              have hforget : recorded.forget.session = recorded.session := rfl
              rw [hforget]
              generalize recorded.session.gather g request (timeout.getD d.defaultTimeout)
                interludes = gathered
              obtain ⟨answer, session⟩ := gathered
              cases answer <;> rfl

/-- **Teardown.** From the start, whatever others did `before`, whatever the network does and
whatever comes in the interludes, if nothing was released, then however a query ended,

* the session is left as the acts on record made it;
* the channels that the query opened receivers of are deserted from then on, whatever `more` is done
  that releases nothing;
* nothing that the query itself did changed anything about another channel, or about what is held;
* as long as others keep to steps on single mailboxes, each mailbox that the query opened no
  receiver of is left with the handles on it as the steps that it saw make it by themselves, and
  these steps are answered then as they were. -/
theorem run_tearsDown
    (d : Dispatcher ω γ) (request : Int64) (plan : Plan) (timeout : Option Duration)
    (interludes : List Interlude)
    (host : String) (mailboxPort : UInt16) (capacity : Nat) (before : List Step)
    (pool : Pool γ) (outside : ω) :
    let start := Session.ofMailboxes (.create host mailboxPort capacity)
    let w : World ω γ := ⟨pool, (start.run before).2, outside⟩
    let left := (d.run request plan timeout interludes w).2.session
    let trace := d.trace request plan timeout interludes w
    let acts := (before ++ trace.dispatch).map Act.step ++ trace.gathering
    let opened := Session.along Session.receiversOf start acts
    (∀ id, .step (.release id) ∉ acts) →
      left = start.performAll acts ∧
      (∀ r ∈ opened, ∀ more, (∀ id, .release id ∉ more) →
        (left.run more).2.Deserted
          (r.sender ∈ Session.along Session.sendersOf start (acts ++ more.map .step)) r) ∧
      (∀ front act back, acts = front ++ act :: back → act.byNumber = true →
        ((start.performAll front).perform act).held = (start.performAll front).held ∧
        ∀ r ∉ opened, Mailboxes.AgreesOn r (start.performAll front).mailboxes
          ((start.performAll front).perform act).mailboxes) ∧
      ∀ A, (∀ r ∈ opened, r.id ≠ A) → (∀ step, .step step ∈ acts → step.single = true) →
        let seen := Session.along (Session.seenBy A) start acts
        let alone := start.run (seen.map Prod.fst)
        alone.1 = seen.map Prod.snd ∧
        alone.2.mailboxes.box A = left.mailboxes.box A ∧
        ∀ name, alone.2.find? name = (left.find? name).filter fun h => h.mailbox? = some A := by
  intro start w left trace acts opened hreleased
  obtain ⟨hdone, hconducts⟩ := run_eq_performAll d request plan timeout interludes w
  have hreached : w.session.performAll (trace.dispatch.map .step) =
      start.performAll ((before ++ trace.dispatch).map .step) := by
    rw [List.map_append, Session.performAll_append, Session.performAll_steps start before]
  have hleft : left = start.performAll acts := by
    rw [Session.performAll_append, ← hreached]
    exact hdone
  replace hconducts : (start.performAll ((before ++ trace.dispatch).map .step)).Conducts
      trace.gathering :=
    hreached ▸ hconducts
  -- What the query did itself, at any point of the course.
  have hserves : ∀ front act back, acts = front ++ act :: back → act.byNumber = true →
      Mailboxes.Serves (· ∈ opened) (· ∈ opened) (start.performAll front).mailboxes
        ((start.performAll front).perform act).mailboxes :=
    fun front act back hacts hact => hconducts.serves_after rfl hacts hact
  have hregular : ∀ front act back, acts = front ++ act :: back → start.Reached front := by
    intro front act back hacts
    refine Session.reached_performAll host mailboxPort capacity fun id hmem => ?_
    exact hreleased id (hacts ▸ List.mem_append_left _ hmem)
  rw [hleft]
  refine ⟨rfl, fun r hr more hmore => hconducts.deserted rfl hreleased hr hmore, ?_, ?_⟩
  · intro front act back hacts hact
    have hfront := hregular front act back hacts
    refine ⟨Session.held_perform hact _, fun r hr => ?_⟩
    exact (hserves front act back hacts hact).agreesOn hfront.orderly.mailboxes.regular
      (hfront.unreleased r.id) hr hr
  · intro A hspared hsingle seen alone
    have hstart : Session.Restricts A start start := Session.restricts_start A _
    obtain ⟨hreplays, hend⟩ := hstart.performAll hsingle fun front act back hacts hact =>
      (hserves front act back hacts hact).agrees
        (hregular front act back hacts).orderly.mailboxes.regular
        ((hregular front act back hacts).unreleased A) hspared hspared
    exact ⟨hreplays.answers, hend.mailboxes.box, hend.names⟩

/-- Every request is accepted, and nothing else is done. -/
def quiet : Network Unit Unit where
  connect _ _ outside := (.ok (), outside)
  submit _ _ outside := .done (.ok ⟨[]⟩, outside)
  close _ outside := outside

/-- The first worker has failed and gone, the second one waits for a slot of its mailbox. A third
one sends to a mailbox that is of no concern. -/
def halfDone : List Step :=
  [.openSender (workerMailbox "worker-a") "a",
   .send "a" (.failedEnd (.execution "disk full")),
   .drop "a",
   .openSender (workerMailbox "worker-b") "b",
   .send "b" .heartbeat,
   .sendWaiting "b" .heartbeat "waiting",
   .openSender (workerMailbox "worker-c") "c",
   .send "c" .heartbeat]

/-- The query fails with the first worker, and its receivers are gone: the second worker is refused,
and its mailbox is forgotten once it goes too. The mailbox of the third one is as it was. -/
theorem run_tearsDown_halfDone :
    let start := Session.ofMailboxes (.create "broker" 9000 1)
    let w : World Unit Unit := ⟨.empty, (start.run halfDone).2, ()⟩
    let left := ((ofNetwork quiet).run 1 twoWorkers none [] w).2.session
    let trace := (ofNetwork quiet).trace 1 twoWorkers none [] w
    let acts := (halfDone ++ trace.dispatch).map Act.step ++ trace.gathering
    let opened := Session.along Session.receiversOf start acts
    let hungUp := (left.run [.drop "waiting", .drop "b"]).2
    ((ofNetwork quiet).run 1 twoWorkers none [] w).1 = .error (.remote (.execution "disk full")) ∧
    (∀ id, .step (.release id) ∉ acts) ∧
    opened = [⟨workerMailbox "worker-a", 0⟩, ⟨workerMailbox "worker-b", 0⟩] ∧
    (left.step (.retry "waiting")).1 = .failed (.closed (workerMailbox "worker-b")) ∧
    left.step (.openReceiver (workerMailbox "worker-b") "in") =
      (.failed (.alreadyReceived (workerMailbox "worker-b")), left) ∧
    ¬ hungUp.mailboxes.Tracks ⟨workerMailbox "worker-b", 0⟩ ∧
    left.mailboxes.box (workerMailbox "worker-c") =
      (start.run (halfDone.drop 6)).2.mailboxes.box (workerMailbox "worker-c") := by
  intro start w left trace acts opened hungUp
  have hacts : acts = halfDone.map Act.step ++
      [.openMerge (twoWorkersGathering.mergeRequest 1 "broker" 9000), .pull 0, .dropMerge 0] := by
    decide +kernel
  have hreleased : ∀ id, .step (.release id) ∉ acts := by
    rw [hacts]
    simp [halfDone]
  have hopened : opened = [⟨workerMailbox "worker-a", 0⟩, ⟨workerMailbox "worker-b", 0⟩] := by
    decide +kernel
  have hattached : (⟨workerMailbox "worker-b", 0⟩ : Receiver).sender ∈
      Session.along Session.sendersOf start
        (acts ++ [Step.drop "waiting", .drop "b"].map .step) := by
    decide +kernel
  have htracks : left.mailboxes.Tracks ⟨workerMailbox "worker-b", 0⟩ :=
    ⟨⟨0, false, false, true, true⟩, by decide +kernel, rfl⟩
  have hwaiting : left.find? "waiting" =
      some (.pendingSend ⟨workerMailbox "worker-b", 0, 0, .heartbeat⟩) := by
    decide +kernel
  have hheld : hungUp.held = [("c", .sender ⟨workerMailbox "worker-c", some 0⟩)] := by
    decide +kernel
  have hseen : (Session.along (Session.seenBy (workerMailbox "worker-c")) start acts).map Prod.fst =
      halfDone.drop 6 := by
    decide +kernel
  have hfails : ((ofNetwork quiet).run 1 twoWorkers none [] w).1 =
      .error (.remote (.execution "disk full")) := by
    decide +kernel
  have hsingle : ∀ step, .step step ∈ acts → step.single = true := by
    rw [hacts]
    simp [halfDone, Step.single]
  have htearsDown :=
    run_tearsDown (ofNetwork quiet) 1 twoWorkers none [] "broker" 9000 1 halfDone .empty ()
  extract_lets at htearsDown
  obtain ⟨-, hdeserted, -, halone⟩ := htearsDown hreleased
  have hungUp_eq : hungUp = (left.run [.drop "waiting", .drop "b"]).2 := rfl
  -- The values are of no use any more, and unfolding them takes long.
  clear_value hungUp left acts opened
  have hmem : ⟨workerMailbox "worker-b", 0⟩ ∈ opened := by
    simp [hopened]
  have hnow : left.Deserted _ _ := hdeserted _ hmem [] (by simp)
  have hlater := hdeserted _ hmem [.drop "waiting", .drop "b"] (by simp)
  rw [← hungUp_eq] at hlater
  refine ⟨hfails, hreleased, hopened, hnow.waiting "waiting" _ hwaiting rfl,
    hnow.receivers htracks "in", fun htracked => ?_, ?_⟩
  · refine (hlater.tracked.1 htracked).2 ⟨hattached, ?_⟩
    have hname : ∀ name, hungUp.find? name =
        if "c" = name then some (.sender ⟨workerMailbox "worker-c", some 0⟩) else none := by
      intro name
      unfold Session.find?
      rw [hheld]
      rfl
    rintro ⟨name, hsender | ⟨pending, hpending, -⟩⟩
    · rw [hname] at hsender
      split at hsender
      · simp [Receiver.sender, workerMailbox] at hsender
      · cases hsender
    · rw [hname] at hpending
      split at hpending <;> cases hpending
  · have hspared : ∀ r ∈ opened, r.id ≠ workerMailbox "worker-c" := by
      simp [hopened, workerMailbox]
    obtain ⟨-, hbox, -⟩ := halone _ hspared hsingle
    rw [← hbox, hseen]

end Dispatcher
end ScatterGather
