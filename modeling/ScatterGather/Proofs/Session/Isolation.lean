import ScatterGather.Proofs.Session.Ownership
import ScatterGather.Proofs.Session.Single

/-!
# Mailboxes do not see each other

What one mailbox sees of a run are the steps that act on it. Only a step that takes a name which is
in use concerns a second mailbox, that of the handle which is dropped for it; what that mailbox sees
is a drop.

**Results.** `seen_alone`: whatever is done to the other mailboxes of a process, whoever uses one of
them is answered as if nothing else had been done, and leaves it as if nothing else had.
-/

namespace ScatterGather
namespace Session

variable {s t : Session} {A id : MailboxId} {step : Step}

/-- The mailbox of the handle of a name. -/
def holdsAt? (s : Session) (name : String) : Option MailboxId :=
  (s.find? name).bind Handle.mailbox?

/-- Whether a step takes the name of a handle on a mailbox for a handle on another one. -/
def displaces (s : Session) (A : MailboxId) (step : Step) (name : String) : Bool :=
  step.name? = some name && s.holdsAt? name = some A && (s.step step).2.holdsAt? name ≠ some A

/-- What a mailbox sees of a step, and the answer to it: a step that acts on it, or the drop of a
handle on it whose name is taken. -/
def seenOf (s : Session) (A : MailboxId) (step : Step) : List (Step × Answer) :=
  if s.on? step = some A then [(step, (s.step step).1)]
  else (step.name?.filter (s.displaces A step)).toList.map fun name => (.drop name, .done)

/-- What a mailbox sees of a run. -/
def seen (s : Session) (A : MailboxId) : List Step → List (Step × Answer)
  | [] => []
  | step :: steps => s.seenOf A step ++ (s.step step).2.seen A steps

/-! ## Runs without the others -/

theorem run_append_answers (s : Session) (steps more : List Step) :
    (s.run (steps ++ more)).1 = (s.run steps).1 ++ ((s.run steps).2.run more).1 := by
  induction steps generalizing s with
  | nil =>
      rfl
  | cons step steps ih =>
      exact congrArg ((s.step step).1 :: ·) (ih (s.step step).2)

theorem seen_append (s : Session) (A : MailboxId) (steps more : List Step) :
    s.seen A (steps ++ more) = s.seen A steps ++ (s.run steps).2.seen A more := by
  induction steps generalizing s with
  | nil =>
      rfl
  | cons step steps ih =>
      rw [List.cons_append, seen, seen, ih (s.step step).2, List.append_assoc]
      rfl

/-- What was seen of a run is what is seen and answered when it is done by itself. -/
structure Replays (t : Session) (A : MailboxId) (seen : List (Step × Answer)) : Prop where
  answers : (t.run (seen.map Prod.fst)).1 = seen.map Prod.snd
  seen : t.seen A (seen.map Prod.fst) = seen

theorem replays_nil (t : Session) (A : MailboxId) : t.Replays A [] :=
  ⟨rfl, rfl⟩

theorem replays_step
    {answer : Answer}
    (hon : t.on? step = some A)
    (hanswer : (t.step step).1 = answer) :
    t.Replays A [(step, answer)] := by
  subst hanswer
  refine ⟨rfl, ?_⟩
  show t.seenOf A step ++ [] = _
  rw [List.append_nil, seenOf, if_pos hon]

theorem Replays.append
    {seen more : List (Step × Answer)}
    (h : t.Replays A seen)
    (hmore : (t.run (seen.map Prod.fst)).2.Replays A more) :
    t.Replays A (seen ++ more) where
  answers := by
    rw [List.map_append, run_append_answers, h.answers, hmore.answers, List.map_append]
  seen := by
    rw [List.map_append, seen_append, h.seen, hmore.seen]

/-! ## Displaced handles -/

theorem displaces_iff
    {name : String} :
    s.displaces A step name = true ↔
      step.name? = some name ∧ s.holdsAt? name = some A ∧
        (s.step step).2.holdsAt? name ≠ some A := by
  simp [displaces, and_assoc]

theorem seenOf_of_displaces
    {name : String}
    (hoff : s.on? step ≠ some A)
    (h : s.displaces A step name = true) :
    s.seenOf A step = [(.drop name, .done)] := by
  rw [seenOf, if_neg hoff, (displaces_iff.1 h).1, Option.filter_some, if_pos h]
  rfl

theorem seenOf_eq_nil
    (hoff : s.on? step ≠ some A)
    (hkeeps : ∀ name, s.holdsAt? name = some A → (s.step step).2.holdsAt? name = some A) :
    s.seenOf A step = [] := by
  have hnone : ∀ name, s.displaces A step name ≠ true := by
    intro name h
    obtain ⟨-, hheld, hgone⟩ := displaces_iff.1 h
    exact hgone (hkeeps name hheld)
  rw [seenOf, if_neg hoff]
  cases step.name? with
  | none =>
      rfl
  | some name =>
      rw [Option.filter_some, if_neg (hnone name)]
      rfl

/-! ## What one mailbox has of a session -/

/-- `t` has what `s` has of one mailbox, the handles on it included, and holds nothing else. -/
structure Restricts (A : MailboxId) (s t : Session) : Prop where
  mailboxes : Mailboxes.Agrees A s.mailboxes t.mailboxes
  names : ∀ name, t.find? name = (s.find? name).filter fun h => h.mailbox? = some A
  unmerged : ∀ name k, s.find? name ≠ some (.merge k)

/-- The mailboxes once the handle of a name was dropped. -/
def vacated (s : Session) (name : String) (m : Mailboxes) : Mailboxes :=
  match s.find? name with
  | some old => m.dropHandle old
  | none => m

namespace Restricts

variable {m m' : Mailboxes} {name held : String} {handle : Handle}

theorem find?_of_holdsAt?
    (h : Restricts A s t)
    (hname : s.holdsAt? name = some A) :
    t.find? name = s.find? name := by
  obtain ⟨handle, hfind, hid⟩ := Option.bind_eq_some_iff.1 hname
  rw [h.names, hfind, Option.filter_some, if_pos (by simpa using hid)]

theorem find?_of_not_holdsAt?
    (h : Restricts A s t)
    (hname : s.holdsAt? name ≠ some A) :
    t.find? name = none := by
  rw [h.names]
  unfold holdsAt? at hname
  cases hfind : s.find? name with
  | none =>
      rfl
  | some handle =>
      rw [hfind] at hname
      rw [Option.filter_some, if_neg (by simpa using hname)]

/-- A handle that is no merge is on some mailbox. -/
theorem exists_mailbox?
    (h : Restricts A s t)
    (hfind : s.find? name = some handle) :
    ∃ id, handle.mailbox? = some id := by
  cases handle with
  | merge k => exact absurd hfind (h.unmerged name k)
  | _ => exact ⟨_, rfl⟩

/-- A name is vacated on one side as on the other, as far as the mailbox is concerned. -/
theorem vacated
    (h : Restricts A s t)
    (hm : Mailboxes.Agrees A m m')
    (name : String) :
    Mailboxes.Agrees A (s.vacated name m) (t.vacated name m') := by
  unfold Session.vacated
  by_cases hname : s.holdsAt? name = some A
  · rw [h.find?_of_holdsAt? hname]
    obtain ⟨old, hfind, hid⟩ := Option.bind_eq_some_iff.1 hname
    rw [hfind]
    exact (local_dropHandle hid).inside hm
  · rw [h.find?_of_not_holdsAt? hname]
    cases hfind : s.find? name with
    | none =>
        exact hm
    | some old =>
        obtain ⟨other, hid⟩ := h.exists_mailbox? hfind
        have hne : A ≠ other := by
          rintro rfl
          exact hname (Option.bind_eq_some_iff.2 ⟨old, hfind, hid⟩)
        exact ((local_dropHandle hid).outside m A hne).symm.trans hm

theorem unmerged_hold
    (h : Restricts A s t)
    (hid : handle.mailbox? = some id)
    (other : String) (k : Nat) :
    (s.hold name handle m).find? other ≠ some (.merge k) := by
  rw [find?_hold]
  split
  · rintro ⟨⟩
    cases hid
  · exact h.unmerged other k

theorem unmerged_without
    (h : Restricts A s t)
    (other : String) (k : Nat) :
    (s.without held m).find? other ≠ some (.merge k) := by
  rw [find?_without]
  split
  · simp
  · exact h.unmerged other k

/-! ### What both sides do -/

theorem hold
    (h : Restricts A s t)
    (hm : Mailboxes.Agrees A m m')
    (hid : handle.mailbox? = some A) :
    Restricts A (s.hold name handle m) (t.hold name handle m') := by
  refine ⟨h.vacated hm name, fun other => ?_, h.unmerged_hold hid⟩
  rw [find?_hold, find?_hold, h.names]
  split
  · rw [Option.filter_some, if_pos (by simpa using hid)]
  · rfl

theorem without
    (h : Restricts A s t)
    (hm : Mailboxes.Agrees A m m') :
    Restricts A (s.without held m) (t.without held m') := by
  refine ⟨hm, fun other => ?_, h.unmerged_without⟩
  rw [find?_without, find?_without, h.names]
  split <;> rfl

/-- An operation on the mailbox is done on both sides. -/
theorem settle
    {op : Mailboxes → (Answer × Naming) × Mailboxes}
    (h : Restricts A s t)
    (hop : Concerns A step op) :
    (t.settle (op t.mailboxes)).1 = (s.settle (op s.mailboxes)).1 ∧
      Restricts A (s.settle (op s.mailboxes)).2 (t.settle (op t.mailboxes)).2 := by
  have hanswer := hop.isLocal.answer h.mailboxes
  have hinside := hop.isLocal.inside h.mailboxes
  have htakes := hop.takes s.mailboxes
  revert hanswer hinside htakes
  rcases op s.mailboxes with ⟨⟨answer, naming⟩, m⟩
  rcases op t.mailboxes with ⟨⟨answer', naming'⟩, m'⟩
  intro hanswer hinside htakes
  cases hanswer
  cases naming with
  | same =>
      exact ⟨rfl, hinside, h.names, h.unmerged⟩
  | takes name handle =>
      exact ⟨rfl, h.hold hinside (htakes name handle rfl).2⟩
  | leaves held =>
      exact ⟨rfl, h.without hinside⟩

/-! ### What only one side does -/

theorem withMailboxes_left
    (h : Restricts A s t)
    (hm : Mailboxes.Agrees A m t.mailboxes) :
    Restricts A (s.withMailboxes m) t :=
  ⟨hm, h.names, h.unmerged⟩

theorem without_left
    (h : Restricts A s t)
    (hm : Mailboxes.Agrees A m t.mailboxes)
    (hheld : s.holdsAt? held ≠ some A) :
    Restricts A (s.without held m) t := by
  refine ⟨hm, fun other => ?_, h.unmerged_without⟩
  rw [find?_without]
  split
  · next heq => exact heq ▸ h.find?_of_not_holdsAt? hheld
  · exact h.names other

/-- A handle on another mailbox that takes a name: on the other side the name is vacated. -/
theorem hold_left
    (h : Restricts A s t)
    (hm : Mailboxes.Agrees A m t.mailboxes)
    (hid : handle.mailbox? = some id)
    (hne : A ≠ id) :
    Restricts A (s.hold name handle m) (t.without name (t.vacated name t.mailboxes)) := by
  refine ⟨h.vacated hm name, fun other => ?_, h.unmerged_hold hid⟩
  rw [find?_without, find?_hold]
  split
  · rw [Option.filter_some, if_neg (by simpa [hid] using Ne.symm hne)]
  · exact h.names other

/-- Vacating a name that is not held does nothing. -/
theorem of_vacated
    (h : Restricts A s (t.without name (t.vacated name t.mailboxes)))
    (hfree : t.find? name = none) :
    Restricts A s t := by
  have hmailboxes := h.mailboxes
  unfold Session.vacated at hmailboxes
  rw [hfree] at hmailboxes
  refine ⟨hmailboxes, fun other => ?_, h.unmerged⟩
  rw [← h.names, find?_without]
  split
  · next heq => exact heq ▸ hfree
  · rfl

/-- Of an operation on another mailbox only the drop of a displaced handle is seen. -/
theorem settle_left
    {op : Mailboxes → (Answer × Naming) × Mailboxes}
    (h : Restricts A s t)
    (hstep : s.step step = s.settle (op s.mailboxes))
    (hop : Concerns id step op)
    (hne : A ≠ id)
    (hoff : s.on? step ≠ some A)
    (hused : ∀ held, step.held? = some held → s.holdsAt? held ≠ some A) :
    t.Replays A (s.seenOf A step) ∧
      Restricts A (s.step step).2 (t.run ((s.seenOf A step).map Prod.fst)).2 := by
  have hm := (hop.isLocal.outside s.mailboxes A hne).symm.trans h.mailboxes
  have htakes := hop.takes s.mailboxes
  have hleaves := hop.leaves s.mailboxes
  have hunseen : (∀ name, s.holdsAt? name = some A → (s.step step).2.holdsAt? name = some A) →
      Restricts A (s.step step).2 t →
      t.Replays A (s.seenOf A step) ∧
        Restricts A (s.step step).2 (t.run ((s.seenOf A step).map Prod.fst)).2 := by
    intro hkeeps hrest
    rw [seenOf_eq_nil hoff hkeeps]
    exact ⟨replays_nil t A, hrest⟩
  revert hstep hm htakes hleaves
  rcases op s.mailboxes with ⟨⟨answer, naming⟩, m⟩
  intro hstep hm htakes hleaves
  cases naming with
  | same =>
      have hafter : (s.step step).2 = s.withMailboxes m := by rw [hstep]; rfl
      rw [hafter] at hunseen ⊢
      exact hunseen (fun _ hname => hname) (h.withMailboxes_left hm)
  | leaves held =>
      have hafter : (s.step step).2 = s.without held m := by rw [hstep]; rfl
      have hheld := hused held (hleaves held rfl)
      rw [hafter] at hunseen ⊢
      refine hunseen (fun name hname => ?_) (h.without_left hm hheld)
      rw [holdsAt?, find?_without, if_neg]
      · exact hname
      · rintro rfl
        exact hheld hname
  | takes name handle =>
      have hafter : (s.step step).2 = s.hold name handle m := by rw [hstep]; rfl
      obtain ⟨hname, hid⟩ := htakes name handle rfl
      have hrest : Restricts A (s.hold name handle m)
          (t.without name (t.vacated name t.mailboxes)) :=
        h.hold_left hm hid hne
      by_cases hheld : s.holdsAt? name = some A
      · -- The handle that is displaced is dropped on the other side by a step of its own.
        obtain ⟨old, hold, holdId⟩ := Option.bind_eq_some_iff.1 hheld
        have hfind : t.find? name = some old := (h.find?_of_holdsAt? hheld).trans hold
        have hdrop : t.step (.drop name) =
            (.done, t.without name (t.vacated name t.mailboxes)) := by
          simp only [step_drop hfind, Session.vacated, hfind]
        have hon : t.on? (.drop name) = some A := by
          simpa [on?, used?, Step.target?, Step.held?, hfind] using holdId
        have hdisplaces : s.displaces A step name = true := by
          refine displaces_iff.2 ⟨hname, hheld, ?_⟩
          rw [hafter, holdsAt?, find?_hold, if_pos rfl, Option.bind_some, hid]
          simpa using Ne.symm hne
        rw [seenOf_of_displaces hoff hdisplaces, hafter]
        refine ⟨replays_step hon (by rw [hdrop]), ?_⟩
        show Restricts A (s.hold name handle m) (t.step (.drop name)).2
        rw [hdrop]
        exact hrest
      · rw [hafter] at hunseen ⊢
        refine hunseen (fun other hother => ?_) (hrest.of_vacated (h.find?_of_not_holdsAt? hheld))
        rw [holdsAt?, find?_hold, if_neg]
        · exact hother
        · rintro rfl
          exact hheld hother

/-! ### Steps and runs -/

theorem used?_eq
    (h : Restricts A s t)
    (hon : s.on? step = some A) :
    t.used? step = s.used? step := by
  have hused : ∀ held, step.target? = none → step.held? = some held →
      t.used? step = s.used? step := by
    intro held htarget hheld
    have hname : s.holdsAt? held = some A := by
      simpa [on?, used?, htarget, hheld, holdsAt?] using hon
    simpa [used?, hheld] using h.find?_of_holdsAt? hname
  cases step with
  | cloneSender held _ => exact hused held rfl rfl
  | drop held => exact hused held rfl rfl
  | send held _ => exact hused held rfl rfl
  | sendWaiting held _ _ => exact hused held rfl rfl
  | retry held => exact hused held rfl rfl
  | receive held => exact hused held rfl rfl
  | _ => rfl

/-- What one step does with the others and without. -/
theorem afterStep
    (h : Restricts A s t)
    (hsingle : step.single = true) :
    t.Replays A (s.seenOf A step) ∧
      Restricts A (s.step step).2 (t.run ((s.seenOf A step).map Prod.fst)).2 := by
  by_cases hon : s.on? step = some A
  · have hused := h.used?_eq hon
    have hseen : s.seenOf A step = [(step, (s.step step).1)] := if_pos hon
    have hrest := h.settle (concerns_operation step hon)
    rw [← step_eq_settle s hsingle, ← hused, ← step_eq_settle t hsingle] at hrest
    rw [hseen]
    refine ⟨replays_step ?_ hrest.1, hrest.2⟩
    rw [on?, hused]
    exact hon
  · cases hother : s.on? step with
    | some id =>
        have hused : ∀ held, step.held? = some held → s.holdsAt? held ≠ some A := by
          intro held hheld hname
          apply hon
          cases step <;> cases hheld <;> exact hname
        refine h.settle_left (step_eq_settle s hsingle) (concerns_operation step hother) ?_ hon
          hused
        rintro rfl
        exact hon hother
    | none =>
        have hnothing : s.step step = (.notHeld, s) := by
          rw [step_eq_settle s hsingle, operation_eq_of_none step hother]
          · rfl
          · intro k hk
            obtain ⟨held, -, hfind⟩ := Option.bind_eq_some_iff.1 hk
            exact h.unmerged held k hfind
        rw [seenOf_eq_nil hon (by simp [hnothing]), hnothing]
        exact ⟨replays_nil t A, h⟩

theorem run
    {steps : List Step}
    (h : Restricts A s t)
    (hsingle : ∀ step ∈ steps, step.single = true) :
    t.Replays A (s.seen A steps) ∧
      Restricts A (s.run steps).2 (t.run ((s.seen A steps).map Prod.fst)).2 := by
  induction steps generalizing s t with
  | nil =>
      exact ⟨replays_nil t A, h⟩
  | cons step steps ih =>
      obtain ⟨hfirst, hrest⟩ := List.forall_mem_cons.1 hsingle
      obtain ⟨hreplays, hafter⟩ := h.afterStep hfirst
      obtain ⟨hmore, hend⟩ := ih hafter hrest
      refine ⟨hreplays.append hmore, ?_⟩
      rw [seen, List.map_append, run_append]
      exact hend

end Restricts

theorem restricts_start (A : MailboxId) (mailboxes : Mailboxes) :
    Restricts A (ofMailboxes mailboxes) (ofMailboxes mailboxes) where
  mailboxes := .refl A mailboxes
  names _ := rfl
  unmerged _ _ h := by cases h

/-- **Mailboxes are isolated from each other.** Take any run of steps on single mailboxes from the
start, and of it what one mailbox sees: the steps that act on it, with their answers, and the drops
of handles on it whose names are taken by steps on other mailboxes. Done by themselves,

* these steps are answered as they were in the run, each after those that the mailbox saw before it;
* the mailbox sees the same of them, so none of them acts on another mailbox;
* they leave the mailbox as the run does, and the handles on it.

An identifier counts with all of its fields; that others may be shown as the same text makes no
difference. -/
theorem seen_alone
    (host : String) (mailboxPort : UInt16) (capacity : Nat) (A : MailboxId) (steps : List Step)
    (hsingle : ∀ step ∈ steps, step.single = true) :
    let start := ofMailboxes (.create host mailboxPort capacity)
    let alone := fun steps => (start.seen A steps).map Prod.fst
    (start.run (alone steps)).1 = (start.seen A steps).map Prod.snd ∧
    (∀ before step after, steps = before ++ step :: after →
      (start.run before).2.on? step = some A →
      ((start.run (alone before)).2.step step).1 = ((start.run before).2.step step).1) ∧
    start.seen A (alone steps) = start.seen A steps ∧
    (start.run (alone steps)).2.mailboxes.box A = (start.run steps).2.mailboxes.box A ∧
    (∀ name, (start.run (alone steps)).2.find? name =
      ((start.run steps).2.find? name).filter fun h => h.mailbox? = some A) := by
  intro start alone
  have hstart : Restricts A start start := restricts_start A _
  obtain ⟨hreplays, hend⟩ := hstart.run hsingle
  refine ⟨hreplays.answers, ?_, hreplays.seen, hend.mailboxes.box, hend.names⟩
  rintro before step after rfl hon
  obtain ⟨hbefore, hrest⟩ := List.forall_mem_append.1 hsingle
  obtain ⟨hstep, -⟩ := List.forall_mem_cons.1 hrest
  obtain ⟨-, hreached⟩ := hstart.run hbefore
  have hanswers := (hreached.afterStep hstep).1.answers
  rw [seenOf, if_pos hon] at hanswers
  exact (List.cons.inj hanswers).1

/-- Two mailboxes that are shown as the same text. -/
def firstNamesake : MailboxId := ⟨1, 2, "a", 5, "b:7:c", 9⟩

@[inherit_doc firstNamesake]
def secondNamesake : MailboxId := ⟨1, 2, "a:5:b", 7, "c", 9⟩

/-- The second one is closed and released, and takes the name of a sender of the first one, while
the first one is used. -/
def entangled : List Step :=
  [.openSender firstNamesake "s", .openReceiver secondNamesake "other",
   .openReceiver firstNamesake "r", .openSender secondNamesake "t", .drop "other",
   .send "t" .heartbeat, .send "s" .heartbeat, .release secondNamesake, .send "s" .heartbeat,
   .openSender secondNamesake "s", .receive "r", .receive "r"]

/-- What is done to the second mailbox is not seen on the first one, but for the sender that is
dropped. -/
theorem seen_alone_entangled :
    let start := ofMailboxes (.create "broker" 9000 1)
    let alone := [.openSender firstNamesake "s", .openReceiver firstNamesake "r",
      .send "s" .heartbeat, .send "s" .heartbeat, .drop "s", .receive "r", .receive "r"]
    firstNamesake.text = secondNamesake.text ∧ firstNamesake ≠ secondNamesake ∧
    (start.seen firstNamesake entangled).map Prod.fst = alone ∧
    (start.run alone).1 = [.opened firstNamesake, .opened firstNamesake, .sent, .full, .done,
      .packet .heartbeat, .ended] := by
  intro start alone
  have halone : (start.seen firstNamesake entangled).map Prod.fst = alone := by decide +kernel
  have hanswers : (start.seen firstNamesake entangled).map Prod.snd =
      [.opened firstNamesake, .opened firstNamesake, .sent, .full, .done, .packet .heartbeat,
        .ended] := by
    decide +kernel
  have hrun : (start.run ((start.seen firstNamesake entangled).map Prod.fst)).1 =
      (start.seen firstNamesake entangled).map Prod.snd :=
    (seen_alone "broker" 9000 1 firstNamesake entangled (by decide)).1
  rw [halone, hanswers] at hrun
  exact ⟨by decide +kernel, by decide +kernel, halone, hrun⟩

end Session
end ScatterGather
