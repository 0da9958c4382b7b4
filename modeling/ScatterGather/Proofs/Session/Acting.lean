import ScatterGather.Proofs.Session.Custody
import ScatterGather.Proofs.Session.Draining
import ScatterGather.Proofs.Session.Isolation

/-!
# Acts in order

Steps on handles that are held by name and uses of merges by their numbers come one after another.

**Results.** Whatever acts are done, the mailboxes of a session are in order with regard to what is
held, and whoever was given a receiver still has it, or dropped it. What one mailbox sees of acts is
what it sees of the steps among them, if the other acts leave it alone.
-/

namespace ScatterGather

/-- Whether an act is a use of a merge by its number. -/
def Act.byNumber : Act → Bool
  | .step _ => false
  | _ => true

namespace Session

variable {α : Type} {H : History} {attached spent given : Receiver → Prop} {s t : Session}
variable {number : Nat} {inputs : List Receiver} {acts : List Act} {A : MailboxId}

/-- Handles are held by steps only. -/
theorem held_perform
    {act : Act}
    (hact : act.byNumber = true)
    (s : Session) :
    (s.perform act).held = s.held := by
  cases act with
  | step step => cases hact
  | _ => rfl

/-- What there is of acts done in turn. -/
def along (f : Session → Act → List α) (s : Session) : List Act → List α
  | [] => []
  | act :: acts => f s act ++ along f (s.perform act) acts

theorem along_append (f : Session → Act → List α) (s : Session) (acts more : List Act) :
    along f s (acts ++ more) = along f s acts ++ along f (s.performAll acts) more := by
  induction acts generalizing s with
  | nil =>
      rfl
  | cons act acts ih =>
      rw [List.cons_append, along, along, ih, List.append_assoc]
      rfl

/-- The senders that an act opens. -/
def sendersOf (s : Session) : Act → List Sender
  | .step step => s.stepOpens step
  | _ => []

/-- The receivers that a use of a merge by its number is given. -/
def receiversOf (s : Session) : Act → List Receiver
  | .openMerge request => s.mailboxes.givenTo request
  | _ => []

/-- The receivers that an act is given. -/
def givenBy (s : Session) : Act → List Receiver
  | .step step => s.stepGiven step
  | act => s.receiversOf act

theorem mem_givenBy_of_mem_receiversOf
    {act : Act} {r : Receiver}
    (h : r ∈ s.receiversOf act) :
    r ∈ s.givenBy act := by
  cases act with
  | step step => cases h
  | _ => exact h

theorem mem_along_givenBy
    {r : Receiver}
    (h : r ∈ along receiversOf s acts) :
    r ∈ along givenBy s acts := by
  induction acts generalizing s with
  | nil =>
      cases h
  | cons act acts ih =>
      rcases List.mem_append.1 h with hfirst | hrest
      · exact List.mem_append_left _ (mem_givenBy_of_mem_receiversOf hfirst)
      · exact List.mem_append_right _ (ih hrest)

/-- A merge is given its receivers when it is opened. -/
theorem along_receiversOf_of_drains
    (hacts : ∀ act ∈ acts, act.drains number = true)
    (s : Session) :
    along receiversOf s acts = [] := by
  induction acts generalizing s with
  | nil =>
      rfl
  | cons act acts ih =>
      obtain ⟨hact, hrest⟩ := List.forall_mem_cons.1 hacts
      rw [along, ih hrest (s.perform act), List.append_nil]
      cases act with
      | openMerge request => cases hact
      | _ => rfl

/-! ## Order -/

theorem Orderly.perform
    (h : s.Orderly H attached spent)
    (act : Act) :
    (s.perform act).Orderly (H ++ s.events act) (fun r => attached r ∨ r.sender ∈ s.sendersOf act)
      spent := by
  cases act with
  | step step =>
      exact (takes_step s step).orderly h
  | openMerge request =>
      exact (h.withMailboxes (h.mailboxes.openMerge request)).unattached
  | pull number =>
      exact (h.pull number).unattached
  | dropMerge number =>
      exact (h.withMailboxes (h.mailboxes.dropMerge number)).silently.unattached

theorem Orderly.performAll
    (h : s.Orderly H attached spent)
    (acts : List Act) :
    (s.performAll acts).Orderly (H ++ s.history acts)
      (fun r => attached r ∨ r.sender ∈ along sendersOf s acts) spent := by
  induction acts generalizing s H attached with
  | nil =>
      exact h.silently.unattached
  | cons act acts ih =>
      have hrest := ih (h.perform act)
      rw [List.append_assoc] at hrest
      refine ⟨hrest.mailboxes.congr (fun _ => rfl) fun r => ?_, hrest.names, hrest.single⟩
      rw [along, List.mem_append, or_assoc]

/-! ## Custody -/

theorem Custody.perform
    (ho : s.Orderly H attached spent)
    (h : s.Custody given)
    (act : Act)
    (hreleased : ∀ id, act ≠ .step (.release id)) :
    (s.perform act).Custody (fun r => given r ∨ r ∈ s.givenBy act) := by
  have hsound := ho.mailboxes.sound
  have hwired := ho.mailboxes.wired
  cases act with
  | step step =>
      refine (takes_step s step).custody ho h fun id hmem => ?_
      exact hreleased id (congrArg Act.step ((mem_stepEvents hmem).2 id rfl))
  | openMerge request =>
      exact Mailboxes.Custody.openMerge h hsound request
  | pull number =>
      exact Custody.unchanged (Mailboxes.Custody.pull h hsound hwired number)
  | dropMerge number =>
      exact Custody.unchanged (Mailboxes.Custody.dropMerge h hsound hwired number)

theorem Custody.performAll
    (ho : s.Orderly H attached spent)
    (h : s.Custody given)
    (hreleased : ∀ id, .step (.release id) ∉ acts) :
    (s.performAll acts).Custody (fun r => given r ∨ r ∈ along givenBy s acts) := by
  induction acts generalizing s H attached given with
  | nil =>
      exact h.unchanged
  | cons act acts ih =>
      have hfirst := h.perform ho act fun id heq => hreleased id (heq ▸ List.mem_cons_self)
      have hrest := ih (ho.perform act) hfirst
        fun id hmem => hreleased id (List.mem_cons_of_mem _ hmem)
      refine hrest.congr fun r => ?_
      rw [along, List.mem_append, or_assoc]

theorem leaves_perform (s : Session) (act : Act) :
    Mailboxes.Leaves (fun _ => True) s.mailboxes (s.perform act).mailboxes := by
  cases act with
  | step step =>
      exact (leaves_step s step).mono fun _ _ => trivial
  | openMerge request =>
      exact Mailboxes.leaves_openMerge s.mailboxes request
  | pull number =>
      exact Mailboxes.leaves_pull s.mailboxes number
  | dropMerge number =>
      exact Mailboxes.leaves_dropMerge s.mailboxes trivial

theorem leaves_performAll (s : Session) (acts : List Act) :
    Mailboxes.Leaves (fun _ => True) s.mailboxes (s.performAll acts).mailboxes := by
  induction acts generalizing s with
  | nil =>
      exact .refl _
  | cons act acts ih =>
      exact (leaves_perform s act).trans (ih (s.perform act))

/-! ## From the start -/

/-- A session that acts have led to from the start, none of which released anything, and of which it
is known what they opened and what they were given. -/
structure Reached (start : Session) (acts : List Act) : Prop where
  orderly : (start.performAll acts).Orderly (start.history acts)
    (fun r => r.sender ∈ along sendersOf start acts) (fun _ => False)
  custody : (start.performAll acts).Custody (· ∈ along givenBy start acts)
  entries : (Registry.keys (start.performAll acts).mailboxes.boxes).Nodup
  unreleased : ∀ id, .released id ∉ start.history acts

/-- **Acts from the start.** -/
theorem reached_performAll
    (host : String) (mailboxPort : UInt16) (capacity : Nat)
    (hreleased : ∀ id, .step (.release id) ∉ acts) :
    (ofMailboxes (.create host mailboxPort capacity)).Reached acts := by
  have hstart := orderly_start host mailboxPort capacity
  have horderly := hstart.performAll acts
  have hcustody := (custody_start host mailboxPort capacity).performAll hstart hreleased
  rw [List.nil_append] at horderly
  refine ⟨⟨horderly.mailboxes.congr (fun _ => rfl) (by simp), horderly.names, horderly.single⟩,
    hcustody.congr (by simp), (leaves_performAll _ acts).entries List.nodup_nil, ?_⟩
  exact fun id hmem => hreleased id (release_of_mem_history hmem)

/-! ## Merges of one's own -/

/-- A merge of one's own stays so while it is drained. -/
theorem Owns.performAll
    (h : s.Owns number inputs)
    (hacts : ∀ act ∈ acts, act.drains number = true) :
    (s.performAll acts).Owns number inputs := by
  induction acts generalizing s with
  | nil =>
      exact h
  | cons act acts ih =>
      obtain ⟨hact, hrest⟩ := List.forall_mem_cons.1 hacts
      refine ih ?_ hrest
      cases act with
      | step step => exact h.step step
      | pull k => exact h.pull k
      | openMerge request => cases hact
      | dropMerge k => cases hact

/-! ## What one mailbox sees -/

/-- What a mailbox sees of an act: nothing, unless it is a step. -/
def seenBy (A : MailboxId) (s : Session) : Act → List (Step × Answer)
  | .step step => s.seenOf A step
  | _ => []

/-- Uses of merges by their numbers that leave a mailbox alone are not missed by those who use the
mailbox. -/
theorem Restricts.performAll
    (h : Restricts A s t)
    (hsingle : ∀ step, .step step ∈ acts → step.single = true)
    (halone : ∀ front act back, acts = front ++ act :: back → act.byNumber = true →
      Mailboxes.Agrees A (s.performAll front).mailboxes
        ((s.performAll front).perform act).mailboxes) :
    t.Replays A (along (seenBy A) s acts) ∧
      Restricts A (s.performAll acts) (t.run ((along (seenBy A) s acts).map Prod.fst)).2 := by
  induction acts generalizing s t with
  | nil =>
      exact ⟨replays_nil t A, h⟩
  | cons act acts ih =>
      have hfirst : t.Replays A (s.seenBy A act) ∧
          Restricts A (s.perform act) (t.run ((s.seenBy A act).map Prod.fst)).2 := by
        have hown : act.byNumber = true →
            Mailboxes.Agrees A s.mailboxes (s.perform act).mailboxes :=
          halone [] act acts rfl
        cases act with
        | step step =>
            exact h.afterStep (hsingle step List.mem_cons_self)
        | _ =>
            exact ⟨replays_nil t A, h.withMailboxes_left ((hown rfl).symm.trans h.mailboxes)⟩
      obtain ⟨hreplays, hafter⟩ := hfirst
      have hrest : ∀ front other back, acts = front ++ other :: back → other.byNumber = true →
          Mailboxes.Agrees A ((s.perform act).performAll front).mailboxes
            (((s.perform act).performAll front).perform other).mailboxes :=
        fun front other back heq => halone (act :: front) other back (congrArg (act :: ·) heq)
      obtain ⟨hmore, hend⟩ :=
        ih hafter (fun step hstep => hsingle step (List.mem_cons_of_mem _ hstep)) hrest
      refine ⟨hreplays.append hmore, ?_⟩
      rw [along, List.map_append, run_append]
      exact hend

end Session
end ScatterGather
