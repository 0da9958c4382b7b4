import ScatterGather.Proofs.Mailboxes.Bookkeeping
import ScatterGather.Proofs.Session.Alert

/-!
# The books of a merge are kept

**Results.** `books_kept`: whatever motions are made before a merge is opened and after that, as long
as it is open it has one mark for each of its senders and counts those without one, and neither what
its senders send nor when they hang up can make the count wrong or end the merge too early.
-/

namespace ScatterGather

/-- The request with which a motion opens a merge. -/
def Motion.request? : Motion → Option MergeRequest
  | .act (.openMerge request) => some request
  | .act (.step (.openMerge request _)) => some request
  | _ => none

namespace Session

variable {H : History} {attached spent : Receiver → Prop} {s : Session} {request : MergeRequest}
variable {number : Nat} {m : Merge} {opening : Motion}

/-! ## The senders of a merge -/

theorem leaves_move (s : Session) (motion : Motion) :
    Mailboxes.Leaves (fun _ => True) s.mailboxes (s.move motion).mailboxes := by
  cases motion with
  | act act =>
      exact leaves_perform s act
  | turn number =>
      show Mailboxes.Leaves _ s.mailboxes (s.mailboxes.takeTurn number)
      unfold Mailboxes.takeTurn
      split
      · next m hm => exact Mailboxes.leaves_turn hm
      · exact .refl _

theorem leaves_moveAll (s : Session) (motions : List Motion) :
    Mailboxes.Leaves (fun _ => True) s.mailboxes (s.moveAll motions).mailboxes := by
  induction motions generalizing s with
  | nil =>
      exact .refl _
  | cons motion motions ih =>
      exact (leaves_move s motion).trans (ih (s.move motion))

/-- After a merge was opened it may be held by a name, and what had the name is dropped. -/
theorem leaves_opening
    (hopening : opening.request? = some request)
    (s : Session) :
    Mailboxes.Leaves (fun _ => True) (s.mailboxes.openMerge request).2
      (s.move opening).mailboxes := by
  unfold Motion.request? at hopening
  split at hopening
  · cases hopening
    exact .refl _
  · next request' name =>
      cases hopening
      show Mailboxes.Leaves _ _ (s.step (.openMerge request name)).2.mailboxes
      rcases s.step_openMerge request name with hrefused | ⟨number, -, hopened⟩
      · rw [hrefused]
        exact .refl _
      · rw [hopened]
        exact (leaves_hold s name _ _).mono fun _ _ => trivial
  · cases hopening

/-- A merge has the mailboxes of the senders that it was opened for, as long as it is open. -/
theorem ids_of_opened
    (hopening : opening.request? = some request)
    (hanswer : (s.mailboxes.openMerge request).1 = .ok number)
    (motions : List Motion)
    (hm : Registry.find? ((s.move opening).moveAll motions).mailboxes.merges number = some m) :
    ∃ senders, request.chosen = .ok senders ∧ m.ids = senders.map request.idOf := by
  obtain ⟨senders, opened, hchosen, hopened, hids⟩ :=
    Mailboxes.ids_openMerge (Prod.ext hanswer rfl)
  obtain ⟨-, hnext⟩ := Mailboxes.openMerge_number hanswer
  have hleaves := (leaves_opening hopening s).trans (leaves_moveAll (s.move opening) motions)
  have hfound : ((s.move opening).moveAll motions).mailboxes.inputs? number = some m.receivers :=
    congrArg (Option.map Merge.receivers) hm
  have hgiven : (s.mailboxes.openMerge request).2.inputs? number = some opened.receivers :=
    congrArg (Option.map Merge.receivers) hopened
  refine ⟨senders, hchosen, ?_⟩
  rcases hleaves.opened number (by omega) with hsame | hdropped
  · have hreceivers : m.receivers = opened.receivers := by
      rw [← Option.some_inj, ← hgiven, ← hsame]
      exact hfound.symm
    rw [← hids, Merge.ids, hreceivers, Merge.ids]
  · cases hfound.symm.trans hdropped

/-! ## Pulls are made of turns -/

theorem pullWithin_eq_turns (s : Session) (number turns : Nat) :
    ∃ count, s.withMailboxes (s.mailboxes.pullWithin number turns).mailboxes =
      s.moveAll (List.replicate count (.turn number)) := by
  induction turns generalizing s with
  | zero =>
      exact ⟨0, rfl⟩
  | succ turns ih =>
      unfold Mailboxes.pullWithin
      split
      · exact ⟨0, rfl⟩
      · next m hm =>
          have hmove : s.move (.turn number) =
              s.withMailboxes (s.mailboxes.turn number m).2.2 := by
            rw [← Mailboxes.takeTurn_of_find? hm]
            rfl
          generalize s.mailboxes.turn number m = answer at hmove ⊢
          obtain ⟨findings, turn, mailboxes⟩ := answer
          cases turn with
          | passes p =>
              exact ⟨1, hmove.symm⟩
          | idle =>
              exact ⟨1, hmove.symm⟩
          | again =>
              obtain ⟨count, hcount⟩ := ih (s.withMailboxes mailboxes)
              refine ⟨count + 1, ?_⟩
              rw [List.replicate_succ, moveAll, hmove]
              exact hcount

theorem pull_eq_turns (s : Session) (number : Nat) :
    ∃ count, s.withMailboxes (s.mailboxes.pull number).mailboxes =
      s.moveAll (List.replicate count (.turn number)) := by
  unfold Mailboxes.pull
  split
  · exact pullWithin_eq_turns s number _
  · exact ⟨0, rfl⟩

/-- **The books are kept.** A merge is opened after any motions, directly or under a name, and any
motions are made after that. As long as it is open:

* it has one mark for each of its senders, counts those that are not marked, and still receives from
  every sender that is not marked, over a channel that is open at this end;
* a turn asks only inputs that it receives from, all of which have a mark. It marks the one whose end
  it makes known, and counts it if that is the first time, when there is one to count;
* so while something is counted there is a sender to receive from, and a turn ends the merge exactly
  when nothing is counted;
* a pull is made of such turns, asks only inputs that have a mark, and ends the merge only when all
  are marked. -/
theorem books_kept
    (host : String) (mailboxPort : UInt16) (capacity : Nat) (before after : List Motion)
    (opening : Motion) (request : MergeRequest) (number : Nat) (m : Merge) :
    let s₀ := (ofMailboxes (.create host mailboxPort capacity)).moveAll before
    let s := (s₀.move opening).moveAll after
    opening.request? = some request →
    (s₀.mailboxes.openMerge request).1 = .ok number →
    Registry.find? s.mailboxes.merges number = some m →
      (∃ senders, request.chosen = .ok senders ∧ m.ids = senders.map request.idOf ∧
        m.finished.length = senders.length) ∧
      m.remaining = m.finished.count false ∧
      (∀ i : Nat, m.finished[i]? = some false → i ∈ m.live ∧ ∃ r c, m.receivers[i]? = some r ∧
        (s.mailboxes.slot r).channel? = some c ∧ c.receiving = true) ∧
      (∀ f ∈ (s.mailboxes.turn number m).1, f.input ∈ m.live ∧ f.input < m.finished.length) ∧
      (∃ m', Registry.find? (s.mailboxes.turn number m).2.2.merges number = some m' ∧
        m.Notes ((s.mailboxes.turn number m).1.findSome? Finding.ending?) m') ∧
      (0 < m.remaining → m.live ≠ []) ∧
      ((s.mailboxes.turn number m).2.1 = .passes .cleanEnd ↔ m.remaining = 0) ∧
      (∃ count, s.withMailboxes (s.mailboxes.pull number).mailboxes =
        s.moveAll (List.replicate count (.turn number))) ∧
      (∀ f ∈ (s.mailboxes.pull number).findings, f.input < m.finished.length) ∧
      ((s.mailboxes.pull number).packet = some .cleanEnd →
        ∃ m', Registry.find? (s.mailboxes.pull number).mailboxes.merges number = some m' ∧
          m'.finished.length = m.finished.length ∧ ∀ marked ∈ m'.finished, marked = true) := by
  intro s₀ s hopening hanswer hm
  obtain ⟨_, _, h₀⟩ := orderly_moveAll host mailboxPort capacity before
  have halert₀ : s₀.mailboxes.Alert := alert_moveAll host mailboxPort capacity before
  obtain ⟨_, _, h⟩ := h₀.moveAll (opening :: after)
  have halert : s.mailboxes.Alert := h₀.alert_moveAll halert₀ (opening :: after)
  have hsound := h.mailboxes.sound
  have hbooks := hsound.books h.mailboxes.wired halert hm
  obtain ⟨senders, hchosen, hids⟩ := ids_of_opened hopening hanswer after hm
  have hlength : m.finished.length = senders.length := by
    have hcount := congrArg List.length hids
    rwa [Merge.ids, List.length_map, List.length_map, ← hbooks.length] at hcount
  refine ⟨⟨senders, hchosen, hids, hlength⟩, hbooks.remaining, ?_, ?_,
    Mailboxes.notes_turn hbooks hm, fun hpos => hbooks.live_ne_nil (Nat.ne_of_gt hpos),
    Mailboxes.turn_eq_cleanEnd_iff hbooks, pull_eq_turns s number, ?_, ?_⟩
  · intro i hunmarked
    have hlive := hbooks.unmarked i hunmarked
    have hr : m.receivers[i]? = some _ :=
      List.getElem?_eq_getElem (hbooks.length ▸ hbooks.live i hlive)
    obtain ⟨c, hc, hopen⟩ := (hsound.follows number m hm).live i _ hr hlive
    exact ⟨hlive, _, c, hr, hc, hopen⟩
  · intro f hf
    have hlive := Mailboxes.input_mem_live_of_turn hbooks hf
    exact ⟨hlive, hbooks.live f.input hlive⟩
  · rw [hbooks.length]
    exact hsound.input_lt_of_pull h.mailboxes.wired halert hm
  · intro hclean
    obtain ⟨m', hm', hreceivers, hzero⟩ := hsound.remaining_of_pull_cleanEnd hm hclean
    have hpulled := (h.pull number).mailboxes
    have hbooks' := hpulled.sound.books hpulled.wired (halert.pull hsound number) hm'
    refine ⟨m', hm', ?_, hbooks'.remaining_eq_zero_iff.1 hzero⟩
    rw [hbooks'.length, hbooks.length, hreceivers]

/-- Two workers hold senders. -/
def workersOpen : List Motion :=
  [.act (.step (.openSender (hangUpRequest.idOf ⟨"worker-a", 8421, 8442⟩) "a")),
   .act (.step (.openSender (hangUpRequest.idOf ⟨"worker-b", 8421, 8442⟩) "b"))]

/-- The first worker sends two ends and hangs up, and all of this is found. Then the second one
fails. -/
def endedTwice : List Motion :=
  [.act (.step (.send "a" .cleanEnd)), .act (.step (.send "a" .cleanEnd)),
   .act (.step (.drop "a")), .turn 0, .turn 0, .turn 0, .turn 0,
   .act (.step (.send "b" (.failedEnd (.execution "lost"))))]

/-- The merge over both, which has counted the first worker once. -/
def endedTwiceMerge : Merge :=
  { askInVainMerge with
    finished := [true, false]
    remaining := 1
    live := [1]
    ready := [1] }

/-- The failure of the second worker is still counted, and the merge does not end before it. -/
theorem books_kept_endedTwice :
    let s₀ := (ofMailboxes (.create "broker" 9000 4)).moveAll workersOpen
    let s := (s₀.move (.act (.openMerge hangUpRequest))).moveAll endedTwice
    (s₀.mailboxes.openMerge hangUpRequest).1 = .ok 0 ∧
    Registry.find? s.mailboxes.merges 0 = some endedTwiceMerge ∧
    (∃ m', Registry.find? (s.mailboxes.turn 0 endedTwiceMerge).2.2.merges 0 = some m' ∧
      endedTwiceMerge.Notes (some 1) m') ∧
    (s.mailboxes.turn 0 endedTwiceMerge).2.1 ≠ .passes .cleanEnd := by
  dsimp only
  obtain ⟨-, -, -, -, ⟨m', hm', hnotes⟩, -, hclean, -⟩ :=
    books_kept "broker" 9000 4 workersOpen endedTwice (.act (.openMerge hangUpRequest))
      hangUpRequest 0 endedTwiceMerge rfl (by decide +kernel) (by decide +kernel)
  refine ⟨by decide +kernel, by decide +kernel, ⟨m', hm', ?_⟩, ?_⟩
  · convert hnotes using 1
    decide +kernel
  · rw [Ne, hclean]
    decide

end Session
end ScatterGather
