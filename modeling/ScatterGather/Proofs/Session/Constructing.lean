import ScatterGather.Proofs.Mailboxes.Constructing
import ScatterGather.Proofs.Session.Motion

/-!
# When a merge can be opened

A worker that merges the mailboxes of a stage asks for all of their receivers at once. Others may
have been given some of them before, and the senders of the stage need not have distinct mailboxes.

**Results.** Whatever motions were made before, a merge is opened exactly if its mailboxes are
distinct and the receiver of none is given out, and, for a singleton exchange, there is one sender
on the receiver's own mailbox address. If it cannot be opened, it is said which fault is reported,
and what was done to the mailboxes until then.
-/

namespace ScatterGather
namespace Session

/-- **Construction of a merge.** It is opened exactly if there is one sender at a singleton exchange
and all mailboxes are distinct and to be given out. Then the merge lists them in their order and
receives from each. With another number of senders nothing is touched. Otherwise the fault names the
first mailbox in order that repeats an earlier one or was given out; the receivers of those before
it were taken and dropped, and nothing else happened. -/
theorem openMerge_ok_iff
    (host : String) (mailboxPort : UInt16) (capacity : Nat) (motions : List Motion)
    (request : MergeRequest) :
    let s := ((ofMailboxes (.create host mailboxPort capacity)).moveAll motions).mailboxes
    let s' := (s.openMerge request).2
    ((∃ number, (s.openMerge request).1 = .ok number) ↔
      request.Admitted ∧ request.ids.Nodup ∧ ∀ id ∈ request.ids, ¬ (s.box id).Taken) ∧
    (∀ number, (s.openMerge request).1 = .ok number →
      s.Gathers request number s' ∧
        ∀ m, Registry.find? s'.merges number = some m → ∀ r ∈ m.receivers, s'.Open r) ∧
    (¬ request.Admitted → s.openMerge request =
      (.error (.notOneSender request.host request.mailboxPort request.candidates.length), s)) ∧
    (request.Admitted → ¬ (request.ids.Nodup ∧ ∀ id ∈ request.ids, ¬ (s.box id).Taken) →
      ∃ fault, (s.openMerge request).1 = .error fault ∧ s.Refuses request.ids fault s') := by
  intro s s'
  obtain ⟨H, attached, horderly⟩ := orderly_moveAll host mailboxPort capacity motions
  have hbalanced : s.Balanced := horderly.mailboxes.balanced
  have hopened := horderly.mailboxes.openMerge request
  have hadmitted : ∀ number, (s.openMerge request).1 = .ok number → request.Admitted := by
    intro number hanswer
    by_contra hrefused
    rw [Mailboxes.openMerge_of_not_admitted hrefused] at hanswer
    cases hanswer
  refine ⟨⟨?_, ?_⟩, ?_, fun hrefused => Mailboxes.openMerge_of_not_admitted hrefused s, ?_⟩
  · rintro ⟨number, hanswer⟩
    rcases Mailboxes.openMerge_cases hbalanced (hadmitted number hanswer) with
      ⟨_, -, havailable, -⟩ | ⟨fault, herror, -⟩
    · exact ⟨hadmitted number hanswer, havailable⟩
    · cases hanswer.symm.trans herror
  · rintro ⟨hone, havailable⟩
    rcases Mailboxes.openMerge_cases hbalanced hone with ⟨number, hanswer, -⟩ | ⟨_, -, hrefuses⟩
    · exact ⟨number, hanswer⟩
    · exact absurd havailable hrefuses.not_available
  · intro number hanswer
    rcases Mailboxes.openMerge_cases hbalanced (hadmitted number hanswer) with
      ⟨_, hanswer', -, hgathers⟩ | ⟨fault, herror, -⟩
    · cases hanswer.symm.trans hanswer'
      refine ⟨hgathers, fun m hm r hr => ?_⟩
      obtain ⟨m', hm', -, -, -, hlive⟩ := hgathers.merge
      cases hm.symm.trans hm'
      obtain ⟨i, hi⟩ := List.mem_iff_getElem?.1 hr
      exact (hopened.sound.follows number m hm).live i r hi (hlive i r hi).1
    · cases hanswer.symm.trans herror
  · intro hone hunavailable
    rcases Mailboxes.openMerge_cases hbalanced hone with ⟨_, -, havailable, -⟩ | hrefused
    · exact absurd havailable hunavailable
    · exact hrefused

end Session
end ScatterGather
