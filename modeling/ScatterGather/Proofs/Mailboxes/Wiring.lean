import ScatterGather.Proofs.Mailbox.Watching
import ScatterGather.Proofs.Mailboxes.Opening

/-!
# How merges are wired to their mailboxes

A merge asks only inputs that it still receives from: those in its queue are among them, each once,
and so is every input that a watcher on a channel stands for.

**Results.** Every operation on mailboxes, other than pulling, keeps merges wired in this way.
-/

namespace ScatterGather

namespace Merge

theorem mem_ready_wake
    {m : Merge} {input i : Nat}
    (h : i ∈ (m.wake input).ready) :
    i ∈ m.ready ∨ i = input := by
  unfold wake at h
  split at h
  · exact Or.inl h
  · simpa using h

theorem nodup_wake
    {m : Merge}
    (h : m.ready.Nodup)
    (input : Nat) :
    (m.wake input).ready.Nodup := by
  unfold wake
  split
  · exact h
  · next hnew =>
      refine List.nodup_append.2 ⟨h, by simp, ?_⟩
      intro i hi j hj heq
      rw [List.mem_singleton.1 hj] at heq
      exact hnew (heq ▸ hi)

end Merge

namespace Mailboxes

variable {s s' : Mailboxes} {number : Nat} {m m' : Merge} {r : Receiver}

/-- A merge that receives from a receiver does so at the input that a watcher stands for. -/
def Reads (s : Mailboxes) (r : Receiver) (w : Watcher) : Prop :=
  w.merge < s.nextMerge ∧ ∀ m, Registry.find? s.merges w.merge = some m →
    m.receivers[w.input]? = some r ∧ w.input ∈ m.live

/-- Merges that ask only inputs they still receive from. -/
structure Wired (s : Mailboxes) : Prop where
  live : ∀ number m, Registry.find? s.merges number = some m → m.live.Nodup
  nodup : ∀ number m, Registry.find? s.merges number = some m → m.ready.Nodup
  ready : ∀ number m, Registry.find? s.merges number = some m → ∀ i ∈ m.ready, i ∈ m.live
  watched : ∀ id, (s.box id).Watches fun g w => s.Reads ⟨id, g⟩ w

theorem Reads.sameMerges
    {w : Watcher}
    (h : s.Reads r w)
    (hsame : SameMerges s s') :
    s'.Reads r w := by
  refine ⟨hsame.next ▸ h.1, fun m' hm' => ?_⟩
  obtain ⟨m, hm, hsettled⟩ := hsame.find? hm'
  rw [Merge.receivers_of_settled hsettled, Merge.live_of_settled hsettled]
  exact h.2 m hm

theorem Wired.wake
    {woken : Option Watcher}
    (h : s.Wired)
    (hwoken : ∀ w, woken = some w → ∃ r, s.Reads r w) :
    (s.wake woken).Wired := by
  have hsame := sameMerges_wake s woken
  refine ⟨?_, ?_, ?_, ?_⟩
  · intro number m' hm'
    obtain ⟨m, hm, hsettled⟩ := hsame.find? hm'
    rw [Merge.live_of_settled hsettled]
    exact h.live number m hm
  · intro number m' hm'
    unfold Mailboxes.wake at hm'
    split at hm'
    · exact h.nodup number m' hm'
    · next w =>
        split at hm'
        · next m hm =>
            rw [Registry.find?_set] at hm'
            split at hm'
            · cases hm'
              exact Merge.nodup_wake (h.nodup _ m hm) w.input
            · exact h.nodup number m' hm'
        · exact h.nodup number m' hm'
  · intro number m' hm' i hi
    unfold Mailboxes.wake at hm'
    split at hm'
    · exact h.ready number m' hm' i hi
    · next w =>
        split at hm'
        · next m hm =>
            rw [Registry.find?_set] at hm'
            split at hm'
            · cases hm'
              rw [Merge.live_of_settled (Merge.settled_wake m w.input)]
              rcases Merge.mem_ready_wake hi with hi | rfl
              · exact h.ready _ m hm i hi
              · obtain ⟨r, hr⟩ := hwoken w rfl
                exact (hr.2 m hm).2
            · exact h.ready number m' hm' i hi
        · exact h.ready number m' hm' i hi
  · intro id g c w hc hw
    rw [box_wake] at hc
    exact (h.watched id g c w hc hw).sameMerges hsame

/-- An operation on one mailbox. -/
theorem Wired.update
    {α : Type} {id : MailboxId} {f : Mailbox → Mailbox.Outcome α}
    (h : s.Wired)
    (hf : (f (s.box id)).Watches fun g w => s.Reads ⟨id, g⟩ w) :
    (s.update id f).2.Wired := by
  have hbox : ∀ other, Mailboxes.box
      { s with boxes := Registry.set s.boxes id (f (s.box id)).box } other =
        if id = other then (f (s.box id)).box else s.box other := by
    intro other
    unfold box
    rw [Registry.find?_set]
    split <;> rfl
  have hset : Wired { s with boxes := Registry.set s.boxes id (f (s.box id)).box } := by
    refine ⟨h.live, h.nodup, h.ready, fun other g c w hc hw => ?_⟩
    rw [hbox] at hc
    split at hc
    · next heq =>
        subst heq
        exact hf.box g c w hc hw
    · exact h.watched other g c w hc hw
  refine hset.wake fun w hw => ?_
  obtain ⟨g, hg⟩ := hf.woken w hw
  exact ⟨⟨id, g⟩, hg⟩

/-! ## Senders and receivers -/

theorem Wired.openSender (h : s.Wired) (id : MailboxId) : (s.openSender id).2.Wired :=
  h.update (f := fun box => box.openSender s.capacity) ((h.watched id).openSender s.capacity)

theorem Wired.cloneSender (h : s.Wired) (sender : Sender) : (s.cloneSender sender).Wired :=
  h.update ((h.watched sender.id).cloneSender sender.generation)

theorem Wired.dropSender (h : s.Wired) (sender : Sender) : (s.dropSender sender).Wired :=
  h.update ((h.watched sender.id).dropSender sender.generation)

theorem Wired.send (h : s.Wired) (sender : Sender) (p : Packet) : (s.send sender p).2.Wired :=
  h.update ((h.watched sender.id).offer sender.generation p)

theorem Wired.sendWaiting
    (h : s.Wired)
    (sender : Sender) (p : Packet) :
    (s.sendWaiting sender p).2.2.Wired := by
  have hsent := (h.cloneSender sender).send sender p
  unfold Mailboxes.sendWaiting
  dsimp only
  split
  · next s' generation hsend _ =>
      rw [hsend] at hsent
      replace hsent : s'.Wired := hsent
      exact hsent.update (f := fun box => box.join generation)
        ((hsent.watched sender.id).join generation)
  · next s' hsend _ =>
      rw [hsend] at hsent
      replace hsent : s'.Wired := hsent
      exact hsent.dropSender sender

theorem Wired.retry (h : s.Wired) (pending : PendingSend) : (s.retry pending).2.Wired := by
  have hredeemed := h.update
    (f := fun box => box.redeem pending.generation pending.ticket pending.packet)
    ((h.watched pending.id).redeem pending.generation pending.ticket pending.packet)
  unfold Mailboxes.retry
  split
  · next hredeem =>
      rw [hredeem] at hredeemed
      exact hredeemed
  · next s' _ hredeem =>
      rw [hredeem] at hredeemed
      replace hredeemed : s'.Wired := hredeemed
      exact hredeemed.dropSender pending.sender

theorem Wired.dropPendingSend
    (h : s.Wired)
    (pending : PendingSend) :
    (s.dropPendingSend pending).Wired := by
  have hforgotten := h.update
    (f := fun box => box.forgetSend pending.generation pending.ticket)
    ((h.watched pending.id).forgetSend pending.generation pending.ticket)
  exact hforgotten.dropSender pending.sender

theorem Wired.openReceiver (h : s.Wired) (id : MailboxId) : (s.openReceiver id).2.Wired := by
  have hopened := h.update (f := fun box => box.openReceiver s.capacity)
    ((h.watched id).openReceiver s.capacity)
  unfold Mailboxes.openReceiver
  split
  · next hopen =>
      rw [hopen] at hopened
      exact hopened
  · next hopen =>
      rw [hopen] at hopened
      exact hopened

theorem Wired.receive
    {watcher : Option Watcher}
    (h : s.Wired)
    (hwatcher : ∀ w, watcher = some w → s.Reads r w) :
    (s.receive r watcher).2.Wired :=
  h.update ((h.watched r.id).receive hwatcher)

theorem Wired.dropReceiver (h : s.Wired) (r : Receiver) : (s.dropReceiver r).Wired := by
  refine h.update ?_
  have hdropped := (h.watched r.id).dropReceiver r.generation
  exact ⟨fun g c w hc hw => (hdropped.box g c w hc hw).2,
    fun w hw => (hdropped.woken w hw).imp fun _ h => h.2⟩

theorem Wired.dropReceivers
    (h : s.Wired)
    (receivers : List Receiver) :
    (receivers.foldl Mailboxes.dropReceiver s).Wired := by
  induction receivers generalizing s with
  | nil =>
      exact h
  | cons r rest ih =>
      exact ih (h.dropReceiver r)

theorem Wired.release (h : s.Wired) (id : MailboxId) : (s.release id).Wired :=
  h.update (h.watched id).release

/-! ## Merges -/

/-- A merge is put in the place of another one, or is new. -/
theorem Wired.setMerge
    (h : s.Wired)
    (hlive : m.live.Nodup)
    (hnodup : m.ready.Nodup)
    (hready : ∀ i ∈ m.ready, i ∈ m.live)
    (hwatched : ∀ (r : Receiver) c w, (s.box r.id).channels[r.generation]? = some c →
      c.watcher = some w → w.merge = number → m.receivers[w.input]? = some r ∧ w.input ∈ m.live) :
    (s.setMerge number m).Wired := by
  have hfind : ∀ k mk, Registry.find? (s.setMerge number m).merges k = some mk →
      (k = number ∧ mk = m) ∨ Registry.find? s.merges k = some mk := by
    intro k mk hmk
    rw [Mailboxes.setMerge, Registry.find?_set] at hmk
    split at hmk
    · next heq => exact Or.inl ⟨heq.symm, (Option.some.inj hmk).symm⟩
    · exact Or.inr hmk
  refine ⟨?_, ?_, ?_, ?_⟩
  · intro k mk hmk
    rcases hfind k mk hmk with ⟨-, rfl⟩ | hmk
    · exact hlive
    · exact h.live k mk hmk
  · intro k mk hmk
    rcases hfind k mk hmk with ⟨-, rfl⟩ | hmk
    · exact hnodup
    · exact h.nodup k mk hmk
  · intro k mk hmk
    rcases hfind k mk hmk with ⟨-, rfl⟩ | hmk
    · exact hready
    · exact h.ready k mk hmk
  · intro id g c w hc hw
    obtain ⟨hbelow, hreads⟩ := h.watched id g c w hc hw
    refine ⟨hbelow, fun mk hmk => ?_⟩
    rcases hfind _ mk hmk with ⟨heq, rfl⟩ | hmk
    · exact hwatched ⟨id, g⟩ c w hc hw heq
    · exact hreads mk hmk

/-- The queue of a merge changes, or what it knows of the ends of its inputs. -/
theorem Wired.requeue
    (h : s.Wired)
    (hm : Registry.find? s.merges number = some m)
    (hreceivers : m'.receivers = m.receivers)
    (hlive : m'.live = m.live)
    (hnodup : m'.ready.Nodup)
    (hready : ∀ i ∈ m'.ready, i ∈ m.live) :
    (s.setMerge number m').Wired := by
  refine h.setMerge ?_ hnodup ?_ ?_
  · rw [hlive]
    exact h.live number m hm
  · rw [hlive]
    exact hready
  · intro r c w hc hw heq
    rw [hreceivers, hlive]
    exact (h.watched r.id r.generation c w hc hw).2 m (heq ▸ hm)

theorem watcher_dropReceiver
    {c : Channel}
    (hc : ((s.dropReceiver r).box r.id).channels[r.generation]? = some c) :
    c.watcher = none := by
  rw [Mailboxes.dropReceiver, box_update, if_pos rfl, Mailbox.dropReceiver,
    Mailbox.getElem?_modify] at hc
  obtain ⟨c', -, rfl⟩ := Option.map_eq_some_iff.1 hc
  rw [if_pos rfl]
  rfl

/-- An input leaves a merge, and its receiver is dropped. -/
theorem Wired.leave
    {i : Nat}
    (h : s.Wired)
    (hm : Registry.find? s.merges number = some m)
    (hr : m.receivers[i]? = some r)
    (hreceivers : m'.receivers = m.receivers)
    (hlive : m'.live = m.live.filter (· ≠ i))
    (hnodup : m'.ready.Nodup)
    (hready : ∀ j ∈ m'.ready, j ∈ m.live ∧ j ≠ i) :
    ((s.dropReceiver r).setMerge number m').Wired := by
  have hdropped := h.dropReceiver r
  have hm' : Registry.find? (s.dropReceiver r).merges number = some m := hm
  refine hdropped.setMerge ?_ hnodup ?_ ?_
  · rw [hlive]
    exact (h.live number m hm).filter _
  · intro j hj
    rw [hlive]
    exact List.mem_filter.2 ⟨(hready j hj).1, decide_eq_true (hready j hj).2⟩
  · intro other c w hc hw heq
    obtain ⟨hinput, hmem⟩ := (hdropped.watched other.id other.generation c w hc hw).2 m (heq ▸ hm')
    rw [hreceivers, hlive]
    refine ⟨hinput, List.mem_filter.2 ⟨hmem, decide_eq_true ?_⟩⟩
    rintro rfl
    cases hr.symm.trans hinput
    rw [watcher_dropReceiver hc] at hw
    cases hw

theorem Wired.openReceivers
    (h : s.Wired)
    (opened : List Receiver) (ids : List MailboxId) :
    (s.openReceivers opened ids).2.Wired := by
  induction ids generalizing s opened with
  | nil =>
      exact h
  | cons id ids ih =>
      have hopened := h.openReceiver id
      unfold Mailboxes.openReceivers
      split
      · next r s' hopen =>
          rw [hopen] at hopened
          exact ih hopened _
      · next fault s' hopen =>
          rw [hopen] at hopened
          replace hopened : s'.Wired := hopened
          exact hopened.dropReceivers opened

/-- No watcher stands for an input of a merge that is yet to be opened. -/
theorem Wired.openMerge (h : s.Wired) (request : MergeRequest) : (s.openMerge request).2.Wired := by
  unfold Mailboxes.openMerge
  split
  · exact h
  · next senders _ =>
      have hopened := h.openReceivers [] (senders.map request.idOf)
      split
      · next hopen =>
          rw [hopen] at hopened
          exact hopened
      · next receivers s' hopen =>
          rw [hopen] at hopened
          replace hopened : s'.Wired := hopened
          have hadded : (s'.setMerge s'.nextMerge
              (.ofReceivers request.schema request.routing receivers)).Wired := by
            refine hopened.setMerge List.nodup_range List.nodup_range (fun _ hi => hi) ?_
            intro r c w hc hw heq
            have hbelow := (hopened.watched r.id r.generation c w hc hw).1
            omega
          refine ⟨hadded.live, hadded.nodup, hadded.ready, fun id g c w hc hw => ?_⟩
          obtain ⟨hbelow, hreads⟩ := hadded.watched id g c w hc hw
          exact ⟨Nat.lt_succ_of_lt hbelow, hreads⟩

theorem Wired.dropMerge (h : s.Wired) (number : Nat) : (s.dropMerge number).Wired := by
  unfold Mailboxes.dropMerge
  split
  · next m _ =>
      have hdropped := h.dropReceivers (m.live.filterMap fun input => m.receivers[input]?)
      have hfind : ∀ (merges : Registry Nat Merge) k mk,
          Registry.find? (Registry.erase merges number) k = some mk →
            Registry.find? merges k = some mk := by
        intro merges k mk hmk
        rw [Registry.find?_erase] at hmk
        split at hmk
        · cases hmk
        · exact hmk
      refine ⟨fun k mk hmk => hdropped.live k mk (hfind _ k mk hmk),
        fun k mk hmk => hdropped.nodup k mk (hfind _ k mk hmk),
        fun k mk hmk => hdropped.ready k mk (hfind _ k mk hmk), fun id g c w hc hw => ?_⟩
      obtain ⟨hbelow, hreads⟩ := hdropped.watched id g c w hc hw
      exact ⟨hbelow, fun mk hmk => hreads mk (hfind _ _ mk hmk)⟩
  · exact h

/-- Mailboxes on which nothing was done. -/
theorem wired_create (host : String) (mailboxPort : UInt16) (capacity : Nat) :
    (Mailboxes.create host mailboxPort capacity).Wired where
  live _ _ hm := by cases hm
  nodup _ _ hm := by cases hm
  ready _ _ hm := by cases hm
  watched _ _ _ _ hc := by cases hc

end Mailboxes
end ScatterGather
