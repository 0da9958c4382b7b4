import ScatterGather.Proofs.Mailboxes.Opening
import ScatterGather.Proofs.Mailboxes.Turn

/-!
# Pulling from a merge

A pull asks inputs one after the other. While it goes on, it counts as a pull from which no packet
has come yet, so that what one question does to the mailboxes and to their history is said in the
same terms as what a whole pull does.

**Results.** A pull keeps mailboxes in agreement with their history. Once a clean end came of a
pull, it comes of every later one, and nothing else happens.
-/

namespace ScatterGather

/-- The packet that a turn passes on, if there is one. -/
def Turn.packet? : Turn → Option Packet
  | passes p => some p
  | _ => none

namespace Mailboxes

variable {H : History} {outer : Receiver → Prop} {s s' : Mailboxes}
variable {number : Nat} {m m' : Merge} {findings new : List Finding} {packet : Option Packet}
variable {change : Option (Receiver × Change)}

theorem find?_setMerge (s : Mailboxes) (number : Nat) (m : Merge) :
    Registry.find? (s.setMerge number m).merges number = some m :=
  (Registry.find?_set _ _ _ _).trans (if_pos rfl)

/-- Mailboxes before and after something that changes at most one channel, and one merge, which
becomes `m'`. -/
structure Moves (s : Mailboxes) (change : Option (Receiver × Change)) (number : Nat) (m' : Merge)
    (s' : Mailboxes) : Prop where
  slots : ∀ r, Slot.Becomes (Change.at? change r) (s.slot r) (s'.slot r)
  next : s'.nextMerge = s.nextMerge
  others : ∀ k, k ≠ number → (Registry.find? s'.merges k).map Merge.settled =
    (Registry.find? s.merges k).map Merge.settled
  merge : Registry.find? s'.merges number = some m'

theorem Moves.refl
    (hm : Registry.find? s.merges number = some m) :
    s.Moves none number m s where
  slots _ := .refl _
  next := rfl
  others _ _ := rfl
  merge := hm

theorem Evolves.moves
    (h : s.Evolves change s')
    (number : Nat) (m' : Merge) :
    s.Moves change number m' (s'.setMerge number m') where
  slots := h.slots
  next := h.merges.next
  others k hk := by
    rw [Mailboxes.setMerge, Registry.find?_set, if_neg (Ne.symm hk)]
    exact h.merges.settled k
  merge := find?_setMerge s' number m'

theorem Moves.find?
    (h : s.Moves change number m' s')
    {k : Nat} {mk : Merge}
    (hk : k ≠ number)
    (hfind : Registry.find? s'.merges k = some mk) :
    ∃ m, Registry.find? s.merges k = some m ∧ mk.settled = m.settled := by
  have hsettled := h.others k hk
  rw [hfind] at hsettled
  obtain ⟨m, hm, heq⟩ := Option.map_eq_some_iff.1 hsettled.symm
  exact ⟨m, hm, heq.symm⟩

theorem Moves.holds
    (h : s.Moves change number m' s')
    (hm : Registry.find? s.merges number = some m)
    (hreceivers : m'.receivers = m.receivers)
    {holder : Option Nat} {r : Receiver}
    (hholds : s'.Holds outer holder r) :
    s.Holds outer holder r := by
  cases holder with
  | none =>
      exact hholds
  | some k =>
      obtain ⟨mk, hmk, hmem⟩ := hholds
      by_cases hk : k = number
      · subst hk
        cases h.merge.symm.trans hmk
        exact ⟨m, hm, hreceivers ▸ hmem⟩
      · obtain ⟨m₀, hm₀, heq⟩ := h.find? hk hmk
        exact ⟨m₀, hm₀, Merge.receivers_of_settled heq ▸ hmem⟩

theorem Retains.setMerge
    {id : MailboxId}
    (h : s.Retains change s' H id)
    (number : Nat) (m' : Merge) :
    s.Retains change (s'.setMerge number m') H id :=
  ⟨h.first, h.unreceived⟩

/-- The merge pulled from goes on to agree: nothing is taken from a channel but through it, and an
input that leaves it has a closed channel from which everything was taken. -/
theorem Follows.pull
    (h : s.Follows (H ++ [.pulled number m.receivers ⟨findings, none⟩]) number m)
    (hslots : ∀ r, Slot.Becomes (Change.at? change r) (s.slot r) (s'.slot r))
    (hextends : History.Extends (H ++ [.pulled number m.receivers ⟨findings, none⟩]) change
      (H ++ [.pulled number m.receivers ⟨findings ++ new, packet⟩]))
    (hreceivers : m'.receivers = m.receivers)
    (htally : m'.Tally (H.pulls number ++ [⟨findings ++ new, packet⟩]))
    (hnew : ∀ i r, m.receivers[i]? = some r →
      new.flatMap (Finding.takes i) = Change.taken (Change.at? change r))
    (hlive : ∀ i r, m.receivers[i]? = some r → i ∈ m'.live →
      i ∈ m.live ∧ Change.at? change r ≠ some .closed)
    (hgone : ∀ i r, m.receivers[i]? = some r → i ∈ m.live → i ∉ m'.live →
      Change.at? change r = some .closed ∧
      ∀ c, (s.slot r).channel? = some c → c.queue = [])
    (haccounts : ∀ r, Account
      (History.accepted (H ++ [.pulled number m.receivers ⟨findings, none⟩]) r)
      (History.taken (H ++ [.pulled number m.receivers ⟨findings, none⟩]) r) (s.slot r)) :
    s'.Follows (H ++ [.pulled number m.receivers ⟨findings ++ new, packet⟩]) number m' := by
  refine ⟨?_, hreceivers ▸ h.nodup, ?_, ?_, ?_, ?_⟩
  · intro inputs q hmem
    rw [hreceivers]
    rcases List.mem_append.1 hmem with hmem | hmem
    · exact h.inputs inputs q (List.mem_append_left _ hmem)
    · cases List.mem_singleton.1 hmem
      rfl
  · rw [History.pulls_append, History.pulls_pulled]
    exact htally
  · intro i r hr
    rw [hreceivers] at hr
    have hbefore := h.taken i r hr
    rw [hextends.taken r, ← hnew i r hr, ← hbefore]
    simp [History.takenBy, History.pulls_pulled, Pull.takes]
  · intro i r hr hi
    rw [hreceivers] at hr
    obtain ⟨hi, hnot⟩ := hlive i r hr hi
    obtain ⟨c, hc, hopen⟩ := h.live i r hr hi
    obtain ⟨c', hc', hbecomes⟩ := (hslots r).channel c hc
    refine ⟨c', hc', ?_⟩
    generalize Change.at? change r = local? at hnot hbecomes
    cases hbecomes with
    | stays _ hreceiving =>
        exact hreceiving.trans hopen
    | pushed _ hopen' _ =>
        exact hopen'
    | took hreceiving _ =>
        exact hreceiving.trans hopen
    | closed _ _ =>
        exact absurd rfl hnot
  · intro i r hr hi
    rw [hreceivers] at hr
    rw [hextends.accepted r, hextends.taken r]
    by_cases hbefore : i ∈ m.live
    · obtain ⟨hclosed, hqueue⟩ := hgone i r hr hbefore hi
      obtain ⟨c, hc, hopen⟩ := h.live i r hr hbefore
      obtain ⟨c', hc', hbecomes⟩ := (hslots r).channel c hc
      have haccepted := (haccounts r).queued c hc hopen
      rw [hqueue c hc, List.append_nil] at haccepted
      rw [hclosed] at hbecomes ⊢
      refine ⟨by simpa [Change.accepted, Change.taken] using haccepted, c', hc', ?_⟩
      cases hbecomes with
      | closed _ hreceiving =>
          exact hreceiving
    · obtain ⟨haccepted, c, hc, hclosed⟩ := h.gone i r hr hbefore
      have hempty := (haccounts r).closed c hc hclosed
      have hnothing := (hslots r).accepted_eq_nil hc hclosed
      obtain ⟨c', hc', hbecomes⟩ := (hslots r).channel c hc
      rw [hnothing, haccepted, List.append_nil]
      generalize Change.at? change r = local? at hbecomes hnothing
      cases hbecomes with
      | stays _ hreceiving =>
          exact ⟨by simp [Change.taken], c', hc', hreceiving.trans hclosed⟩
      | pushed _ _ _ =>
          cases hnothing
      | took _ hqueue =>
          rw [hempty] at hqueue
          cases hqueue
      | closed _ hreceiving =>
          exact ⟨by simp [Change.taken], c', hc', hreceiving⟩

/-- A pull goes on. -/
theorem Sound.pullOn
    (h : Sound (H ++ [.pulled number m.receivers ⟨findings, none⟩]) outer s)
    (hm : Registry.find? s.merges number = some m)
    (hmoves : s.Moves change number m' s')
    (hextends : History.Extends (H ++ [.pulled number m.receivers ⟨findings, none⟩]) change
      (H ++ [.pulled number m.receivers ⟨findings ++ new, packet⟩]))
    (hreceiver : ∀ r, Change.atReceiver (Change.at? change r) = true → r ∈ m.receivers)
    (hreceivers : m'.receivers = m.receivers)
    (htally : m'.Tally (H.pulls number ++ [⟨findings ++ new, packet⟩]))
    (hnew : ∀ i r, m.receivers[i]? = some r →
      new.flatMap (Finding.takes i) = Change.taken (Change.at? change r))
    (hlive : ∀ i r, m.receivers[i]? = some r → i ∈ m'.live →
      i ∈ m.live ∧ Change.at? change r ≠ some .closed)
    (hgone : ∀ i r, m.receivers[i]? = some r → i ∈ m.live → i ∉ m'.live →
      Change.at? change r = some .closed ∧
      ∀ c, (s.slot r).channel? = some c → c.queue = [])
    (hretains : ∀ id, s.Retains change s'
      (H ++ [.pulled number m.receivers ⟨findings ++ new, packet⟩]) id) :
    Sound (H ++ [.pulled number m.receivers ⟨findings ++ new, packet⟩]) outer s' := by
  have hinputs : ∀ k inputs q, .pulled k inputs q ∈
      H ++ [.pulled number m.receivers ⟨findings ++ new, packet⟩] →
        k = number ∨ .pulled k inputs q ∈ H := by
    intro k inputs q hmem
    rcases List.mem_append.1 hmem with hmem | hmem
    · exact Or.inr hmem
    · cases List.mem_singleton.1 hmem
      exact Or.inl rfl
  refine ⟨?_, ?_, ?_, ?_, ?_, ?_, ?_⟩
  · intro r
    rw [hextends.accepted, hextends.taken]
    refine (h.accounts r).becomes (hmoves.slots r) fun hr => ?_
    exact ((hmoves.slots r).issued (h.issued (some number) r ⟨m, hm, hreceiver r hr⟩)).2
  · intro holder r hholds
    exact (hmoves.slots r).issued (h.issued holder r (hmoves.holds hm hreceivers hholds))
  · intro holder holder' r hholds hholds'
    exact h.unique holder holder' r (hmoves.holds hm hreceivers hholds)
      (hmoves.holds hm hreceivers hholds')
  · intro k mk hmk
    rw [hmoves.next]
    by_cases hk : k = number
    · subst hk
      exact h.below k m hm
    · obtain ⟨m₀, hm₀, -⟩ := hmoves.find? hk hmk
      exact h.below k m₀ hm₀
  · intro k inputs q hmem
    rw [hmoves.next]
    rcases hinputs k inputs q hmem with rfl | hmem
    · exact h.below k m hm
    · exact h.opened k inputs q (List.mem_append_left _ hmem)
  · intro k mk hmk
    by_cases hk : k = number
    · subst hk
      cases hmoves.merge.symm.trans hmk
      exact (h.follows k m hm).pull hmoves.slots hextends hreceivers htally hnew hlive hgone
        h.accounts
    · obtain ⟨m₀, hm₀, hsettled⟩ := hmoves.find? hk hmk
      refine (h.follows k m₀ hm₀).frame hmoves.slots hextends hsettled ?_ ?_ ?_
      · rw [History.pulls_append, History.pulls_append, History.pulls_pulled_of_ne (Ne.symm hk),
          History.pulls_pulled_of_ne (Ne.symm hk)]
      · intro inputs q hmem
        rcases hinputs k inputs q hmem with heq | hmem
        · exact absurd heq hk
        · exact List.mem_append_left _ hmem
      · intro r hr
        rw [Bool.eq_false_iff]
        intro hatReceiver
        have hsame := h.unique (some k) (some number) r ⟨m₀, hm₀, hr⟩
          ⟨m, hm, hreceiver r hatReceiver⟩
        exact hk (Option.some.inj hsame)
  · intro id hreleased
    have hbefore := h.traced id (by simpa using hreleased)
    exact hbefore.evolve h.accounts hmoves.slots hextends (by simp) (hretains id)

/-! ## One question -/

/-- A pull goes on, and no channel changes. -/
theorem Sound.pullOnQuietly
    (h : Sound (H ++ [.pulled number m.receivers ⟨findings, none⟩]) outer s)
    (hm : Registry.find? s.merges number = some m)
    (hmoves : s.Moves none number m' s')
    (hreceivers : m'.receivers = m.receivers)
    (hlive : m'.live = m.live)
    (hnew : ∀ f ∈ new, (∀ i, f.takes i = []) ∧ ∀ inputs r, f.takesFrom inputs r = [])
    (htally : m'.Tally (H.pulls number ++ [⟨findings ++ new, packet⟩]))
    (ho : s.Onward s') :
    Sound (H ++ [.pulled number m.receivers ⟨findings ++ new, packet⟩]) outer s' := by
  refine h.pullOn hm hmoves ?_ ?_ hreceivers htally ?_ ?_ ?_ fun id => ho.retains id
  · refine History.extends_quietly H number ?_ m.receivers none packet
    exact fun inputs r => List.flatMap_eq_nil_iff.2 fun f hf => (hnew f hf).2 inputs r
  · intro r hr
    cases hr
  · intro i r _
    exact List.flatMap_eq_nil_iff.2 fun f hf => (hnew f hf).1 i
  · intro i r _ hi
    exact ⟨hlive ▸ hi, by simp⟩
  · intro i r _ hi hnot
    exact absurd (hlive ▸ hi) hnot

/-- An input gives a packet. -/
theorem Sound.take
    (h : Sound (H ++ [.pulled number m.receivers ⟨findings, none⟩]) outer s)
    (hm : Registry.find? s.merges number = some m)
    {i : Nat} {r : Receiver} {p : Packet}
    (hr : m.receivers[i]? = some r)
    (he : s.Evolves (some (r, .took p)) s')
    (ho : s.Onward s')
    (hsettled : m'.settled = (m.note i p).settled)
    (hpacket : packet ≠ some .cleanEnd)
    (hfaithful : Pull.Faithful m.receivers (H.pulls number) ⟨findings ++ [.took i p], packet⟩) :
    Sound (H ++ [.pulled number m.receivers ⟨findings ++ [.took i p], packet⟩]) outer
      (s'.setMerge number m') := by
  have hfollows := h.follows number m hm
  have htally := hfollows.tally
  rw [History.pulls_append, History.pulls_pulled] at htally
  have hi : i < m.receivers.length := (List.getElem?_eq_some_iff.1 hr).1
  have hreceivers : m'.receivers = m.receivers :=
    (Merge.receivers_of_settled hsettled).trans (Merge.receivers_note m i p)
  have hlive : m'.live = m.live :=
    (Merge.live_of_settled hsettled).trans (Merge.live_note m i p)
  refine h.pullOn hm (he.moves number m') ?_ ?_ hreceivers ?_ ?_ ?_ ?_ ?_
  · exact History.extends_took H number hr findings p none packet
  · intro other hother
    by_cases heq : r = other
    · exact heq ▸ List.mem_of_getElem? hr
    · simp [Change.at?, heq, Change.atReceiver] at hother
  · exact (htally.take hi hpacket hfaithful).of_settled hsettled
  · intro j other hother
    have hiff : i = j ↔ r = other := by
      constructor
      · rintro rfl
        exact Option.some.inj (hr.symm.trans hother)
      · rintro rfl
        exact (List.getElem?_inj hi hfollows.nodup).1 (hr.trans hother.symm)
    by_cases heq : r = other
    · simp [Finding.takes, Change.at?, Change.taken, heq, hiff.2 heq]
    · have hne : i ≠ j := fun hij => heq (hiff.1 hij)
      simp [Finding.takes, Change.at?, Change.taken, heq, hne]
  · intro j other _ hj
    refine ⟨hlive ▸ hj, ?_⟩
    by_cases heq : r = other <;> simp [Change.at?, heq]
  · intro j other _ hj hnot
    exact absurd (hlive ▸ hj) hnot
  · exact fun id => (ho.retains id).setMerge number m'

/-- The channel of an input is found to have ended, and its receiver is dropped. -/
theorem Sound.leave
    (h : Sound (H ++ [.pulled number m.receivers ⟨findings, none⟩]) outer s)
    (hm : Registry.find? s.merges number = some m)
    {i : Nat} {r : Receiver}
    (hr : m.receivers[i]? = some r)
    (hqueue : ∀ c, (s.slot r).channel? = some c → c.queue = [])
    (hreceivers : m'.receivers = m.receivers)
    (hlive : m'.live = m.live.filter (· ≠ i))
    (htally : m'.Tally (H.pulls number ++ [⟨findings ++ [.ended i], packet⟩])) :
    Sound (H ++ [.pulled number m.receivers ⟨findings ++ [.ended i], packet⟩]) outer
      ((s.dropReceiver r).setMerge number m') := by
  have hmem := List.mem_of_getElem? hr
  have hi : i < m.receivers.length := (List.getElem?_eq_some_iff.1 hr).1
  have hnodup := (h.follows number m hm).nodup
  have hissued := h.issued (some number) r ⟨m, hm, hmem⟩
  have he := evolves_dropReceiver hissued.1
  have hsame : ∀ j other, m.receivers[j]? = some other → (r = other ↔ i = j) := by
    intro j other hother
    constructor
    · rintro rfl
      exact (List.getElem?_inj hi hnodup).1 (hr.trans hother.symm)
    · rintro rfl
      exact Option.some.inj (hr.symm.trans hother)
  refine h.pullOn hm (he.moves number m') ?_ ?_ hreceivers htally ?_ ?_ ?_
    fun id => (retains_dropReceiver hissued id).setMerge number m'
  · refine (History.extends_quietly H number ?_ m.receivers none packet).close r
    intro inputs other
    rfl
  · intro other hother
    by_cases heq : r = other
    · exact heq ▸ hmem
    · simp [Change.at?, heq, Change.atReceiver] at hother
  · intro j other _
    by_cases heq : r = other <;> simp [Finding.takes, Change.at?, Change.taken, heq]
  · intro j other hother hj
    rw [hlive] at hj
    obtain ⟨hj, hne⟩ := List.mem_filter.1 hj
    refine ⟨hj, ?_⟩
    have hne' : r ≠ other := by
      intro heq
      simp [(hsame j other hother).1 heq] at hne
    simp [Change.at?, hne']
  · intro j other hother hj hnot
    rw [hlive] at hnot
    have hij : j = i := by simpa [hj] using hnot
    have heq : r = other := (hsame j other hother).2 hij.symm
    subst heq
    exact ⟨by simp [Change.at?], hqueue⟩

/-- The channel of an input has ended. -/
theorem Sound.ended
    (h : Sound (H ++ [.pulled number m.receivers ⟨findings, none⟩]) outer s)
    (hm : Registry.find? s.merges number = some m)
    {i : Nat} {r : Receiver}
    (hr : m.receivers[i]? = some r)
    (hqueue : ∀ c, (s.slot r).channel? = some c → c.queue = [])
    {m₀ : Merge}
    (hsettled : m₀.settled = m.settled) :
    Sound (H ++ [.pulled number m.receivers
      ⟨findings ++ [.ended i],
        (if m₀.isFinished i then .again else .passes (Merge.brokenOff r.id) : Turn).packet?⟩]) outer
      ((s.dropReceiver r).setMerge number (m₀.leave i)) := by
  have htally := (h.follows number m hm).tally.of_settled hsettled
  rw [History.pulls_append, History.pulls_pulled] at htally
  have hreceivers := Merge.receivers_of_settled hsettled
  have hlive := Merge.live_of_settled hsettled
  have hr₀ : m₀.receivers[i]? = some r := hreceivers ▸ hr
  have hi : i < m₀.finished.length := by
    rw [htally.length]
    exact (List.getElem?_eq_some_iff.1 hr₀).1
  refine h.leave hm hr hqueue ?_ ?_ ?_
  · rw [Merge.receivers_leave, hreceivers]
  · rw [Merge.live_leave, hlive]
  · unfold Merge.leave
    dsimp only
    split
    · next hfinished =>
        have htrue : m₀.finished[i]? = some true := by
          rw [List.getElem?_eq_getElem hi]
          simpa [Merge.isFinished, List.getElem?_eq_getElem hi] using hfinished
        refine htally.goOn (fun _ => rfl) ?_ ?_
        · exact fun j hj => (List.mem_filter.1 hj).1
        · intro j _ hj hnot
          have hji : j = i := by simpa [hj] using hnot
          rw [hji]
          exact htrue
    · next hunfinished =>
        have hne : m₀.finished[i]? ≠ some true := by
          intro htrue
          exact hunfinished (by simp [Merge.isFinished, htrue])
        exact htally.breakOff hr₀ hne

/-- An input is asked. -/
theorem Sound.question
    (h : Sound (H ++ [.pulled number m.receivers ⟨findings, none⟩]) outer s)
    (hm : Registry.find? s.merges number = some m)
    {i : Nat} {r : Receiver}
    (hr : m.receivers[i]? = some r)
    {m₀ : Merge}
    (hsettled : m₀.settled = m.settled)
    {finding : Finding} {turn : Turn}
    (hasks : s.Asks number i m₀ r (finding, turn, s')) :
    Sound (H ++ [.pulled number m.receivers ⟨findings ++ [finding], turn.packet?⟩]) outer s' := by
  have htally := (h.follows number m hm).tally
  rw [History.pulls_append, History.pulls_pulled] at htally
  have hfaithful := htally.faithful _ _ [] rfl
  have hi : i < m.receivers.length := (List.getElem?_eq_some_iff.1 hr).1
  have hevolves := evolves_receive s r (some ⟨number, i⟩)
  have honward := onward_receive s r (some ⟨number, i⟩)
  have hmerges := merges_receive s r (some ⟨number, i⟩)
  cases hasks with
  | took p s₁ hreceive =>
      rw [hreceive] at hevolves honward
      obtain ⟨p', hp', he⟩ := hevolves.resolve_right fun hnone => hnone.1 p rfl
      cases hp'
      have hnoted : ((m₀.wake i).note i p).settled = (m.note i p).settled := by
        rw [Merge.settled_note, Merge.settled_note, Merge.settled_wake, hsettled]
      by_cases hp : p = .cleanEnd
      · rw [if_pos hp]
        refine h.take hm hr he honward hnoted (by simp [Turn.packet?]) ?_
        rw [hp]
        exact hfaithful.takeCleanEnd hi
      · rw [if_neg hp]
        refine h.take hm hr he honward hnoted ?_ (hfaithful.takeAndPass hi hp)
        exact fun heq => hp (Option.some.inj heq)
  | ended s₁ hreceive =>
      rw [hreceive] at hevolves honward hmerges
      have he := (hevolves.resolve_left (by simp)).2
      have hquiet := h.quietly he honward.retains
      have hempty := queue_of_receive_ended (show (s.receive r _).1 = .ended by rw [hreceive])
      have hissued := h.issued (some number) r ⟨m, hm, List.mem_of_getElem? hr⟩
      obtain ⟨c, hc⟩ := Option.ne_none_iff_exists'.1 hissued.1
      have hqueue : ∀ c', (s₁.slot r).channel? = some c' → c'.queue = [] := by
        intro c' hc'
        obtain ⟨other, hother, hbecomes⟩ := (he.slots r).channel c hc
        cases hc'.symm.trans hother
        cases hbecomes with
        | stays hsame _ =>
            rw [hsame, hempty c hc]
      have hm₁ : Registry.find? s₁.merges number = some m := by
        rw [show s₁.merges = s.merges from hmerges]
        exact hm
      exact hquiet.ended hm₁ hr hqueue hsettled
  | nothing s₁ hreceive =>
      rw [hreceive] at hevolves honward
      have he := (hevolves.resolve_left (by simp)).2
      refine h.pullOnQuietly hm (he.moves number m₀) (Merge.receivers_of_settled hsettled)
        (Merge.live_of_settled hsettled) ?_ ?_ honward
      · intro f hf
        cases List.mem_singleton.1 hf
        exact ⟨fun _ => rfl, fun _ _ => rfl⟩
      · exact (htally.of_settled hsettled).goOn (fun _ => rfl) (fun _ hj => hj)
          fun _ _ hj hnot => absurd hj hnot

/-- A turn leaves a merge over the same receivers. -/
theorem merge_turn (hm : Registry.find? s.merges number = some m) :
    ∃ m', Registry.find? (s.turn number m).2.2.merges number = some m' ∧
      m'.receivers = m.receivers := by
  have hturns := turns_turn s number m
  generalize s.turn number m = answer at hturns ⊢
  cases hturns with
  | cleanEnd _ =>
      exact ⟨m, hm, rfl⟩
  | idle _ =>
      exact ⟨m, hm, rfl⟩
  | skip i ready _ _ _ =>
      exact ⟨_, find?_setMerge _ _ _, rfl⟩
  | asks i ready r finding turn s' _ _ _ hasks =>
      cases hasks with
      | took p s₁ _ =>
          exact ⟨_, find?_setMerge _ _ _, Merge.receivers_note_wake _ i p⟩
      | ended s₁ _ =>
          exact ⟨_, find?_setMerge _ _ _, Merge.receivers_leave _ i⟩
      | nothing s₁ _ =>
          exact ⟨_, find?_setMerge _ _ _, rfl⟩

/-- One turn of a merge. -/
theorem Sound.turn
    (h : Sound (H ++ [.pulled number m.receivers ⟨findings, none⟩]) outer s)
    (hm : Registry.find? s.merges number = some m) :
    Sound (H ++ [.pulled number m.receivers
      ⟨findings ++ (s.turn number m).1, (s.turn number m).2.1.packet?⟩]) outer
      (s.turn number m).2.2 := by
  have htally := (h.follows number m hm).tally
  rw [History.pulls_append, History.pulls_pulled] at htally
  have hpassing : m.remaining = 0 →
      Sound (H ++ [.pulled number m.receivers ⟨findings ++ [], some .cleanEnd⟩]) outer s := by
    intro hremaining
    refine h.pullOnQuietly hm (.refl hm) rfl rfl (by simp) ?_ (.refl s)
    rw [List.append_nil]
    exact htally.passCleanEnd hremaining
  have hsettled : ∀ ready, Merge.settled { m with ready } = m.settled := fun _ => rfl
  have hturns := turns_turn s number m
  generalize s.turn number m = answer at hturns ⊢
  cases hturns with
  | cleanEnd hdone =>
      rcases hdone with hremaining | ⟨-, hnone⟩
      · exact hpassing hremaining
      · refine hpassing ?_
        rw [htally.remaining_eq_zero_iff]
        intro i hi
        exact htally.gone i hi (by simp [hnone])
  | idle _ =>
      rw [List.append_nil]
      exact h
  | skip i ready _ _ _ =>
      have he : s.Evolves none s := ⟨fun _ => .refl _, ⟨fun _ => rfl, rfl⟩⟩
      refine h.pullOnQuietly hm (he.moves number { m with ready }) rfl rfl (by simp) ?_ (.refl s)
      rw [List.append_nil]
      exact htally.of_settled (hsettled ready)
  | asks i ready r finding turn s' _ _ hr hasks =>
      exact h.question hm hr (hsettled ready) hasks

/-! ## A whole pull -/

theorem Sound.pullWithin
    (h : Sound (H ++ [.pulled number m.receivers ⟨findings, none⟩]) outer s)
    (hm : Registry.find? s.merges number = some m)
    (turns : Nat) :
    Sound (H ++ [.pulled number m.receivers
      ⟨findings ++ (s.pullWithin number turns).findings, (s.pullWithin number turns).packet⟩]) outer
      (s.pullWithin number turns).mailboxes ∧
    ∃ m', Registry.find? (s.pullWithin number turns).mailboxes.merges number = some m' ∧
      m'.receivers = m.receivers := by
  induction turns generalizing s m findings with
  | zero =>
      refine ⟨?_, m, hm, rfl⟩
      simpa [Mailboxes.pullWithin] using h
  | succ turns ih =>
      have hturn := h.turn hm
      obtain ⟨m', hm', hreceivers⟩ := merge_turn hm
      unfold Mailboxes.pullWithin
      rw [hm]
      dsimp only
      split
      · next hpasses =>
          rw [hpasses] at hturn hm'
          exact ⟨hturn, m', hm', hreceivers⟩
      · next hidle =>
          rw [hidle] at hturn hm'
          exact ⟨hturn, m', hm', hreceivers⟩
      · next hagain =>
          rw [hagain] at hturn hm'
          rw [← hreceivers] at hturn ⊢
          obtain ⟨hsound, hmerge⟩ := ih hturn hm'
          exact ⟨by simpa using hsound, hmerge⟩

/-- A pull begins. -/
theorem Sound.beginPull
    (h : Sound H outer s)
    (hm : Registry.find? s.merges number = some m) :
    Sound (H ++ [.pulled number m.receivers ⟨[], none⟩]) outer s := by
  have hextends : H.Extends none (H ++ [.pulled number m.receivers ⟨[], none⟩]) :=
    .of_eq (fun r => by simp [History.accepted, Event.acceptedOn])
      (fun r => by simp [History.taken, Event.takenFrom])
      (fun id => by simp [History.sentTo, Event.sentTo])
  refine ⟨?_, h.issued, h.unique, h.below, ?_, ?_, ?_⟩
  · intro r
    rw [hextends.accepted, hextends.taken]
    exact (h.accounts r).becomes (.refl _) (by simp [Change.atReceiver])
  · intro k inputs q hmem
    rcases List.mem_append.1 hmem with hmem | hmem
    · exact h.opened k inputs q hmem
    · cases List.mem_singleton.1 hmem
      exact h.below number m hm
  · intro k mk hmk
    have hfollows := h.follows k mk hmk
    by_cases hk : k = number
    · subst hk
      cases hm.symm.trans hmk
      refine ⟨?_, hfollows.nodup, ?_, ?_, hfollows.live, ?_⟩
      · intro inputs q hmem
        rcases List.mem_append.1 hmem with hmem | hmem
        · exact hfollows.inputs inputs q hmem
        · cases List.mem_singleton.1 hmem
          rfl
      · rw [History.pulls_append, History.pulls_pulled]
        exact hfollows.tally.begin
      · intro i r hr
        rw [hextends.taken r, ← hfollows.taken i r hr]
        simp [History.takenBy, History.pulls_pulled, Pull.takes, Change.taken]
      · intro i r hr hi
        rw [hextends.accepted r, hextends.taken r]
        simpa [Change.accepted, Change.taken] using hfollows.gone i r hr hi
    · have hslots : ∀ r, Slot.Becomes (Change.at? none r) (s.slot r) (s.slot r) := fun _ => .refl _
      refine hfollows.frame hslots hextends rfl ?_ ?_ (fun _ _ => rfl)
      · rw [History.pulls_append, History.pulls_pulled_of_ne (Ne.symm hk), List.append_nil]
      · intro inputs q hmem
        rcases List.mem_append.1 hmem with hmem | hmem
        · exact hmem
        · cases List.mem_singleton.1 hmem
          exact absurd rfl hk
  · intro id hreleased
    have hbefore := h.traced id fun hmem => hreleased (List.mem_append_left _ hmem)
    have hslots : ∀ r, Slot.Becomes (Change.at? none r) (s.slot r) (s.slot r) := fun _ => .refl _
    exact hbefore.evolve h.accounts hslots hextends (List.mem_append_left _)
      ((Onward.refl s).retains id)

/-- What every turn of a pull keeps is kept by its turns together. -/
theorem Sound.pullWithin_induction
    {P : Mailboxes → Prop}
    (hturn : ∀ {s : Mailboxes} {m : Merge} {findings : List Finding},
      Sound (H ++ [.pulled number m.receivers ⟨findings, none⟩]) outer s →
      Registry.find? s.merges number = some m → P s → P (s.turn number m).2.2)
    (h : Sound (H ++ [.pulled number m.receivers ⟨findings, none⟩]) outer s)
    (hm : Registry.find? s.merges number = some m)
    (hs : P s)
    (turns : Nat) :
    P (s.pullWithin number turns).mailboxes := by
  induction turns generalizing s m findings with
  | zero =>
      exact hs
  | succ turns ih =>
      have hkept := hturn h hm hs
      have hsound := h.turn hm
      obtain ⟨m', hm', hreceivers⟩ := merge_turn hm
      unfold Mailboxes.pullWithin
      rw [hm]
      dsimp only
      generalize s.turn number m = answer at hkept hsound hm' ⊢
      obtain ⟨found, turn, s'⟩ := answer
      cases turn with
      | passes p =>
          exact hkept
      | idle =>
          exact hkept
      | again =>
          rw [← hreceivers] at hsound
          exact ih hsound hm' hkept

/-- What every turn of a pull keeps is kept by the pull. -/
theorem Sound.pull_induction
    {P : Mailboxes → Prop}
    (h : Sound H outer s)
    (number : Nat)
    (hturn : ∀ {s : Mailboxes} {m : Merge} {findings : List Finding},
      Sound (H ++ [.pulled number m.receivers ⟨findings, none⟩]) outer s →
      Registry.find? s.merges number = some m → P s → P (s.turn number m).2.2)
    (hs : P s) :
    P (s.pull number).mailboxes := by
  unfold Mailboxes.pull
  split
  · next m hm => exact Sound.pullWithin_induction hturn (h.beginPull hm) hm hs _
  · exact hs

/-- A pull keeps mailboxes in agreement with their history. -/
theorem Sound.pull
    (h : Sound H outer s)
    (hm : Registry.find? s.merges number = some m) :
    Sound (H ++ [.pulled number m.receivers ⟨(s.pull number).findings, (s.pull number).packet⟩])
      outer (s.pull number).mailboxes ∧
    ∃ m', Registry.find? (s.pull number).mailboxes.merges number = some m' ∧
      m'.receivers = m.receivers := by
  unfold Mailboxes.pull
  rw [hm]
  simpa using (h.beginPull hm).pullWithin hm (s.turnBound m)

/-! ## Senders -/

/-- A turn changes no sender. -/
theorem senders_turn (s : Mailboxes) (number : Nat) (m : Merge) (other : Receiver) :
    (s.turn number m).2.2.senders other = s.senders other := by
  have hturns := turns_turn s number m
  generalize s.turn number m = answer at hturns ⊢
  cases hturns with
  | cleanEnd _ =>
      rfl
  | idle _ =>
      rfl
  | skip _ _ _ _ _ =>
      rfl
  | asks i ready r finding turn s' _ _ _ hasks =>
      have hreceive := senders_receive s r other (some ⟨number, i⟩)
      cases hasks with
      | took p s₁ hanswer =>
          rw [hanswer] at hreceive
          exact hreceive
      | ended s₁ hanswer =>
          rw [hanswer] at hreceive
          exact (senders_dropReceiver s₁ r other).trans hreceive
      | nothing s₁ hanswer =>
          rw [hanswer] at hreceive
          exact hreceive

/-- A channel that a turn finds to have ended has no sender left. -/
theorem senders_of_ended_mem_turn
    {i : Nat}
    (hi : .ended i ∈ (s.turn number m).1) :
    ∃ r, m.receivers[i]? = some r ∧ s.senders r = 0 := by
  have hturns := turns_turn s number m
  generalize s.turn number m = answer at hturns hi
  cases hturns with
  | asks j ready r finding turn s' _ _ hr hasks =>
      cases List.mem_singleton.1 hi
      cases hasks with
      | ended s₁ hanswer =>
          have hended : (s.receive r (some ⟨number, i⟩)).1 = .ended := by rw [hanswer]
          exact ⟨r, hr, senders_of_receive_ended hended⟩
  | _ =>
      cases hi

/-- A channel that a pull finds to have ended has no sender left. -/
theorem senders_of_ended_mem_pullWithin
    (hm : Registry.find? s.merges number = some m)
    {turns i : Nat}
    (hi : .ended i ∈ (s.pullWithin number turns).findings) :
    ∃ r, m.receivers[i]? = some r ∧ s.senders r = 0 := by
  induction turns generalizing s m with
  | zero =>
      cases hi
  | succ turns ih =>
      have hturn := senders_turn s number m
      have hended : .ended i ∈ (s.turn number m).1 →
          ∃ r, m.receivers[i]? = some r ∧ s.senders r = 0 :=
        senders_of_ended_mem_turn
      obtain ⟨m', hm', hreceivers⟩ := merge_turn hm
      unfold pullWithin at hi
      rw [hm] at hi
      dsimp only at hi
      split at hi
      · next hpasses =>
          rw [hpasses] at hended
          exact hended hi
      · next hidle =>
          rw [hidle] at hended
          exact hended hi
      · next hagain =>
          rw [hagain] at hended hturn hm'
          rcases List.mem_append.1 hi with hi | hi
          · exact hended hi
          · obtain ⟨r, hr, hnone⟩ := ih hm' hi
            exact ⟨r, hreceivers ▸ hr, (hturn r).symm.trans hnone⟩

theorem senders_of_ended_mem_pull
    (hm : Registry.find? s.merges number = some m)
    {i : Nat}
    (hi : .ended i ∈ (s.pull number).findings) :
    ∃ r, m.receivers[i]? = some r ∧ s.senders r = 0 := by
  unfold pull at hi
  rw [hm] at hi
  exact senders_of_ended_mem_pullWithin hm hi

theorem pull_of_find?_eq_none (hm : Registry.find? s.merges number = none) :
    s.pull number = ⟨none, [], s⟩ := by
  unfold pull
  rw [hm]

/-- Once all ends are known, nothing is asked any more. -/
theorem pull_of_remaining_eq_zero
    (hm : Registry.find? s.merges number = some m)
    (hremaining : m.remaining = 0) :
    s.pull number = ⟨some .cleanEnd, [], s⟩ := by
  unfold pull
  rw [hm]
  show s.pullWithin number ((m.receivers.map s.queued).sum + m.ready.length + 1) = _
  unfold pullWithin
  rw [hm]
  simp only [turn, if_pos hremaining]

theorem Sound.pull_of_cleanEnd
    (h : Sound H outer s)
    (hm : Registry.find? s.merges number = some m)
    {q : Pull}
    (hq : q ∈ H.pulls number)
    (hclean : q.packet = some .cleanEnd) :
    s.pull number = ⟨some .cleanEnd, [], s⟩ :=
  pull_of_remaining_eq_zero hm ((h.follows number m hm).tally.cleanEnd q hq hclean)

end Mailboxes
end ScatterGather
