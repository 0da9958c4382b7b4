import ScatterGather.Proofs.Mailboxes.Evolution

/-!
# Histories of mailboxes

A history tells, in the order in which it happened, which packets were accepted on which channel,
which were taken by a receiver, and what each pull from a merge found and passed on. No operation
reads a history: it is there to state what a run of operations comes to.

**Results.** What a history says of one channel and of one merge grows with the history.
-/

namespace ScatterGather

/-- A list made of one part for each input below `n`, in which every part keeps its order. -/
def IsInterleaving
    {α : Type} (n : Nat) (part : Nat → List α) (whole : List α) : Prop :=
  ∃ tagged : List (Nat × α),
    tagged.map Prod.snd = whole ∧
    (∀ entry ∈ tagged, entry.1 < n) ∧
    ∀ i < n, (tagged.filter fun entry => entry.1 = i).map Prod.snd = part i

namespace IsInterleaving

variable {α β : Type} {n : Nat} {part : Nat → List α} {whole : List α}

theorem mem
    (h : IsInterleaving n part whole)
    {i : Nat} {a : α}
    (hi : i < n)
    (ha : a ∈ part i) :
    a ∈ whole := by
  obtain ⟨tagged, rfl, -, hparts⟩ := h
  rw [← hparts i hi] at ha
  obtain ⟨entry, hentry, rfl⟩ := List.mem_map.1 ha
  exact List.mem_map_of_mem (List.mem_filter.1 hentry).1

/-- Some entries are left out, and the others are read. -/
theorem filterMap
    (h : IsInterleaving n part whole)
    (f : α → Option β) :
    IsInterleaving n (fun i => (part i).filterMap f) (whole.filterMap f) := by
  obtain ⟨tagged, rfl, hinputs, hparts⟩ := h
  refine ⟨tagged.filterMap fun entry => (f entry.2).map (entry.1, ·), ?_, ?_, ?_⟩
  · rw [List.map_filterMap, List.filterMap_map]
    congr 1
    funext entry
    cases hentry : f entry.2 <;> simp [hentry]
  · intro entry hentry
    obtain ⟨old, hold, heq⟩ := List.mem_filterMap.1 hentry
    obtain ⟨b, -, rfl⟩ := Option.map_eq_some_iff.1 heq
    exact hinputs old hold
  · intro i hi
    dsimp only
    rw [← hparts i hi]
    clear hinputs hparts
    induction tagged with
    | nil =>
        rfl
    | cons entry rest ih =>
        by_cases hentry : entry.1 = i
        · cases hb : f entry.2 <;> simp [hentry, hb, ih]
        · cases hb : f entry.2 <;> simp [hentry, hb, ih]

/-- The entries are those of the parts. -/
theorem perm_flatMap (h : IsInterleaving n part whole) :
    whole.Perm ((List.range n).flatMap part) := by
  obtain ⟨tagged, rfl, hinputs, hparts⟩ := h
  induction n generalizing tagged with
  | zero =>
      cases tagged with
      | nil => exact .refl _
      | cons entry rest => exact absurd (hinputs entry List.mem_cons_self) (Nat.not_lt_zero _)
  | succ n ih =>
      -- The last part is moved behind the others.
      let others := tagged.filter fun entry => !decide (entry.1 = n)
      have hothers := ih others ?_ ?_
      · have hmoved : (tagged.map Prod.snd).Perm (others.map Prod.snd ++ part n) := by
          rw [← hparts n (Nat.lt_succ_self n), ← List.map_append]
          exact ((List.filter_append_perm _ tagged).symm.trans List.perm_append_comm).map Prod.snd
        rw [List.range_succ, List.flatMap_append, List.flatMap_singleton]
        exact hmoved.trans (hothers.append_right _)
      · intro entry hentry
        obtain ⟨hmem, hne⟩ := List.mem_filter.1 hentry
        have hlt := hinputs entry hmem
        have hne : entry.1 ≠ n := by simpa using hne
        omega
      · intro i hi
        rw [← hparts i (Nat.lt_succ_of_lt hi), List.filter_filter]
        congr 1
        refine List.filter_congr fun entry _ => ?_
        by_cases hentry : entry.1 = i
        · simp [hentry, Nat.ne_of_lt hi]
        · simp [hentry]

/-- Two interleavings of the same parts have the same entries. -/
theorem perm
    {whole' : List α}
    (h : IsInterleaving n part whole)
    (h' : IsInterleaving n part whole') :
    whole.Perm whole' :=
  h.perm_flatMap.trans h'.perm_flatMap.symm

end IsInterleaving

/-- One pull from a merge: what the inputs were found to have, and the packet that came of it, if
one did. -/
structure Pull where
  findings : List Finding
  packet : Option Packet
deriving DecidableEq

namespace Finding

/-- The packets that a finding takes from an input. -/
def takes (input : Nat) : Finding → List Packet
  | took i p => if i = input then [p] else []
  | _ => []

/-- The packets that a finding takes from the channel of a receiver. -/
def takesFrom (inputs : List Receiver) (r : Receiver) : Finding → List Packet
  | took i p => if inputs[i]? = some r then [p] else []
  | _ => []

end Finding

namespace Pull

/-- The packets that a pull takes from an input. -/
def takes (q : Pull) (input : Nat) : List Packet :=
  q.findings.flatMap (Finding.takes input)

/-- The packet that a pull passes on from an input: the one it took last, if a packet came of the
pull that is not a clean end. -/
def passed? (q : Pull) : Option (Nat × Packet) :=
  match q.packet, q.findings.getLast? with
  | some p, some (.took input taken) => if p = .cleanEnd then none else some (input, taken)
  | _, _ => none

/-- The input whose mailbox a pull reports to have been broken off: the one whose channel it found
ended last, if a packet came of the pull that is not a clean end. -/
def brokenOff? (q : Pull) : Option Nat :=
  match q.packet, q.findings.getLast? with
  | some p, some (.ended input) => if p = .cleanEnd then none else some input
  | _, _ => none

/-- The packet of a pull, unless it is a clean end or the merge itself reports that a mailbox has
been broken off. -/
def relayed? (q : Pull) : Option Packet :=
  match q.packet with
  | some p => if p = .cleanEnd ∨ q.brokenOff?.isSome then none else some p
  | none => none

/-- The end of an input becomes known by a pull. -/
def Ends (q : Pull) (input : Nat) : Prop :=
  (∃ p ∈ q.takes input, p.isEnd = true) ∨ q.brokenOff? = some input

theorem takes_append (findings more : List Finding) (packet packet' : Option Packet) (i : Nat) :
    (⟨findings ++ more, packet⟩ : Pull).takes i =
      (⟨findings, packet'⟩ : Pull).takes i ++ more.flatMap (Finding.takes i) := by
  simp [takes]

end Pull

/-- One thing that happened to the mailboxes. `accepted` and `received` tell of a channel, which is
named by its receiver; `inputs` are the receivers of the merge pulled from. A receiver that was
`asked` for may have been given out or not. -/
inductive Event where
  | asked (id : MailboxId)
  | released (id : MailboxId)
  | accepted (channel : Receiver) (p : Packet)
  | received (channel : Receiver) (p : Packet)
  | pulled (number : Nat) (inputs : List Receiver) (pull : Pull)
deriving DecidableEq

namespace Event

/-- The packets that an event puts on a channel. -/
def acceptedOn (r : Receiver) : Event → List Packet
  | accepted channel p => if channel = r then [p] else []
  | _ => []

/-- The packets that an event sends to a mailbox, on whichever of its channels. -/
def sentTo (id : MailboxId) : Event → List Packet
  | accepted channel p => if channel.id = id then [p] else []
  | _ => []

/-- The packets that an event takes from a channel. -/
def takenFrom (r : Receiver) : Event → List Packet
  | received channel p => if channel = r then [p] else []
  | pulled _ inputs pull => pull.findings.flatMap (Finding.takesFrom inputs r)
  | _ => []

/-- The pull from a merge, if the event is one. -/
def pullOf? (number : Nat) : Event → Option Pull
  | pulled k _ pull => if k = number then some pull else none
  | _ => none

end Event

/-- What happened, the oldest first. -/
abbrev History := List Event

namespace History

/-- The packets accepted on a channel. -/
def accepted (H : History) (r : Receiver) : List Packet :=
  H.flatMap (Event.acceptedOn r)

/-- The packets sent to a mailbox, on whichever of its channels. -/
def sentTo (H : History) (id : MailboxId) : List Packet :=
  H.flatMap (Event.sentTo id)

/-- The packets taken from a channel, by whomever. -/
def taken (H : History) (r : Receiver) : List Packet :=
  H.flatMap (Event.takenFrom r)

/-- The pulls from a merge. -/
def pulls (H : History) (number : Nat) : List Pull :=
  H.filterMap (Event.pullOf? number)

/-- The packets that a merge took from one of its inputs. -/
def takenBy (H : History) (number input : Nat) : List Packet :=
  (H.pulls number).flatMap fun q => q.takes input

variable (H H' : History) (r : Receiver) (k i : Nat)

@[simp] theorem accepted_append : accepted (H ++ H') r = accepted H r ++ accepted H' r :=
  List.flatMap_append

@[simp] theorem sentTo_append (id : MailboxId) :
    sentTo (H ++ H') id = sentTo H id ++ sentTo H' id :=
  List.flatMap_append

@[simp] theorem taken_append : taken (H ++ H') r = taken H r ++ taken H' r :=
  List.flatMap_append

@[simp] theorem pulls_append : pulls (H ++ H') k = pulls H k ++ pulls H' k :=
  List.filterMap_append

@[simp] theorem takenBy_append : takenBy (H ++ H') k i = takenBy H k i ++ takenBy H' k i := by
  simp [takenBy]

theorem pulls_pulled (inputs : List Receiver) (q : Pull) :
    pulls [.pulled k inputs q] k = [q] := by
  simp [pulls, Event.pullOf?]

theorem pulls_pulled_of_ne {k number : Nat} (h : number ≠ k) (inputs : List Receiver) (q : Pull) :
    pulls [.pulled number inputs q] k = [] := by
  simp [pulls, Event.pullOf?, h]

theorem pulls_eq_nil
    {H : History} {number : Nat}
    (h : ∀ inputs q, .pulled number inputs q ∉ H) :
    H.pulls number = [] := by
  refine List.filterMap_eq_nil_iff.2 ?_
  intro e he
  cases e with
  | asked id =>
      rfl
  | released id =>
      rfl
  | accepted channel p =>
      rfl
  | received channel p =>
      rfl
  | pulled k inputs q =>
      by_cases hk : k = number
      · subst hk
        exact absurd he (h inputs q)
      · simp [Event.pullOf?, hk]

/-- A mailbox on which only one channel accepted something. -/
theorem sentTo_eq_accepted
    {H : History} {id : MailboxId}
    (h : ∀ g, g ≠ 0 → H.accepted ⟨id, g⟩ = []) :
    H.sentTo id = H.accepted ⟨id, 0⟩ := by
  induction H with
  | nil =>
      rfl
  | cons e H ih =>
      have hrest : ∀ g, g ≠ 0 → History.accepted H ⟨id, g⟩ = [] := by
        intro g hg
        exact (List.append_eq_nil_iff.1 (h g hg)).2
      have hfirst : e.sentTo id = e.acceptedOn ⟨id, 0⟩ := by
        cases e with
        | accepted channel p =>
            obtain ⟨cid, g⟩ := channel
            by_cases hid : cid = id
            · subst hid
              by_cases hg : g = 0
              · simp [Event.sentTo, Event.acceptedOn, hg]
              · have hnone := (List.append_eq_nil_iff.1 (h g hg)).1
                simp [Event.acceptedOn] at hnone
            · simp [Event.sentTo, Event.acceptedOn, hid]
        | asked _ =>
            rfl
        | released _ =>
            rfl
        | received _ _ =>
            rfl
        | pulled _ _ _ =>
            rfl
      show e.sentTo id ++ sentTo H id = e.acceptedOn ⟨id, 0⟩ ++ accepted H ⟨id, 0⟩
      rw [hfirst, ih hrest]

/-- A history that goes on from another one, as far as the packets of the channels are concerned,
with at most one packet more. -/
structure Extends (H : History) (change : Option (Receiver × Change)) (H' : History) : Prop where
  accepted : ∀ r, History.accepted H' r =
    History.accepted H r ++ Change.accepted (Change.at? change r)
  taken : ∀ r, History.taken H' r = History.taken H r ++ Change.taken (Change.at? change r)
  sent : ∀ id, ∃ more, History.sentTo H' id = History.sentTo H id ++ more ∧
    ((∀ r p, change ≠ some (r, .pushed p)) → more = [])

/-- A history that goes on without touching a packet. -/
theorem Extends.of_eq
    {H H' : History}
    (haccepted : ∀ r, History.accepted H' r = History.accepted H r)
    (htaken : ∀ r, History.taken H' r = History.taken H r)
    (hsent : ∀ id, History.sentTo H' id = History.sentTo H id) :
    Extends H none H' where
  accepted r := by simp [haccepted, Change.accepted]
  taken r := by simp [htaken, Change.taken]
  sent id := ⟨[], by simp [hsent], fun _ => rfl⟩

theorem Extends.refl : Extends H none H :=
  .of_eq (fun _ => rfl) (fun _ => rfl) (fun _ => rfl)

theorem Extends.close
    {H H' : History}
    (h : Extends H none H')
    (r : Receiver) :
    Extends H (some (r, .closed)) H' := by
  refine ⟨?_, ?_, ?_⟩
  · intro other
    rw [h.accepted]
    by_cases hr : r = other <;> simp [Change.at?, Change.accepted, hr]
  · intro other
    rw [h.taken]
    by_cases hr : r = other <;> simp [Change.at?, Change.taken, hr]
  · intro id
    obtain ⟨more, hsent, hmore⟩ := h.sent id
    exact ⟨more, hsent, fun _ => hmore (by simp)⟩

theorem extends_accepted (p : Packet) :
    Extends H (some (r, .pushed p)) (H ++ [.accepted r p]) := by
  refine ⟨?_, ?_, ?_⟩
  · intro other
    by_cases hr : r = other <;>
      simp [History.accepted, Event.acceptedOn, Change.at?, Change.accepted, hr]
  · intro other
    by_cases hr : r = other <;>
      simp [History.taken, Event.takenFrom, Change.at?, Change.taken, hr]
  · intro id
    exact ⟨_, sentTo_append H _ id, fun hnone => absurd rfl (hnone r p)⟩

theorem extends_received (p : Packet) :
    Extends H (some (r, .took p)) (H ++ [.received r p]) := by
  refine ⟨?_, ?_, ?_⟩
  · intro other
    by_cases hr : r = other <;>
      simp [History.accepted, Event.acceptedOn, Change.at?, Change.accepted, hr]
  · intro other
    by_cases hr : r = other <;>
      simp [History.taken, Event.takenFrom, Change.at?, Change.taken, hr]
  · intro id
    exact ⟨[], by simp [History.sentTo, Event.sentTo], fun _ => rfl⟩

/-- A pull that goes on and takes a packet from an input. -/
theorem extends_took
    {inputs : List Receiver} {r : Receiver} {i : Nat}
    (hinput : inputs[i]? = some r)
    (findings : List Finding) (p : Packet) (packet packet' : Option Packet) :
    Extends (H ++ [.pulled k inputs ⟨findings, packet⟩]) (some (r, .took p))
      (H ++ [.pulled k inputs ⟨findings ++ [.took i p], packet'⟩]) := by
  refine ⟨?_, ?_, ?_⟩
  · intro other
    by_cases hr : r = other <;>
      simp [History.accepted, Event.acceptedOn, Change.at?, Change.accepted, hr]
  · intro other
    by_cases hr : r = other <;>
      simp [History.taken, Event.takenFrom, Finding.takesFrom, Change.at?, Change.taken, hinput, hr]
  · intro id
    exact ⟨[], by simp [History.sentTo, Event.sentTo], fun _ => rfl⟩

/-- A pull that goes on without taking anything. -/
theorem extends_quietly
    {findings more : List Finding}
    (hmore : ∀ (inputs : List Receiver) (r : Receiver),
      more.flatMap (Finding.takesFrom inputs r) = [])
    (inputs : List Receiver) (packet packet' : Option Packet) :
    Extends (H ++ [.pulled k inputs ⟨findings, packet⟩]) none
      (H ++ [.pulled k inputs ⟨findings ++ more, packet'⟩]) := by
  refine .of_eq ?_ ?_ ?_
  · intro other
    simp [History.accepted, Event.acceptedOn]
  · intro other
    simp [History.taken, Event.takenFrom, hmore]
  · intro id
    simp [History.sentTo, Event.sentTo]

end History
end ScatterGather
