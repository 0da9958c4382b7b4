import ScatterGather.Proofs.Mailboxes.Sound

/-!
# Opening and dropping merges

A merge is opened over receivers that are given out to it one after the other, and takes them over
once it has them all. When it is dropped, those that it still receives from are dropped one by one.

**Results.** Both keep mailboxes in agreement with their history, and an opened merge is over the
mailboxes of the senders that were chosen, in their order.
-/

namespace ScatterGather

/-- What a merge request adds to a history: it asks for the receivers of the senders it chooses. -/
def MergeRequest.asks (request : MergeRequest) : List Event :=
  match request.chosen with
  | .ok senders => (senders.map request.idOf).map .asked
  | .error _ => []

namespace Mailboxes

variable {H : History} {outer : Receiver → Prop} {s s' : Mailboxes}

/-- The receivers that are given out when they are asked for in turn, up to the first one that is
refused. -/
def givenOut (s : Mailboxes) : List MailboxId → List Receiver
  | [] => []
  | id :: ids =>
    match s.openReceiver id with
    | (.ok r, s) => r :: s.givenOut ids
    | (.error _, _) => []

theorem givenOut_of_ok
    {id : MailboxId} {r : Receiver}
    (h : s.openReceiver id = (.ok r, s'))
    (ids : List MailboxId) :
    s.givenOut (id :: ids) = r :: s'.givenOut ids := by
  rw [givenOut, h]

theorem givenOut_of_error
    {id : MailboxId} {fault : MailboxFault}
    (h : s.openReceiver id = (.error fault, s'))
    (ids : List MailboxId) :
    s.givenOut (id :: ids) = [] := by
  rw [givenOut, h]

/-- Receivers that are all opened are those that were given out. -/
theorem openReceivers_ok
    {opened receivers : List Receiver} {ids : List MailboxId}
    (h : (s.openReceivers opened ids).1 = .ok receivers) :
    receivers = opened ++ s.givenOut ids := by
  induction ids generalizing s opened with
  | nil =>
      cases h
      exact (List.append_nil receivers).symm
  | cons id ids ih =>
      unfold openReceivers at h
      split at h
      · next r s' hopen =>
          rw [ih h, givenOut_of_ok hopen, List.append_assoc, List.singleton_append]
      · cases h

/-- The receivers that are given out to a merge when it is asked for. -/
def givenTo (s : Mailboxes) (request : MergeRequest) : List Receiver :=
  match request.chosen with
  | .ok senders => s.givenOut (senders.map request.idOf)
  | .error _ => []

/-- Nothing was taken yet by a receiver whose channel is open. -/
def Untouched (s : Mailboxes) (H : History) (r : Receiver) : Prop :=
  H.taken r = [] ∧ ∃ c, (s.slot r).channel? = some c ∧ c.receiving = true

theorem Untouched.quietly
    {r : Receiver}
    (h : s.Untouched H r)
    (he : s.Evolves none s') :
    s'.Untouched H r := by
  obtain ⟨htaken, c, hc, hopen⟩ := h
  obtain ⟨c', hc', hreceiving⟩ := (he.slots r).receiving rfl hc
  exact ⟨htaken, c', hc', hreceiving.trans hopen⟩

theorem Sound.untouched_of_openReceiver
    {id : MailboxId} {r : Receiver}
    (h : Sound H outer s)
    (hanswer : (s.openReceiver id).1 = .ok r) :
    (s.openReceiver id).2.Untouched H r := by
  have he := evolves_openReceiver s id
  obtain ⟨-, hbefore, -⟩ := openReceiver_answer hanswer
  rcases hbefore with hkept | ⟨hnone, hsome⟩
  · exact Untouched.quietly ((h.accounts r).kept hkept) he
  · obtain ⟨c', hc'⟩ := Option.ne_none_iff_exists'.1 hsome
    have haccepted := (h.accounts r).absent hnone
    refine ⟨?_, c', hc', ((he.slots r).fresh hnone c' hc').2⟩
    exact List.prefix_nil.1 (haccepted ▸ (h.accounts r).inOrder)

theorem Sound.dropReceivers
    (h : Sound H outer s)
    (receivers : List Receiver)
    (houter : ∀ r ∈ receivers, outer r) :
    Sound H outer (receivers.foldl Mailboxes.dropReceiver s) := by
  induction receivers generalizing s with
  | nil =>
      exact h
  | cons r rest ih =>
      obtain ⟨hr, hrest⟩ := List.forall_mem_cons.1 houter
      exact ih (h.dropReceiver hr) hrest

/-- Receivers that were given out for a merge, which does not have them yet. -/
structure Gathered (s : Mailboxes) (H : History) (outer : Receiver → Prop)
    (receivers : List Receiver) : Prop where
  sound : Sound H (fun r => outer r ∨ r ∈ receivers) s
  nodup : receivers.Nodup
  apart : ∀ r ∈ receivers, ¬ outer r
  untouched : ∀ r ∈ receivers, s.Untouched H r

theorem Gathered.start (h : Sound H outer s) : s.Gathered H outer [] :=
  ⟨h.mono fun r hr => hr.resolve_right (by simp), List.nodup_nil, by simp, by simp⟩

theorem Gathered.open
    {receivers : List Receiver} {id : MailboxId} {r : Receiver}
    (h : s.Gathered H outer receivers)
    (hasked : .asked id ∈ H)
    (hanswer : (s.openReceiver id).1 = .ok r) :
    (s.openReceiver id).2.Gathered H outer (receivers ++ [r]) := by
  have hunheld := h.sound.not_holds_of_openReceiver hanswer none
  have hnew : r ∉ receivers := fun hmem => hunheld (Or.inr hmem)
  refine ⟨?_, ?_, ?_, ?_⟩
  · refine (h.sound.openReceiver hasked hanswer).mono ?_
    intro other hother
    rcases hother with houter | hmem
    · exact Or.inl (Or.inl houter)
    · rcases List.mem_append.1 hmem with hmem | hmem
      · exact Or.inl (Or.inr hmem)
      · exact Or.inr (List.mem_singleton.1 hmem)
  · refine List.nodup_append.2 ⟨h.nodup, by simp, ?_⟩
    intro a ha b hb heq
    rw [List.mem_singleton.1 hb] at heq
    exact hnew (heq ▸ ha)
  · intro other hother
    rcases List.mem_append.1 hother with hmem | hmem
    · exact h.apart other hmem
    · rw [List.mem_singleton.1 hmem]
      exact fun houter => hunheld (Or.inl houter)
  · intro other hother
    rcases List.mem_append.1 hother with hmem | hmem
    · exact (h.untouched other hmem).quietly (evolves_openReceiver s id)
    · rw [List.mem_singleton.1 hmem]
      exact h.sound.untouched_of_openReceiver hanswer

/-- Either all receivers are given out, or none in the end. -/
theorem Gathered.openReceivers
    {opened : List Receiver}
    (h : s.Gathered H outer opened)
    (ids : List MailboxId)
    (hasked : ∀ id ∈ ids, .asked id ∈ H) :
    (∃ receivers, (s.openReceivers opened ids).1 = .ok receivers ∧
      (s.openReceivers opened ids).2.Gathered H outer receivers ∧
      receivers.map Receiver.id = opened.map Receiver.id ++ ids) ∨
    (∃ fault, (s.openReceivers opened ids).1 = .error fault ∧
      Sound H outer (s.openReceivers opened ids).2) := by
  induction ids generalizing s opened with
  | nil =>
      exact Or.inl ⟨opened, rfl, h, by simp⟩
  | cons id ids ih =>
      obtain ⟨hasked, hrest⟩ := List.forall_mem_cons.1 hasked
      unfold Mailboxes.openReceivers
      split
      · next r s' hopen =>
          have hanswer : (s.openReceiver id).1 = .ok r := by rw [hopen]
          have hnext := h.open hasked hanswer
          obtain ⟨hid, -⟩ := openReceiver_answer hanswer
          rw [hopen] at hnext
          rcases ih hnext hrest with ⟨receivers, hok, hgathered, hids⟩ | hfailed
          · exact Or.inl ⟨receivers, hok, hgathered, by simp [hids, hid]⟩
          · exact Or.inr hfailed
      · next fault s' hopen =>
          have hquiet := h.sound.quietly (evolves_openReceiver s id) (retains_openReceiver hasked)
          rw [hopen] at hquiet
          refine Or.inr ⟨fault, rfl, ?_⟩
          exact (hquiet.dropReceivers opened fun r hr => Or.inr hr).mono fun r => Or.inl

/-- The merge over receivers that were given out for it takes them over. -/
theorem Gathered.addMerge
    {receivers : List Receiver}
    (h : s.Gathered H outer receivers)
    (schema : Schema) (routing : Routing) :
    Sound H outer { s with
      merges := Registry.set s.merges s.nextMerge (.ofReceivers schema routing receivers)
      nextMerge := s.nextMerge + 1 } := by
  have hsound := h.sound
  have hholds : ∀ holder r, Holds { s with
      merges := Registry.set s.merges s.nextMerge (.ofReceivers schema routing receivers)
      nextMerge := s.nextMerge + 1 } outer holder r →
        (s.Holds outer holder r ∧ (holder = none → outer r)) ∨
          (holder = some s.nextMerge ∧ r ∈ receivers) := by
    intro holder r hholder
    cases holder with
    | none =>
        exact Or.inl ⟨hholder, fun _ => hholder⟩
    | some number =>
        obtain ⟨m, hm, hmem⟩ := hholder
        rw [Registry.find?_set] at hm
        split at hm
        · next heq =>
            subst heq
            cases hm
            exact Or.inr ⟨rfl, hmem⟩
        · exact Or.inl ⟨⟨m, hm, hmem⟩, fun heq => by cases heq⟩
  have hwiden : ∀ holder r, s.Holds outer holder r →
      s.Holds (fun r => outer r ∨ r ∈ receivers) holder r := by
    intro holder r hholder
    cases holder with
    | none =>
        exact Or.inl hholder
    | some number =>
        exact hholder
  have hnext : ∀ holder r, s.Holds outer holder r → r ∉ receivers := by
    intro holder r hholder hmem
    have hnone : holder = none :=
      hsound.unique holder none r (hwiden holder r hholder) (Or.inr hmem)
    subst hnone
    exact h.apart r hmem hholder
  refine ⟨hsound.accounts, ?_, ?_, ?_, ?_, ?_, ?_⟩
  · intro holder r hholder
    rcases hholds holder r hholder with ⟨hold, -⟩ | ⟨-, hmem⟩
    · exact hsound.issued holder r (hwiden holder r hold)
    · exact hsound.issued none r (Or.inr hmem)
  · intro holder holder' r hholder hholder'
    rcases hholds holder r hholder with ⟨hold, -⟩ | ⟨rfl, hmem⟩
    · rcases hholds holder' r hholder' with ⟨hold', -⟩ | ⟨-, hmem⟩
      · exact hsound.unique holder holder' r (hwiden holder r hold) (hwiden holder' r hold')
      · exact absurd hmem (hnext holder r hold)
    · rcases hholds holder' r hholder' with ⟨hold', -⟩ | ⟨rfl, -⟩
      · exact absurd hmem (hnext holder' r hold')
      · rfl
  · intro number m hm
    rw [Registry.find?_set] at hm
    split at hm
    · next heq =>
        subst heq
        exact Nat.lt_succ_self _
    · exact Nat.lt_succ_of_lt (hsound.below number m hm)
  · intro number inputs q hmem
    exact Nat.lt_succ_of_lt (hsound.opened number inputs q hmem)
  · intro number m hm
    rw [Registry.find?_set] at hm
    split at hm
    · next heq =>
        subst heq
        cases hm
        have hunpulled : ∀ inputs q, .pulled s.nextMerge inputs q ∉ H :=
          fun inputs q hmem => Nat.lt_irrefl _ (hsound.opened _ inputs q hmem)
        have hpulls := History.pulls_eq_nil hunpulled
        refine ⟨?_, h.nodup, ?_, ?_, ?_, ?_⟩
        · exact fun inputs q hmem => absurd hmem (hunpulled inputs q)
        · rw [hpulls]
          exact .start schema routing receivers
        · intro i r hr
          rw [(h.untouched r (List.mem_of_getElem? hr)).1, History.takenBy, hpulls]
          rfl
        · intro i r hr _
          exact (h.untouched r (List.mem_of_getElem? hr)).2
        · intro i r hr hlive
          have hi : i < receivers.length := (List.getElem?_eq_some_iff.1 hr).1
          exact absurd (List.mem_range.2 hi) hlive
    · have hfollows := hsound.follows number m hm
      exact ⟨hfollows.inputs, hfollows.nodup, hfollows.tally, hfollows.taken, hfollows.live,
        hfollows.gone⟩
  · intro id hreleased
    have htraced := hsound.traced id hreleased
    exact ⟨htraced.first, htraced.unreceived⟩

theorem Sound.asks
    (h : Sound H outer s)
    (ids : List MailboxId) :
    Sound (H ++ ids.map .asked) outer s := by
  induction ids generalizing H with
  | nil =>
      simpa using h
  | cons id ids ih =>
      simpa using ih (h.ask id)

theorem Sound.openMerge
    (h : Sound H outer s)
    (request : MergeRequest) :
    Sound (H ++ request.asks) outer (s.openMerge request).2 := by
  unfold Mailboxes.openMerge MergeRequest.asks
  cases request.chosen with
  | error fault =>
      simpa using h
  | ok senders =>
      dsimp only
      have hasked := h.asks (senders.map request.idOf)
      have hmem : ∀ id ∈ senders.map request.idOf,
          .asked id ∈ H ++ (senders.map request.idOf).map .asked :=
        fun id hid => List.mem_append_right _ (List.mem_map_of_mem hid)
      rcases (Gathered.start hasked).openReceivers (senders.map request.idOf) hmem with
        ⟨receivers, hok, hopened, -⟩ | ⟨fault, herror, hsound⟩
      · split
        · next hopen =>
            rw [hopen] at hok
            cases hok
        · next receivers' s' hopen =>
            rw [hopen] at hok hopened
            cases hok
            exact hopened.addMerge request.schema request.routing
      · split
        · next hopen =>
            rw [hopen] at hsound
            exact hsound
        · next hopen =>
            rw [hopen] at herror
            cases herror

/-- Giving out receivers opens no second channel. -/
theorem first_openReceivers
    {opened receivers : List Receiver} {ids : List MailboxId} {id : MailboxId}
    (hfirst : (s.box id).First)
    (hok : (s.openReceivers opened ids).1 = .ok receivers) :
    ((s.openReceivers opened ids).2.box id).First := by
  induction ids generalizing s opened with
  | nil =>
      exact hfirst
  | cons next ids ih =>
      have hnext : ((s.openReceiver next).2.box id).First := first_openReceiver hfirst
      unfold openReceivers at hok ⊢
      split at hok
      · next hopen =>
          rw [hopen] at hnext
          exact ih hnext hok
      · cases hok

/-- What is opened: a merge over the mailboxes of the chosen senders, in their order. A receiver is
that of the first channel if the mailbox had no other one. -/
theorem Sound.openMerge_answer
    {request : MergeRequest} {number : Nat}
    (h : Sound H outer s)
    (hanswer : (s.openMerge request).1 = .ok number) :
    ∃ senders receivers,
      request.chosen = .ok senders ∧
      receivers.map Receiver.id = senders.map request.idOf ∧
      Registry.find? (s.openMerge request).2.merges number =
        some (.ofReceivers request.schema request.routing receivers) ∧
      H.pulls number = [] ∧
      ∀ r ∈ receivers, (s.box r.id).First → r.generation = 0 := by
  unfold Mailboxes.openMerge at hanswer ⊢
  cases hchosen : request.chosen with
  | error fault =>
      rw [hchosen] at hanswer
      cases hanswer
  | ok senders =>
      rw [hchosen] at hanswer
      dsimp only at hanswer ⊢
      have hasked := h.asks (senders.map request.idOf)
      have hmem : ∀ id ∈ senders.map request.idOf,
          .asked id ∈ H ++ (senders.map request.idOf).map .asked :=
        fun id hid => List.mem_append_right _ (List.mem_map_of_mem hid)
      rcases (Gathered.start hasked).openReceivers (senders.map request.idOf) hmem with
        ⟨receivers, hok, hopened, hids⟩ | ⟨fault, herror, -⟩
      · have hgeneration : ∀ r ∈ receivers, (s.box r.id).First → r.generation = 0 := by
          intro r hr hfirst
          have hissued := hopened.sound.issued none r (Or.inr hr)
          exact (first_openReceivers hfirst hok).eq_zero hissued.1
        split at hanswer
        · cases hanswer
        · next receivers' s' hopen =>
            cases hanswer
            rw [hopen] at hok hopened
            cases hok
            refine ⟨senders, receivers, rfl, by simpa using hids, ?_, ?_, hgeneration⟩
            · dsimp only
              rw [Registry.find?_set, if_pos rfl]
            · refine History.pulls_eq_nil fun inputs q hmem => ?_
              have hlt := hopened.sound.opened _ inputs q (List.mem_append_left _ hmem)
              exact Nat.lt_irrefl _ hlt
      · split at hanswer
        · cases hanswer
        · next hopen =>
            rw [hopen] at herror
            cases herror

/-! ## Dropping merges -/

theorem foldl_dropReceiver
    (s : Mailboxes) (receivers : List Receiver) (merges : Registry Nat Merge) :
    { receivers.foldl dropReceiver s with merges } =
      receivers.foldl dropReceiver { s with merges } := by
  induction receivers generalizing s with
  | nil =>
      rfl
  | cons r rest ih =>
      exact ih (s.dropReceiver r)

theorem merges_foldl_dropReceiver (s : Mailboxes) (receivers : List Receiver) :
    (receivers.foldl dropReceiver s).merges = s.merges := by
  induction receivers generalizing s with
  | nil =>
      rfl
  | cons r rest ih =>
      exact ih (s.dropReceiver r)

/-- A merge that is taken out leaves its receivers to others. -/
theorem Sound.eraseMerge
    {number : Nat} {m : Merge}
    (h : Sound H outer s)
    (hm : Registry.find? s.merges number = some m) :
    Sound H (fun r => outer r ∨ r ∈ m.receivers)
      { s with merges := Registry.erase s.merges number } := by
  have hkept : ∀ k m', Registry.find? (Registry.erase s.merges number) k = some m' →
      k ≠ number ∧ Registry.find? s.merges k = some m' := by
    intro k m' hm'
    rw [Registry.find?_erase] at hm'
    split at hm'
    · cases hm'
    · next hne => exact ⟨Ne.symm hne, hm'⟩
  have hholds : ∀ holder r,
      Holds { s with merges := Registry.erase s.merges number }
        (fun r => outer r ∨ r ∈ m.receivers) holder r →
          (s.Holds outer holder r ∧ holder ≠ some number) ∨
            (holder = none ∧ s.Holds outer (some number) r) := by
    intro holder r hholder
    cases holder with
    | none =>
        rcases hholder with houter | hmem
        · exact Or.inl ⟨houter, by simp⟩
        · exact Or.inr ⟨rfl, m, hm, hmem⟩
    | some k =>
        obtain ⟨m', hm', hmem⟩ := hholder
        obtain ⟨hne, hm'⟩ := hkept k m' hm'
        exact Or.inl ⟨⟨m', hm', hmem⟩, by simp [hne]⟩
  refine ⟨h.accounts, ?_, ?_, ?_, h.opened, ?_, ?_⟩
  · intro holder r hholder
    rcases hholds holder r hholder with ⟨hold, -⟩ | ⟨-, hold⟩
    · exact h.issued holder r hold
    · exact h.issued (some number) r hold
  · intro holder holder' r hholder hholder'
    rcases hholds holder r hholder with ⟨hold, hne⟩ | ⟨rfl, hold⟩
    · rcases hholds holder' r hholder' with ⟨hold', -⟩ | ⟨-, hold'⟩
      · exact h.unique holder holder' r hold hold'
      · exact absurd (h.unique holder (some number) r hold hold') hne
    · rcases hholds holder' r hholder' with ⟨hold', hne⟩ | ⟨rfl, -⟩
      · exact absurd (h.unique holder' (some number) r hold' hold) hne
      · rfl
  · exact fun k m' hm' => h.below k m' (hkept k m' hm').2
  · intro k m' hm'
    have hfollows := h.follows k m' (hkept k m' hm').2
    exact ⟨hfollows.inputs, hfollows.nodup, hfollows.tally, hfollows.taken, hfollows.live,
      hfollows.gone⟩
  · intro id hreleased
    have htraced := h.traced id hreleased
    exact ⟨htraced.first, htraced.unreceived⟩

theorem Sound.dropMerge
    (h : Sound H outer s)
    (number : Nat) :
    Sound H outer (s.dropMerge number) := by
  unfold Mailboxes.dropMerge
  split
  · next m hm =>
      dsimp only
      rw [foldl_dropReceiver, merges_foldl_dropReceiver]
      refine ((h.eraseMerge hm).dropReceivers _ ?_).mono fun r => Or.inl
      intro r hr
      obtain ⟨i, -, hi⟩ := List.mem_filterMap.1 hr
      exact Or.inr (List.mem_of_getElem? hi)
  · exact h

end Mailboxes
end ScatterGather
