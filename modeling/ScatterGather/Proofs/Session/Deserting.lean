import ScatterGather.Proofs.Session.Acting
import ScatterGather.Proofs.Session.Tracking

/-!
# Channels whose receivers are gone

Once the receiver of a channel was given out and dropped, nobody receives from the channel any more.

**Results.** Such a channel stays closed, whatever steps are done that release nothing. Whatever is
sent on it is refused, waiting sends included, and nobody else is given its receiver. It is tracked
until a sender was opened on it and none is left.
-/

namespace ScatterGather

namespace Mailbox

variable {m : Mailbox} {g : Nat}

theorem offer_of_not_open
    (h : ¬ m.Open g)
    (p : Packet) :
    (m.offer (some g) p).answer = .closed := by
  unfold offer
  cases hc : m.channels[g]? with
  | none =>
      simp [hc]
  | some c =>
      have hclosed : c.receiving = false := by
        rw [← Bool.not_eq_true]
        exact fun hreceiving => h ⟨c, hc, hreceiving⟩
      simp [hc, Channel.admission, hclosed]

theorem redeem_of_not_open
    (h : ¬ m.Open g)
    (ticket : Nat) (p : Packet) :
    (m.redeem g ticket p).answer = .closed := by
  unfold redeem
  cases hc : m.channels[g]? with
  | none =>
      rfl
  | some c =>
      have hclosed : c.receiving = false := by
        rw [← Bool.not_eq_true]
        exact fun hreceiving => h ⟨c, hc, hreceiving⟩
      simp [Channel.redemption, hclosed]

end Mailbox

namespace Mailboxes

variable {H : History} {outer given : Receiver → Prop} {lent : Receiver → Nat}
variable {attached spent : Receiver → Prop} {s : Mailboxes} {r : Receiver}

/-- The channel of a receiver is the one that its mailbox tracks. -/
def Tracks (s : Mailboxes) (r : Receiver) : Prop :=
  ∃ t, (s.box r.id).tracking = some t ∧ t.generation = r.generation

/-! ## What is sent on a closed channel -/

theorem send_of_not_open
    (h : ¬ s.Open r)
    (p : Packet) :
    (s.send r.sender p).1 = .closed :=
  Mailbox.offer_of_not_open h p

theorem sendWaiting_of_not_open
    (h : ¬ s.Open r)
    (p : Packet) :
    (s.sendWaiting r.sender p).1 = .closed ∧ (s.sendWaiting r.sender p).2.1 = none := by
  have hcloned : ¬ (s.cloneSender r.sender).Open r := by
    unfold Open cloneSender
    rw [box_update, if_pos (show r.sender.id = r.id from rfl)]
    refine fun hopen => h ?_
    exact (Mailbox.open_modify_iff (f := Channel.addSender) (fun _ => rfl) _ _ _).1 hopen
  have hsent := send_of_not_open hcloned p
  unfold sendWaiting
  dsimp only
  revert hsent
  generalize (s.cloneSender r.sender).send r.sender p = sent
  obtain ⟨answer, s'⟩ := sent
  rintro ⟨⟩
  exact ⟨rfl, rfl⟩

theorem retry_of_not_open
    {pending : PendingSend}
    (h : ¬ s.Open r)
    (hpending : pending.sender = r.sender) :
    (s.retry pending).1 = .closed := by
  obtain ⟨id, generation, ticket, p⟩ := pending
  obtain ⟨rid, g⟩ := r
  cases hpending
  have hanswer : (s.update id fun box => box.redeem generation ticket p).1 = .closed :=
    Mailbox.redeem_of_not_open h ticket p
  unfold retry
  dsimp only
  revert hanswer
  generalize (s.update id fun box => box.redeem generation ticket p) = redeemed
  obtain ⟨answer, s'⟩ := redeemed
  intro hanswer
  cases hanswer
  rfl

/-! ## Dropping handles -/

theorem Faithful.dropHandle
    {handle : Handle}
    (h : s.Faithful)
    (ho : s.Orderly H outer lent attached spent)
    (hheld : ∀ r, handle = .receiver r → outer r) :
    Gives given s (s.dropHandle handle) := by
  cases handle with
  | sender sender =>
      exact h.dropSender sender
  | pendingSend pending =>
      exact h.dropPendingSend pending
  | receiver r =>
      exact h.dropReceiver (ho.sound.issued none r (hheld r rfl))
  | merge number =>
      have hgives := (ho.sound.serves_dropMerge ho.wired number).gives h
      exact hgives.mono fun _ hfalse => hfalse.elim

/-! ## Tracked channels -/

theorem Orderly.latest_of_tracks
    (h : s.Orderly H outer lent attached spent)
    (hreleased : .released r.id ∉ H)
    (htracks : s.Tracks r) :
    s.Latest r := by
  obtain ⟨t, ht, hgeneration⟩ := htracks
  have hlatest := (((h.regular r.id).tended hreleased).current t ht).latest
  rw [hgeneration] at hlatest
  exact hlatest

theorem Orderly.tracks_iff_of_latest
    (h : s.Orderly H outer lent attached spent)
    (hentries : (Registry.keys s.boxes).Nodup)
    (hreleased : .released r.id ∉ H)
    (hlatest : s.Latest r) :
    s.Tracks r ↔ r.id ∈ s.tracked := by
  rw [mem_tracked_iff hentries]
  constructor
  · rintro ⟨t, ht, -⟩
    exact ⟨t, ht⟩
  · rintro ⟨t, ht⟩
    exact ⟨t, ht, (congrArg Receiver.generation (h.eq_of_latest hreleased ht hlatest)).symm⟩

end Mailboxes

namespace Session

variable {H : History} {attached spent given : Receiver → Prop} {s s' : Session} {r : Receiver}
variable {events : List Event} {opened : List Sender} {new : List Receiver} {name : String}

/-! ## What was given out stays given out -/

/-- The handle that a new one replaces is dropped. -/
theorem gives_hold
    {outer given : Receiver → Prop} {lent : Receiver → Nat} {mailboxes : Mailboxes}
    {handle : Handle}
    (hgives : s.mailboxes.Gives given mailboxes)
    (ho : mailboxes.Orderly H outer lent attached spent)
    (hheld : ∀ r, s.Receives r → outer r)
    (name : String) :
    s.mailboxes.Gives given (s.hold name handle mailboxes).mailboxes := by
  cases hold : s.find? name with
  | none =>
      rw [mailboxes_hold_of_eq_none hold]
      exact hgives
  | some old =>
      rw [mailboxes_hold_of_eq_some hold]
      exact hgives.trans (hgives.faithful.dropHandle ho fun r hr => hheld r ⟨name, hr ▸ hold⟩)

theorem Takes.gives
    (ht : s.Takes events opened new s')
    (ho : s.Orderly H attached spent)
    (h : s.mailboxes.Faithful)
    (hreleased : ∀ id, .released id ∉ events) :
    s.mailboxes.Gives (· ∈ new) s'.mailboxes := by
  have hmailboxes := ho.mailboxes
  cases ht with
  | idle =>
      exact .refl h
  | openSender id name =>
      exact gives_hold (h.openSender id) (hmailboxes.openSender id) (fun _ hr => hr) name
  | @cloneSender held sender hheld name =>
      have hcloned := hmailboxes.cloneSender fun _ => lent_pos hheld
      exact gives_hold (h.cloneSender sender) hcloned (fun _ hr => hr) name
  | @drop held handle hheld =>
      exact h.dropHandle hmailboxes fun r hr => ⟨held, hr ▸ hheld⟩
  | @send held sender _ p =>
      exact h.send sender p
  | @sendWaiting held sender p _ _ =>
      exact h.sendWaiting sender p
  | @wait held sender p pending hheld hwaits name =>
      obtain ⟨-, hsent⟩ := (hmailboxes.sendWaiting (fun _ => lent_pos hheld) p).1 pending hwaits
      exact gives_hold (h.sendWaiting sender p) hsent (fun _ hr => hr) name
  | @retry held pending _ _ =>
      exact h.retry pending
  | @redeem held pending _ _ =>
      exact h.retry pending
  | @openReceiver id r hanswer name =>
      have hgives : s.mailboxes.Gives (· ∈ [r]) (s.mailboxes.openReceiver id).2 := by
        refine (h.openReceiver id).mono fun other hother => ?_
        cases hanswer.symm.trans hother
        exact List.mem_singleton_self r
      have hmem : .asked id ∈ H ++ [.asked id] :=
        List.mem_append_right _ (List.mem_singleton_self _)
      have hopened := (hmailboxes.ask id).openReceiver hmem hanswer
      exact gives_hold hgives hopened (fun _ hr => Or.inl hr) name
  | @refuseReceiver id fault hanswer =>
      refine (h.openReceiver id).mono fun r hr => ?_
      cases hanswer.symm.trans hr
  | @receive held r _ =>
      exact h.receive r none
  | @openMerge request number _ name =>
      exact gives_hold ((hmailboxes.sound.serves_openMerge request).gives h)
        (hmailboxes.openMerge request) (fun _ hr => hr) name
  | refuseMerge request =>
      exact (hmailboxes.sound.serves_openMerge request).gives h
  | @pull held number _ =>
      have hgives := (hmailboxes.sound.serves_pull hmailboxes.wired number).1.gives h
      exact hgives.mono fun _ hfalse => hfalse.elim
  | release id =>
      exact absurd (List.mem_singleton_self _) (hreleased id)

theorem gives_run
    {steps : List Step}
    (ho : s.Orderly H attached spent)
    (h : s.mailboxes.Faithful)
    (hreleased : ∀ id, .release id ∉ steps) :
    s.mailboxes.Gives (fun _ => True) (s.run steps).2.mailboxes := by
  induction steps generalizing s H attached with
  | nil =>
      exact .refl h
  | cons step steps ih =>
      have ht := takes_step s step
      have hfirst := ht.gives ho h fun id hmem =>
        hreleased id ((mem_stepEvents hmem).2 id rfl ▸ List.mem_cons_self)
      have hrest := ih (ht.orderly ho) hfirst.faithful
        fun id hmem => hreleased id (List.mem_cons_of_mem _ hmem)
      exact (hfirst.mono fun _ _ => trivial).trans hrest

/-! ## Deserted channels -/

/-- The receiver of a channel is gone for good. On the channel nothing is sent any more, and it is
tracked, as long as it is the latest one, until a sender was `opened` on it and nobody holds one. -/
structure Deserted (s : Session) (opened : Prop) (r : Receiver) : Prop where
  gone : ¬ s.Alive r
  sends : ∀ name, s.find? name = some (.sender r.sender) → s.Refuses name r.id
  waiting : ∀ name pending, s.find? name = some (.pendingSend pending) →
    pending.sender = r.sender → (s.step (.retry name)).1 = .failed (.closed r.id)
  receivers : s.mailboxes.Tracks r → ∀ name,
    s.step (.openReceiver r.id name) = (.failed (.alreadyReceived r.id), s)
  tracked : s.mailboxes.Tracks r ↔ s.mailboxes.Latest r ∧ ¬ (opened ∧ ¬ s.HoldsSender r)

theorem refuses_of_not_open
    (h : ¬ s.mailboxes.Open r)
    (hheld : s.find? name = some (.sender r.sender)) :
    s.Refuses name r.id :=
  refuses_of_closed hheld (Mailboxes.send_of_not_open h) (Mailboxes.sendWaiting_of_not_open h)

theorem retry_of_not_open
    {pending : PendingSend}
    (h : ¬ s.mailboxes.Open r)
    (hheld : s.find? name = some (.pendingSend pending))
    (hpending : pending.sender = r.sender) :
    (s.step (.retry name)).1 = .failed (.closed r.id) := by
  have hanswer := Mailboxes.retry_of_not_open h hpending
  have hid : pending.id = r.id := congrArg Sender.id hpending
  rw [step_retry_of_ne_full hheld (by simp [hanswer]), hanswer, hid]
  rfl

/-- A channel whose receiver was given out and that is not open is deserted. -/
theorem Orderly.deserted
    (h : s.Orderly H attached spent)
    (hcustody : s.Custody given)
    (hentries : (Registry.keys s.mailboxes.boxes).Nodup)
    (hreleased : .released r.id ∉ H)
    (hgiven : given r)
    (hclosed : ¬ s.mailboxes.Open r) :
    s.Deserted (attached r) r := by
  have hmailboxes := h.mailboxes
  have hgone : ¬ s.Alive r := fun halive => hclosed (hmailboxes.issued_of_alive halive).1
  refine ⟨hgone, fun name => refuses_of_not_open hclosed,
    fun name pending => retry_of_not_open hclosed, fun htracks name => ?_, ?_⟩
  · have hlatest := hmailboxes.latest_of_tracks hreleased htracks
    obtain ⟨t, ht, -⟩ := htracks
    have hrefused := hmailboxes.openReceiver_of_given hcustody hreleased ht hlatest hgiven
    rw [step_openReceiver_of_error (congrArg Prod.fst hrefused), hrefused]
    rfl
  · have hneeded : s.mailboxes.Latest r →
        (s.mailboxes.Tracks r ↔ ¬ (attached r ∧ ¬ s.HoldsSender r)) := by
      intro hlatest
      rw [hmailboxes.tracks_iff_of_latest hentries hreleased hlatest,
        hmailboxes.mem_tracked_iff_of_latest hcustody hentries hreleased hlatest,
        h.lent_eq_zero_iff_not_holdsSender]
      exact not_congr (and_iff_right ⟨hgiven, hgone⟩)
    constructor
    · intro htracks
      have hlatest := hmailboxes.latest_of_tracks hreleased htracks
      exact ⟨hlatest, (hneeded hlatest).1 htracks⟩
    · rintro ⟨hlatest, hneeds⟩
      exact (hneeded hlatest).2 hneeds

/-- **Deserted for good.** A channel whose receiver was given out and dropped is deserted after all
steps that release nothing. -/
theorem Reached.deserted
    {start : Session} {acts : List Act} {more : List Step}
    (h : start.Reached acts)
    (h' : start.Reached (acts ++ more.map .step))
    (hmore : ∀ id, .release id ∉ more)
    (hgiven : r ∈ along givenBy start acts)
    (hclosed : ¬ (start.performAll acts).mailboxes.Open r) :
    ((start.performAll acts).run more).2.Deserted
      (r.sender ∈ along sendersOf start (acts ++ more.map .step)) r := by
  have hrun : ((start.performAll acts).run more).2 =
      start.performAll (acts ++ more.map .step) := by
    rw [performAll_append, performAll_steps]
  have hlater := (gives_run h.orderly h.custody.faithful hmore).later r
    ((h.custody.issued r).2 hgiven)
  rw [hrun] at hlater ⊢
  refine h'.orderly.deserted h'.custody h'.entries (h'.unreleased r.id) ?_ fun hopen => ?_
  · exact (h'.custody.issued r).1 hlater.1
  · exact hclosed (hlater.2 hopen)

end Session
end ScatterGather
