import Mathlib.Data.List.Forall2
import ScatterGather.Dispatch.Dispatcher
import ScatterGather.Proofs.Session.Acts

/-!
# Dispatches on record

A network can be watched: which requests were submitted through which clients, how they were
responded to, and which steps the clients took on the mailboxes of this process meanwhile. Nothing
else changes by that.

**Results.** A watched dispatch does what the dispatch itself does. However it ends, the steps on
record lead to the session in which it does, and if it ends well, one request is on record for each target, in their
order, that was submitted through the client of that target and was accepted.
-/

namespace ScatterGather

/-! ## Programs -/

namespace Program

variable {α β : Type}

/-- The steps that a program takes. -/
def steps : Program α → Session → List Step
  | done _, _ => []
  | act step next, s => step :: (next (s.step step).1).steps (s.step step).2

/-- A program that tells in the end which steps it took, besides those taken `before`. -/
def noting : Program α → (before : List Step) → Program (α × List Step)
  | done result, before => done (result, before)
  | act step next, before => act step fun answer => (next answer).noting (before ++ [step])

theorem run_steps (p : Program α) (s : Session) :
    (s.run (p.steps s)).2 = (p.run s).2 := by
  induction p generalizing s with
  | done result =>
      rfl
  | act step next ih =>
      exact ih (s.step step).1 (s.step step).2

theorem run_noting (p : Program α) (before : List Step) (s : Session) :
    (p.noting before).run s = (((p.run s).1, before ++ p.steps s), (p.run s).2) := by
  induction p generalizing s before with
  | done result =>
      show ((result, before), s) = ((result, before ++ []), s)
      rw [List.append_nil]
  | act step next ih =>
      have hnext := ih (s.step step).1 (before ++ [step]) (s.step step).2
      rw [List.append_assoc] at hnext
      exact hnext

theorem run_andThen (p : Program α) (next : α → Program β) (s : Session) :
    (p.andThen next).run s = (next (p.run s).1).run (p.run s).2 := by
  induction p generalizing s with
  | done result =>
      rfl
  | act step following ih =>
      exact ih (s.step step).1 (s.step step).2

end Program

/-! ## Networks -/

/-- One request that was submitted, through which client, and what came of it. -/
structure Submitted (γ : Type) where
  client : γ
  request : Request
  response : Except QueryError Response

/-- What is on record of a network. -/
structure Record (γ : Type) where
  submissions : List (Submitted γ)
  steps : List Step

variable {ω γ : Type}

/-- Nothing on record yet. -/
def Record.start : Record γ :=
  { submissions := [], steps := [] }

/-- One more submission, and the steps taken for it. -/
def Record.add (r : Record γ) (submission : Submitted γ) (steps : List Step) : Record γ :=
  { submissions := r.submissions ++ [submission], steps := r.steps ++ steps }

/-- A network that is watched. -/
def Network.recording (network : Network ω γ) : Network (ω × Record γ) γ where
  connect host servicePort outside :=
    let (client, left) := network.connect host servicePort outside.1
    (client, left, outside.2)
  submit client request outside :=
    ((network.submit client request outside.1).noting []).andThen fun ((response, left), steps) =>
      .done (response, left, outside.2.add ⟨client, request, response⟩ steps)
  close client outside := (network.close client outside.1, outside.2)

/-- A dispatcher to a network that is watched. -/
def Dispatcher.recording (d : Dispatcher ω γ) : Dispatcher (ω × Record γ) γ :=
  { network := d.network.recording, defaultTimeout := d.defaultTimeout }

namespace World

/-- A world without its record. -/
def forget (w : World (ω × Record γ) γ) : World ω γ :=
  { pool := w.pool, session := w.session, outside := w.outside.1 }

/-- A world in which nothing is on record yet. -/
def watched (w : World ω γ) : World (ω × Record γ) γ :=
  { pool := w.pool, session := w.session, outside := (w.outside, .start) }

/-- What is on record. -/
def record (w : World (ω × Record γ) γ) : Record γ :=
  w.outside.2

end World

/-! ## Forgetting the record -/

variable {network : Network ω γ} {d : Dispatcher ω γ} {w w' : World (ω × Record γ) γ}

theorem Pool.getOrConnect_recording
    (pool : Pool γ) (host : String) (servicePort : UInt16) (outside : ω × Record γ) :
    pool.getOrConnect network.recording host servicePort outside =
      ((pool.getOrConnect network host servicePort outside.1).1,
        (pool.getOrConnect network host servicePort outside.1).2.1,
        (pool.getOrConnect network host servicePort outside.1).2.2, outside.2) := by
  unfold Pool.getOrConnect
  split
  · rfl
  · split
    · rfl
    · have hconnect : network.recording.connect host servicePort outside =
          ((network.connect host servicePort outside.1).1,
            (network.connect host servicePort outside.1).2, outside.2) :=
        rfl
      rw [hconnect]
      cases network.connect host servicePort outside.1 with
      | mk answer left =>
          cases answer <;> rfl

namespace World

theorem client_forget (w : World (ω × Record γ) γ) (host : String) (servicePort : UInt16) :
    w.forget.client network host servicePort =
      Prod.map id forget (w.client network.recording host servicePort) := by
  unfold World.client
  rw [Pool.getOrConnect_recording]
  rfl

theorem send_recording (w : World (ω × Record γ) γ) (client : γ) (request : Request) :
    w.send network.recording client request =
      ((w.forget.send network client request).1,
        { pool := w.pool
          session := (w.forget.send network client request).2.session
          outside := ((w.forget.send network client request).2.outside,
            w.record.add ⟨client, request, (w.forget.send network client request).1⟩
              ((network.submit client request w.outside.1).steps w.session)) }) := by
  unfold World.send
  dsimp only [Network.recording]
  rw [Program.run_andThen, Program.run_noting]
  rfl

theorem send_forget (w : World (ω × Record γ) γ) (client : γ) (request : Request) :
    w.forget.send network client request =
      Prod.map id forget (w.send network.recording client request) := by
  rw [send_recording]
  rfl

end World

namespace Dispatcher

variable {request : Int64} {plan : Plan}

theorem dispatchTo_forget (target : Int32 × Server) (w : World (ω × Record γ) γ) :
    d.dispatchTo request plan target w.forget =
      Prod.map id World.forget (d.recording.dispatchTo request plan target w) := by
  have hnetwork : d.recording.network = d.network.recording := rfl
  unfold dispatchTo
  rw [hnetwork]
  dsimp only
  cases plan.bind target.1 target.2 with
  | error fault =>
      rfl
  | ok bound =>
      dsimp only
      rw [World.client_forget]
      cases w.client d.network.recording target.2.host target.2.servicePort with
      | mk answer w =>
          cases answer with
          | error e =>
              rfl
          | ok client =>
              dsimp only [Prod.map_apply, id]
              rw [World.send_forget]
              cases w.send d.network.recording client (bound.request request) with
              | mk answer w =>
                  cases answer with
                  | error e =>
                      rfl
                  | ok response =>
                      dsimp only [Prod.map_apply, id]
                      cases response.error? <;> rfl

theorem dispatchAll_forget (targets : List (Int32 × Server)) (w : World (ω × Record γ) γ) :
    d.dispatchAll request plan targets w.forget =
      Prod.map id World.forget (d.recording.dispatchAll request plan targets w) := by
  induction targets generalizing w with
  | nil =>
      rfl
  | cons target targets ih =>
      unfold dispatchAll
      rw [dispatchTo_forget]
      cases d.recording.dispatchTo request plan target w with
      | mk answer w =>
          cases answer with
          | error e =>
              rfl
          | ok _ =>
              exact ih w

/-- A watched dispatch does what the dispatch does. -/
theorem dispatch_forget (w : World (ω × Record γ) γ) :
    d.dispatch request plan w.forget =
      Prod.map id World.forget (d.recording.dispatch request plan w) := by
  unfold dispatch
  cases plan.validate with
  | error fault =>
      rfl
  | ok _ =>
      dsimp only
      rw [dispatchAll_forget]
      cases d.recording.dispatchAll request plan plan.targets w with
      | mk answer w =>
          cases answer <;> rfl

end Dispatcher

namespace Dispatcher

/-- What a dispatch gives is what it gives when it is watched. -/
theorem exists_recorded
    {request : Int64} {plan : Plan} {w dispatched : World ω γ} {answer : Except QueryError Int32}
    (h : d.dispatch request plan w = (answer, dispatched)) :
    ∃ recorded, recorded.forget = dispatched ∧
      d.recording.dispatch request plan w.watched = (answer, recorded) := by
  have hforget : d.dispatch request plan w =
      Prod.map id World.forget (d.recording.dispatch request plan w.watched) :=
    dispatch_forget w.watched
  rw [h] at hforget
  cases hrecorded : d.recording.dispatch request plan w.watched with
  | mk answer recorded =>
      rw [hrecorded] at hforget
      cases hforget
      exact ⟨recorded, rfl, rfl⟩

end Dispatcher

/-! ## What is on record of a dispatch -/

namespace Pool

variable {pool pool' pool'' : Pool γ}

/-- A pool that keeps all clients of an earlier one. -/
def Keeps (pool pool' : Pool γ) : Prop :=
  ∀ key client, Registry.find? pool.clients key = some client →
    Registry.find? pool'.clients key = some client

theorem keeps_getOrConnect
    (network : Network ω γ) (host : String) (servicePort : UInt16) (pool : Pool γ) (outside : ω) :
    pool.Keeps (pool.getOrConnect network host servicePort outside).2.1 := by
  intro key' client hclient
  unfold getOrConnect
  split
  · exact hclient
  · split
    · exact hclient
    · next hnone =>
        split
        · exact hclient
        · dsimp only
          rw [Registry.find?_set]
          split
          · next heq =>
              subst heq
              rw [hnone] at hclient
              cases hclient
          · exact hclient

theorem find?_getOrConnect
    {network : Network ω γ} {host : String} {servicePort : UInt16} {outside : ω} {client : γ}
    (h : (pool.getOrConnect network host servicePort outside).1 = .ok client) :
    Registry.find? (pool.getOrConnect network host servicePort outside).2.1.clients
      (key host servicePort) = some client := by
  unfold getOrConnect at h ⊢
  split at h
  · cases h
  · next hopen =>
      rw [if_neg hopen]
      split at h
      · next hfound =>
          cases h
          exact hfound
      · split at h
        · cases h
        · cases h
          exact (Registry.find?_set _ _ _ _).trans (if_pos rfl)

end Pool

/-- A submission that served a target: it carried the target's bound plan through the client that a
pool has for the target, and was accepted. -/
structure Submitted.Serves (pool : Pool γ) (plan : Plan) (request : Int64)
    (target : Int32 × Server) (submission : Submitted γ) : Prop where
  client : Registry.find? pool.clients (Pool.key target.2.host target.2.servicePort) =
    some submission.client
  request : ∃ bound, plan.bind target.1 target.2 = .ok bound ∧
    submission.request = bound.request request
  accepted : ∃ response, submission.response = .ok response ∧ response.error? = none

theorem Submitted.Serves.mono
    {pool pool' : Pool γ} {plan : Plan} {request : Int64} {target : Int32 × Server}
    {submission : Submitted γ}
    (h : submission.Serves pool plan request target)
    (hkeeps : pool.Keeps pool') :
    submission.Serves pool' plan request target :=
  ⟨hkeeps _ _ h.client, h.request, h.accepted⟩

/-- From one world to a later one, and what came on record on the way. -/
structure World.Leads (w : World (ω × Record γ) γ) (submissions : List (Submitted γ))
    (steps : List Step) (w' : World (ω × Record γ) γ) : Prop where
  pool : w.pool.Keeps w'.pool
  session : w'.session = (w.session.run steps).2
  submissions : w'.record.submissions = w.record.submissions ++ submissions
  steps : w'.record.steps = w.record.steps ++ steps

namespace World

variable {w'' : World (ω × Record γ) γ}

theorem Leads.refl (w : World (ω × Record γ) γ) : w.Leads [] [] w where
  pool _ _ h := h
  session := rfl
  submissions := (List.append_nil _).symm
  steps := (List.append_nil _).symm

theorem Leads.trans
    {submissions more : List (Submitted γ)} {steps following : List Step}
    (h : w.Leads submissions steps w')
    (h' : w'.Leads more following w'') :
    w.Leads (submissions ++ more) (steps ++ following) w'' where
  pool key client hclient := h'.pool key client (h.pool key client hclient)
  session := by
    rw [h'.session, h.session]
    exact (Session.run_append w.session steps following).symm
  submissions := by
    rw [h'.submissions, h.submissions, List.append_assoc]
  steps := by
    rw [h'.steps, h.steps, List.append_assoc]

theorem leads_client
    (network : Network ω γ) (w : World (ω × Record γ) γ) (host : String) (servicePort : UInt16) :
    w.Leads [] [] (w.client network.recording host servicePort).2 := by
  have hkeeps := Pool.keeps_getOrConnect network.recording host servicePort w.pool w.outside
  have hrecord : (w.client network.recording host servicePort).2.record = w.record := by
    unfold World.client World.record
    rw [Pool.getOrConnect_recording]
  exact ⟨hkeeps, rfl, by rw [hrecord, List.append_nil], by rw [hrecord, List.append_nil]⟩

/-- The client of an endpoint is the one that the pool has for it. -/
theorem find?_client
    {host : String} {servicePort : UInt16} {client : γ}
    (h : (w.client network.recording host servicePort).1 = .ok client) :
    Registry.find? (w.client network.recording host servicePort).2.pool.clients
      (Pool.key host servicePort) = some client :=
  Pool.find?_getOrConnect h

theorem leads_send
    (network : Network ω γ) (w : World (ω × Record γ) γ) (client : γ) (request : Request) :
    w.Leads [⟨client, request, (w.send network.recording client request).1⟩]
      ((network.submit client request w.outside.1).steps w.session)
      (w.send network.recording client request).2 := by
  rw [send_recording]
  exact ⟨fun _ _ h => h, (Program.run_steps _ _).symm, rfl, rfl⟩

end World

namespace Dispatcher

variable {request : Int64} {plan : Plan}

/-- **A target however it is served.** What was submitted to it is on record, and if it is answered
well, then this is one submission, which served it. -/
theorem leads_dispatchTo
    (d : Dispatcher ω γ) (request : Int64) (plan : Plan) (target : Int32 × Server)
    (w : World (ω × Record γ) γ) :
    let answered := d.recording.dispatchTo request plan target w
    ∃ submissions steps,
      w.Leads submissions steps answered.2 ∧
      (answered.1 = .ok () → ∃ submission, submissions = [submission] ∧
        submission.Serves answered.2.pool plan request target) := by
  have hnetwork : d.recording.network = d.network.recording := rfl
  unfold dispatchTo
  rw [hnetwork]
  dsimp only
  split
  · exact ⟨[], [], .refl w, nofun⟩
  · next bound hbound =>
      have hclient := w.leads_client d.network target.2.host target.2.servicePort
      split
      · next hconnect =>
          rw [hconnect] at hclient
          exact ⟨[], [], hclient, nofun⟩
      · next client w₁ hconnect =>
          have hfound := World.find?_client
            (show (w.client d.network.recording _ _).1 = .ok client by rw [hconnect])
          rw [hconnect] at hclient hfound
          have hsent := w₁.leads_send d.network client (bound.request request)
          split
          · next hsend =>
              rw [hsend] at hsent
              exact ⟨_, _, hclient.trans hsent, nofun⟩
          · next response w₂ hsend =>
              rw [hsend] at hsent
              split
              · exact ⟨_, _, hclient.trans hsent, nofun⟩
              · next haccepted =>
                  refine ⟨_, _, hclient.trans hsent, fun _ => ⟨_, rfl, ?_⟩⟩
                  exact ⟨hsent.pool _ _ hfound, ⟨bound, hbound, rfl⟩, ⟨response, rfl, haccepted⟩⟩

theorem leads_dispatchAll
    (d : Dispatcher ω γ) (request : Int64) (plan : Plan) (targets : List (Int32 × Server))
    (w : World (ω × Record γ) γ) :
    let answered := d.recording.dispatchAll request plan targets w
    ∃ submissions steps,
      w.Leads submissions steps answered.2 ∧
      (answered.1 = .ok () → List.Forall₂
        (fun target submission => submission.Serves answered.2.pool plan request target)
        targets submissions) := by
  induction targets generalizing w with
  | nil =>
      exact ⟨[], [], .refl w, fun _ => .nil⟩
  | cons target targets ih =>
      obtain ⟨submissions, steps, hfirst, hserves⟩ := leads_dispatchTo d request plan target w
      unfold dispatchAll
      dsimp only
      split
      · next hfails =>
          rw [hfails] at hfirst
          exact ⟨_, _, hfirst, nofun⟩
      · next w₁ haccepted =>
          rw [haccepted] at hfirst hserves
          obtain ⟨submission, rfl, hserved⟩ := hserves rfl
          obtain ⟨more, following, hrest, hall⟩ := ih w₁
          exact ⟨_, _, hfirst.trans hrest, fun hok => .cons (hserved.mono hrest.pool) (hall hok)⟩

/-- **A dispatch however it ends.** -/
theorem leads_dispatch
    (d : Dispatcher ω γ) (request : Int64) (plan : Plan) (w : World (ω × Record γ) γ) :
    let answered := d.recording.dispatch request plan w
    ∃ submissions steps,
      w.Leads submissions steps answered.2 ∧
      (∀ reduceStage, answered.1 = .ok reduceStage → List.Forall₂
        (fun target submission => submission.Serves answered.2.pool plan request target)
        plan.targets submissions) := by
  unfold dispatch
  dsimp only
  split
  · exact ⟨[], [], .refl w, nofun⟩
  · obtain ⟨submissions, steps, hleads, hserves⟩ :=
      leads_dispatchAll d request plan plan.targets w
    refine ⟨submissions, steps, ?_⟩
    split
    · next hall =>
        rw [hall] at hleads
        exact ⟨hleads, nofun⟩
    · next hall =>
        rw [hall] at hleads hserves
        exact ⟨hleads, fun _ _ => hserves rfl⟩

theorem dispatchAll_leads
    {targets : List (Int32 × Server)}
    (h : d.recording.dispatchAll request plan targets w = (.ok (), w')) :
    ∃ submissions steps,
      w.Leads submissions steps w' ∧
      List.Forall₂ (fun target submission => submission.Serves w'.pool plan request target)
        targets submissions := by
  obtain ⟨submissions, steps, hleads, hserves⟩ := leads_dispatchAll d request plan targets w
  rw [h] at hleads hserves
  exact ⟨submissions, steps, hleads, hserves rfl⟩

/-- **A dispatch that ends well.** -/
theorem dispatch_leads
    {reduceStage : Int32}
    (h : d.recording.dispatch request plan w = (.ok reduceStage, w')) :
    ∃ submissions steps,
      w.Leads submissions steps w' ∧
      List.Forall₂ (fun target submission => submission.Serves w'.pool plan request target)
        plan.targets submissions := by
  obtain ⟨submissions, steps, hleads, hserves⟩ := leads_dispatch d request plan w
  rw [h] at hleads hserves
  exact ⟨submissions, steps, hleads, hserves reduceStage rfl⟩

end Dispatcher
end ScatterGather
