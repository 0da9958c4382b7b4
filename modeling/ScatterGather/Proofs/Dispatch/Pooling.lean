import Mathlib.Data.List.Nodup
import Mathlib.Data.List.Range
import ScatterGather.Proofs.Dispatch.Order
import ScatterGather.Proofs.Registry
import ScatterGather.Proofs.Text

/-!
# Clients of a pool

A pool is asked for clients and shut down, in any order, and the network may fail to make a client
whenever it is asked for one. Clients are told apart by numbers: a network can be made to number the
clients that it makes, and to write down the numbers of those that it closes. Nothing else changes
by that.

**Results.** Two endpoints share a client exactly when they are the same endpoint. A client that was
made is in the pool until it is closed, and it is closed once. After a shutdown all clients are
closed, no new ones are made, and plans with anything to dispatch are refused before the first
request.
-/

namespace ScatterGather

variable {ω γ : Type}

/-! ## Endpoints -/

/-- Different endpoints have different keys, whatever text their hosts are. -/
theorem Pool.key_inj {host host' : String} {servicePort servicePort' : UInt16} :
    key host servicePort = key host' servicePort' ↔ host = host' ∧ servicePort = servicePort' := by
  constructor
  · intro h
    have hlist : host.toList ++ '_' :: Nat.toDigits 10 servicePort.toNat =
        host'.toList ++ '_' :: Nat.toDigits 10 servicePort'.toNat := by
      have htext := congrArg String.toList h
      simpa [key, toString, Nat.repr] using htext
    obtain ⟨hhost, hport⟩ :=
      append_cons_inj Nat.underscore_not_in_toDigits Nat.underscore_not_in_toDigits hlist
    exact ⟨String.toList_inj.1 hhost, UInt16.toNat_inj.1 (Numeral.toDigits_inj hport)⟩
  · rintro ⟨rfl, rfl⟩
    rfl

/-! ## Calls -/

/-- One use of a pool. -/
inductive PoolCall where
  | get (host : String) (servicePort : UInt16)
  | shutdown
deriving DecidableEq

/-- What came of a call. -/
inductive Pooled (γ : Type) where
  | gave (host : String) (servicePort : UInt16) (client : γ)
  | failed (host : String) (servicePort : UInt16) (e : QueryError)
  | shut
deriving DecidableEq

namespace Pool

/-- Does a call. -/
def perform (network : Network ω γ) (call : PoolCall) (pool : Pool γ) (outside : ω) :
    Pooled γ × Pool γ × ω :=
  match call with
  | .get host servicePort =>
    match pool.getOrConnect network host servicePort outside with
    | (.ok client, pool, outside) => (.gave host servicePort client, pool, outside)
    | (.error e, pool, outside) => (.failed host servicePort e, pool, outside)
  | .shutdown => (.shut, pool.shutdown network outside)

/-- Does calls in turn. -/
def performAll (network : Network ω γ) : List PoolCall → Pool γ → ω → List (Pooled γ) × Pool γ × ω
  | [], pool, outside => ([], pool, outside)
  | call :: calls, pool, outside =>
    let (done, pool, outside) := pool.perform network call outside
    let (rest, pool, outside) := pool.performAll network calls outside
    (done :: rest, pool, outside)

end Pool

/-! ## Numbers -/

/-- How many clients a network made, which are numbered in their order, and which it closed. -/
structure Roll where
  made : Nat
  closed : List Nat
deriving DecidableEq

/-- No client was made yet. -/
def Roll.start : Roll :=
  { made := 0, closed := [] }

/-- A network that numbers its clients. -/
def Network.numbered (network : Network ω γ) : Network (ω × Roll) (Nat × γ) where
  connect host servicePort outside :=
    match network.connect host servicePort outside.1 with
    | (.ok client, left) =>
      (.ok (outside.2.made, client), left, { outside.2 with made := outside.2.made + 1 })
    | (.error e, left) => (.error e, left, outside.2)
  submit client request outside :=
    (network.submit client.2 request outside.1).andThen fun (response, left) =>
      .done (response, left, outside.2)
  close client outside :=
    (network.close client.2 outside.1,
      { outside.2 with closed := outside.2.closed ++ [client.1] })

/-- What came of a call, without the number of the client. -/
def Pooled.unnumbered : Pooled (Nat × γ) → Pooled γ
  | .gave host servicePort client => .gave host servicePort client.2
  | .failed host servicePort e => .failed host servicePort e
  | .shut => .shut

namespace Pool

/-- A pool without the numbers of its clients. -/
def unnumbered (pool : Pool (Nat × γ)) : Pool γ :=
  { clients := Registry.mapValues Prod.snd pool.clients, closed := pool.closed }

/-- The numbers of the clients in a pool. -/
def numbers (pool : Pool (Nat × γ)) : List Nat :=
  pool.clients.map fun entry => entry.2.1

variable {network : Network ω γ}

theorem getOrConnect_unnumbered
    (pool : Pool (Nat × γ)) (host : String) (servicePort : UInt16) (outside : ω × Roll) :
    pool.unnumbered.getOrConnect network host servicePort outside.1 =
      Prod.map (Except.map Prod.snd) (Prod.map unnumbered Prod.fst)
        (pool.getOrConnect network.numbered host servicePort outside) := by
  unfold getOrConnect
  cases hclosed : pool.closed with
  | true =>
      simp [unnumbered, hclosed, Except.map]
  | false =>
      simp only [unnumbered, hclosed, Registry.find?_mapValues, Bool.false_eq_true, if_false]
      cases hfind : Registry.find? pool.clients (key host servicePort) with
      | some client =>
          simp [unnumbered, hclosed, Except.map]
      | none =>
          dsimp only [Option.map_none, Network.numbered]
          cases network.connect host servicePort outside.1 with
          | mk answer left =>
              cases answer with
              | error e => simp [unnumbered, hclosed, Except.map]
              | ok client => simp [unnumbered, Except.map, Registry.mapValues_set]

/-- What closing clients one after the other comes to. -/
theorem foldl_close (entries : Registry String (Nat × γ)) (outside : ω × Roll) :
    entries.foldl (fun outside entry => network.numbered.close entry.2 outside) outside =
      ((Registry.mapValues Prod.snd entries).foldl
        (fun outside entry => network.close entry.2 outside) outside.1,
        { outside.2 with closed := outside.2.closed ++ entries.map fun entry => entry.2.1 }) := by
  induction entries generalizing outside with
  | nil =>
      simp [Registry.mapValues]
  | cons entry rest ih =>
      rw [List.foldl_cons, ih]
      simp [Registry.mapValues, Network.numbered]

theorem shutdown_numbered (pool : Pool (Nat × γ)) (outside : ω × Roll) :
    pool.shutdown network.numbered outside =
      ({ clients := [], closed := true }, (pool.unnumbered.shutdown network outside.1).2,
        { outside.2 with closed := outside.2.closed ++ pool.numbers }) := by
  rw [shutdown, foldl_close]
  rfl

theorem perform_unnumbered
    (call : PoolCall) (pool : Pool (Nat × γ)) (outside : ω × Roll) :
    pool.unnumbered.perform network call outside.1 =
      Prod.map Pooled.unnumbered (Prod.map unnumbered Prod.fst)
        (pool.perform network.numbered call outside) := by
  cases call with
  | get host servicePort =>
      unfold perform
      dsimp only
      rw [getOrConnect_unnumbered]
      cases pool.getOrConnect network.numbered host servicePort outside with
      | mk answer rest =>
          cases answer <;> rfl
  | shutdown =>
      unfold perform
      dsimp only
      rw [shutdown_numbered]
      rfl

/-- Numbered clients are the clients. -/
theorem performAll_unnumbered
    (calls : List PoolCall) (pool : Pool (Nat × γ)) (outside : ω × Roll) :
    pool.unnumbered.performAll network calls outside.1 =
      Prod.map (List.map Pooled.unnumbered) (Prod.map unnumbered Prod.fst)
        (pool.performAll network.numbered calls outside) := by
  induction calls generalizing pool outside with
  | nil =>
      rfl
  | cons call calls ih =>
      unfold performAll
      rw [perform_unnumbered]
      dsimp only [Prod.map_fst, Prod.map_snd]
      rw [ih]
      rfl

/-! ## What a pool gives -/

/-- A pool with a client more. -/
def withClient (pool : Pool γ) (host : String) (servicePort : UInt16) (client : γ) : Pool γ :=
  { pool with clients := Registry.set pool.clients (key host servicePort) client }

theorem getOrConnect_of_closed
    {pool : Pool γ}
    (h : pool.closed = true)
    (network : Network ω γ) (host : String) (servicePort : UInt16) (outside : ω) :
    pool.getOrConnect network host servicePort outside = (.error .poolClosed, pool, outside) :=
  if_pos h

theorem getOrConnect_of_find?
    {pool : Pool γ} {host : String} {servicePort : UInt16} {client : γ}
    (hopen : pool.closed = false)
    (h : Registry.find? pool.clients (key host servicePort) = some client)
    (network : Network ω γ) (outside : ω) :
    pool.getOrConnect network host servicePort outside = (.ok client, pool, outside) := by
  simp [getOrConnect, hopen, h]

theorem getOrConnect_of_error
    {pool : Pool γ} {host : String} {servicePort : UInt16} {outside left : ω} {e : QueryError}
    (hopen : pool.closed = false)
    (h : Registry.find? pool.clients (key host servicePort) = none)
    (hconnect : network.connect host servicePort outside = (.error e, left)) :
    pool.getOrConnect network host servicePort outside = (.error e, pool, left) := by
  simp [getOrConnect, hopen, h, hconnect]

theorem getOrConnect_of_ok
    {pool : Pool γ} {host : String} {servicePort : UInt16} {outside left : ω} {client : γ}
    (hopen : pool.closed = false)
    (h : Registry.find? pool.clients (key host servicePort) = none)
    (hconnect : network.connect host servicePort outside = (.ok client, left)) :
    pool.getOrConnect network host servicePort outside =
      (.ok client, pool.withClient host servicePort client, left) := by
  simp [getOrConnect, withClient, hopen, h, hconnect]

theorem connect_numbered_of_error
    {host : String} {servicePort : UInt16} {outside : ω × Roll} {left : ω} {e : QueryError}
    (h : network.connect host servicePort outside.1 = (.error e, left)) :
    network.numbered.connect host servicePort outside = (.error e, left, outside.2) := by
  simp [Network.numbered, h]

theorem connect_numbered_of_ok
    {host : String} {servicePort : UInt16} {outside : ω × Roll} {left : ω} {client : γ}
    (h : network.connect host servicePort outside.1 = (.ok client, left)) :
    network.numbered.connect host servicePort outside =
      (.ok (outside.2.made, client), left, { outside.2 with made := outside.2.made + 1 }) := by
  simp [Network.numbered, h]

/-! ## The accounts of a pool -/

/-- What came of the calls so far, and what is in the pool and was closed by now. -/
structure Accounts (events : List (Pooled (Nat × γ))) (pool : Pool (Nat × γ)) (roll : Roll) :
    Prop where
  numbers : (pool.numbers ++ roll.closed).Perm (List.range roll.made)
  registered : pool.closed = false → ∀ host servicePort client,
    Registry.find? pool.clients (key host servicePort) = some client ↔
      .gave host servicePort client ∈ events
  apart : ∀ host servicePort client host' servicePort' client',
    .gave host servicePort client ∈ events → .gave host' servicePort' client' ∈ events →
    client.1 = client'.1 → host = host' ∧ servicePort = servicePort'
  same : ∀ host servicePort client client',
    .gave host servicePort client ∈ events → .gave host servicePort client' ∈ events →
    client = client'
  shut : pool.closed = true ↔ .shut ∈ events
  emptied : pool.closed = true → pool.clients = []

variable {events : List (Pooled (Nat × γ))} {pool : Pool (Nat × γ)} {roll : Roll}

theorem accounts_empty : Accounts ([] : List (Pooled (Nat × γ))) .empty .start where
  numbers := .refl _
  registered _ host servicePort client := by simp [empty]
  apart _ _ _ _ _ _ h := by cases h
  same _ _ _ _ h := by cases h
  shut := by simp [empty]
  emptied _ := rfl

/-- Nothing changes by a client that was given before, or by a failure. -/
theorem Accounts.again
    {done : Pooled (Nat × γ)}
    (h : Accounts events pool roll)
    (hdone : done ∈ events ∨ ∃ host servicePort e, done = .failed host servicePort e) :
    Accounts (events ++ [done]) pool roll := by
  have hold : ∀ other, (∀ host servicePort e, other ≠ .failed host servicePort e) →
      other ∈ events ++ [done] → other ∈ events := by
    intro other hother hmem
    rcases List.mem_append.1 hmem with hmem | hmem
    · exact hmem
    · rcases hdone with hdone | ⟨host, servicePort, e, rfl⟩
      · exact List.mem_singleton.1 hmem ▸ hdone
      · exact absurd (List.mem_singleton.1 hmem) (hother host servicePort e)
  have hgave : ∀ host servicePort client, .gave host servicePort client ∈ events ++ [done] →
      .gave host servicePort client ∈ events :=
    fun host servicePort client => hold _ (by simp)
  exact {
    numbers := h.numbers
    registered := fun hopen host servicePort client =>
      (h.registered hopen host servicePort client).trans
        ⟨List.mem_append_left _, hgave host servicePort client⟩
    apart := fun _ _ _ _ _ _ hmem hmem' =>
      h.apart _ _ _ _ _ _ (hgave _ _ _ hmem) (hgave _ _ _ hmem')
    same := fun _ _ _ _ hmem hmem' => h.same _ _ _ _ (hgave _ _ _ hmem) (hgave _ _ _ hmem')
    shut := h.shut.trans ⟨List.mem_append_left _, hold _ (by simp)⟩
    emptied := h.emptied }

/-- As long as the pool is open, a client that was given has a number that was used. -/
theorem Accounts.number_lt
    {host : String} {servicePort : UInt16} {client : Nat × γ}
    (h : Accounts events pool roll)
    (hopen : pool.closed = false)
    (hgave : .gave host servicePort client ∈ events) :
    client.1 < roll.made := by
  have hmem := Registry.mem_of_find? ((h.registered hopen host servicePort client).2 hgave)
  have hnumber : client.1 ∈ pool.numbers ++ roll.closed :=
    List.mem_append_left _ (List.mem_map_of_mem (f := fun entry => entry.2.1) hmem)
  exact List.mem_range.1 (h.numbers.mem_iff.1 hnumber)

/-- A client is made. -/
theorem Accounts.made
    {host : String} {servicePort : UInt16}
    (h : Accounts events pool roll)
    (hopen : pool.closed = false)
    (hnone : Registry.find? pool.clients (key host servicePort) = none)
    (client : γ) :
    Accounts (events ++ [.gave host servicePort (roll.made, client)])
      (pool.withClient host servicePort (roll.made, client))
      { roll with made := roll.made + 1 } := by
  have hnew : ∀ client, .gave host servicePort client ∉ events := by
    intro client hmem
    rw [(h.registered hopen host servicePort client).2 hmem] at hnone
    cases hnone
  have hgave : ∀ host' servicePort' client',
      .gave host' servicePort' client' ∈ events ++ [.gave host servicePort (roll.made, client)] →
        (.gave host' servicePort' client' ∈ events ∧ client'.1 < roll.made) ∨
          host' = host ∧ servicePort' = servicePort ∧ client' = (roll.made, client) := by
    intro host' servicePort' client' hmem
    rcases List.mem_append.1 hmem with hmem | hmem
    · exact Or.inl ⟨hmem, h.number_lt hopen hmem⟩
    · simpa using Or.inr (List.mem_singleton.1 hmem)
  refine {
    numbers := ?_
    registered := fun _ host' servicePort' client' => ?_
    apart := fun host₁ port₁ client₁ host₂ port₂ client₂ hmem₁ hmem₂ hnumber => ?_
    same := fun host' servicePort' client₁ client₂ hmem₁ hmem₂ => ?_
    shut := by simpa [withClient, hopen] using h.shut
    emptied := by simp [withClient, hopen] }
  · have hlast : (pool.withClient host servicePort (roll.made, client)).numbers =
        pool.numbers ++ [roll.made] := by
      unfold Pool.numbers withClient
      rw [Registry.set_of_find?_eq_none hnone, List.map_append]
      rfl
    rw [hlast, List.range_succ, List.append_assoc]
    refine (List.perm_append_comm.append_left _).trans ?_
    rw [← List.append_assoc]
    exact h.numbers.append_right _
  · unfold withClient
    rw [Registry.find?_set]
    split
    · next hkey =>
        obtain ⟨rfl, rfl⟩ := key_inj.1 hkey
        simp [hnew, eq_comm]
    · next hkey =>
        have hne : ¬ (host' = host ∧ servicePort' = servicePort) := by
          rintro ⟨rfl, rfl⟩
          exact hkey rfl
        rw [h.registered hopen]
        simp only [List.mem_append, List.mem_singleton, Pooled.gave.injEq]
        refine ⟨Or.inl, ?_⟩
        rintro (hmem | ⟨hhost, hport, -⟩)
        · exact hmem
        · exact absurd ⟨hhost, hport⟩ hne
  · rcases hgave _ _ _ hmem₁ with ⟨hold₁, hlt₁⟩ | ⟨rfl, rfl, rfl⟩ <;>
      rcases hgave _ _ _ hmem₂ with ⟨hold₂, hlt₂⟩ | ⟨rfl, rfl, rfl⟩
    · exact h.apart _ _ _ _ _ _ hold₁ hold₂ hnumber
    · exact absurd hnumber (Nat.ne_of_lt hlt₁)
    · exact absurd hnumber.symm (Nat.ne_of_lt hlt₂)
    · exact ⟨rfl, rfl⟩
  · rcases hgave _ _ _ hmem₁ with ⟨hold₁, -⟩ | ⟨rfl, rfl, rfl⟩ <;>
      rcases hgave _ _ _ hmem₂ with ⟨hold₂, -⟩ | ⟨hhost, hport, rfl⟩
    · exact h.same _ _ _ _ hold₁ hold₂
    · cases hhost
      cases hport
      exact absurd hold₁ (hnew _)
    · exact absurd hold₂ (hnew _)
    · rfl

/-- All clients are closed. -/
theorem Accounts.shutdown (h : Accounts events pool roll) :
    Accounts (events ++ [.shut]) { clients := [], closed := true }
      { roll with closed := roll.closed ++ pool.numbers } := by
  have hgave : ∀ host servicePort client,
      .gave host servicePort client ∈ events ++ [.shut] →
        .gave host servicePort client ∈ events := by
    intro host servicePort client hmem
    simpa using hmem
  exact {
    numbers := by simpa [Pool.numbers] using List.perm_append_comm.trans h.numbers
    registered := fun hopen => by cases hopen
    apart := fun _ _ _ _ _ _ hmem hmem' =>
      h.apart _ _ _ _ _ _ (hgave _ _ _ hmem) (hgave _ _ _ hmem')
    same := fun _ _ _ _ hmem hmem' => h.same _ _ _ _ (hgave _ _ _ hmem) (hgave _ _ _ hmem')
    shut := by simp
    emptied := fun _ => rfl }

/-- Every call keeps the accounts. -/
theorem Accounts.perform
    {outside : ω × Roll}
    (h : Accounts events pool outside.2)
    (network : Network ω γ) (call : PoolCall) :
    let done := pool.perform network.numbered call outside
    Accounts (events ++ [done.1]) done.2.1 done.2.2.2 := by
  cases call with
  | shutdown =>
      unfold Pool.perform
      dsimp only
      rw [shutdown_numbered]
      exact h.shutdown
  | get host servicePort =>
      unfold Pool.perform
      dsimp only
      cases hclosed : pool.closed with
      | true =>
          rw [getOrConnect_of_closed hclosed]
          exact h.again (Or.inr ⟨_, _, _, rfl⟩)
      | false =>
          cases hfind : Registry.find? pool.clients (key host servicePort) with
          | some client =>
              rw [getOrConnect_of_find? hclosed hfind]
              exact h.again (Or.inl ((h.registered hclosed _ _ _).1 hfind))
          | none =>
              cases hconnect : network.connect host servicePort outside.1 with
              | mk answer left =>
                  cases answer with
                  | error e =>
                      have hnumbered := connect_numbered_of_error hconnect
                      rw [getOrConnect_of_error hclosed hfind hnumbered]
                      exact h.again (Or.inr ⟨_, _, _, rfl⟩)
                  | ok client =>
                      have hnumbered := connect_numbered_of_ok hconnect
                      rw [getOrConnect_of_ok hclosed hfind hnumbered]
                      exact h.made hclosed hfind client

/-- So does every run. -/
theorem Accounts.performAll
    {outside : ω × Roll}
    (h : Accounts events pool outside.2)
    (network : Network ω γ) (calls : List PoolCall) :
    let done := pool.performAll network.numbered calls outside
    Accounts (events ++ done.1) done.2.1 done.2.2.2 := by
  induction calls generalizing events pool outside with
  | nil =>
      simpa [Pool.performAll] using h
  | cons call calls ih =>
      have hrest := ih (h.perform network call)
      dsimp only at hrest
      rw [List.append_assoc] at hrest
      exact hrest

/-- A pool was shut down exactly when it was called to. -/
theorem shut_mem_performAll
    (network : Network ω γ) (calls : List PoolCall) (pool : Pool γ) (outside : ω) :
    .shut ∈ (pool.performAll network calls outside).1 ↔ .shutdown ∈ calls := by
  induction calls generalizing pool outside with
  | nil =>
      simp [performAll]
  | cons call calls ih =>
      have hfirst : .shut = (pool.perform network call outside).1 ↔ .shutdown = call := by
        cases call with
        | shutdown =>
            exact ⟨fun _ => rfl, fun _ => rfl⟩
        | get host servicePort =>
            unfold perform
            dsimp only
            split <;> simp
      unfold performAll
      rw [List.mem_cons, List.mem_cons, hfirst, ih]

end Pool

/-- After a shutdown a plan with anything to dispatch is refused before the first request. -/
theorem Dispatcher.dispatch_of_closed
    {plan : Plan} {w : World ω γ} {stage : Int32} {placement : Placement}
    (hclosed : w.pool.closed = true)
    (hvalid : plan.validate = .ok ())
    (hplacement : plan.placements.get? stage = some placement)
    (hruns : plan.isReduceStage stage = false)
    (d : Dispatcher ω γ) (request : Int64) :
    d.dispatch request plan w = (.error .poolClosed, w) := by
  obtain ⟨target, targets, htargets⟩ := plan.exists_target hvalid hplacement hruns
  have htarget : target ∈ plan.targets := by simp [htargets]
  obtain ⟨bound, hbound⟩ := plan.bind_of_mem_targets hvalid htarget
  have hrefused : d.dispatchTo request plan target w = (.error .poolClosed, w) := by
    unfold dispatchTo World.client
    simp only [hbound, Pool.getOrConnect_of_closed hclosed]
  rw [dispatch_of_validate hvalid, htargets, dispatchAll, hrefused]
  rfl

namespace Pool

/-- **Clients of a pool.** A new pool is asked for clients and shut down in any order, and the
network may fail to make any of them. Two calls gave the same client exactly when they asked for the
same endpoint. While the pool is open, a client that was given is given again and nothing happens;
for any other endpoint the network is asked, and if it fails, the pool stays as it was. The clients
that were made are those in the pool and those that were closed, none of them twice. Once the pool
was shut down it is empty, every client that was made was closed, and both calls and dispatches are
refused before anything is done. -/
theorem performAll_accounts
    (network : Network ω γ) (outside : ω) (calls : List PoolCall) :
    let done := Pool.empty.performAll network.numbered calls (outside, .start)
    let events := done.1
    let pool := done.2.1
    let roll := done.2.2.2
    Pool.empty.performAll network calls outside =
      (events.map Pooled.unnumbered, pool.unnumbered, done.2.2.1) ∧
    (∀ host servicePort client host' servicePort' client',
      .gave host servicePort client ∈ events → .gave host' servicePort' client' ∈ events →
        (client.1 = client'.1 ↔ host = host' ∧ servicePort = servicePort') ∧
        (client = client' ↔ host = host' ∧ servicePort = servicePort')) ∧
    (.shutdown ∉ calls → ∀ host servicePort now,
      (∀ client, .gave host servicePort client ∈ events →
        pool.getOrConnect network.numbered host servicePort now = (.ok client, pool, now)) ∧
      ((∀ client, .gave host servicePort client ∉ events) →
        (∀ e left, network.connect host servicePort now.1 = (.error e, left) →
          pool.getOrConnect network.numbered host servicePort now =
            (.error e, pool, left, now.2)) ∧
        ∀ client left, network.connect host servicePort now.1 = (.ok client, left) →
          pool.getOrConnect network.numbered host servicePort now =
            (.ok (now.2.made, client), pool.withClient host servicePort (now.2.made, client),
              left, { now.2 with made := now.2.made + 1 }))) ∧
    roll.made = pool.clients.length + roll.closed.length ∧ roll.closed.Nodup ∧
    (.shutdown ∈ calls →
      pool.clients = [] ∧ roll.closed.Perm (List.range roll.made) ∧
      (∀ host servicePort now,
        pool.getOrConnect network.numbered host servicePort now =
          (.error .poolClosed, pool, now)) ∧
      ∀ (d : Dispatcher ω γ) request plan w stage placement,
        w.pool = pool.unnumbered → plan.validate = .ok () →
        plan.placements.get? stage = some placement → plan.isReduceStage stage = false →
          d.dispatch request plan w = (.error .poolClosed, w)) := by
  intro done events pool roll
  have hstart : Accounts ([] : List (Pooled (Nat × γ))) .empty (outside, Roll.start).2 :=
    accounts_empty
  have haccounts : Accounts events pool roll := hstart.performAll network calls
  have hshut : pool.closed = true ↔ .shutdown ∈ calls :=
    haccounts.shut.trans (shut_mem_performAll _ calls _ _)
  have hnodup : (pool.numbers ++ roll.closed).Nodup :=
    haccounts.numbers.nodup_iff.2 List.nodup_range
  refine ⟨performAll_unnumbered calls .empty (outside, .start), ?_, ?_, ?_,
    (List.nodup_append.1 hnodup).2.1, ?_⟩
  · intro host servicePort client host' servicePort' client' hgave hgave'
    have hsame : host = host' ∧ servicePort = servicePort' → client = client' := by
      rintro ⟨rfl, rfl⟩
      exact haccounts.same _ _ _ _ hgave hgave'
    have hapart := haccounts.apart _ _ _ _ _ _ hgave hgave'
    exact ⟨⟨hapart, fun h => congrArg Prod.fst (hsame h)⟩,
      ⟨fun h => hapart (congrArg Prod.fst h), hsame⟩⟩
  · intro hnever host servicePort now
    have hopen : pool.closed = false := by simpa [hnever] using hshut
    refine ⟨fun client hgave => ?_, fun hnew => ?_⟩
    · have hfind := (haccounts.registered hopen host servicePort client).2 hgave
      exact getOrConnect_of_find? hopen hfind _ now
    · have hnone : Registry.find? pool.clients (key host servicePort) = none := by
        refine Option.eq_none_iff_forall_ne_some.2 fun client hfind => ?_
        exact hnew client ((haccounts.registered hopen host servicePort client).1 hfind)
      exact ⟨fun e left h => getOrConnect_of_error hopen hnone (connect_numbered_of_error h),
        fun client left h => getOrConnect_of_ok hopen hnone (connect_numbered_of_ok h)⟩
  · have hlength := haccounts.numbers.length_eq
    rw [List.length_append, List.length_range, numbers, List.length_map] at hlength
    exact hlength.symm
  · intro hcalled
    have hclosed : pool.closed = true := hshut.2 hcalled
    have hempty := haccounts.emptied hclosed
    refine ⟨hempty, ?_, fun host servicePort now => getOrConnect_of_closed hclosed _ _ _ now, ?_⟩
    · have hnumbers := haccounts.numbers
      rwa [numbers, hempty] at hnumbers
    · intro d request plan w stage placement hpool hvalid hplacement hruns
      exact d.dispatch_of_closed (by rw [hpool]; exact hclosed) hvalid hplacement hruns request

/-- The first client cannot be made. -/
def faltering : Network Nat String where
  connect host _ attempts :=
    (if attempts = 0 then .error (.endpoint host "down") else .ok host, attempts + 1)
  submit _ _ attempts := .done (.ok ⟨[]⟩, attempts)
  close _ attempts := attempts

/-- An endpoint is tried again after a failure, and does not share its client with one whose host
ends in what looks like a port. -/
theorem performAll_accounts_faltering :
    let calls : List PoolCall :=
      [.get "a" 1, .get "a" 1, .get "a_1" 1, .get "a" 1, .shutdown, .get "a" 1]
    let done := Pool.empty.performAll faltering.numbered calls (0, .start)
    let w : World Nat String :=
      ⟨done.2.1.unnumbered, Session.ofMailboxes (.create "broker" 9000 4), 0⟩
    done.1 = [.failed "a" 1 (.endpoint "a" "down"), .gave "a" 1 (0, "a"), .gave "a_1" 1 (1, "a_1"),
      .gave "a" 1 (0, "a"), .shut, .failed "a" 1 .poolClosed] ∧
    done.2.2.2.closed.Perm [0, 1] ∧
    (Dispatcher.ofNetwork faltering).dispatch 7 Dispatcher.threeTargets w =
      (.error .poolClosed, w) := by
  intro calls done w
  obtain ⟨-, -, -, -, -, hshut⟩ := performAll_accounts faltering 0 calls
  obtain ⟨-, hclosed, -, hrefused⟩ := hshut (by decide)
  have hevents : done.1 = [.failed "a" 1 (.endpoint "a" "down"), .gave "a" 1 (0, "a"),
      .gave "a_1" 1 (1, "a_1"), .gave "a" 1 (0, "a"), .shut, .failed "a" 1 .poolClosed] := by
    decide +kernel
  have hmade : done.2.2.2.made = 2 := by decide +kernel
  have hplacement : ∃ placement, Dispatcher.threeTargets.placements.get? 3 = some placement :=
    ⟨⟨[⟨"c", 8421, 8442⟩], .broadcast⟩, by decide +kernel⟩
  obtain ⟨placement, hplacement⟩ := hplacement
  refine ⟨hevents, ?_, ?_⟩
  · have htwo : List.range 2 = [0, 1] := by decide
    rw [← htwo, ← hmade]
    exact hclosed
  · exact hrefused _ 7 Dispatcher.threeTargets w 3 placement rfl (by decide +kernel) hplacement
      (by decide +kernel)

end Pool
end ScatterGather
