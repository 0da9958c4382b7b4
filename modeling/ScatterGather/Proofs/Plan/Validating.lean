import ScatterGather.Proofs.NumberMap
import ScatterGather.Proofs.Plan.Building

/-!
# Validation of plans

A plan is put together from stages, one after the other; a stage that is added again takes the place
of the earlier one, in both maps of the plan. The check goes through the stages in the order of
their numbers, whatever the order in which they were added: it stops at the first one that has no
workers and needs some, and counts the reduce stages on its way.

**Results.** `verdict_validate`: all that can come of the check. `validate_ofAdditions`: which plans
pass, what is wrong with the others, and which stage is the reduce stage of one that passes, told
from the stages that were added.
-/

namespace ScatterGather

/-- Among entries whose keys ascend, the first one that fails is the one with the least key. -/
theorem Fallible.firstFault_iff_of_ascending
    {α ε : Type} {fails : Int32 × α → ε → Prop} {entries : List (Int32 × α)} {e : ε}
    (h : entries.Pairwise fun a b => a.1 < b.1) :
    FirstFault fails entries e ↔
      ∃ entry ∈ entries, fails entry e ∧
        ∀ other ∈ entries, ∀ e', fails other e' → entry.1 ≤ other.1 := by
  induction h with
  | nil =>
      simp [not_firstFault_nil]
  | @cons first rest hfirst _ ih =>
      rw [firstFault_cons, ih]
      constructor
      · rintro (hfails | ⟨hnone, entry, hentry, hfails, hleast⟩)
        · refine ⟨first, by simp, hfails, List.forall_mem_cons.2 ⟨?_, ?_⟩⟩
          · exact fun _ _ => Int32.le_refl _
          · exact fun other hother _ _ => Int32.le_of_lt (hfirst other hother)
        · refine ⟨entry, List.mem_cons_of_mem _ hentry, hfails, List.forall_mem_cons.2 ⟨?_, hleast⟩⟩
          exact fun e' hfirst => absurd hfirst (hnone e')
      · rintro ⟨entry, hentry, hfails, hleast⟩
        obtain ⟨hleastFirst, hleast⟩ := List.forall_mem_cons.1 hleast
        rcases List.mem_cons.1 hentry with rfl | hentry
        · exact Or.inl hfails
        · refine Or.inr ⟨fun e' hfirstFails => ?_, entry, hentry, hfails, hleast⟩
          exact Int32.lt_irrefl (Int32.lt_of_lt_of_le (hfirst entry hentry)
            (hleastFirst e' hfirstFails))

namespace Plan

/-! ## Plans made of additions -/

/-- A stage as it is added to a plan. -/
structure Addition where
  stage : Int32
  root : StageNode
  placement : Placement
deriving DecidableEq

/-- The plan that comes of adding stages one after the other. -/
def ofAdditions (fields : List ResultField) (additions : List Addition) : Plan :=
  additions.foldl (fun p a => p.addStage a.stage a.root a.placement) (ofFields fields)

/-- Of the additions of a stage the last one. -/
def lastAddition? (additions : List Addition) (stage : Int32) : Option Addition :=
  (additions.filter fun a => a.stage = stage).getLast?

variable {fields : List ResultField} {additions : List Addition} {p : Plan} {stage : Int32}

theorem ofAdditions_append_singleton (a : Addition) :
    ofAdditions fields (additions ++ [a]) =
      (ofAdditions fields additions).addStage a.stage a.root a.placement := by
  simp [ofAdditions]

theorem maps_ofAdditions (fields : List ResultField) (additions : List Addition) :
    (ofAdditions fields additions).roots =
      .ofList (additions.map fun a => (a.stage, a.root)) ∧
    (ofAdditions fields additions).placements =
      .ofList (additions.map fun a => (a.stage, a.placement)) := by
  induction additions using List.reverseRecOn with
  | nil =>
      exact ⟨rfl, rfl⟩
  | append_singleton additions a ih =>
      rw [ofAdditions_append_singleton, List.map_append, List.map_append, List.map_singleton,
        List.map_singleton, NumberMap.ofList_append_singleton, NumberMap.ofList_append_singleton,
        ← ih.1, ← ih.2]
      exact ⟨rfl, rfl⟩

/-- Looking up a stage gives what its last addition brought. -/
theorem get?_ofAdditions
    (fields : List ResultField) (additions : List Addition) (stage : Int32) :
    (ofAdditions fields additions).roots.get? stage =
      (lastAddition? additions stage).map Addition.root ∧
    (ofAdditions fields additions).placements.get? stage =
      (lastAddition? additions stage).map Addition.placement := by
  obtain ⟨hroots, hplacements⟩ := maps_ofAdditions fields additions
  rw [hroots, hplacements, NumberMap.get?_ofList, NumberMap.get?_ofList]
  simp only [lastAddition?, List.filter_map, List.getLast?_map, Option.map_map]
  exact ⟨rfl, rfl⟩

/-- The plans that can be put together are those that come of additions. -/
theorem built_iff : p.Built ↔ ∃ fields additions, p = ofAdditions fields additions := by
  constructor
  · intro h
    induction h with
    | ofFields fields =>
        exact ⟨fields, [], rfl⟩
    | addStage stage root placement _ ih =>
        obtain ⟨fields, additions, rfl⟩ := ih
        refine ⟨fields, additions ++ [⟨stage, root, placement⟩], ?_⟩
        rw [ofAdditions_append_singleton]
  · rintro ⟨fields, additions, rfl⟩
    induction additions using List.reverseRecOn with
    | nil =>
        exact .ofFields fields
    | append_singleton additions a ih =>
        rw [ofAdditions_append_singleton]
        exact .addStage _ _ _ ih

/-! ## What the check finds -/

/-- The root of a stage takes the output of another stage. -/
def Receives (p : Plan) (stage : Int32) : Prop :=
  ∃ root, p.roots.get? stage = some root ∧ root.isReceive = true

/-- A stage needs workers and has none. -/
def Unassigned (p : Plan) (stage : Int32) : Prop :=
  ∃ root placement, p.roots.get? stage = some root ∧ root.isReceive = false ∧
    p.placements.get? stage = some placement ∧ placement.servers = []

theorem isReduceStage_iff : p.isReduceStage stage = true ↔ p.Receives stage := by
  unfold isReduceStage Receives
  split
  · next root hroot => simp [hroot]
  · next hroot => simp [hroot]

/-- What the check finds wrong with one stage. -/
def stageFault? (p : Plan) (entry : Int32 × Placement) : Option PlanFault :=
  match p.roots.get? entry.1 with
  | none => some (.missingRoot entry.1)
  | some root =>
    if root.isReceive = false ∧ entry.2.servers = [] then some (.unassigned entry.1) else none

/-- The check of a stage, and of those after it. -/
theorem countReduceStages_cons
    (seen : Nat) (entry : Int32 × Placement) (entries : List (Int32 × Placement)) :
    p.countReduceStages seen (entry :: entries) =
      match p.stageFault? entry with
      | some fault => .error fault
      | none =>
        p.countReduceStages (if p.isReduceStage entry.1 then seen + 1 else seen) entries := by
  obtain ⟨stage, placement⟩ := entry
  rw [countReduceStages, stageFault?, isReduceStage]
  cases p.roots.get? stage with
  | none =>
      rfl
  | some root =>
      cases hreceive : root.isReceive with
      | true =>
          simp [hreceive]
      | false =>
          by_cases hservers : placement.servers = [] <;> simp [hreceive, hservers]

/-- The check stops at the first stage at which something is wrong. -/
theorem countReduceStages_eq_error_iff
    {seen : Nat} {entries : List (Int32 × Placement)} {fault : PlanFault} :
    p.countReduceStages seen entries = .error fault ↔
      Fallible.FirstFault (fun entry fault => p.stageFault? entry = some fault) entries fault := by
  induction entries generalizing seen with
  | nil =>
      simp [countReduceStages, Fallible.not_firstFault_nil]
  | cons entry entries ih =>
      rw [countReduceStages_cons, Fallible.firstFault_cons]
      cases p.stageFault? entry with
      | none =>
          simp [ih]
      | some found =>
          simp

/-- A stage of a plan that was built is at fault only if it has no workers and needs some. -/
theorem stageFault?_eq_some_iff
    {placement : Placement} {fault : PlanFault}
    (h : p.Built)
    (hplacement : p.placements.get? stage = some placement) :
    p.stageFault? (stage, placement) = some fault ↔
      fault = .unassigned stage ∧ p.Unassigned stage := by
  obtain ⟨root, hroot⟩ := h.exists_root hplacement
  unfold stageFault? Unassigned
  simp only [hroot, hplacement, Option.some.injEq, Option.ite_none_right_eq_some]
  grind

/-- The first of the stages that need workers and have none. -/
structure FirstUnassigned (p : Plan) (stage : Int32) : Prop where
  unassigned : p.Unassigned stage
  least : ∀ other, p.Unassigned other → stage ≤ other

theorem FirstUnassigned.unique
    {other : Int32}
    (h : p.FirstUnassigned stage)
    (hother : p.FirstUnassigned other) :
    stage = other :=
  Int32.le_antisymm (h.least other hother.unassigned) (hother.least stage h.unassigned)

theorem exists_entry_of_unassigned
    (h : p.Built)
    (hstage : p.Unassigned stage) :
    ∃ entry ∈ p.placements.entries, entry.1 = stage ∧
      p.stageFault? entry = some (.unassigned stage) := by
  have ⟨_, placement, _, _, hplacement, _⟩ := hstage
  exact ⟨(stage, placement), NumberMap.get?_eq_some_iff.1 hplacement, rfl,
    (stageFault?_eq_some_iff h hplacement).2 ⟨rfl, hstage⟩⟩

/-- The check stops at the first stage that has no workers and needs some. -/
theorem countReduceStages_eq_error_iff_of_built
    {seen : Nat} {fault : PlanFault}
    (h : p.Built) :
    p.countReduceStages seen p.placements.entries = .error fault ↔
      ∃ stage, fault = .unassigned stage ∧ p.FirstUnassigned stage := by
  have hfault : ∀ entry ∈ p.placements.entries, ∀ fault,
      p.stageFault? entry = some fault ↔ fault = .unassigned entry.1 ∧ p.Unassigned entry.1 :=
    fun entry hentry fault => stageFault?_eq_some_iff h (NumberMap.get?_eq_some_iff.2 hentry)
  rw [countReduceStages_eq_error_iff,
    Fallible.firstFault_iff_of_ascending p.placements.ascending]
  constructor
  · rintro ⟨entry, hentry, hfails, hleast⟩
    obtain ⟨rfl, hunassigned⟩ := (hfault entry hentry fault).1 hfails
    refine ⟨entry.1, rfl, hunassigned, fun stage hstage => ?_⟩
    obtain ⟨other, hother, rfl, hotherFails⟩ := exists_entry_of_unassigned h hstage
    exact hleast other hother _ hotherFails
  · rintro ⟨stage, rfl, hfirst⟩
    obtain ⟨entry, hentry, rfl, hfails⟩ := exists_entry_of_unassigned h hfirst.unassigned
    exact ⟨entry, hentry, hfails, fun other hother e hotherFails =>
      hfirst.least other.1 ((hfault other hother e).1 hotherFails).2⟩

/-- The stages whose roots take the output of other stages, in ascending order. -/
structure ListsReceiving (p : Plan) (stages : List Int32) : Prop where
  ascending : stages.Pairwise (· < ·)
  mem_iff : ∀ stage, stage ∈ stages ↔ p.Receives stage

theorem listsReceiving (h : p.Built) :
    p.ListsReceiving (p.placements.keys.filter p.isReduceStage) where
  ascending := (List.pairwise_map.2 p.placements.ascending).filter _
  mem_iff stage := by
    rw [List.mem_filter, isReduceStage_iff]
    refine ⟨And.right, fun hreceives => ⟨?_, hreceives⟩⟩
    obtain ⟨root, hroot, -⟩ := hreceives
    rw [← h.keys_eq]
    exact List.mem_map_of_mem (NumberMap.get?_eq_some_iff.1 hroot)

/-- There is one at most exactly when any two are the same. -/
theorem ListsReceiving.length_le_one_iff
    {stages : List Int32}
    (h : p.ListsReceiving stages) :
    stages.length ≤ 1 ↔ ∀ stage other, p.Receives stage → p.Receives other → stage = other := by
  simp only [← h.mem_iff]
  match stages, h.ascending with
  | [], _ =>
      simp
  | [stage], _ =>
      simp
  | first :: second :: rest, hascending =>
      have hlt := (List.pairwise_cons.1 hascending).1 second (by simp)
      refine iff_of_false (by simp) fun hsame => ?_
      have heq := hsame first second (by simp) (by simp)
      exact Int32.lt_irrefl (heq ▸ hlt)

/-- All that can come of the check of a plan, of which the given stages are the reduce stages. -/
inductive Verdict (p : Plan) (receiving : List Int32) : Except PlanFault Unit → Prop
  | unassigned
      {stage : Int32}
      (hfirst : p.FirstUnassigned stage) :
      Verdict p receiving (.error (.unassigned stage))
  | reduceStages
      (hassigned : ∀ stage, ¬ p.Unassigned stage)
      (hmany : 1 < receiving.length) :
      Verdict p receiving (.error (.reduceStages receiving.length))
  | valid
      (hassigned : ∀ stage, ¬ p.Unassigned stage)
      (hone : receiving.length ≤ 1) :
      Verdict p receiving (.ok ())

theorem verdict_validate (h : p.Built) :
    p.Verdict (p.placements.keys.filter p.isReduceStage) p.validate := by
  cases hcount : p.countReduceStages 0 p.placements.entries with
  | error fault =>
      obtain ⟨stage, rfl, hfirst⟩ := (countReduceStages_eq_error_iff_of_built h).1 hcount
      have hvalidate : p.validate = .error (.unassigned stage) := by
        rw [validate, hcount]
        rfl
      rw [hvalidate]
      exact .unassigned hfirst
  | ok count =>
      have hassigned : ∀ stage, ¬ p.Unassigned stage := by
        intro stage hstage
        obtain ⟨entry, hentry, -, hfails⟩ := exists_entry_of_unassigned h hstage
        have hnone : ∀ fault, ¬ Fallible.FirstFault
            (fun entry fault => p.stageFault? entry = some fault) p.placements.entries fault := by
          intro fault hfirst
          rw [countReduceStages_eq_error_iff.2 hfirst] at hcount
          cases hcount
        exact Fallible.forall_not_firstFault_iff.1 hnone entry hentry _ hfails
      have hlength : count = (p.placements.keys.filter p.isReduceStage).length := by
        rw [countReduceStages_eq hcount, NumberMap.keys, List.filter_map, List.length_map]
        simp [Function.comp_def]
      rcases Nat.lt_or_ge 1 count with hmany | hone
      · have hvalidate : p.validate = .error (.reduceStages count) := by
          rw [validate, hcount]
          exact if_pos hmany
        rw [hvalidate, hlength]
        exact .reduceStages hassigned (by omega)
      · have hvalidate : p.validate = .ok () := by
          rw [validate, hcount]
          exact if_neg (Nat.not_lt.2 hone)
        rw [hvalidate]
        exact .valid hassigned (by omega)

/-- What comes of the check tells what the plan is like. -/
theorem Verdict.eq_ok_iff
    {receiving : List Int32} {answer : Except PlanFault Unit}
    (h : p.Verdict receiving answer) :
    answer = .ok () ↔ (∀ stage, ¬ p.Unassigned stage) ∧ receiving.length ≤ 1 := by
  cases h with
  | unassigned hfirst =>
      exact iff_of_false (by simp) fun hassigned => hassigned.1 _ hfirst.unassigned
  | reduceStages _ hmany =>
      exact iff_of_false (by simp) fun hone => Nat.not_le.2 hmany hone.2
  | valid hassigned hone =>
      exact iff_of_true rfl ⟨hassigned, hone⟩

theorem Verdict.eq_error_iff
    {receiving : List Int32} {answer : Except PlanFault Unit} {fault : PlanFault}
    (h : p.Verdict receiving answer) :
    answer = .error fault ↔
      (∃ stage, fault = .unassigned stage ∧ p.FirstUnassigned stage) ∨
      (fault = .reduceStages receiving.length ∧ (∀ stage, ¬ p.Unassigned stage) ∧
        1 < receiving.length) := by
  cases h with
  | @unassigned stage hfirst =>
      constructor
      · intro heq
        cases heq
        exact Or.inl ⟨stage, rfl, hfirst⟩
      · rintro (⟨other, rfl, hother⟩ | ⟨-, hassigned, -⟩)
        · rw [hfirst.unique hother]
        · exact absurd hfirst.unassigned (hassigned stage)
  | reduceStages hassigned hmany =>
      constructor
      · intro heq
        cases heq
        exact Or.inr ⟨rfl, hassigned, hmany⟩
      · rintro (⟨stage, -, hfirst⟩ | ⟨rfl, -⟩)
        · exact absurd hfirst.unassigned (hassigned stage)
        · rfl
  | valid hassigned hone =>
      refine iff_of_false (by simp) ?_
      rintro (⟨stage, -, hfirst⟩ | ⟨-, -, hmany⟩)
      · exact hassigned stage hfirst.unassigned
      · omega

/-- A plan that passes has the reduce stage that it has. -/
theorem reduceStage?_eq_some_iff
    (h : p.Built)
    (hvalid : p.validate = .ok ()) :
    p.reduceStage? = some stage ↔ p.Receives stage := by
  rw [reduceStage?_eq h, ← (listsReceiving h).mem_iff]
  match p.placements.keys.filter p.isReduceStage, length_reduceStages_le_one hvalid with
  | [], _ =>
      simp
  | [only], _ =>
      simp [eq_comm]

/-- **Which plans pass the check.** Of a plan made of any additions:

* both maps have the same keys, and a stage has the root and the placement of its last addition;
* the plan passes exactly when every stage whose root does not take the output of another stage has
  a worker, and at most one stage has a root that does;
* otherwise the fault is the first stage that has no workers and needs some, if there is one, and if
  not the number of reduce stages; a stage without a root is never found;
* of a plan that passes, the reduce stage is the one whose root takes the output of another stage,
  if there is one. -/
theorem validate_ofAdditions (fields : List ResultField) (additions : List Addition) :
    let p := ofAdditions fields additions
    (p.roots.keys = p.placements.keys ∧
      ∀ stage,
        p.roots.get? stage = (lastAddition? additions stage).map Addition.root ∧
        p.placements.get? stage = (lastAddition? additions stage).map Addition.placement) ∧
    (p.validate = .ok () ↔
      (∀ stage root placement,
        p.roots.get? stage = some root → p.placements.get? stage = some placement →
        root.isReceive = false → placement.servers ≠ []) ∧
      ∀ stage other, p.Receives stage → p.Receives other → stage = other) ∧
    (∃ receiving, p.ListsReceiving receiving ∧
      ∀ fault, p.validate = .error fault ↔
        (∃ stage, fault = .unassigned stage ∧ p.FirstUnassigned stage) ∨
        (fault = .reduceStages receiving.length ∧ (∀ stage, ¬ p.Unassigned stage) ∧
          1 < receiving.length)) ∧
    (∀ stage, p.validate ≠ .error (.missingRoot stage)) ∧
    (p.validate = .ok () → ∀ stage, p.reduceStage? = some stage ↔ p.Receives stage) := by
  intro p
  have hbuilt : p.Built := built_iff.2 ⟨fields, additions, rfl⟩
  have hlists := listsReceiving hbuilt
  have hverdict := verdict_validate hbuilt
  refine ⟨⟨hbuilt.keys_eq, get?_ofAdditions fields additions⟩, ?_,
    ⟨_, hlists, fun fault => hverdict.eq_error_iff⟩, ?_, ?_⟩
  · rw [hverdict.eq_ok_iff, hlists.length_le_one_iff]
    refine and_congr_left' ⟨?_, ?_⟩
    · intro hassigned stage root placement hroot hplacement hruns hnone
      exact hassigned stage ⟨root, placement, hroot, hruns, hplacement, hnone⟩
    · rintro hservers stage ⟨root, placement, hroot, hruns, hplacement, hnone⟩
      exact hservers stage root placement hroot hplacement hruns hnone
  · intro stage hmissing
    rcases hverdict.eq_error_iff.1 hmissing with ⟨_, hfault, -⟩ | ⟨hfault, -⟩ <;> cases hfault
  · exact fun hvalid stage => reduceStage?_eq_some_iff hbuilt hvalid

/-- A stage is added without workers and is then made the reduce stage, which is found. -/
theorem validate_ofAdditions_replaced :
    let scan : StageNode := .scan "t" ["v"] ⟨["v"], [.int]⟩
    let additions : List Addition :=
      [⟨3, scan, ⟨[], .singleton⟩⟩,
        ⟨5, scan, ⟨[⟨"worker-a", 8421, 8442⟩], .singleton⟩⟩,
        ⟨3, .receive 5 ⟨["v"], [.int]⟩ .singleton, ⟨[], .singleton⟩⟩]
    (ofAdditions [] additions).validate = .ok () ∧
    (ofAdditions [] additions).reduceStage? = some 3 := by
  intro scan additions
  have hvalid : (ofAdditions [] additions).validate = .ok () := by decide +kernel
  have hreceives : (ofAdditions [] additions).Receives 3 :=
    ⟨.receive 5 ⟨["v"], [.int]⟩ .singleton, by decide +kernel, rfl⟩
  obtain ⟨-, -, -, -, hreduce⟩ := validate_ofAdditions [] additions
  exact ⟨hvalid, (hreduce hvalid 3).2 hreceives⟩

-- The fault is told by the number -2, which was added last; stage 3 first was a reduce stage.
example :
    let scan : StageNode := .scan "t" [] ⟨[], []⟩
    let idle : Placement := ⟨[], .singleton⟩
    (ofAdditions [] [⟨3, .receive 5 ⟨[], []⟩ .singleton, idle⟩, ⟨5, scan, idle⟩, ⟨3, scan, idle⟩,
      ⟨-2, scan, idle⟩]).validate = .error (.unassigned (-2)) := by
  decide +kernel

end Plan
end ScatterGather
