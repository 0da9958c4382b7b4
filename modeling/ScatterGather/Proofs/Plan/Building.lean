import Mathlib.Data.List.Basic
import ScatterGather.Plan.Gathering
import ScatterGather.Proofs.Fallible

/-!
# Plans that were built

A plan is built by adding stages. Each stage comes with its root and its placement, so the two maps
of a plan always have the same keys.

**Results.** `ordered_targets`: the targets of a plan are its workers, stage by stage in ascending
order, without those of a reduce stage. `leftOut_of_validate`: what a dispatch leaves out is the
reduce stage.
-/

namespace ScatterGather

namespace NumberMap

variable {α β : Type}

theorem get?_eq_some_iff
    {m : NumberMap α} {key : Int32} {value : α} :
    m.get? key = some value ↔ (key, value) ∈ m.entries := by
  obtain ⟨entries, hascending⟩ := m
  simp only [get?]
  induction hascending with
  | nil =>
      simp
  | @cons entry rest hfirst _ ih =>
      obtain ⟨first, _⟩ := entry
      by_cases hkey : first = key
      · subst hkey
        have hrest : (first, value) ∉ rest :=
          fun hmem => Int32.lt_irrefl (hfirst (first, value) hmem)
        simp [hrest, eq_comm]
      · simp [hkey, Ne.symm hkey, ih]

theorem get?_eq_none_iff
    {m : NumberMap α} {key : Int32} :
    m.get? key = none ↔ key ∉ m.keys := by
  rw [Option.eq_none_iff_forall_ne_some]
  constructor
  · intro h hmem
    obtain ⟨⟨_, value⟩, hentry, rfl⟩ := List.mem_map.1 hmem
    exact h value (get?_eq_some_iff.2 hentry)
  · intro h value hvalue
    exact h (List.mem_map_of_mem (get?_eq_some_iff.1 hvalue))

theorem keys_place
    (key : Int32) (value : α) (other : β)
    {entries : List (Int32 × α)} {others : List (Int32 × β)}
    (h : entries.map Prod.fst = others.map Prod.fst) :
    (place key value entries).map Prod.fst = (place key other others).map Prod.fst := by
  induction entries generalizing others with
  | nil =>
      cases others with
      | nil =>
          rfl
      | cons first rest =>
          cases h
  | cons entry rest ih =>
      cases others with
      | nil =>
          cases h
      | cons first others =>
          obtain ⟨hkey, hrest⟩ := List.cons.inj h
          unfold place
          rw [hkey]
          split
          · simpa [hkey] using hrest
          · split
            · simpa using hrest
            · simpa [hkey] using ih hrest

/-- Maps of the same keys still have the same ones when one is added to both. -/
theorem keys_insert
    {m : NumberMap α} {n : NumberMap β}
    (h : m.keys = n.keys)
    (key : Int32) (value : α) (other : β) :
    (m.insert key value).keys = (n.insert key other).keys :=
  keys_place key value other h

/-- A map whose entries make lists, of which only one has anything in it. -/
theorem flatMap_eq_of_mem
    {entries : List (Int32 × α)} {key : Int32} {value : α} {f : Int32 × α → List β}
    (hascending : entries.Pairwise fun a b => a.1 < b.1)
    (hmem : (key, value) ∈ entries)
    (hother : ∀ entry ∈ entries, entry.1 ≠ key → f entry = []) :
    entries.flatMap f = f (key, value) := by
  induction hascending with
  | nil =>
      cases hmem
  | @cons entry rest hfirst _ ih =>
      obtain ⟨hentry, hrest⟩ := List.forall_mem_cons.1 hother
      rw [List.flatMap_cons]
      rcases List.mem_cons.1 hmem with rfl | hmem
      · have hnone : ∀ other ∈ rest, f other = [] := fun other hmem =>
          hrest other hmem fun heq => Int32.lt_irrefl (heq ▸ hfirst other hmem)
        rw [List.flatMap_eq_nil_iff.2 hnone, List.append_nil]
      · have hne : entry.1 ≠ key := fun heq => Int32.lt_irrefl (heq ▸ hfirst _ hmem)
        rw [hentry hne, List.nil_append, ih hmem hrest]

end NumberMap

namespace Plan

/-- The plans that can be put together. -/
inductive Built : Plan → Prop
  | ofFields (fields : List ResultField) : Built (ofFields fields)
  | addStage
      {p : Plan} (stage : Int32) (root : StageNode) (placement : Placement)
      (h : Built p) :
      Built (p.addStage stage root placement)

variable {p : Plan} {stage : Int32} {root : StageNode} {placement : Placement}

theorem Built.keys_eq (h : p.Built) : p.roots.keys = p.placements.keys := by
  induction h with
  | ofFields fields =>
      rfl
  | addStage stage root placement _ ih =>
      exact NumberMap.keys_insert ih stage root placement

theorem Built.exists_root
    (h : p.Built)
    (hplacement : p.placements.get? stage = some placement) :
    ∃ root, p.roots.get? stage = some root := by
  have hkey : stage ∈ p.roots.keys := by
    rw [h.keys_eq]
    exact List.mem_map_of_mem (NumberMap.get?_eq_some_iff.1 hplacement)
  obtain ⟨⟨_, root⟩, hroot, rfl⟩ := List.mem_map.1 hkey
  exact ⟨root, NumberMap.get?_eq_some_iff.2 hroot⟩

/-- A stage is placed if it has a root, and only then. -/
theorem Built.get?_placements_eq_none_iff (h : p.Built) :
    p.placements.get? stage = none ↔ p.roots.get? stage = none := by
  rw [NumberMap.get?_eq_none_iff, NumberMap.get?_eq_none_iff, h.keys_eq]

theorem isReduceStage_eq
    (h : p.roots.get? stage = some root) :
    p.isReduceStage stage = root.isReceive := by
  rw [isReduceStage, h]

/-! ## The reduce stage -/

theorem countReduceStages_eq
    {seen count : Nat} {entries : List (Int32 × Placement)}
    (h : p.countReduceStages seen entries = .ok count) :
    count = seen + (entries.filter fun entry => p.isReduceStage entry.1).length := by
  induction entries generalizing seen with
  | nil =>
      cases h
      rfl
  | cons entry entries ih =>
      obtain ⟨stage, placement⟩ := entry
      unfold countReduceStages at h
      split at h
      · cases h
      · next root hroot =>
          have hstage := isReduceStage_eq hroot
          split at h
          · next hreceive =>
              rw [List.filter_cons_of_pos (by rw [hstage, hreceive]), List.length_cons, ih h]
              omega
          · next hreceive =>
              split at h
              · cases h
              · rw [List.filter_cons_of_neg (by rwa [hstage]), ih h]

/-- A stage that was counted has a root, and workers unless it is a reduce stage. -/
theorem placed_of_countReduceStages
    {seen count : Nat} {entries : List (Int32 × Placement)}
    (h : p.countReduceStages seen entries = .ok count)
    (hmem : (stage, placement) ∈ entries) :
    ∃ root, p.roots.get? stage = some root ∧
      (root.isReceive = false → placement.servers ≠ []) := by
  induction entries generalizing seen with
  | nil =>
      cases hmem
  | cons entry entries ih =>
      obtain ⟨first, workers⟩ := entry
      unfold countReduceStages at h
      split at h
      · cases h
      · next root hroot =>
          rcases List.mem_cons.1 hmem with heq | hmem
          · cases heq
            refine ⟨root, hroot, fun hruns hnone => ?_⟩
            rw [hruns, hnone] at h
            cases h
          · split at h
            · exact ih h hmem
            · split at h
              · cases h
              · exact ih h hmem

/-- A plan that can be dispatched has targets if any of its stages runs on workers. -/
theorem exists_target
    (hvalid : p.validate = .ok ())
    (hplacement : p.placements.get? stage = some placement)
    (hruns : p.isReduceStage stage = false) :
    ∃ target targets, p.targets = target :: targets := by
  obtain ⟨count, hcount, -⟩ := Fallible.bind_eq_ok_iff.1 hvalid
  have hmem := NumberMap.get?_eq_some_iff.1 hplacement
  obtain ⟨root, hroot, hservers⟩ := placed_of_countReduceStages hcount hmem
  rw [isReduceStage_eq hroot] at hruns
  obtain ⟨server, hserver⟩ := List.exists_mem_of_ne_nil _ (hservers hruns)
  have htarget : (stage, server) ∈ p.targets := by
    refine List.mem_flatMap.2 ⟨(stage, placement), List.mem_filter.2 ⟨hmem, ?_⟩, ?_⟩
    · rw [isReduceStage_eq hroot, hruns]
      rfl
    · exact List.mem_map_of_mem hserver
  exact List.exists_cons_of_ne_nil (List.ne_nil_of_mem htarget)

/-- Every target of a plan that can be dispatched can be bound. -/
theorem bind_of_mem_targets
    {target : Int32 × Server}
    (hvalid : p.validate = .ok ())
    (htarget : target ∈ p.targets) :
    ∃ bound, p.bind target.1 target.2 = .ok bound := by
  obtain ⟨⟨stage, placement⟩, hentry, hserver⟩ := List.mem_flatMap.1 htarget
  obtain ⟨server, -, rfl⟩ := List.mem_map.1 hserver
  obtain ⟨count, hcount, -⟩ := Fallible.bind_eq_ok_iff.1 hvalid
  obtain ⟨root, hroot, -⟩ := placed_of_countReduceStages hcount (List.mem_filter.1 hentry).1
  exact ⟨_, by rw [bind, hroot]⟩

/-- The stages that a dispatch leaves out, in ascending order. -/
theorem reduceStages_eq (h : p.Built) :
    p.placements.keys.filter p.isReduceStage =
      (p.roots.entries.filter fun entry => entry.2.isReceive).map Prod.fst := by
  have hentries : ∀ entry ∈ p.roots.entries,
      p.isReduceStage entry.1 = entry.2.isReceive :=
    fun entry hentry => isReduceStage_eq (NumberMap.get?_eq_some_iff.2 hentry)
  rw [← h.keys_eq, NumberMap.keys, List.filter_map]
  exact congrArg _ (List.filter_congr hentries)

/-- A plan that can be dispatched has one reduce stage at most. -/
theorem length_reduceStages_le_one (hvalid : p.validate = .ok ()) :
    (p.placements.keys.filter p.isReduceStage).length ≤ 1 := by
  obtain ⟨count, hcount, hthrow⟩ := Fallible.bind_eq_ok_iff.1 hvalid
  have hlength := countReduceStages_eq hcount
  have hle : ¬ 1 < count := by
    intro hlt
    rw [if_pos hlt] at hthrow
    cases hthrow
  rw [NumberMap.keys, List.filter_map, List.length_map]
  simp only [Function.comp_def]
  omega

theorem reduceStage?_eq (h : p.Built) :
    p.reduceStage? = (p.placements.keys.filter p.isReduceStage).head? := by
  rw [reduceStages_eq h, List.head?_map, List.head?_filter, reduceStage?]

/-- What a dispatch leaves out is the reduce stage. -/
theorem leftOut_of_validate
    (h : p.Built)
    (hvalid : p.validate = .ok ()) :
    p.leftOut = p.reduceStage?.getD noReduceStage := by
  rw [leftOut, reduceStage?_eq h]
  match p.placements.keys.filter p.isReduceStage, length_reduceStages_le_one hvalid with
  | [], _ => rfl
  | [_], _ => rfl

/-- Any other stage runs on workers. -/
theorem isReduceStage_of_ne
    (h : p.Built)
    (hvalid : p.validate = .ok ())
    (hplacement : p.placements.get? stage = some placement)
    (hne : p.reduceStage? ≠ some stage) :
    p.isReduceStage stage = false := by
  cases hreduce : p.isReduceStage stage with
  | false =>
      rfl
  | true =>
      have hkey : stage ∈ p.placements.keys :=
        List.mem_map_of_mem (NumberMap.get?_eq_some_iff.1 hplacement)
      have hmem := List.mem_filter.2 ⟨hkey, hreduce⟩
      have hone := length_reduceStages_le_one hvalid
      rw [reduceStage?_eq h] at hne
      generalize p.placements.keys.filter p.isReduceStage = stages at hmem hone hne
      cases stages with
      | nil =>
          cases hmem
      | cons first rest =>
          have hrest : rest = [] := List.length_eq_zero_iff.1 (by simpa using hone)
          subst hrest
          exact absurd (congrArg some (List.mem_singleton.1 hmem).symm) hne

/-! ## The targets -/

/-- The workers to which a plan is dispatched, in their order: stage by stage in ascending order,
and for each stage that runs on workers, those that it is placed on. -/
structure Ordered (p : Plan) (targets : List (Int32 × Server)) : Prop where
  ascending : targets.Pairwise fun a b => a.1 ≤ b.1
  servers : ∀ stage root placement,
    p.roots.get? stage = some root → root.isReceive = false →
    p.placements.get? stage = some placement →
    (targets.filter fun target => target.1 = stage).map Prod.snd = placement.servers
  runs : ∀ target ∈ targets, ∃ root placement,
    p.roots.get? target.1 = some root ∧ root.isReceive = false ∧
    p.placements.get? target.1 = some placement

theorem ordered_targets (h : p.Built) : p.Ordered p.targets where
  ascending := by
    have hstages := p.placements.ascending.filter fun entry => !p.isReduceStage entry.1
    refine List.pairwise_flatMap.2 ⟨fun entry _ => ?_, hstages.imp fun hlt => ?_⟩
    · rw [List.pairwise_map]
      exact List.pairwise_of_forall fun _ _ => Int32.le_refl _
    · intro target htarget other hother
      obtain ⟨_, -, rfl⟩ := List.mem_map.1 htarget
      obtain ⟨_, -, rfl⟩ := List.mem_map.1 hother
      exact Int32.le_of_lt hlt
  servers := by
    intro stage root placement hroot hruns hplacement
    have hstages := p.placements.ascending.filter fun entry => !p.isReduceStage entry.1
    have hmem : (stage, placement) ∈
        p.placements.entries.filter fun entry => !p.isReduceStage entry.1 := by
      rw [List.mem_filter, isReduceStage_eq hroot, hruns]
      exact ⟨NumberMap.get?_eq_some_iff.1 hplacement, rfl⟩
    rw [targets, List.filter_flatMap, NumberMap.flatMap_eq_of_mem hstages hmem]
    · simp [List.filter_map, Function.comp_def]
    · intro entry _ hne
      simp [List.filter_map, Function.comp_def, hne]
  runs := by
    intro target htarget
    obtain ⟨⟨stage, placement⟩, hentry, hserver⟩ := List.mem_flatMap.1 htarget
    obtain ⟨_, -, rfl⟩ := List.mem_map.1 hserver
    obtain ⟨hmem, hruns⟩ := List.mem_filter.1 hentry
    have hplacement := NumberMap.get?_eq_some_iff.2 hmem
    obtain ⟨root, hroot⟩ := h.exists_root hplacement
    rw [isReduceStage_eq hroot] at hruns
    exact ⟨root, placement, hroot, by simpa using hruns, hplacement⟩

/-- The senders of a gathering are the workers of a stage. -/
theorem placement_of_gathering
    {g : Gathering}
    (h : p.gathering = .ok g) :
    ∃ placement, p.placements.get? g.senderStage = some placement ∧
      g.senders = placement.servers := by
  unfold gathering at h
  split at h
  · cases h
  · split at h
    · split at h
      · cases h
      · cases h
      · next placement root hplacement _ =>
          cases h
          exact ⟨placement, hplacement, rfl⟩
    · cases h

end Plan
end ScatterGather
