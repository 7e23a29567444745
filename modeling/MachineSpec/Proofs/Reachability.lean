/-
MachineSpec.Proofs.Reachability — the reachable tags are closed under transitions.

`Machine.reachable` collects tags in as many rounds as there are states. The number of
declared tags not yet seen (`unseen`) decreases with every round that finds a new one. So
after these rounds either one of them found nothing new, and all tags seen have been
searched, or no tag is left unseen (`spread_closed`).
-/
import MachineSpec.Graph.Reach
import MachineSpec.Proofs.Compiled

namespace MachineSpec.Machine

variable {machine : Machine}

/-! ## 1. Rounds -/

theorem destinations_of_state? {tag : String} {state : State}
    (known : machine.state? tag = some state) :
    machine.destinations tag = state.transits.map Reference.tag := by
  unfold destinations
  rw [known]

/-- Transitions of a checked machine lead to declared tags. -/
theorem declared_of_destination (closed : machine.Closed) {tag next : String}
    (h : next ∈ machine.destinations tag) : next ∈ machine.states.map State.tag := by
  unfold destinations at h
  split at h
  · simp at h
  · rename_i state found
    have hstate := List.mem_of_find?_eq_some found
    rw [closed.transits state hstate, List.map_map] at h
    obtain ⟨edge, hedge, rfl⟩ := List.mem_map.mp h
    obtain ⟨target, htarget, same⟩ := closed.destinations edge (List.mem_filter.mp hedge).1
    exact List.mem_map.mpr ⟨target, htarget, same⟩

/-- Edges of a checked machine are among the transitions of the states that they leave. -/
theorem destination_of_edge (closed : machine.Closed) {edge : Edge} (h : edge ∈ machine.edges) :
    edge.destination.tag ∈ machine.destinations edge.source.tag := by
  obtain ⟨state, hstate, source⟩ := closed.sources edge h
  have found : machine.state? edge.source.tag = some state :=
    source ▸ find?_of_distinct closed.distinct hstate
  rw [destinations_of_state? found, closed.transits state hstate, source]
  exact List.mem_map_of_mem (List.mem_map_of_mem (List.mem_filter.mpr ⟨h, by simp⟩))

/-- The tags that one round finds. -/
def fresh (machine : Machine) (frontier seen : List String) : List String :=
  ((frontier.flatMap machine.destinations).filter (!seen.contains ·)).eraseDups

theorem mem_fresh_iff {frontier seen : List String} {tag : String} :
    tag ∈ machine.fresh frontier seen ↔
      (∃ source ∈ frontier, tag ∈ machine.destinations source) ∧ tag ∉ seen := by
  simp [fresh, List.mem_eraseDups]

theorem spread_succ {rounds : Nat} {frontier seen : List String} :
    machine.spread (rounds + 1) frontier seen =
      machine.spread rounds (machine.fresh frontier seen)
        (seen ++ machine.fresh frontier seen) := rfl

/-- What was seen is kept. -/
theorem subset_spread {rounds : Nat} {frontier seen : List String} :
    seen ⊆ machine.spread rounds frontier seen := by
  induction rounds generalizing frontier seen with
  | zero => exact List.Subset.refl _
  | succ rounds ih =>
    rw [spread_succ]
    exact List.Subset.trans (List.subset_append_left _ _) ih

/-- Rounds find nothing but what transitions lead to from what was there. -/
theorem spread_induct {holds : String → Prop}
    (onward : ∀ tag next, holds tag → next ∈ machine.destinations tag → holds next) {rounds : Nat}
    {frontier seen : List String} (waiting : ∀ tag ∈ frontier, holds tag)
    (known : ∀ tag ∈ seen, holds tag) : ∀ tag ∈ machine.spread rounds frontier seen, holds tag := by
  induction rounds generalizing frontier seen with
  | zero => exact known
  | succ rounds ih =>
    rw [spread_succ]
    have new : ∀ tag ∈ machine.fresh frontier seen, holds tag := by
      intro tag found
      obtain ⟨⟨source, waits, leads⟩, -⟩ := mem_fresh_iff.mp found
      exact onward source tag (waiting source waits) leads
    exact ih new (List.forall_mem_append.mpr ⟨known, new⟩)

/-! ## 2. Enough rounds -/

/-- The declared tags that were not seen. -/
def unseen (machine : Machine) (seen : List String) : List String :=
  (machine.states.map State.tag).filter (!seen.contains ·)

/-- A round that finds something leaves less unseen. -/
theorem unseen_lt (closed : machine.Closed) {frontier seen : List String}
    (found : machine.fresh frontier seen ≠ []) :
    (machine.unseen (seen ++ machine.fresh frontier seen)).length <
      (machine.unseen seen).length := by
  obtain ⟨tag, htag⟩ := List.exists_mem_of_ne_nil _ found
  obtain ⟨⟨source, -, leads⟩, new⟩ := mem_fresh_iff.mp htag
  have still : machine.unseen (seen ++ machine.fresh frontier seen) =
      (machine.unseen seen).filter (!(machine.fresh frontier seen).contains ·) := by
    unfold unseen
    rw [List.filter_filter]
    exact List.filter_congr fun other _ => by simp [Bool.and_comm]
  rw [still, List.length_filter_lt_length_iff_exists]
  refine ⟨tag, List.mem_filter.mpr ⟨declared_of_destination closed leads, ?_⟩, ?_⟩
  · simpa using new
  · simpa using htag

/-- What is left when the rounds are used up was searched, or nothing was left to be found. -/
theorem spread_closed (closed : machine.Closed) {rounds : Nat} {frontier seen : List String}
    (searched : ∀ tag ∈ seen, tag ∈ frontier ∨ machine.destinations tag ⊆ seen)
    (enough : frontier = [] ∨ (machine.unseen seen).length ≤ rounds) :
    ∀ tag ∈ machine.spread rounds frontier seen,
      machine.destinations tag ⊆ machine.spread rounds frontier seen := by
  induction rounds generalizing frontier seen with
  | zero =>
    intro tag htag next hnext
    rcases enough with rfl | none
    · exact (searched tag htag).elim (by simp) (fun subset => subset hnext)
    · -- every declared tag was seen, and transitions lead to no other
      have all := List.filter_eq_nil_iff.mp (List.length_eq_zero_iff.mp (Nat.le_zero.mp none))
      have known : next ∈ seen := by simpa using all next (declared_of_destination closed hnext)
      exact known
  | succ rounds ih =>
    rw [spread_succ]
    refine ih (fun tag htag => ?_) ?_
    · refine (List.mem_append.mp htag).elim (fun old => .inr ?_) .inl
      rcases searched tag old with here | subset
      · intro next hnext
        by_cases known : next ∈ seen
        · exact List.mem_append_left _ known
        · exact List.mem_append_right _ (mem_fresh_iff.mpr ⟨⟨tag, here, hnext⟩, known⟩)
      · exact List.Subset.trans subset (List.subset_append_left _ _)
    · by_cases found : machine.fresh frontier seen = []
      · exact .inl found
      · have less := unseen_lt closed found
        rcases enough with rfl | enough
        · exact absurd (by simp [fresh]) found
        · exact .inr (by omega)

/-! ## 3. Reachable tags -/

/-- Where a machine can be it can also be a transition later. -/
theorem reachable_of_destination (closed : machine.Closed) {tag next : String}
    (h : tag ∈ machine.reachable) (leads : next ∈ machine.destinations tag) :
    next ∈ machine.reachable :=
  spread_closed closed (fun _ => .inl) (.inr (by
    simpa [unseen] using List.length_filter_le _ (machine.states.map State.tag))) tag h leads

theorem initial_reachable : machine.initial.tag ∈ machine.reachable := by
  refine subset_spread ?_
  unfold origins
  split
  · exact List.mem_cons_self ..
  · simp [List.mem_eraseDups]

theorem errorState_reachable {policy : FailurePolicy} (fallible : machine.failure = some policy) :
    policy.errorState.tag ∈ machine.reachable := by
  refine subset_spread ?_
  unfold origins
  rw [fallible]
  simp [List.mem_eraseDups]

theorem mem_unreachable_iff {state : State} :
    state ∈ machine.unreachable ↔ state ∈ machine.states ∧ state.tag ∉ machine.reachable := by
  simp [unreachable]

end MachineSpec.Machine
