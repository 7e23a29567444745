/-
MachineSpec.Proofs.Distribution — the transitions of an accepted machine.

A declaration lists its transitions together. In the machine every state has the list of
those that leave it, made by filtering the declaration. No transition is lost and none
occurs under two states, because every transition leaves a listed state and the states have
distinct tags (`leaving_perm`).

`Machine.Keeps` says what a machine keeps of its declaration.

* `ofDecl_keeps_or_refuses`: closed declarations are accepted, with everything that they
  declare, and all others are rejected as invalid.
-/
import Mathlib.Algebra.GroupWithZero.Nat
import Mathlib.Data.List.Perm.Basic
import MachineSpec.Error
import MachineSpec.Proofs.Closure

namespace MachineSpec

/-! ## 1. Transitions by their sources -/

/-- The declared transitions that leave the states with this tag. -/
def MachineDecl.leaving (decl : MachineDecl) (tag : String) : List Edge :=
  decl.edges.filter (·.source.tag == tag)

/-- Different tags share out the transitions that leave them. -/
theorem MachineDecl.leaving_perm {decl : MachineDecl} {tags : List String}
    (distinct : tags.Nodup) :
    (tags.flatMap decl.leaving).Perm (decl.edges.filter fun edge => tags.contains edge.source.tag) := by
  induction tags with
  | nil => simp
  | cons tag rest ih =>
    obtain ⟨new, distinct⟩ := List.nodup_cons.mp distinct
    -- the transitions in question are those of the first tag and those of the others
    have shared := List.filter_append_perm (·.source.tag == tag)
      (decl.edges.filter fun edge => (tag :: rest).contains edge.source.tag)
    have first : (decl.edges.filter fun edge => (tag :: rest).contains edge.source.tag).filter
        (·.source.tag == tag) = decl.leaving tag := by
      rw [List.filter_filter]
      refine List.filter_congr fun edge _ => ?_
      by_cases same : edge.source.tag = tag <;> simp [same]
    have others : (decl.edges.filter fun edge => (tag :: rest).contains edge.source.tag).filter
        (!·.source.tag == tag) = decl.edges.filter fun edge => rest.contains edge.source.tag := by
      rw [List.filter_filter]
      refine List.filter_congr fun edge _ => ?_
      by_cases same : edge.source.tag = tag <;> simp [same, new]
    rw [first, others] at shared
    exact ((ih distinct).append_left _).trans shared

/-! ## 2. Machines and their declarations -/

/-- Nothing of the declaration is lost in the machine, and nothing is added. -/
structure Machine.Keeps (machine : Machine) (decl : MachineDecl) : Prop where
  name : machine.name = decl.name
  /-- The states are those declared, in that order. -/
  states : machine.states.map State.reference = decl.states
  /-- So are the transitions. -/
  edges : machine.edges = decl.edges
  /-- The machine starts in a state of its own, the one that is meant. -/
  initial : machine.initial ∈ machine.states ∧ machine.initial.tag = decl.initial.tag
  /-- It is fallible just if that is declared, with the error type and the error state declared. -/
  failure : machine.failure.map (fun policy => (policy.errorType, policy.errorState.tag)) =
    decl.failure.map (fun failing => (failing.errorType, failing.errorState.tag))
  errorState : ∀ policy ∈ machine.failure, policy.errorState ∈ machine.states
  /-- Every state leads to where the transitions lead that leave it, in declared order. -/
  transits : ∀ state ∈ machine.states,
    state.transits = (decl.leaving state.tag).map Edge.destination
  /-- None of them leads twice to a state. -/
  apart : ∀ state ∈ machine.states, (state.transits.map Reference.tag).Nodup
  /-- Among the states every declared transition is found once. -/
  partition : (machine.states.flatMap fun state => decl.leaving state.tag).Perm decl.edges
  /-- There are as many as are declared. -/
  count : (machine.states.map fun state => state.transits.length).sum = decl.edges.length

/-- A role goes to a state of the tag that was asked for. -/
theorem tag_of_findRole {machine : String} {role : Role} {states : List State}
    {reference : Reference} {state : State}
    (h : findRole machine role states reference = .ok state) : state.tag = reference.tag := by
  unfold findRole at h
  split at h
  · rename_i found
    cases h
    simpa using List.find?_some found
  · cases h

/-- What a machine has of its declaration beside the states. -/
theorem Machine.declared_of_ofDecl {decl : MachineDecl} {machine : Machine}
    (h : Machine.ofDecl decl = .ok machine) :
    machine.name = decl.name ∧ machine.edges = decl.edges ∧
      machine.initial.tag = decl.initial.tag ∧
      machine.failure.map (fun policy => (policy.errorType, policy.errorState.tag)) =
        decl.failure.map (fun failing => (failing.errorType, failing.errorState.tag)) := by
  simp only [Machine.ofDecl, Except.bind_eq_ok_iff] at h
  obtain ⟨_, _, _, _, initial, starts, h⟩ := h
  have initially := tag_of_findRole starts
  split at h
  · rename_i plain
    cases h
    exact ⟨rfl, rfl, initially, by rw [plain]; rfl⟩
  · rename_i failing fails
    simp only [Except.bind_eq_ok_iff] at h
    obtain ⟨errorState, found, _, made, h⟩ := h
    cases made
    cases h
    refine ⟨rfl, rfl, initially, ?_⟩
    rw [fails]
    exact congrArg (fun tag => some (failing.errorType, tag)) (tag_of_findRole found)

/-- An accepted machine keeps its declaration. -/
theorem Machine.keeps_of_ofDecl {decl : MachineDecl} {machine : Machine}
    (h : Machine.ofDecl decl = .ok machine) : machine.Keeps decl := by
  obtain ⟨name, edges, initially, failure⟩ := Machine.declared_of_ofDecl h
  have closed := Machine.closed_of_ofDecl h
  have transits : ∀ state ∈ machine.states,
      state.transits = (decl.leaving state.tag).map Edge.destination := by
    intro state mem
    rw [closed.transits state mem, edges]
    rfl
  have partition : (machine.states.flatMap fun state => decl.leaving state.tag).Perm
      decl.edges := by
    have shared := decl.leaving_perm closed.distinct
    rw [List.flatMap_map, List.filter_eq_self.mpr] at shared
    · exact shared
    · intro edge mem
      obtain ⟨state, listed, same⟩ := closed.sources edge (edges ▸ mem)
      exact List.contains_iff_mem.mpr (same ▸ List.mem_map_of_mem listed)
  refine ⟨name, Machine.listed_of_ofDecl h, edges, ⟨closed.initial, initially⟩, failure,
    closed.errorState, transits, fun _ => closed.apart, partition, ?_⟩
  calc (machine.states.map fun state => state.transits.length).sum
      = (machine.states.map fun state => (decl.leaving state.tag).length).sum := by
        refine congrArg List.sum (List.map_congr_left fun state mem => ?_)
        rw [transits state mem, List.length_map]
    _ = (machine.states.flatMap fun state => decl.leaving state.tag).length :=
        List.length_flatMap.symm
    _ = decl.edges.length := partition.length_eq

/-! ## 3. Main theorem -/

/-- A declaration is accepted if and only if it is closed, and the machine then keeps all that is
    declared. Otherwise it is rejected with a validation error. -/
theorem ofDecl_keeps_or_refuses (decl : MachineDecl) :
    (decl.Closed ∧ ∃ machine, Machine.ofDecl decl = .ok machine ∧ machine.Keeps decl) ∨
    ¬ decl.Closed ∧ ∃ offence, Machine.ofDecl decl = .error offence ∧
      (Error.rejected (.invalid offence)).kind = .validationError := by
  cases result : Machine.ofDecl decl with
  | ok machine =>
    exact .inl ⟨Machine.ofDecl_ok_iff.mp ⟨machine, result⟩, machine, rfl,
      Machine.keeps_of_ofDecl result⟩
  | error offence =>
    refine .inr ⟨fun closed => ?_, offence, rfl, rfl⟩
    obtain ⟨machine, accepted⟩ := Machine.ofDecl_ok_iff.mpr closed
    rw [result] at accepted
    cases accepted

end MachineSpec
