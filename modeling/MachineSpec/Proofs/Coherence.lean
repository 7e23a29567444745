/-
MachineSpec.Proofs.Coherence — the parts of an accepted document fit together.

A document takes its declarations one after another and validates each against those before
it. `Coherent` is the resulting invariant: the machines have distinct names, and all
messages belong to one of them and fit it.

It does not say that the messages of a machine are declared once; a document does not
require that.
-/
import Mathlib.Data.List.Nodup
import MachineSpec.Proofs.Closure
import MachineSpec.Proofs.Order
import MachineSpec.Proofs.Sequence

namespace MachineSpec

/-- Messages that can be attached to the machine: it has their targets, and no channel is there
    twice. -/
structure Messages.Suits (messages : Messages) (machine : Machine) : Prop where
  named : messages.machine = machine.name
  targets : ∀ message ∈ messages.messages, ∃ state ∈ machine.states, state.tag = message.target.tag
  once : (messages.messages.map Message.key).Nodup

theorem Messages.suits_of_ofDecl {machine : Machine} {decl : MessagesDecl} {messages : Messages}
    (made : Messages.ofDecl machine decl = .ok messages) :
    messages.Suits machine ∧ messages = ⟨decl.name, decl.messages⟩ := by
  have same : messages = ⟨decl.name, decl.messages⟩ := by
    unfold Messages.ofDecl at made
    split at made
    · cases made
    · obtain ⟨_, -, same⟩ := Except.bind_eq_ok_iff.mp made
      cases same
      rfl
  obtain ⟨named, declared, once⟩ := Messages.ofDecl_ok_iff.mp ⟨messages, made⟩
  subst same
  refine ⟨⟨named, fun message mem => ?_, once⟩, rfl⟩
  obtain ⟨reference, listed, same⟩ := declared message mem
  obtain ⟨state, mem, rfl⟩ := List.mem_map.mp listed
  exact ⟨state, mem, same⟩

namespace Document

variable {document extended : Document}

/-- What the parts of a document have to do with each other. -/
structure Coherent (document : Document) : Prop where
  names : (document.machines.map Machine.name).Nodup
  closed : ∀ machine ∈ document.machines, machine.Closed
  owned : ∀ messages ∈ document.messages, ∃ machine ∈ document.machines, messages.Suits machine

theorem machine?_eq_none_iff {name : String} :
    document.machine? name = none ↔ name ∉ document.machines.map Machine.name := by
  simp [machine?, List.find?_eq_none]

theorem mem_of_machine? {name : String} {machine : Machine}
    (found : document.machine? name = some machine) :
    machine ∈ document.machines ∧ machine.name = name :=
  ⟨List.mem_of_find?_eq_some found, by simpa using List.find?_some found⟩

/-- What is declared in two parts is declared in their order. -/
theorem declareAll_append_iff {before after : List Declaration} :
    document.declareAll (before ++ after) = (extended, none) ↔
      ∃ middle, document.declareAll before = (middle, none) ∧
        middle.declareAll after = (extended, none) := by
  induction before generalizing document with
  | nil => simp [declareAll]
  | cons first rest ih =>
    rw [List.cons_append, declareAll, declareAll]
    cases document.declare first with
    | error offence => simp
    | ok grown => exact ih

theorem Coherent.machine (coherent : document.Coherent) {decl : MachineDecl} {machine : Machine}
    (new : document.machine? decl.name = none) (made : Machine.ofDecl decl = .ok machine) :
    Coherent { document with machines := document.machines ++ [machine] } where
  names := by
    rw [machine?_eq_none_iff, ← Machine.name_of_ofDecl made] at new
    rw [List.map_append, List.nodup_append]
    exact ⟨coherent.names, List.nodup_singleton _, by simpa using new⟩
  closed := by
    intro other mem
    rcases List.mem_append.mp mem with mem | mem
    · exact coherent.closed other mem
    · obtain rfl := List.mem_singleton.mp mem
      exact Machine.closed_of_ofDecl made
  owned := by
    intro messages mem
    obtain ⟨owner, known, suits⟩ := coherent.owned messages mem
    exact ⟨owner, List.mem_append_left _ known, suits⟩

theorem Coherent.messages (coherent : document.Coherent) {decl : MessagesDecl} {machine : Machine}
    {messages : Messages} (found : document.machine? decl.name = some machine)
    (made : Messages.ofDecl machine decl = .ok messages) :
    Coherent { document with messages := document.messages ++ [messages] } where
  names := coherent.names
  closed := coherent.closed
  owned := by
    intro other mem
    rcases List.mem_append.mp mem with mem | mem
    · exact coherent.owned other mem
    · obtain rfl := List.mem_singleton.mp mem
      exact ⟨machine, (mem_of_machine? found).1, (Messages.suits_of_ofDecl made).1⟩

theorem coherent_of_declareAll {declarations : List Declaration}
    (declared : Document.empty.declareAll declarations = (document, none)) :
    document.Coherent := by
  induction declarations using List.reverseRecOn generalizing document with
  | nil =>
    cases declared
    exact ⟨List.nodup_nil, nofun, nofun⟩
  | append_singleton declarations last ih =>
    obtain ⟨before, declared, grown⟩ := declareAll_snoc_iff.mp declared
    have coherent := ih declared
    cases last with
    | machine decl =>
      obtain ⟨new, machine, made, rfl⟩ := declare_machine_iff.mp grown
      exact coherent.machine new made
    | messages decl =>
      obtain ⟨machine, messages, found, made, rfl⟩ := declare_messages_iff.mp grown
      exact coherent.messages found made

theorem coherent_of_read {source : String} (read : Document.read source = (document, none)) :
    document.Coherent := by
  obtain ⟨_, _, -, -, declared⟩ := Document.read_iff.mp read
  exact coherent_of_declareAll declared

end Document

end MachineSpec
