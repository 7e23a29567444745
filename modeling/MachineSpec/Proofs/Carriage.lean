/-
MachineSpec.Proofs.Carriage — which messages are attached under which bindings.

`Bindings.Carries` states what messages need: a class for every payload, a receiver or
producer for it, and no two payloads of one class for one direction and state.

Channels are made one after another. So the condition for a list of messages is derived
along the list (`addMessages_needs`), with the channels already made as a parameter, and
simplifies if there are none (`ofMessages_needs`).
-/
import MachineSpec.Proofs.Coherence
import MachineSpec.Proofs.Routing

namespace MachineSpec

/-! ## 1. What has to be bound -/

namespace Bindings

variable (bindings : Bindings) (machine : Machine)

/-- Somebody takes or makes the payload: a callback that was bound for it, or the data of the
    state. -/
def Attends (message : Message) : Prop :=
  (∃ callback, bindings.messageCallback? message.direction
    (messageKey message.target.type message.payload.type) = some callback) ∨
  ∃ state ∈ machine.states, state.tag = message.target.tag ∧ ∃ kind,
    bindings.resolve state.reference.type = .ok (.cls kind) ∧
      kind.answers message.direction.method = true

/-- Two messages can be told apart by the classes of their payloads, if by nothing else. -/
def Distinguishes (first second : Message) : Prop :=
  first.direction = second.direction → first.target.tag = second.target.tag →
    ∀ kind kind', bindings.resolve first.payload.type = .ok (.cls kind) →
      bindings.resolve second.payload.type = .ok (.cls kind') → kind.id ≠ kind'.id

/-- Everything that the messages of a machine need is bound. -/
structure Carries (messages : List Message) : Prop where
  classes : ∀ message ∈ messages, ∃ kind, bindings.resolve message.payload.type = .ok (.cls kind)
  couriers : ∀ message ∈ messages, bindings.Attends machine message
  own : messages.Pairwise bindings.Distinguishes

variable {bindings machine}

theorem carries_nil : bindings.Carries machine [] := ⟨nofun, nofun, .nil⟩

theorem carries_cons_iff {first : Message} {rest : List Message} :
    bindings.Carries machine (first :: rest) ↔
      (∃ kind, bindings.resolve first.payload.type = .ok (.cls kind)) ∧
        bindings.Attends machine first ∧ (∀ message ∈ rest, bindings.Distinguishes first message) ∧
          bindings.Carries machine rest := by
  constructor
  · intro carries
    obtain ⟨class_, classes⟩ := List.forall_mem_cons.mp carries.classes
    obtain ⟨courier, couriers⟩ := List.forall_mem_cons.mp carries.couriers
    obtain ⟨apart, own⟩ := List.pairwise_cons.mp carries.own
    exact ⟨class_, courier, apart, classes, couriers, own⟩
  · intro ⟨class_, courier, apart, classes, couriers, own⟩
    exact ⟨List.forall_mem_cons.mpr ⟨class_, classes⟩, List.forall_mem_cons.mpr ⟨courier, couriers⟩,
      List.pairwise_cons.mpr ⟨apart, own⟩⟩

theorem payloadClass_needs {name : TypeName} :
    Needs (bindings.resolveClass .payload name) (∃ kind, bindings.resolve name = .ok (.cls kind)) :=
  resolveClass_needs.congr (by simp)

end Bindings

/-! ## 2. Channels one by one -/

namespace Channels

variable {bindings : Bindings} {table : Table} {machine : Machine} {channels extended : Channels}
  {channel : Channel} {message : Message} {name : String}

/-- The place of a message is free: no channel there is for the class of its payload. -/
def Spares (channels : Channels) (bindings : Bindings) (message : Message) : Prop :=
  ∀ other ∈ channels.along message.direction, other.tag = message.target.tag →
    ∀ kind, bindings.resolve message.payload.type = .ok (.cls kind) → other.kind.id ≠ kind.id

theorem spares_empty : empty.Spares bindings message := by
  unfold Spares
  cases message.direction <;> exact nofun

theorem add_needs (bound : bindings.resolve channel.message.payload.type = .ok (.cls channel.kind)) :
    Needs (channels.add name channel) (channels.Spares bindings channel.message) := by
  have spares : channels.Spares bindings channel.message ↔
      ofKind (channels.along channel.message.direction) channel.tag channel.kind.id = none := by
    rw [ofKind_none_iff]
    constructor
    · intro free other mem same
      exact free other mem same channel.kind bound
    · intro free other mem same kind bound'
      cases bound.symm.trans bound'
      exact free other mem same
  rw [spares]
  unfold add
  dsimp only
  cases found : ofKind (channels.along channel.message.direction) channel.tag channel.kind.id with
  | some existing => exact ⟨nofun, rfl⟩
  | none => rfl

/-- Every further message has to be told apart from the one that was just added. -/
theorem spares_add (added : channels.add name channel = .ok extended)
    (bound : bindings.resolve channel.message.payload.type = .ok (.cls channel.kind)) :
    extended.Spares bindings message ↔
      channels.Spares bindings message ∧ bindings.Distinguishes channel.message message := by
  obtain ⟨members, -⟩ := add_ok added
  constructor
  · intro spares
    refine ⟨fun other mem => spares other ((members _ _).mpr (.inl mem)), ?_⟩
    intro way same kind kind' bound' bound''
    cases bound.symm.trans bound'
    exact spares channel ((members _ _).mpr (.inr ⟨rfl, way⟩)) same kind' bound''
  · intro ⟨spares, apart⟩ other mem same kind bound'
    rcases (members _ _).mp mem with before | ⟨rfl, way⟩
    · exact spares other before same kind bound'
    · exact apart way same other.kind kind bound bound'

section

variable (generated : table.Generated bindings machine) (closed : machine.Closed)
include generated

theorem block?_of_target (target : ∃ state ∈ machine.states, state.tag = message.target.tag) :
    ∃ block, table.block? message.target.tag = some block := by
  obtain ⟨state, mem, same⟩ := target
  rw [← generated.draws.states] at mem
  obtain ⟨block, known, rfl⟩ := List.mem_map.mp mem
  cases found : table.block? message.target.tag with
  | some other => exact ⟨other, rfl⟩
  | none =>
    have other : block.tag ≠ message.target.tag := by
      simpa using List.find?_eq_none.mp found block known
    exact absurd same other

include closed

/-- The data of a state are of the class that its block is for. -/
theorem courier_needs {block : Block} (found : table.block? message.target.tag = some block) :
    Needs (courier bindings name block.kind message) (bindings.Attends machine message) := by
  have mem : block ∈ table.blocks := Table.mem_of_block? found
  have here : block.state ∈ machine.states :=
    generated.draws.states ▸ List.mem_map_of_mem mem
  have method : (∃ state ∈ machine.states, state.tag = message.target.tag ∧ ∃ kind,
      bindings.resolve state.reference.type = .ok (.cls kind) ∧
        kind.answers message.direction.method = true) ↔
      block.kind.answers message.direction.method = true := by
    constructor
    · intro ⟨state, mem', same, kind, bound, answers⟩
      have tags : state.tag = block.state.tag := same.trans (Table.tag_of_block? found).symm
      obtain rfl := List.inj_on_of_nodup_map closed.distinct mem' here tags
      cases bound.symm.trans (generated.draws.classes block mem)
      exact answers
    · intro answers
      exact ⟨block.state, here, Table.tag_of_block? found, block.kind,
        generated.draws.classes block mem, answers⟩
  unfold courier Bindings.Attends
  rw [method]
  cases bindings.messageCallback? message.direction
      (Bindings.messageKey message.target.type message.payload.type) with
  | some callback => exact .inl ⟨callback, rfl⟩
  | none =>
    dsimp only
    split
    · rename_i answers
      exact .inr answers
    · rename_i silent
      exact ⟨by simpa using silent, rfl⟩

/-- Messages are added to channels exactly if everything they need is bound and their places are
    free. -/
theorem addMessages_needs {messages : List Message}
    (targets : ∀ message ∈ messages, ∃ state ∈ machine.states, state.tag = message.target.tag) :
    Needs (addMessages bindings table channels messages)
      (bindings.Carries machine messages ∧ ∀ message ∈ messages, channels.Spares bindings message) := by
  induction messages generalizing channels with
  | nil => exact Needs.nothing.congr (by simp [Bindings.carries_nil])
  | cons first rest ih =>
    obtain ⟨target, targets⟩ := List.forall_mem_cons.mp targets
    obtain ⟨block, found⟩ := block?_of_target generated target
    rw [addMessages, found]
    have onward {kind : Class} (bound : bindings.resolve first.payload.type = .ok (.cls kind)) :
        Needs (courier bindings table.name block.kind first >>= fun carries => do
          let extended ← channels.add table.name ⟨first, kind, carries⟩
          addMessages bindings table extended rest)
        (bindings.Attends machine first ∧ channels.Spares bindings first ∧
          bindings.Carries machine rest ∧ ∀ message ∈ rest,
            channels.Spares bindings message ∧ bindings.Distinguishes first message) := by
      refine (courier_needs generated closed found).bind fun carries _ _ =>
        (@add_needs bindings channels ⟨first, kind, carries⟩ _ bound).bind fun extended added _ =>
          (ih targets).congr (and_congr_right fun _ => ?_)
      exact forall₂_congr fun message _ => spares_add added bound
    refine (Bindings.payloadClass_needs.bind fun kind resolved _ =>
      onward (Bindings.resolveClass_ok resolved)).congr ?_
    rw [Bindings.carries_cons_iff, List.forall_mem_cons]
    constructor
    · rintro ⟨class_, attends, here, carries, others⟩
      exact ⟨⟨class_, attends, fun message mem => (others message mem).2, carries⟩, here,
        fun message mem => (others message mem).1⟩
    · rintro ⟨⟨class_, attends, apart, carries⟩, here, others⟩
      exact ⟨class_, attends, here, carries, fun message mem => ⟨others message mem, apart message mem⟩⟩

/-- The messages of a machine are attached exactly if everything they need is bound. -/
theorem ofMessages_needs {messages : Messages} (suits : messages.Suits machine) :
    Needs (ofMessages bindings table messages) (bindings.Carries machine messages.messages) :=
  (addMessages_needs generated closed suits.targets).congr
    (and_iff_left fun _ _ => spares_empty)

end

/-! ## 3. The order of channels -/

/-- The channels of a direction stand in the order in which their messages were declared. -/
theorem map_message_along {messages : List Message}
    (attached : addMessages bindings table channels messages = .ok extended) (direction : Direction) :
    (extended.along direction).map Channel.message =
      (channels.along direction).map Channel.message ++
        messages.filter (·.direction = direction) := by
  induction messages generalizing channels with
  | nil =>
    cases attached
    simp
  | cons first rest ih =>
    simp only [addMessages, Except.bind_eq_ok_iff] at attached
    obtain ⟨kind, -, attached⟩ := attached
    cases found : table.block? first.target.tag with
    | none =>
      rw [found] at attached
      cases attached
    | some block =>
      rw [found] at attached
      simp only [Except.bind_eq_ok_iff] at attached
      obtain ⟨carries, -, more, added, attached⟩ := attached
      rw [ih attached]
      have grown : (more.along direction).map Channel.message =
          (channels.along direction).map Channel.message ++
            [first].filter (·.direction = direction) := by
        dsimp only [add] at added
        split at added
        · cases added
        · cases added
          cases way : first.direction <;> cases direction <;> simp [along, way]
      rw [grown, List.append_assoc, ← List.filter_append, List.singleton_append]

theorem messages_along {messages : Messages}
    (attached : ofMessages bindings table messages = .ok channels) (direction : Direction) :
    (channels.along direction).map Channel.message =
      messages.messages.filter (·.direction = direction) := by
  rw [map_message_along attached]
  cases direction <;> rfl

end Channels

end MachineSpec
