/-
MachineSpec.Engine.Dialogue — the requests of a machine, and their order.

A machine runs by calling others: the methods of its data, the guards, conversions and
actions of its transitions, the receivers and producers of its messages and the sink of
its trace. These may do anything. So an operation of a machine is described as a
dialogue: it ends, or it makes a request and continues with the answer.

The only state of a machine between requests is its slot. The slot is passed on with
every request and taken back with the answer, since a callback may call the same
machine. A dialogue is thus a tree that branches over answers and slots, and a run of
the machine is a path in it: `Plays` are the paths on which only the dialogue changes
the slot.
-/
import MachineSpec.Channel

namespace MachineSpec

/-! ## 1. Slots, requests and answers -/

/-- What a machine keeps: the tag of its state, the data of that state, whether it runs, and whether
    the entry of the data is still to come. -/
structure Slot where
  tag : String
  data : Value
  running : Bool
  pending : Bool
deriving Repr, Inhabited

/-- The slot of a machine that was not started. -/
def Slot.fresh (table : Table) : Slot := ⟨table.machine.initial.tag, .null, false, false⟩

/-- What a machine can ask. -/
inductive Request where
  /-- To call upon the data of a state at a stage. If the class bound to the state has no method for
      the stage there is nothing to be done. -/
  | hook (stage : Stage) (tag : String) (present : Bool) (data : Value)
  /-- To ask the guard of a transition. -/
  | guard (transition : Transition) (data : Value)
  /-- To run the action of a transition, if it has one. -/
  | action (transition : Transition) (data : Value)
  /-- To make the data of a transition's destination. -/
  | convert (transition : Transition) (data : Value)
  /-- To make data of the error state from data of the state with this tag. -/
  | convertFailed (tag : String) (conversion : Callback) (data : Value)
  /-- The error is passed to `consume_error` of the data of the error state. -/
  | consume (data error : Value)
  /-- To deliver a message. -/
  | deliver (channel : Channel) (data message : Value)
  /-- To make a message. -/
  | produce (channel : Channel) (data : Value)
  /-- To report a line of the trace, of a grain that is switched on or not. -/
  | report (enabled : Bool) (line : String)
deriving Repr

/-- An answer: a result, or the exception that was raised. -/
abbrev Answer := Except Value Value

/-! ## 2. Dialogues -/

/-- The course of an operation: it ends with a result or a failure, or makes a request and continues
    with the answer. -/
inductive Dialogue (α : Type) where
  | done (outcome : Except Failure α) (slot : Slot)
  | ask (request : Request) (slot : Slot) (resume : Answer → Slot → Dialogue α)

/-- An operation: what a machine does, given its slot. -/
def Operation (α : Type) := Slot → Dialogue α

namespace Dialogue

/-- A dialogue and, if it ends with a result, what follows upon that. -/
def andThen {α β : Type} : Dialogue α → (α → Operation β) → Dialogue β
  | .done (.ok a) slot, next => next a slot
  | .done (.error failure) slot, _ => .done (.error failure) slot
  | .ask request slot resume, next =>
    .ask request slot fun answer slot => andThen (resume answer slot) next

/-- The end of a dialogue with answers from a stateful environment, where `store` and `load` keep
    the slot of the machine in its state. -/
def play {σ α : Type} (store : Slot → σ → σ) (load : σ → Slot)
    (handle : Request → σ → Answer × σ) : Dialogue α → σ → Except Failure α × σ
  | .done outcome slot, world => (outcome, store slot world)
  | .ask request slot resume, world =>
    let (answer, world) := handle request (store slot world)
    play store load handle (resume answer (load world)) world

/-- A course of a dialogue during which only the dialogue changes the slot: the requests with their
    answers, the outcome and the final slot. -/
inductive Plays {α : Type} :
    Dialogue α → List (Request × Answer) → Except Failure α → Slot → Prop where
  | done (outcome : Except Failure α) (slot : Slot) : Plays (.done outcome slot) [] outcome slot
  | ask {request : Request} {slot : Slot} {resume : Answer → Slot → Dialogue α}
      {answer : Answer} {course : List (Request × Answer)} {outcome : Except Failure α}
      {final : Slot} (rest : Plays (resume answer slot) course outcome final) :
      Plays (.ask request slot resume) ((request, answer) :: course) outcome final

end Dialogue

/-! ## 3. Operations -/

namespace Operation

instance : Monad Operation where
  pure a slot := .done (.ok a) slot
  bind operation next slot := (operation slot).andThen next

/-- Ends the operation with a failure. -/
def fail {α : Type} (failure : Failure) : Operation α := fun slot => .done (.error failure) slot

/-- Ends the operation with an error of the library. -/
def refuse {α : Type} (error : Error) : Operation α := fail (.error error)

/-- A result, or the error that stands in its place. -/
def ofExcept {α : Type} : Except Error α → Operation α
  | .ok a => pure a
  | .error error => refuse error

/-- The slot as it is. -/
def slot : Operation Slot := fun slot => .done (.ok slot) slot

/-- Changes the slot. -/
def change (f : Slot → Slot) : Operation Unit := fun slot => .done (.ok ()) (f slot)

/-- Makes a request and continues with its answer. -/
def attempt (request : Request) : Operation Answer := fun slot =>
  .ask request slot fun answer slot => .done (.ok answer) slot

/-- Asks for a result; an exception ends the operation. -/
def demand (request : Request) : Operation Value := do
  match ← attempt request with
  | .ok value => return value
  | .error exception => fail (.raised exception)

end Operation

end MachineSpec
