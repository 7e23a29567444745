/-
MachineSpec.Table.Generate — dispatch tables made of machines and bindings.

Everything a machine will ever look up is looked up here, so that a machine
whose table exists lacks nothing: the class of every state, guard and
conversion of every transition, and for a fallible machine the class of
failures, an error state that can take errors, and a conversion into it from
every other state. The classes of all states come first, so a state without a
class is reported before any transition without a guard.
-/
import MachineSpec.Log
import MachineSpec.Table

namespace MachineSpec

/-! ## 1. Transitions -/

/-- The callback that makes data of one state into data of another. -/
def Bindings.conversion (bindings : Bindings) (machine : String)
    (source destination : Reference) : Except Error Callback :=
  match bindings.conversion? (source.tag, destination.tag) with
  | some callback => .ok callback
  | none => .error (.noConversion machine source.text destination.text)

/-- A transition with its callbacks. -/
def Bindings.transition (bindings : Bindings) (machine : String)
    (source destination : Reference) : Except Error Transition :=
  let key := (source.tag, destination.tag)
  match bindings.guard? key with
  | none => .error (.noGuard machine source.text destination.text)
  | some guard => do
    let conversion ← bindings.conversion machine source destination
    return ⟨source, destination, guard, conversion, bindings.action? key⟩

/-! ## 2. Blocks -/

/-- The class of every state, in declared order. -/
def Bindings.classes (bindings : Bindings) :
    List State → Except Error (List (State × Class))
  | [] => .ok []
  | state :: rest => do
    let kind ← bindings.resolveClass .state state.reference.type
    let others ← bindings.classes rest
    return (state, kind) :: others

/-- The block of a state whose class is known. -/
def Block.ofState (bindings : Bindings) (machine : Machine) (state : State) (kind : Class) :
    Except Error Block := do
  let transitions ← state.transits.mapM (bindings.transition machine.name state.reference)
  return ⟨state, kind, Hooks.ofClass machine.fallible kind, transitions⟩

/-- The blocks of the states up to the first that cannot be made, and why it cannot. -/
def blocksUpToFault (bindings : Bindings) (machine : Machine) :
    List (State × Class) → List Block × Option Error
  | [] => ([], none)
  | (state, kind) :: rest =>
    match Block.ofState bindings machine state kind with
    | .error error => ([], some error)
    | .ok block =>
      let (others, error) := blocksUpToFault bindings machine rest
      (block :: others, error)

/-- The record of a block that was made. -/
def Block.record (machine : String) (block : Block) : LogRecord :=
  ⟨.debug, .generation,
   machine ++ ": compiled " ++ block.state.text ++ " with transitions " ++
     Text.quotedList (block.state.transits.map Reference.text)⟩

/-! ## 3. Failures -/

/-- Whether objects of a class can take an error. The class that only says they should cannot. -/
def canConsume (kind : Class) : Bool :=
  match kind.member? "consume_error" with
  | some .unimplemented => false
  | some member => member.callable
  | none => false

/-- For every state but the error state, what makes its data into data of the error state. -/
def errorConversions (bindings : Bindings) (machine : Machine) (errorState : State) :
    List State → Except Error (List (String × Callback))
  | [] => .ok []
  | state :: rest =>
    if state.tag = errorState.tag then errorConversions bindings machine errorState rest
    else do
      let callback ← bindings.conversion machine.name state.reference errorState.reference
      let others ← errorConversions bindings machine errorState rest
      return (state.tag, callback) :: others

/-- The part for failures of the table of a fallible machine. -/
def FailureRoute.ofPolicy (bindings : Bindings) (machine : Machine) (blocks : List Block)
    (policy : FailurePolicy) : Except Error FailureRoute := do
  let errorType ← bindings.resolveClass .errorType policy.errorType.type
  match blocks.find? (·.tag == policy.errorState.tag) with
  | none => .error (.noBlock policy.errorState.tag)
  | some block =>
    if canConsume block.kind then
      let conversions ← errorConversions bindings machine policy.errorState machine.states
      return ⟨errorType, block, conversions⟩
    else .error (.noErrorConsumer machine.name policy.errorState.text)

/-! ## 4. Tables -/

/-- The table of a machine whose blocks are made. -/
def Table.ofBlocks (bindings : Bindings) (flags : TraceFlags) (checkTypes : Bool)
    (machine : Machine) (blocks : List Block) : Except Error Table := do
  let failure ← match machine.failure with
    | none => pure none
    | some policy => some <$> FailureRoute.ofPolicy bindings machine blocks policy
  return ⟨machine, flags, blocks, failure, checkTypes⟩

/-- The table of a machine under bindings, with the records made on the way. -/
def Table.generate (bindings : Bindings) (flags : TraceFlags) (checkTypes : Bool)
    (machine : Machine) : List LogRecord × Except Error Table :=
  match bindings.classes machine.states with
  | .error error => ([], .error error)
  | .ok kinds =>
    let (blocks, error) := blocksUpToFault bindings machine kinds
    (blocks.map (Block.record machine.name),
     match error with
     | some error => .error error
     | none => Table.ofBlocks bindings flags checkTypes machine blocks)

end MachineSpec
