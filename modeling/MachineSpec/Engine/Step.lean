/-
MachineSpec.Engine.Step — the operations on the data of a state.

Data is entered, executed any number of times, and left. Leaving calls the exit method
and then the action of every transition of the state, also of those not taken. A step
executes the data and then asks the guards in order; the transition of the first that
answers `transit` is taken, and the guards behind it are not asked.

In a fallible machine an exception of the error type that a method or an action raises
does not end the operation. The data is converted into data of the error state, which
receives the exception and is entered; with that the operation is over. Only a failure
of the error state itself escapes, wrapped. Guards and conversions are not protected in
this way.
-/
import MachineSpec.Engine.Dialogue

namespace MachineSpec

/-- What an operation leaves in the slot: a tag and the data of the state that has it. -/
structure Entry where
  tag : String
  data : Value
deriving Repr

namespace Table

open Operation

/-! ## 1. Reports -/

/-- Reports a line on the life of the machine. -/
def reportLife (table : Table) (action detail : String) : Operation Unit := do
  let _ ← demand (.report table.flags.life (traceLine table.name action detail))

/-- Reports a line on a step. -/
def reportStep (table : Table) (action detail : String) : Operation Unit := do
  let _ ← demand (.report table.flags.steps (traceLine table.name action detail))

/-- Reports a line on a message. -/
def reportMessage (table : Table) (action detail : String) : Operation Unit := do
  let _ ← demand (.report table.flags.messages (traceLine table.name action detail))

/-- The block of a tag. Tables have a block for every tag that a machine is ever in. -/
def block (table : Table) (tag : String) : Operation Block :=
  match table.block? tag with
  | some block => return block
  | none => refuse (.noBlock tag)

/-! ## 2. Calls that may fail -/

/-- Calls upon data of the error state. An exception of the error type is wrapped. -/
def callErrorState (route : FailureRoute) (request : Request) : Operation Unit := do
  match ← attempt request with
  | .ok _ => return ()
  | .error exception =>
    if exception.isA route.errorType then refuse (.escalated exception)
    else fail (.raised exception)

/-- Moves data of a state that failed into the error state. -/
def redirect (table : Table) (route : FailureRoute) (failed : Block) (data exception : Value) :
    Operation Entry := do
  table.reportLife "Enter error state" ""
  match route.conversions.lookup failed.tag with
  | none => refuse (.noBlock failed.tag)
  | some conversion => do
    let errorData ← demand (.convertFailed failed.tag conversion data)
    let target := route.errorBlock
    if table.checkTypes && !errorData.isA target.kind then
      refuse (.wrongErrorData failed.state.text target.state.text errorData.kind.name)
    else do
      let _ ← demand (.consume errorData exception)
      callErrorState route (.hook .entry target.tag target.hooks.entry errorData)
      return ⟨target.tag, errorData⟩

/-- Calls upon data of a state. The result, if there is one, is what the whole operation has to
    end with instead of going on. -/
def call (table : Table) (owner : Block) (data : Value) (request : Request) :
    Operation (Option Entry) := do
  match table.failure with
  | none => do
    let _ ← demand request
    return none
  | some route =>
    if owner.tag = route.errorBlock.tag then do
      callErrorState route request
      return none
    else
      match ← attempt request with
      | .ok _ => return none
      | .error exception =>
        if exception.isA route.errorType then
          some <$> table.redirect route owner data exception
        else fail (.raised exception)

/-- Calls upon data of a state at a stage. -/
def callHook (table : Table) (owner : Block) (stage : Stage) (data : Value) :
    Operation (Option Entry) :=
  table.call owner data (.hook stage owner.tag (owner.hooks.at stage) data)

/-! ## 3. Entering and leaving -/

/-- Enters data into a state. `reported` says whether the trace tells of it. -/
def enter (table : Table) (block : Block) (data : Value) (reported : Bool) : Operation Entry := do
  match ← table.callHook block .entry data with
  | some entry => return entry
  | none => do
    if reported then table.reportLife "Enter" block.state.text else pure ()
    return ⟨block.tag, data⟩

/-- Runs the actions of transitions. -/
def runActions (table : Table) (block : Block) (data : Value) :
    List Transition → Operation (Option Entry)
  | [] => return none
  | transition :: rest => do
    match ← table.call block data (.action transition data) with
    | some entry => return some entry
    | none => runActions table block data rest

/-- Leaves data of a state: its exit method and the actions of all transitions of the state. -/
def leave (table : Table) (block : Block) (data : Value) : Operation (Option Entry) := do
  match ← table.callHook block .exit data with
  | some entry => return some entry
  | none => table.runActions block data block.transitions

/-- Leaves data of a state for good. -/
def retire (table : Table) (block : Block) (data : Value) : Operation Entry := do
  match ← table.leave block data with
  | some entry => return entry
  | none => do
    table.reportLife "Exit" block.state.text
    return ⟨block.tag, data⟩

/-! ## 4. Steps -/

/-- Takes a transition. -/
def take (table : Table) (block : Block) (transition : Transition) (data : Value) :
    Operation Entry := do
  match ← table.leave block data with
  | some entry => return entry
  | none => do
    table.reportLife "Exit" block.state.text
    table.reportLife "Transit"
      ("From " ++ transition.source.text ++ " to " ++ transition.destination.text)
    let target ← table.block transition.destination.tag
    let converted ← demand (.convert transition data)
    if table.checkTypes && !converted.isA target.kind then
      refuse (.wrongConversion table.name target.state.text converted.kind.name target.kind.name)
    else table.enter target converted true

/-- The first transition whose guard says that it is to be taken. -/
def choose (data : Value) : List Transition → Operation (Option Transition)
  | [] => return none
  | transition :: rest => do
    let answer ← demand (.guard transition data)
    match ← ofExcept (Guard.coerce answer) with
    | .transit => return some transition
    | .remain => choose data rest

/-- One step of the data of a state. -/
def run (table : Table) (block : Block) (data : Value) : Operation Entry := do
  table.reportStep "Execute" block.state.text
  match ← table.callHook block .execute data with
  | some entry => return entry
  | none =>
    match ← choose data block.transitions with
    | some transition => table.take block transition data
    | none => return ⟨block.tag, data⟩

end Table

end MachineSpec
