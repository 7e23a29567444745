/-
MachineSpec.Scenario.Conduct — orders to machines.

An order goes to whatever a value refers to; what is no machine does not know
it. Orders that run a machine play its dialogue, the others look at its slot.
-/
import MachineSpec.Scenario.Setup

namespace MachineSpec.Scenario.Run

/-! ## 1. Machines -/

/-- The place and the table of the machine that a value refers to. `order` is what is wanted of it. -/
def machineOf (value : Value) (order : Order) : Run (Nat × Table) := do
  let world ← get
  match value with
  | .object reference kind =>
    match world.slot? reference, world.registry.table? kind with
    | some _, some table => return (reference, table)
    | _, _ => raiseText .attributeError (lacks value order.method)
  | _ => raiseText .attributeError (lacks value order.method)

/-- Gives an order to a machine. -/
def order (call : Caller) (machine : Value) (order : Order) (operand : Value) : Run Value := do
  let (reference, table) ← machineOf machine order
  let channels := (← get).registry.channels? machine.kind
  match order with
  | .start => do
    play call reference table (table.start operand)
    return .null
  | .step => do
    play call reference table table.step
    return .null
  | .stop => do return (← play call reference table table.stop).value
  | .reset => do
    play call reference table table.reset
    return .null
  | .peek => do return (← accept (table.peek ((← get).slot reference))).value
  | .isState target => do
    let target ← designator target
    return .bool (← accept (table.isState ((← get).slot reference) target))
  | .activeIs target => do
    let target ← designator target
    return .bool ((← accept (table.peek ((← get).slot reference))).isState target)
  | .push target => do
    let target ← designator target
    play call reference table (table.push channels target operand)
    return .null
  | .poll target payload => do
    let target ← designator target
    let payload ← designator payload
    play call reference table (table.poll channels target payload)
  | .poke field => do
    modify fun world => world.setField (world.slot reference).data field operand
    return .null

/-- Makes a machine, or whatever else a class makes, and keeps it in a variable. -/
def create (kind name : String) (arguments : List Value) : Run Unit := do
  let made ← instantiate (← namedClass kind) arguments
  assign name made

/-! ## 2. Callbacks outside machines -/

/-- Looks up the callbacks of a transition and calls each on the data. -/
def probe (call : Caller) (machine source destination : String) (data : Value) : Run Value := do
  let source ← accept ((Reference.ofText source).mapError fun error => .rejected (.malformed error))
  let destination ←
    accept ((Reference.ofText destination).mapError fun error => .rejected (.malformed error))
  let transition ←
    accept ((← get).currentBindings.transition machine source destination)
  let verdict ← invoke call transition.guard data none
  let converted ← invoke call transition.conversion data none
  let acted ← match transition.action with
    | some action => invoke call action data none
    | none => pure .null
  return .list [.text source.tag, .text destination.tag, verdict, converted, acted]

/-- The name of the conversion that makes objects of a class, and what it makes. -/
def derive (kind : String) : Run Value := do
  let kind ← namedClass kind
  let made ← instantiate kind []
  return .list [.text (Callback.constructorName kind), made]

end MachineSpec.Scenario.Run
