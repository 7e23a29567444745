/-
MachineSpec.Table — dispatch tables: checked machines with their bindings.

A table has one block for each state, in declared order. A block has the class of the
state's data, which of the three stages have a method, and for each transition its
guard, its conversion and its action, in the order in which guards are asked. The table
of a fallible machine also has the error type and the conversion of data of every state
into data of the error state.

A running machine looks up nothing but its table.
-/
import MachineSpec.Bindings
import MachineSpec.Trace

namespace MachineSpec

/-! ## 1. Tables -/

/-- A transition with its callbacks. -/
structure Transition where
  source : Reference
  destination : Reference
  guard : Callback
  conversion : Callback
  action : Option Callback
deriving Repr

/-- Which stages of a state have a method. -/
structure Hooks where
  entry : Bool
  execute : Bool
  exit : Bool
deriving DecidableEq, Repr

/-- Whether a stage has a method. -/
def Hooks.at (hooks : Hooks) : Stage → Bool
  | .entry => hooks.entry
  | .execute => hooks.execute
  | .exit => hooks.exit

/-- The stages for which a class has a method. -/
def Hooks.ofClass (fallible : Bool) (kind : Class) : Hooks :=
  ⟨kind.answers (Stage.method fallible .entry), kind.answers (Stage.method fallible .execute),
   kind.answers (Stage.method fallible .exit)⟩

/-- The part of a table for one state. -/
structure Block where
  state : State
  kind : Class
  hooks : Hooks
  transitions : List Transition
deriving Repr

/-- The tag of the state of a block. -/
def Block.tag (block : Block) : String := block.state.tag

/-- The part of a table for failures. -/
structure FailureRoute where
  /-- The class of the exceptions that are failures. -/
  errorType : Class
  /-- The block of the error state. -/
  errorBlock : Block
  /-- For the tag of every other state, what makes its data into data of the error state. -/
  conversions : List (String × Callback)
deriving Repr

/-- A dispatch table. -/
structure Table where
  machine : Machine
  flags : TraceFlags
  blocks : List Block
  failure : Option FailureRoute
  checkTypes : Bool
deriving Repr

namespace Table

/-- The name of the machine. -/
def name (table : Table) : String := table.machine.name

/-- The block of the state with the given tag. -/
def block? (table : Table) (tag : String) : Option Block := table.blocks.find? (·.tag == tag)

/-! ## 2. Designated states -/

/-- The tags that a designator points out, if any: a tag itself, the type name of a state in
    whatever spelling, or the class of one state or several. -/
def designated (table : Table) : Designator → Except Error (List String)
  | .cls kind => .ok ((table.blocks.filter (·.kind.same kind)).map Block.tag)
  | .text name =>
    if (table.block? name).isSome then .ok [name]
    else
      match Reference.ofText name with
      | .error error => .error (.rejected (.malformed error))
      | .ok reference =>
        .ok (if (table.block? reference.tag).isSome then [reference.tag] else [])

/-- The tags that a designator points out; there has to be one. -/
def tagsFor (table : Table) (target : Designator) : Except Error (List String) :=
  match table.designated target with
  | .error error => .error error
  | .ok [] => .error (.notAState target table.name)
  | .ok tags => .ok tags

end Table

end MachineSpec
