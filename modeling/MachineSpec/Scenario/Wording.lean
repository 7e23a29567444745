/-
MachineSpec.Scenario.Wording — values in words and on display.

A value has two wordings. As a quotation, the one messages use, a text stands in
quotes and an exception shows what it was made of. As speech a text is itself
and an exception is its message.

Objects can refer to each other in a circle. So the wording of an object is
bounded in depth, far beyond what a scenario without circles reaches.
-/
import MachineSpec.Scenario.World

namespace MachineSpec.Scenario

/-- How deep objects are followed into each other. -/
def depthLimit : Nat := 100

namespace World

/-! ## 1. Wordings -/

/-- An object as a quotation. -/
def quotedObject (world : World) : Nat → Nat → Class → String
  | 0, _, _ => "..."
  | depth + 1, reference, kind =>
    match world.entities[reference]? with
    | some ⟨_, .exception arguments _⟩ =>
      let parts := arguments.map (Value.shown (world.quotedObject depth))
      kind.name ++ "(" ++ String.intercalate ", " parts ++ ")"
    | some ⟨_, .machine slot⟩ =>
      match world.registry.table? kind with
      | some table => table.describe kind.name slot
      | none => "<" ++ kind.name ++ " object>"
    | _ => "<" ++ kind.name ++ " object>"

/-- A value as a quotation. -/
def quoted (world : World) : Value → String := Value.shown (world.quotedObject depthLimit)

/-- A guard's verdict as speech. -/
def spokenGuard : Guard → String
  | .remain => "TransitGuard.REMAIN"
  | .transit => "TransitGuard.TRANSIT"

/-- A value as speech, with objects followed to a depth. A missing key is quoted even so. -/
def spokenTo (world : World) : Nat → Value → String
  | 0, _ => "..."
  | depth + 1, value =>
    match value with
    | .text content => content
    | .guard verdict => spokenGuard verdict
    | .object reference kind =>
      match world.entities[reference]? with
      | some ⟨_, .exception [] _⟩ => ""
      | some ⟨_, .exception [argument] _⟩ =>
        if kind.inherits .keyError then world.quoted argument else world.spokenTo depth argument
      | some ⟨_, .exception arguments _⟩ =>
        "(" ++ String.intercalate ", " (arguments.map world.quoted) ++ ")"
      | _ => world.quoted value
    | _ => world.quoted value

/-- A value as speech; of an exception this is its message. -/
def spoken (world : World) (value : Value) : String := world.spokenTo depthLimit value

/-! ## 2. Display -/

/-- A class on display. What extends a machine class has the remark of no machine. -/
def presentClass (world : World) (kind : Class) : Shown :=
  match world.registry.machine? kind with
  | none => .cls kind.name
  | some made =>
    if made.kind.same kind then .machineClass kind.name made.home (some made.remark)
    else .machineClass kind.name "user" none

mutual

/-- A value on display, given how objects are displayed. -/
def presentWith (world : World) (object : Nat → Class → Shown) : Value → Shown
  | .null => .null
  | .bool b => .bool b
  | .int n => .int n
  | .float d => .float d
  | .text s => .text s
  | .list items => .list (presentAll world object items)
  | .guard verdict => .guard verdict
  | .cls kind => world.presentClass kind
  | .object reference kind => object reference kind
  | .bundle entries => .object Class.simpleNamespace.name (presentEntries world object entries)
  | .active tag kind data => .active tag kind.name (presentWith world object data)
  | .method _ _ _ none => .object Class.function.name []
  | .method _ _ _ (some _) => .object Class.method.name []

/-- The members of a list on display. -/
def presentAll (world : World) (object : Nat → Class → Shown) : List Value → List Shown
  | [] => []
  | item :: rest => presentWith world object item :: presentAll world object rest

/-- Named values on display. -/
def presentEntries (world : World) (object : Nat → Class → Shown) :
    List (String × Value) → List (String × Shown)
  | [] => []
  | (name, item) :: rest => (name, presentWith world object item) :: presentEntries world object rest

end

/-- What can be seen of a machine, given how its data is displayed. -/
def viewWith {α : Type} (table : Table) (kind : Class) (slot : Slot) (present : Value → α) :
    View α where
  tag := slot.tag
  kind := ((table.block? slot.tag).map (·.kind.name)).getD ""
  data := present slot.data
  running := slot.running
  pending := slot.pending
  description := table.describe kind.name slot
  name := table.name

/-- An object on display, with objects followed to a depth. -/
def presentObject (world : World) : Nat → Nat → Class → Shown
  | 0, _, _ => .null
  | depth + 1, reference, kind =>
    let present := world.presentWith (world.presentObject depth)
    match world.entities[reference]? with
    | some ⟨_, .exception _ _⟩ => .exception kind.name (world.spoken (.object reference kind))
    | some ⟨fields, .machine slot⟩ =>
      match world.registry.table? kind with
      | some table => .machine (viewWith table kind slot present)
      | none => .object kind.name (fields.map fun entry => (entry.1, present entry.2))
    | some ⟨fields, .plain⟩ => .object kind.name (fields.map fun entry => (entry.1, present entry.2))
    | none => .object kind.name []

/-- A value on display. -/
def present (world : World) : Value → Shown := world.presentWith (world.presentObject depthLimit)

/-- What can be seen of the machine in a variable, if there is one. -/
def view? (world : World) (name : String) : Option (View Shown) :=
  match world.store.lookup name with
  | some (.object reference kind) =>
    match world.slot? reference, world.registry.table? kind with
    | some slot, some table => some (viewWith table kind slot world.present)
    | _, _ => none
  | _ => none

end World

end MachineSpec.Scenario
