/-
MachineSpec.Scenario.World — everything that the steps of a scenario share.

There is one world for a scenario. It has classes and a namespace, bindings and
a compiler, objects and variables, sinks for the trace, and what was noted
lately. Objects are kept in the order in which they were made, and a value
refers to an object by its place.

A run changes the world and ends with a result or with an exception, which is an
object like others. What was changed before an exception stays changed.
-/
import MachineSpec.Engine.Lifecycle
import MachineSpec.Scenario.Program

namespace MachineSpec.Scenario

/-! ## 1. Entries under names -/

/-- The entries with a value put under a name, in its old place if it has one. -/
def put {α : Type} (name : String) (value : α) : List (String × α) → List (String × α)
  | [] => [(name, value)]
  | (other, old) :: rest =>
    if other = name then (name, value) :: rest else (other, old) :: put name value rest

/-! ## 2. Objects -/

/-- What an exception tells besides its text. -/
inductive Remark where
  | none
  /-- Of a text that is malformed: what is wrong, and where. -/
  | malformed (wrong : String) (place : Option Span)
  /-- Of an error state that failed: the error, and whether it is what led to the exception. -/
  | carrying (error : Value) (led : Bool)
  /-- Of a message that came to a state that is not active: that state, and the message. -/
  | inactive (state payload : Value)
  /-- Of a message without a channel: the kind of the error that led to the exception. -/
  | undeclared (cause : String)
deriving Repr

/-- What an object is besides a collection of fields. -/
inductive Nature where
  | plain
  /-- An exception, with what it was made of. -/
  | exception (arguments : List Value) (remark : Remark)
  /-- A machine, with what it keeps. -/
  | machine (slot : Slot)
deriving Repr

/-- An object. -/
structure Entity where
  fields : List (String × Value)
  nature : Nature
deriving Repr

/-- A receiver of trace lines. It fails when it gets a line with a certain text in it. -/
structure Sink where
  name : String
  failsOn : Option String
deriving DecidableEq, Repr

/-! ## 3. Values on display -/

/-- What can be seen of a machine. -/
structure View (α : Type) where
  tag : String
  /-- The name of the class bound to the state. -/
  kind : String
  data : α
  running : Bool
  pending : Bool
  description : String
  name : String
deriving Repr

/-- A value as it is shown at one time, whatever becomes of its objects. -/
inductive Shown where
  | null
  | bool (value : Bool)
  | int (value : Int)
  | float (value : Decimal)
  | text (value : String)
  | list (items : List Shown)
  | guard (verdict : Guard)
  | cls (name : String)
  | machineClass (name home : String) (remark : Option String)
  | exception (kind message : String)
  | machine (view : View Shown)
  | active (tag kind : String) (data : Shown)
  | object (kind : String) (fields : List (String × Shown))
deriving Repr

/-! ## 4. The world -/

/-- The world of a scenario. -/
structure World where
  /-- The classes that can be called by name, the newest first. -/
  classes : List (String × Class)
  /-- The fields that a class gives its objects, by the number of the class. -/
  defaults : List (Nat × List (String × Value))
  /-- The namespace, the newest entry first. -/
  space : List (String × Value)
  bindings : Bindings
  /-- Whether the bindings fall back on the namespace. -/
  linked : Bool
  compiler : Compiler
  /-- Whether the compiler works with the bindings. -/
  bound : Bool
  registry : Registry
  /-- The options of compilers that get none of their own. -/
  options : Options
  routines : Array Program
  entities : Array Entity
  /-- What the variables hold. -/
  store : List (String × Value)
  /-- All sinks that there are. -/
  sinks : List Sink
  /-- The sink in use. -/
  sink : Option Sink
  /-- The lines that sinks got, the newest first, each with the name of the sink. -/
  trace : List (String × String)
  /-- What programs noted, the newest first. -/
  journal : List Shown

namespace World

/-- A world in which nothing was done. -/
def initial (options : Options) (sink : Option Sink) : World where
  classes := Class.known.map fun kind => (kind.name, kind)
  defaults := []
  space := []
  bindings := .empty []
  linked := true
  compiler := .fresh options
  bound := true
  registry := .empty
  options := options
  routines := #[]
  entities := #[]
  store := []
  sinks := sink.toList
  sink := sink
  trace := []
  journal := []

/-- The object that a value refers to. -/
def entity? (world : World) : Value → Option Entity
  | .object reference _ => world.entities[reference]?
  | _ => none

/-- What the machine at a place keeps. -/
def slot? (world : World) (reference : Nat) : Option Slot :=
  match world.entities[reference]? with
  | some ⟨_, .machine slot⟩ => some slot
  | _ => none

/-- What the machine at a place keeps; nothing is kept where there is no machine. -/
def slot (world : World) (reference : Nat) : Slot := (world.slot? reference).getD default

/-- The world in which the machine at a place keeps something else. -/
def putSlot (reference : Nat) (slot : Slot) (world : World) : World :=
  { world with
    entities := world.entities.modify reference fun entity => { entity with nature := .machine slot } }

/-- A field of an object; `null` if it has none of that name or is no object. -/
def field (world : World) (value : Value) (name : String) : Value :=
  match world.entity? value with
  | some entity => (entity.fields.lookup name).getD .null
  | none => .null

/-- What a value itself has under a name: a field of an object, or a part of another value. -/
def own? (world : World) (value : Value) (name : String) : Option Value :=
  ((world.entity? value).bind (·.fields.lookup name)).or (value.part? name)

/-- What is found in a value under a name: its class, what it has itself, or else what its class
    has. -/
def attribute? (world : World) (value : Value) (name : String) : Option Value :=
  if name = "__class__" then some (.cls value.kind)
  else (world.own? value name).or (value.kind.attribute? name (some value))

/-- The world after a field of an object was set. What is no object has no fields. -/
def setField (world : World) (value : Value) (name : String) (content : Value) : World :=
  match value with
  | .object reference _ =>
    { world with
      entities := world.entities.modify reference fun entity =>
        { entity with fields := put name content entity.fields } }
  | _ => world

/-- The fields of a new object of a class. A class goes before those it extends. -/
def freshFields (world : World) (kind : Class) : List (String × Value) :=
  let ofLayer (fields : List (String × Value)) (layer : ClassLayer) :=
    ((world.defaults.lookup layer.id).getD []).foldl (fun fields entry => put entry.1 entry.2 fields)
      fields
  kind.lineage.reverse.foldl ofLayer []

/-- The bindings as they stand, with the namespace as it is now. -/
def currentBindings (world : World) : Bindings :=
  { world.bindings with
    namespaceEntries := if world.linked then world.space else []
    attributeOf := world.attribute? }

/-- The bindings that the compiler works with. -/
def compilerBindings (world : World) : Bindings :=
  if world.bound then world.currentBindings else .empty []

/-- The world after something was noted. -/
def note (entry : Shown) (world : World) : World :=
  { world with journal := entry :: world.journal }

/-- The world with nothing noted, traced or recorded. -/
def cleared (world : World) : World :=
  { world with
    trace := []
    journal := []
    registry := { world.registry with log := { world.registry.log with records := [] } } }

end World

/-! ## 5. Runs -/

/-- A run: it changes the world and ends with a result or an exception. -/
abbrev Run := ExceptT Value (StateM World)

namespace Run

/-- Makes an object of a class. -/
def allocate (kind : Class) (nature : Nature) : Run Value := do
  let world ← get
  set { world with entities := world.entities.push ⟨world.freshFields kind, nature⟩ }
  return .object world.entities.size kind

/-- Raises a new exception with a text. -/
def raiseText {α : Type} (kind : Class) (message : String) : Run α := do
  throw (← allocate kind (.exception [.text message] .none))

/-- The class of the given name. -/
def namedClass (name : String) : Run Class := do
  match (← get).classes.lookup name with
  | some kind => return kind
  | none => raiseText .keyError name

/-- What a variable holds. -/
def read (name : String) : Run Value := do
  match (← get).store.lookup name with
  | some value => return value
  | none => raiseText .keyError name

/-- Puts a value into a variable. -/
def assign (name : String) (value : Value) : Run Unit :=
  modify fun world => { world with store := put name value world.store }

end Run

end MachineSpec.Scenario
