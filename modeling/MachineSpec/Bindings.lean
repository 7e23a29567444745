/-
MachineSpec.Bindings — what the names in a specification stand for.

Bindings map type names to values and transitions to their guards, conversions
and actions. Types are kept under the canonical text of their name; transitions
under the tags they join. A type that is not bound itself is looked up under its
bare name, and then in the namespace, where a dotted name is a path: the first
part is an entry, and each further one an attribute of what was found before. How
attributes are looked up is given with the namespace.

All maps are association lists in which the newest entry comes first: what was
bound last is found first.
-/
import MachineSpec.Error

namespace MachineSpec

/-! ## 1. Callbacks -/

/-- Something to be called with data. -/
inductive Callback where
  /-- A guard that always gives the same verdict. -/
  | fixed (verdict : Guard)
  /-- A conversion that drops the data and makes a new object of a class. -/
  | construct (kind : Class)
  /-- A routine, known by its number to whoever runs the machine. -/
  | routine (number : Nat)
  /-- A value in the place of a callback. -/
  | value (value : Value)
deriving Repr, Inhabited

/-- The name of a conversion that makes a new object. -/
def Callback.constructorName (kind : Class) : String := "into_" ++ kind.name

/-- Whether there is a callback at all: `null` in its place counts as none. -/
def Callback.present : Callback → Bool
  | .value .null => false
  | _ => true

/-! ## 2. Bindings -/

/-- The tags that a transition joins, or the tag of a state and the text of a payload. -/
abbrev EdgeKey := String × String

/-- What names and transitions are bound to. -/
structure Bindings where
  namespaceEntries : List (String × Value)
  /-- What a value has under a name, if anything. -/
  attributeOf : Value → String → Option Value
  types : List (String × Value)
  guards : List (EdgeKey × Callback)
  conversions : List (EdgeKey × Callback)
  actions : List (EdgeKey × Callback)
  /-- Conversions into a state from whatever other state. -/
  arrivals : List (String × Callback)
  receivers : List (EdgeKey × Callback)
  producers : List (EdgeKey × Callback)
deriving Inhabited

namespace Bindings

/-- Bindings of nothing, with a namespace to fall back on. -/
def empty (entries : List (String × Value))
    (attributeOf : Value → String → Option Value := Value.attribute?) : Bindings :=
  ⟨entries, attributeOf, [], [], [], [], [], [], []⟩

/-! ## 3. Registration -/

/-- Binds a type name. It may be bound again to the very same value and to no other; a name that
    is bound to `null` counts as free. -/
def addType (bindings : Bindings) (name : TypeName) (value : Value) : Except Error Bindings :=
  match bindings.types.lookup name.text with
  | some existing =>
    if existing.isNull || existing.identical value then
      .ok { bindings with types := (name.text, value) :: bindings.types }
    else .error (.alreadyBound name.text existing)
  | none => .ok { bindings with types := (name.text, value) :: bindings.types }

/-- The transition between two states. -/
def edgeKey (source destination : TypeName) : EdgeKey := (source.tag, destination.tag)

/-- The passage of a payload into or out of a state. -/
def messageKey (state payload : TypeName) : EdgeKey := (state.tag, payload.text)

/-- Binds the guard of a transition. -/
def addGuard (bindings : Bindings) (key : EdgeKey) (callback : Callback) : Bindings :=
  { bindings with guards := (key, callback) :: bindings.guards }

/-- Binds the conversion of a transition. -/
def addConversion (bindings : Bindings) (key : EdgeKey) (callback : Callback) : Bindings :=
  { bindings with conversions := (key, callback) :: bindings.conversions }

/-- Binds the action of a transition. -/
def addAction (bindings : Bindings) (key : EdgeKey) (callback : Callback) : Bindings :=
  { bindings with actions := (key, callback) :: bindings.actions }

/-- Binds the conversion from any state into the given one. -/
def addArrival (bindings : Bindings) (destination : TypeName) (callback : Callback) : Bindings :=
  { bindings with arrivals := (destination.tag, callback) :: bindings.arrivals }

/-- Binds what delivers a payload into a state, or what makes one there. -/
def addMessageCallback (bindings : Bindings) (direction : Direction) (key : EdgeKey)
    (callback : Callback) : Bindings :=
  match direction with
  | .push => { bindings with receivers := (key, callback) :: bindings.receivers }
  | .poll => { bindings with producers := (key, callback) :: bindings.producers }

/-- A callback for `addTransition`: a verdict or a truth value as guard stands for the guard that
    always gives it. -/
def guardOf : Callback → Callback
  | .value value =>
    match value.verdict? with
    | some verdict => .fixed verdict
    | none => .value value
  | callback => callback

/-- Binds what is given of a transition and leaves the rest as it is. -/
def addTransition (bindings : Bindings) (key : EdgeKey) (guard into action : Option Callback) :
    Bindings :=
  let given (callback : Option Callback) := callback.filter Callback.present
  let bindings := match given guard with
    | some callback => bindings.addGuard key (guardOf callback)
    | none => bindings
  let bindings := match given into with
    | some callback => bindings.addConversion key callback
    | none => bindings
  match given action with
  | some callback => bindings.addAction key callback
  | none => bindings

/-! ## 4. Types -/

/-- The parts of a text between dots and double colons. -/
def splitPath : List Char → List (List Char)
  | [] => [[]]
  | ':' :: ':' :: rest => [] :: splitPath rest
  | c :: rest =>
    if c = '.' then [] :: splitPath rest
    else
      match splitPath rest with
      | [] => [[c]]
      | step :: others => (c :: step) :: others

/-- The steps of a dotted or qualified name. -/
def pathSteps (name : String) : List String := (splitPath name.toList).map String.ofList

/-- What is found in a value under a further part of a path. Nothing is looked up in `null`. -/
def member (bindings : Bindings) (value : Value) (name : String) : Value :=
  if value.isNull then .null else (bindings.attributeOf value name).getD .null

/-- What the namespace has at the end of a path; `null` if the path leads nowhere. -/
def lookUp (bindings : Bindings) (name : String) : Value :=
  match pathSteps name with
  | [] => .null
  | first :: rest =>
    rest.foldl bindings.member ((bindings.namespaceEntries.lookup first).getD .null)

/-- What a type name is bound to: by itself, by its bare name, or in the namespace. -/
def resolve (bindings : Bindings) (name : TypeName) : Except Error Value :=
  match bindings.types.lookup name.text with
  | some value => .ok value
  | none =>
    match bindings.types.lookup name.name with
    | some value => .ok value
    | none =>
      let value := bindings.lookUp name.name
      if value.isNull then .error (.unbound name.text) else .ok value

/-- The class that a type name is bound to, where a class has to pass a test of its role. -/
def resolveClass (bindings : Bindings) (role : TypeRole) (name : TypeName) :
    Except Error Class :=
  match bindings.resolve name with
  | .error error => .error error
  | .ok (.cls kind) =>
    if role = .errorType ∧ !kind.inherits .exception then
      .error (.unsuitable role name.text (.cls kind))
    else .ok kind
  | .ok value => .error (.unsuitable role name.text value)

/-! ## 5. Callbacks of transitions and messages -/

/-- The guard of a transition. -/
def guard? (bindings : Bindings) (key : EdgeKey) : Option Callback :=
  (bindings.guards.lookup key).filter Callback.present

/-- The conversion between two states: their own, or the one for every arrival. -/
def conversion? (bindings : Bindings) (key : EdgeKey) : Option Callback :=
  match (bindings.conversions.lookup key).filter Callback.present with
  | some callback => some callback
  | none => (bindings.arrivals.lookup key.2).filter Callback.present

/-- The action of a transition; here `null` was put in its place on purpose and stays. -/
def action? (bindings : Bindings) (key : EdgeKey) : Option Callback := bindings.actions.lookup key

/-- What delivers or makes a payload of a state, if something was bound for it. -/
def messageCallback? (bindings : Bindings) (direction : Direction) (key : EdgeKey) :
    Option Callback :=
  match direction with
  | .push => (bindings.receivers.lookup key).filter Callback.present
  | .poll => (bindings.producers.lookup key).filter Callback.present

end Bindings

end MachineSpec
