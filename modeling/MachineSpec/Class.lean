/-
MachineSpec.Class — classes of objects.

A class has a name, members, and a line of bases: itself first, then the class
it extends, and so on to `object`. The line is part of the class, so whether a
class extends another, and what an object of it answers to, is decided by the
class alone. Classes are told apart by their numbers; two may share a name.

What a member does when it is called is not said here: a method refers to a
routine by its number, and whoever runs a machine knows the routines.
-/

namespace MachineSpec

/-! ## 1. Classes -/

/-- The value of a member that is no method. -/
inductive Constant where
  | null
  | bool (value : Bool)
  | int (value : Int)
  | text (value : String)
deriving DecidableEq, Repr

/-- What a class has under a name. -/
inductive Member where
  /-- A method, with the number of its routine. -/
  | method (routine : Nat)
  /-- A method that does nothing. -/
  | idle
  /-- A method that subclasses have to replace. -/
  | unimplemented
  /-- A value that cannot be called. -/
  | constant (value : Constant)
deriving DecidableEq, Repr

/-- Whether a member can be called. -/
def Member.callable : Member → Bool
  | .constant _ => false
  | _ => true

/-- What one class adds to the classes it extends. -/
structure ClassLayer where
  id : Nat
  name : String
  /-- The text that stands for the class in messages. -/
  title : String
  members : List (String × Member)
deriving DecidableEq, Repr

/-- A class: what it adds itself, and what each class it extends adds, the nearest first. -/
structure Class where
  own : ClassLayer
  bases : List ClassLayer
deriving DecidableEq, Repr

namespace Class

/-- The class and those it extends, the nearest first. -/
def lineage (c : Class) : List ClassLayer := c.own :: c.bases

/-- The number that tells the class from others. -/
def id (c : Class) : Nat := c.own.id

/-- The name of the class. -/
def name (c : Class) : String := c.own.name

/-- Whether two classes are the same one. -/
def same (c d : Class) : Bool := c.id == d.id

/-- Whether the class is the given one or extends it, directly or not. -/
def inherits (c d : Class) : Bool := c.lineage.any (·.id == d.id)

/-- The nearest member of the given name, and the class that adds it. -/
def find? (c : Class) (name : String) : Option (ClassLayer × Member) :=
  c.lineage.findSome? fun layer => (layer.members.lookup name).map fun member => (layer, member)

/-- What the class has under a name. -/
def member? (c : Class) (name : String) : Option Member := (c.find? name).map (·.2)

/-- Whether the class has a method of the given name. -/
def answers (c : Class) (name : String) : Bool := (c.member? name).any Member.callable

/-- The class that adds a layer to another. -/
def extend (base : Class) (layer : ClassLayer) : Class := ⟨layer, base.lineage⟩

/-- How messages show the class. -/
def shown (c : Class) : String := "<class '" ++ c.own.title ++ "'>"

/-! ## 2. Classes known from the start -/

/-- A class that is known by its bare name. -/
def plain (base : Class) (id : Nat) (name : String) : Class := base.extend ⟨id, name, name, []⟩

/-- The class that every class extends. -/
def object : Class := ⟨⟨0, "object", "object", []⟩, []⟩

def type : Class := object.plain 1 "type"
def noneType : Class := object.plain 2 "NoneType"
def int : Class := object.plain 3 "int"
def bool : Class := int.plain 4 "bool"
def float : Class := object.plain 5 "float"
def str : Class := object.plain 6 "str"
def list : Class := object.plain 7 "list"
def transitGuard : Class := object.plain 8 "TransitGuard"
def simpleNamespace : Class := object.plain 9 "SimpleNamespace"
def activeState : Class := object.plain 10 "ActiveState"
def function : Class := object.plain 11 "function"
def method : Class := object.plain 12 "method"

def baseException : Class := object.plain 20 "BaseException"
def exception : Class := baseException.plain 21 "Exception"
def valueError : Class := exception.plain 22 "ValueError"
def runtimeError : Class := exception.plain 23 "RuntimeError"
def keyError : Class := exception.plain 24 "KeyError"
def typeError : Class := exception.plain 25 "TypeError"
def attributeError : Class := exception.plain 26 "AttributeError"
def notImplementedError : Class := runtimeError.plain 27 "NotImplementedError"
def recursionError : Class := runtimeError.plain 28 "RecursionError"

/-- An error class of the library. -/
def failureKind (base : Class) (id : Nat) (name : String) : Class :=
  base.extend ⟨id, name, "fsmc.core.errors." ++ name, []⟩

def fsmcError : Class := exception.failureKind 40 "FsmcError"
def parseError : Class := fsmcError.failureKind 41 "ParseError"
def validationError : Class := fsmcError.failureKind 42 "ValidationError"
def bindingError : Class := fsmcError.failureKind 43 "BindingError"
def channelNotDeclaredError : Class := bindingError.failureKind 44 "ChannelNotDeclaredError"
def machineError : Class := fsmcError.failureKind 45 "MachineError"
def internalError : Class := machineError.failureKind 46 "InternalError"
def customError : Class := machineError.failureKind 47 "CustomError"
def transitionError : Class := machineError.failureKind 48 "TransitionError"
def messageError : Class := fsmcError.failureKind 49 "MessageError"
def stateIsNotActiveError : Class := messageError.failureKind 50 "StateIsNotActiveError"

/-- A class that states may extend. -/
def stateKind (base : Class) (id : Nat) (name : String) (members : List (String × Member)) :
    Class :=
  base.extend ⟨id, name, "fsmc.core.states." ++ name, members⟩

/-- A state of a plain machine that does nothing. -/
def state : Class :=
  object.stateKind 60 "State" [("entry", .idle), ("execute", .idle), ("exit", .idle)]

/-- A state of a fallible machine that does nothing. -/
def tryState : Class :=
  object.stateKind 61 "TryState"
    [("try_entry", .idle), ("try_execute", .idle), ("try_exit", .idle)]

/-- An error state that does nothing, and that has yet to say what becomes of an error. -/
def tryErrorState : Class :=
  tryState.stateKind 62 "TryErrorState" [("consume_error", .unimplemented)]

/-- The class that every compiled machine extends. -/
def stateMachine : Class :=
  object.extend ⟨70, "StateMachine", "fsmc.runtime.machine.StateMachine", []⟩

/-- The first number that no class known from the start has. -/
def firstFree : Nat := 100

/-- The classes that programs know by name from the start. -/
def known : List Class :=
  [object, int, str, bool, baseException, exception, valueError, runtimeError, keyError, typeError,
   state, tryState, tryErrorState, fsmcError, machineError, internalError, customError,
   transitionError, messageError, stateIsNotActiveError, bindingError, channelNotDeclaredError]

/-- All error classes of the library. -/
def failures : List Class :=
  [fsmcError, parseError, validationError, bindingError, channelNotDeclaredError, machineError,
   internalError, customError, transitionError, messageError, stateIsNotActiveError]

end Class

end MachineSpec
