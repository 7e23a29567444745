/-
MachineSpec.Graph — machines whose references have been checked.

A machine is a list of states, and every state knows where its transitions
lead, in the order in which their guards are asked. States are told apart by
their tags. A fallible machine also has an error type and an error state.

What holds of every machine that `MachineSpec.Graph.Check` accepts, and what
this module does not ask for: tags are pairwise different, the initial and the
error state are among the states, and every transition joins two of them.
-/
import MachineSpec.Declaration

namespace MachineSpec

/-! ## 1. States and machines -/

/-- A declared state and the destinations of its transitions, the most urgent first. -/
structure State where
  reference : Reference
  transits : List Reference
deriving DecidableEq, Repr

/-- The tag by which a state is dispatched. -/
def State.tag (state : State) : String := state.reference.tag

/-- The declared text of a state. -/
def State.text (state : State) : String := state.reference.text

/-- What a fallible machine does with failures: which exceptions are failures, and the state that
    takes them. -/
structure FailurePolicy where
  errorType : Reference
  errorState : State
deriving DecidableEq, Repr

/-- A checked machine. -/
structure Machine where
  name : String
  initial : State
  states : List State
  edges : List Edge
  failure : Option FailurePolicy
deriving DecidableEq, Repr

namespace Machine

/-- The state with the given tag. -/
def state? (machine : Machine) (tag : String) : Option State :=
  machine.states.find? (·.tag == tag)

/-- Whether the machine has a state with the given tag. -/
def hasState (machine : Machine) (tag : String) : Bool :=
  machine.states.any (·.tag == tag)

/-- Whether the machine routes failures into an error state. -/
def fallible (machine : Machine) : Bool := machine.failure.isSome

end Machine

/-! ## 2. Message channels and documents -/

/-- The checked message channels of one machine. -/
structure Messages where
  machine : String
  messages : List Message
deriving DecidableEq, Repr

/-- The machines and message channels of a document, each in declared order. -/
structure Document where
  machines : List Machine
  messages : List Messages
deriving DecidableEq, Repr

namespace Document

/-- The document without declarations. -/
def empty : Document := ⟨[], []⟩

/-- The machine of the given name. -/
def machine? (document : Document) (name : String) : Option Machine :=
  document.machines.find? (·.name == name)

end Document

/-! ## 3. The moments of a state's life -/

/-- The moments at which the data of a state is called upon. -/
inductive Stage where
  | entry
  | execute
  | exit
deriving DecidableEq, Repr

/-- The method that is called at a stage. Fallible machines have names of their own, so that one
    class can serve in both kinds. -/
def Stage.method (fallible : Bool) : Stage → String
  | .entry => if fallible then "try_entry" else "entry"
  | .execute => if fallible then "try_execute" else "execute"
  | .exit => if fallible then "try_exit" else "exit"

/-- The names of the methods of a machine: entry, execute, exit. -/
def Machine.methods (machine : Machine) : List String :=
  [Stage.entry, .execute, .exit].map (Stage.method machine.fallible)

end MachineSpec
