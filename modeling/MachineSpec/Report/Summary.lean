/-
MachineSpec.Report.Summary — a document in lines that people read.

Under the heading of each machine stand its states with their tags, under each
state its transitions numbered by urgency, and behind the states the messages
of the last declaration that names the machine.
-/
import MachineSpec.Graph

namespace MachineSpec

/-- The members of a list with their numbers, from one. -/
def numberedFromOne {α : Type} (items : List α) : List (Nat × α) :=
  (List.range' 1 items.length).zip items

/-- A state and, numbered by urgency, the destinations of its transitions. -/
def State.summary (state : State) : List String :=
  ("    " ++ state.text ++ " [" ++ state.tag ++ "]") ::
    (numberedFromOne state.transits).map fun (number, target) =>
      "      " ++ toString number ++ ". => " ++ target.text

/-- The heading of a machine. -/
def Machine.heading (machine : Machine) : List String :=
  let named := machine.name ++ " (initial: " ++ machine.initial.text ++ ")"
  match machine.failure with
  | none => ["machine " ++ named]
  | some policy =>
    ["fallible machine " ++ named,
     "  error type: " ++ policy.errorType.text ++ ", error state: " ++ policy.errorState.text]

/-- The messages of a machine, under a heading of their own. -/
def Messages.summary (messages : Messages) : List String :=
  "  messages:" :: messages.messages.map fun message => "    " ++ message.text

/-- A machine and, if it has some, its messages. -/
def Machine.summary (machine : Machine) (messages : Option Messages) : List String :=
  machine.heading ++ "  states:" :: machine.states.flatMap State.summary ++
    (messages.map Messages.summary).getD []

/-- The messages that a document declares last for the machine of the given name. -/
def Document.messages? (document : Document) (name : String) : Option Messages :=
  document.messages.reverse.find? (·.machine == name)

/-- All machines of a document. -/
def Document.summary (document : Document) : List String :=
  document.machines.flatMap fun machine => machine.summary (document.messages? machine.name)

end MachineSpec
