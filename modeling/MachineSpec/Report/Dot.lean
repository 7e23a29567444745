/-
MachineSpec.Report.Dot — a machine as a directed graph in the DOT format.

A node stands for a state and carries its tag; a point leads to the initial
state, and the error state has a double outline. Edges are labelled with their
urgency. Names, tags and texts are put between double quotes as they are: no
name that is read from a text holds a double quote, a backslash or a line end.
-/
import MachineSpec.Report.Summary

namespace MachineSpec

/-- A text between double quotes. -/
def Dot.label (text : String) : String := "\"" ++ text ++ "\""

/-- Whether failures lead into this state. -/
def Machine.isErrorState (machine : Machine) (state : State) : Bool :=
  machine.failure.any (·.errorState.tag == state.tag)

/-- The node of a state. -/
def Machine.dotNode (machine : Machine) (state : State) : String :=
  let shape := if machine.isErrorState state then "doubleoctagon" else "box"
  "  " ++ Dot.label state.tag ++ " [label=" ++ Dot.label state.text ++ ", shape=" ++ shape ++ "];"

/-- The edges of the transitions that leave a state, the most urgent first. -/
def State.dotEdges (state : State) : List String :=
  (numberedFromOne state.transits).map fun (number, target) =>
    "  " ++ Dot.label state.tag ++ " -> " ++ Dot.label target.tag ++
      " [label=" ++ Dot.label (toString number) ++ "];"

/-- The graph of a machine, in lines. -/
def Machine.dotLines (machine : Machine) : List String :=
  ["digraph " ++ Dot.label machine.name ++ " \x7b", "  rankdir=LR;", "  \"__start\" [shape=point];"] ++
    machine.states.map machine.dotNode ++
    ["  \"__start\" -> " ++ Dot.label machine.initial.tag ++ ";"] ++
    machine.states.flatMap State.dotEdges ++
    ["\x7d"]

/-- The graph of a machine. -/
def Machine.dot (machine : Machine) : String := String.intercalate "\n" machine.dotLines

end MachineSpec
