/-
MachineSpec.Graph.Reach — the states a machine can never be in.

A machine can be in its initial state, in its error state if it has one (any
failure leads there), and in every state that transitions lead to from these.
The reachable tags are collected from the start outwards: each round adds the
destinations of the tags that the round before found new. A round that finds
nothing new is the last that matters, and one that does finds a state, so as
many rounds as there are states are enough.
-/
import MachineSpec.Graph

namespace MachineSpec.Machine

/-- The tags of the states that transitions of the state with this tag lead to. -/
def destinations (machine : Machine) (tag : String) : List String :=
  match machine.state? tag with
  | none => []
  | some state => state.transits.map Reference.tag

/-- The tags reachable from the `frontier` in the given number of rounds, beside those `seen`
    before. -/
def spread (machine : Machine) : Nat → (frontier seen : List String) → List String
  | 0, _, seen => seen
  | rounds + 1, frontier, seen =>
    let fresh := ((frontier.flatMap machine.destinations).filter (!seen.contains ·)).eraseDups
    spread machine rounds fresh (seen ++ fresh)

/-- The tags a machine can be in without having taken a transition. -/
def origins (machine : Machine) : List String :=
  match machine.failure with
  | none => [machine.initial.tag]
  | some policy => [machine.initial.tag, policy.errorState.tag].eraseDups

/-- The tags a machine can ever be in. -/
def reachable (machine : Machine) : List String :=
  machine.spread machine.states.length machine.origins machine.origins

/-- The declared states that are not reachable, in declared order. -/
def unreachable (machine : Machine) : List State :=
  let tags := machine.reachable
  machine.states.filter fun state => !tags.contains state.tag

/-- The remark on unreachable states, if there are any. -/
def unreachableRemark (machine : Machine) : Option String :=
  match machine.unreachable with
  | [] => none
  | states =>
    some (machine.name ++ ": states " ++ Text.quotedList (states.map State.text) ++
      " are not reachable from initial state " ++ machine.initial.text)

end MachineSpec.Machine
