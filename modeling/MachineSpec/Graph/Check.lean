/-
MachineSpec.Graph.Check — declarations made into machines.

A declaration is accepted if it describes a closed graph: no two states have
one tag, every transition joins declared states and is declared once, and the
initial and the error state are declared. Message channels are accepted if they
target states of their machine and none is declared twice. States are compared
by their tags throughout, so a reference may spell a declared state otherwise.

The rules are tried in this order, each from the first declaration to the last,
and the first offence is reported.
-/
import MachineSpec.Graph

namespace MachineSpec

/-! ## 1. Offences -/

/-- The two states that a declaration points out beside its list of states. -/
inductive Role where
  | initial
  | error
deriving DecidableEq, Repr

/-- Why a well-formed declaration is refused. -/
inductive Invalid where
  /-- Two declared states cannot be told apart. -/
  | ambiguousTag (machine : String) (first second : Reference)
  /-- A transition leads from or to a state that is not declared. -/
  | undeclaredEndpoint (machine : String) (state : Reference) (edge : Edge)
  /-- A transition is declared a second time. -/
  | repeatedEdge (machine : String) (edge : Edge)
  /-- The initial or the error state is not declared. -/
  | undeclaredRole (machine : String) (role : Role) (state : Reference)
  /-- Messages name another machine than the one they are declared for. -/
  | otherMachine (declared machine : String)
  /-- A message targets a state that the machine does not have. -/
  | foreignTarget (machine : String) (message : Message)
  /-- A message channel is declared a second time. -/
  | repeatedMessage (machine : String) (message : Message)
  /-- A document declares two machines of one name. -/
  | repeatedMachine (name : String)
  /-- Messages name a machine that the document has not declared before. -/
  | unknownMachine (name : String)
deriving DecidableEq, Repr

/-- What is wrong with a declaration, in words. -/
def Invalid.text : Invalid → String
  | .ambiguousTag machine first second =>
    machine ++ ": states " ++ first.text ++ " and " ++ second.text ++
      " map to the same dispatch tag " ++ second.tag
  | .undeclaredEndpoint machine state edge =>
    machine ++ ": state " ++ state.text ++ " is referenced in transition " ++ edge.text ++
      " but not declared in the list of states"
  | .repeatedEdge machine edge =>
    machine ++ ": transition " ++ edge.text ++ " is declared more than once"
  | .undeclaredRole machine role state =>
    let part := match role with
      | .initial => "init state"
      | .error => "error state"
    machine ++ ": expected to find the " ++ part ++ " " ++ state.text ++ " in the list of states"
  | .otherMachine declared machine =>
    "Messages are declared for " ++ declared ++ " but the state machine is " ++ machine
  | .foreignTarget machine message =>
    machine ++ ": message " ++ message.text ++ " targets " ++ message.target.text ++
      ", which is not a state of the machine"
  | .repeatedMessage machine message =>
    machine ++ ": message " ++ message.text ++ " is declared more than once"
  | .repeatedMachine name => "State machine " ++ name ++ " is declared more than once"
  | .unknownMachine name =>
    "Messages refer to " ++ name ++ ", which is not a state machine declared before them"

/-! ## 2. Machines -/

/-- Refuses the first state whose tag one of the states before it has. -/
def checkTags (machine : String) : (before states : List Reference) → Except Invalid Unit
  | _, [] => .ok ()
  | before, state :: rest =>
    match before.find? (·.tag == state.tag) with
    | some other => .error (.ambiguousTag machine other state)
    | none => checkTags machine (before ++ [state]) rest

/-- Refuses an endpoint of a transition that has none of the declared tags. -/
def checkEndpoint (machine : String) (declared : List String) (edge : Edge) (state : Reference) :
    Except Invalid Unit :=
  if declared.contains state.tag then .ok () else .error (.undeclaredEndpoint machine state edge)

/-- The tags that a transition joins. -/
def Edge.tags (edge : Edge) : String × String := (edge.source.tag, edge.destination.tag)

/-- Refuses the first transition that has an undeclared endpoint or joins tags that one before it
    joins. -/
def checkEdges (machine : String) (declared : List String) :
    (before : List (String × String)) → List Edge → Except Invalid Unit
  | _, [] => .ok ()
  | before, edge :: rest => do
    checkEndpoint machine declared edge edge.source
    checkEndpoint machine declared edge edge.destination
    if before.contains edge.tags then .error (.repeatedEdge machine edge)
    else checkEdges machine declared (edge.tags :: before) rest

/-- A declared state with the transitions that leave it. -/
def State.ofReference (edges : List Edge) (reference : Reference) : State :=
  ⟨reference, (edges.filter (·.source.tag == reference.tag)).map Edge.destination⟩

/-- The declared state that a reference means. -/
def findRole (machine : String) (role : Role) (states : List State) (reference : Reference) :
    Except Invalid State :=
  match states.find? (·.tag == reference.tag) with
  | some state => .ok state
  | none => .error (.undeclaredRole machine role reference)

/-- The machine that a declaration describes. -/
def Machine.ofDecl (decl : MachineDecl) : Except Invalid Machine := do
  checkTags decl.name [] decl.states
  checkEdges decl.name (decl.states.map Reference.tag) [] decl.edges
  let states := decl.states.map (State.ofReference decl.edges)
  let initial ← findRole decl.name .initial states decl.initial
  let failure ← match decl.failure with
    | none => pure none
    | some failure => do
      let errorState ← findRole decl.name .error states failure.errorState
      pure (some ⟨failure.errorType, errorState⟩)
  return ⟨decl.name, initial, states, decl.edges, failure⟩

/-! ## 3. Messages -/

/-- What tells a message channel from the others of its machine. -/
def Message.key (message : Message) : String × String × Direction :=
  (message.target.tag, message.payload.text, message.direction)

/-- Refuses the first message that targets no state of the machine or repeats one before it. -/
def checkMessages (machine : Machine) :
    (before : List (String × String × Direction)) → List Message → Except Invalid Unit
  | _, [] => .ok ()
  | before, message :: rest =>
    if !machine.hasState message.target.tag then .error (.foreignTarget machine.name message)
    else if before.contains message.key then .error (.repeatedMessage machine.name message)
    else checkMessages machine (message.key :: before) rest

/-- The message channels that a declaration adds to a machine. -/
def Messages.ofDecl (machine : Machine) (decl : MessagesDecl) : Except Invalid Messages :=
  if decl.name ≠ machine.name then .error (.otherMachine decl.name machine.name)
  else do
    checkMessages machine [] decl.messages
    return ⟨decl.name, decl.messages⟩

/-! ## 4. Documents -/

/-- A document with one more declaration. Messages belong to a machine declared before them. -/
def Document.declare (document : Document) : Declaration → Except Invalid Document
  | .machine decl =>
    if (document.machine? decl.name).isSome then .error (.repeatedMachine decl.name)
    else do
      let machine ← Machine.ofDecl decl
      return { document with machines := document.machines ++ [machine] }
  | .messages decl =>
    match document.machine? decl.name with
    | none => .error (.unknownMachine decl.name)
    | some machine => do
      let messages ← Messages.ofDecl machine decl
      return { document with messages := document.messages ++ [messages] }

/-- A document with more declarations, up to the first that is refused. -/
def Document.declareAll : Document → List Declaration → Document × Option Invalid
  | document, [] => (document, none)
  | document, first :: rest =>
    match document.declare first with
    | .error offence => (document, some offence)
    | .ok extended => extended.declareAll rest

end MachineSpec
