/-
MachineSpec.Graph.Reading — machines and documents read from texts.

A text is refused because it is malformed or because what it declares does not
fit together. In a document the first fault decides: a declaration that is
refused goes before a malformed one behind it, although the whole text is read
before the first declaration is checked.

Unreachable states are no fault. They are remarked on as soon as their machine
is accepted, also when the document is refused later.
-/
import MachineSpec.Declaration.Reading
import MachineSpec.Graph.Check
import MachineSpec.Graph.Reach

namespace MachineSpec

/-- Why a text is refused. -/
inductive Rejection where
  | malformed (error : ParseError)
  | invalid (offence : Invalid)
deriving DecidableEq, Repr

/-- Why a text is refused, in words. -/
def Rejection.message : Rejection → String
  | .malformed error => error.message
  | .invalid offence => offence.text

/-- The machine that a text declares. -/
def Machine.ofText (fallible : Bool) (source : String) : Except Rejection Machine :=
  match MachineDecl.ofText fallible source with
  | .error error => .error (.malformed error)
  | .ok decl => (Machine.ofDecl decl).mapError .invalid

/-- The message channels that a text declares for a machine. -/
def Messages.ofText (machine : Machine) (source : String) : Except Rejection Messages :=
  match MessagesDecl.ofText source with
  | .error error => .error (.malformed error)
  | .ok decl => (Messages.ofDecl machine decl).mapError .invalid

/-- The document up to the first fault of a text, and that fault. -/
def Document.read (source : String) : Document × Option Rejection :=
  match tokenize source with
  | .error error => (.empty, some (.malformed error))
  | .ok tokens =>
    let (declared, error) := Parse.declarations (.ofTokens tokens)
    match Document.empty.declareAll declared with
    | (document, some offence) => (document, some (.invalid offence))
    | (document, none) => (document, error.map .malformed)

/-- The document that a text consists of. -/
def Document.ofText (source : String) : Except Rejection Document :=
  match Document.read source with
  | (_, some rejection) => .error rejection
  | (document, none) => .ok document

/-- The remarks on the machines of a document, in declared order. -/
def Document.remarks (document : Document) : List String :=
  document.machines.filterMap Machine.unreachableRemark

end MachineSpec
