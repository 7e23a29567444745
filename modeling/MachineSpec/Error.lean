/-
MachineSpec.Error — what can go wrong, as causes.

An error holds what it is about, not a text; `Error.message` puts all of them
into words and `Error.kind` sorts them into classes. An exception that a
callback raises is no `Error`: it is an object that the library passes on
without looking inside, and `Failure` is either of the two.
-/
import MachineSpec.Graph.Reading
import MachineSpec.Value

namespace MachineSpec

/-! ## 1. Designators -/

/-- A way to point out a state or a payload: by a text or by the class bound to it. -/
inductive Designator where
  | text (name : String)
  | cls (kind : Class)
deriving DecidableEq, Repr

/-- A designator as part of a sentence. -/
def Designator.name : Designator → String
  | .text name => name
  | .cls kind => kind.name

/-- A designator as messages show it. -/
def Designator.shown : Designator → String
  | .text name => Text.quoted name
  | .cls kind => kind.shown

/-! ## 2. Errors -/

/-- What a bound value has to serve as. -/
inductive TypeRole where
  | state
  | payload
  | errorType
deriving DecidableEq, Repr

/-- What goes wrong in compiling a machine and in running it. -/
inductive Error where
  /-- A text is refused. -/
  | rejected (why : Rejection)
  /-- A machine of this name was compiled before. -/
  | alreadyCompiled (machine : String)
  /-- Messages name a machine that was not compiled. -/
  | notCompiled (machine : String)
  /-- A machine gets messages a second time. -/
  | alreadyAttached (machine : String)
  /-- A type name is bound to something else already. -/
  | alreadyBound (name : String) (existing : Value)
  /-- A type name is bound to nothing. -/
  | unbound (name : String)
  /-- A type name is bound to a value that cannot serve. -/
  | unsuitable (role : TypeRole) (name : String) (found : Value)
  /-- A transition has no guard. -/
  | noGuard (machine source destination : String)
  /-- There is no way to make data of one state from data of another. -/
  | noConversion (machine source destination : String)
  /-- The error state cannot take an error. -/
  | noErrorConsumer (machine state : String)
  /-- A state has no way to take or to give a payload. -/
  | noCallback (machine state method payload : String)
  /-- Two messages of one direction and state travel as one class. -/
  | samePayload (machine first second kind state : String)
  /-- A designator points out no state of the machine. -/
  | notAState (target : Designator) (machine : String)
  /-- A machine has no messages at all. -/
  | noMessages (machine : String)
  /-- A message goes to something that is no state of the machine. -/
  | noTarget (target : Designator) (machine : String)
  /-- No channel of the target carries such a message. -/
  | noChannel (machine : String) (direction : Direction) (payload target : String)
  /-- A message goes to a state that is not active; what was to be pushed comes back. -/
  | notActive (state : String) (payload : Value)
  /-- A machine that runs is started. -/
  | alreadyRunning (machine : String)
  /-- A machine without data is to go on. -/
  | empty (machine : String)
  /-- The error state itself fails. -/
  | escalated (error : Value)
  /-- A transition makes data of the wrong class. -/
  | wrongConversion (machine destination found expected : String)
  /-- The way into the error state makes data of the wrong class. -/
  | wrongErrorData (source destination found : String)
  /-- A machine is started with data of the wrong class. -/
  | wrongStart (machine state expected found : String)
  /-- A guard gives no verdict. -/
  | noVerdict (found : Value)
  /-- A tag is looked up that no state has. -/
  | noBlock (tag : String)
deriving Repr

namespace Error

/-- The class of an error. -/
def kind : Error → Class
  | rejected (.malformed _) => .parseError
  | rejected (.invalid _) | alreadyCompiled _ | notCompiled _ | alreadyAttached _ => .validationError
  | alreadyBound .. | unbound _ | unsuitable .. | noGuard .. | noConversion .. | noErrorConsumer ..
  | noCallback .. | samePayload .. | notAState .. => .bindingError
  | noMessages _ | noTarget .. | noChannel .. => .channelNotDeclaredError
  | notActive .. => .stateIsNotActiveError
  | alreadyRunning _ | empty _ => .internalError
  | escalated _ => .customError
  | wrongConversion .. | wrongErrorData .. => .transitionError
  | wrongStart .. | noVerdict _ => .typeError
  | noBlock _ => .keyError

/-- A bound value that cannot serve, in words. -/
def unsuitableText (role : TypeRole) (name found : String) : String :=
  match role with
  | .state => "State " ++ name ++ " must be bound to a class, got " ++ found
  | .payload => "Message " ++ name ++ " must be bound to a class, got " ++ found
  | .errorType =>
    "Error type " ++ name ++ " must be bound to an Exception subclass, got " ++ found

/-- An error in words, given how to show a value. -/
def message (shown : Value → String) : Error → String
  | rejected why => why.message
  | alreadyCompiled machine => "State machine " ++ machine ++ " is already compiled"
  | notCompiled machine =>
    "Messages refer to " ++ machine ++ ", which is not a compiled state machine"
  | alreadyAttached machine => "Messages for " ++ machine ++ " are already declared"
  | alreadyBound name existing => name ++ " is already bound to " ++ shown existing
  | unbound name => "No class is bound to " ++ name
  | unsuitable role name found => unsuitableText role name (shown found)
  | noGuard machine source destination =>
    machine ++ ": no guard registered for " ++ source ++ " => " ++ destination
  | noConversion machine source destination =>
    machine ++ ": no conversion registered from " ++ source ++ " into " ++ destination
  | noErrorConsumer machine state =>
    machine ++ ": error state " ++ state ++ " must define consume_error(error)"
  | noCallback machine state method payload =>
    machine ++ ": " ++ state ++ " needs a " ++ method ++
      " method or a registered callback for " ++ payload
  | samePayload machine first second kind state =>
    machine ++ ": " ++ first ++ " and " ++ second ++ " both bind to " ++ kind ++ " for " ++ state
  | notAState target machine | noTarget target machine =>
    target.shown ++ " is not a state of " ++ machine
  | noMessages machine => machine ++ " has no messages declared"
  | noChannel machine direction payload target =>
    let verb := match direction with
      | .push => "push"
      | .poll => "poll"
    machine ++ ": no " ++ verb ++ " channel for " ++ payload ++ " and " ++ target
  | notActive state _ => "State " ++ state ++ " is not active"
  | alreadyRunning machine => machine ++ " is already running"
  | empty machine => machine ++ " has no active state data; start it first"
  | escalated error => "Error state failed: " ++ shown error
  | wrongConversion machine destination found expected =>
    machine ++ ": conversion into " ++ destination ++ " returned " ++ found ++
      ", expected " ++ expected
  | wrongErrorData source destination found =>
    "Conversion from " ++ source ++ " into error state " ++ destination ++ " returned " ++ found
  | wrongStart machine state expected found =>
    machine ++ " must start in " ++ state ++ " (" ++ expected ++ "), got " ++ found
  | noVerdict found => "Guard must return a TransitGuard or bool, got " ++ shown found
  | noBlock tag => Text.quoted tag

end Error

/-! ## 3. Failures -/

/-- Why an operation ends without a result: an error of the library, or an exception that a
    callback raised. -/
inductive Failure where
  | error (cause : Error)
  | raised (exception : Value)
deriving Repr

/-- The verdict of a guard, if what it returned is one. -/
def Guard.coerce (value : Value) : Except Error Guard :=
  match value.verdict? with
  | some verdict => .ok verdict
  | none => .error (.noVerdict value)

end MachineSpec
