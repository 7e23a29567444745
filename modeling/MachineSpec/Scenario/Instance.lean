/-
MachineSpec.Scenario.Instance — new objects, and exceptions among them.

Most classes make their objects of nothing. Machines can be made with data in
them. Exceptions are made of whatever is given and tell it in their message;
only two kinds have a form of their own, the error state's failure and the
message to an inactive state. An error of the library becomes an exception whose
message is the error in words.
-/
import MachineSpec.Scenario.Wording

namespace MachineSpec.Scenario

/-! ## 1. Complaints about calls -/

/-- That a value cannot be called. -/
def notCallable (value : Value) : String := "'" ++ value.kind.name ++ "' object is not callable"

/-- That a value does not have what is looked up in it. -/
def lacks (value : Value) (name : String) : String :=
  match value with
  | .cls kind => "type object '" ++ kind.name ++ "' has no attribute '" ++ name ++ "'"
  | _ => "'" ++ value.kind.name ++ "' object has no attribute '" ++ name ++ "'"

/-- That a method is called without its only parameter. -/
def missingArgument (owner method parameter : String) : String :=
  owner ++ "." ++ method ++ "() missing 1 required positional argument: '" ++ parameter ++ "'"

/-- That a method is given too much. Both counts include the object itself. -/
def tooManyArguments (owner method allowed : String) (given : Nat) : String :=
  owner ++ "." ++ method ++ "() takes " ++ allowed ++ " positional arguments but " ++
    toString given ++ " were given"

/-- What an exception of the library tells besides its text. -/
def Remark.ofError : Error → Remark
  | .rejected (.malformed error) => .malformed error.cause.text (some error.span)
  | .escalated error => .carrying error true
  | .notActive state payload => .inactive (.text state) payload
  | .noTarget .. => .undeclared Class.bindingError.name
  | _ => .none

namespace Run

/-! ## 2. Errors of the library -/

/-- Raises the exception that stands for an error. -/
def refuse {α : Type} (error : Error) : Run α := do
  let world ← get
  let content := match error with
    | .noBlock tag => tag
    | _ => error.message world.quoted
  throw (← allocate error.kind (.exception [.text content] (.ofError error)))

/-- A result, or the exception for the error that stands in its place. -/
def accept {α : Type} : Except Error α → Run α
  | .ok a => return a
  | .error error => refuse error

/-! ## 3. New objects -/

/-- A new machine, with data in it unless that is `null`. -/
def newMachine (kind : Class) (table : Table) (data : Value) : Run Value := do
  let slot ← accept (table.create data)
  allocate kind (.machine slot)

/-- The whole number that a value is made into. -/
def wholeNumber (value : Value) : Run Value := do
  match value with
  | .float d => return .int (d.mantissa.tdiv (Nat.pow 10 d.places))
  | .text source =>
    match source.toInt? with
    | some n => return .int n
    | none =>
      raiseText .valueError
        ("invalid literal for int() with base 10: " ++ Text.quoted source)
  | _ =>
    match value.whole? with
    | some n => return .int n
    | none =>
      raiseText .typeError
        ("int() argument must be a string, a bytes-like object or a real number, not '" ++
          value.kind.name ++ "'")

/-- A number, a text or a truth value, made of nothing or of another value; `none` if the class is
    of another kind. -/
def newPlain (kind : Class) (arguments : List Value) : Option (Run Value) :=
  let make (empty : Value) (convert : Value → Run Value) : Run Value :=
    match arguments with
    | [] => return empty
    | [value] => convert value
    | _ =>
      raiseText .typeError
        (kind.name ++ " expected at most 1 argument, got " ++ toString arguments.length)
  if kind.same .int then some (make (.int 0) wholeNumber)
  else if kind.same .bool then some (make (.bool false) fun value => return .bool value.truthy)
  else if kind.same .str then
    some (make (.text "") fun value => return .text ((← get).spoken value))
  else none

/-- A new exception. -/
def newException (kind : Class) (arguments : List Value) : Run Value := do
  let world ← get
  if kind.inherits .customError then
    let owner := Class.customError.name
    match arguments with
    | [] => raiseText .typeError (missingArgument owner "__init__" "error")
    | [error] =>
      allocate kind
        (.exception [.text ("Error state failed: " ++ world.quoted error)] (.carrying error false))
    | _ => raiseText .typeError (tooManyArguments owner "__init__" "2" (arguments.length + 1))
  else if kind.inherits .stateIsNotActiveError then
    let owner := Class.stateIsNotActiveError.name
    let inactive (state payload : Value) : Run Value :=
      allocate kind
        (.exception [.text ("State " ++ world.spoken state ++ " is not active")]
          (.inactive state payload))
    match arguments with
    | [] => raiseText .typeError (missingArgument owner "__init__" "state")
    | [state] => inactive state .null
    | [state, payload] => inactive state payload
    | _ =>
      raiseText .typeError (tooManyArguments owner "__init__" "from 2 to 3" (arguments.length + 1))
  else allocate kind (.exception arguments .none)

/-- A new object of a class. -/
def instantiate (kind : Class) (arguments : List Value) : Run Value := do
  match (← get).registry.table? kind with
  | some table =>
    match arguments with
    | [] => newMachine kind table .null
    | [data] => newMachine kind table data
    | _ =>
      raiseText .typeError
        (tooManyArguments Class.stateMachine.name "__init__" "from 1 to 2" (arguments.length + 1))
  | none =>
    if kind.inherits .baseException then newException kind arguments
    else
      match newPlain kind arguments with
      | some run => run
      | none =>
        if arguments.isEmpty then allocate kind .plain
        else raiseText .typeError (kind.name ++ "() takes no arguments")

/-- The exception that a value stands for where one is raised: itself, or a new one of its class. -/
def exceptionOf (value : Value) : Run Value := do
  let complain : Run Value := raiseText .typeError "exceptions must derive from BaseException"
  match value with
  | .cls kind => if kind.inherits .baseException then instantiate kind [] else complain
  | _ => if value.isA .baseException then return value else complain

end Run

end MachineSpec.Scenario
