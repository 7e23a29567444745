/-
MachineSpec.Scenario.Invocation — answers to what machines ask.

A machine asks for calls of methods, of callbacks, and for reports. Methods are
looked up in the data at hand, which need not be of the class that is bound to
the state, and a field of the data goes before any method of its class. What has
nothing for a stage is passed over, and so is `null` in the place of a method; a
message or an error that finds no method raises.

How a routine runs is left open: whatever here may call one is given the caller.
-/
import MachineSpec.Scenario.Instance

namespace MachineSpec.Scenario

/-- How a routine is called, upon data and with an argument. -/
abbrev Caller := Nat → Value → Value → Run Value

namespace Run

/-! ## 1. Calls of values -/

/-- Calls a method as its class has it. The first argument passes for the object. -/
def callUnbound (call : Caller) (owner : ClassLayer) (name : String) (member : Member)
    (arguments : List Value) : Run Value :=
  match member, arguments with
  | .constant constant, _ => raiseText .typeError (notCallable constant.value)
  | .method routine, _ =>
    call routine (arguments[0]?.getD .null) (arguments[1]?.getD .null)
  | _, [] => raiseText .typeError (missingArgument owner.name name "self")
  | .idle, _ => return .null
  | .unimplemented, [_] => raiseText .typeError (missingArgument owner.name name "error")
  | .unimplemented, self :: _ =>
    raiseText .notImplementedError (self.kind.name ++ " must implement " ++ name)

/-- Calls a method of a class upon a value. -/
def callBound (call : Caller) (self : Value) (name : String) (member : Member)
    (argument : Option Value) : Run Value :=
  match member with
  | .constant constant => raiseText .typeError (notCallable constant.value)
  | .method routine => call routine self (argument.getD .null)
  | .idle => return .null
  | .unimplemented =>
    raiseText .notImplementedError (self.kind.name ++ " must implement " ++ name)

/-- Calls a value with arguments. Classes and methods can be called. -/
def callValue (call : Caller) (value : Value) (arguments : List Value) : Run Value :=
  match value with
  | .cls kind => instantiate kind arguments
  | .method owner name member none => callUnbound call owner name member arguments
  | .method _ name member (some self) => callBound call self name member arguments.head?
  | _ => raiseText .typeError (notCallable value)

/-! ## 2. Callbacks and methods -/

/-- Calls a callback upon data, with a message if there is one. -/
def invoke (call : Caller) (callback : Callback) (data : Value) (message : Option Value) :
    Run Value :=
  match callback with
  | .fixed verdict => return .guard verdict
  | .construct kind =>
    match message with
    | none => instantiate kind []
    | some _ =>
      raiseText .typeError
        "derive_into.<locals>._into() takes 1 positional argument but 2 were given"
  | .routine number => call number data (message.getD .null)
  | .value value => callValue call value (data :: message.toList)

/-- Calls what data has for a stage, if it has anything for that. -/
def callHook (call : Caller) (data : Value) (method : String) : Run Value := do
  match (← get).attribute? data method with
  | none | some .null => return .null
  | some found => callValue call found []

/-- Calls what data has under a name with an argument; it has to have something. -/
def callMethod (call : Caller) (data : Value) (method : String) (argument : Value) :
    Run Value := do
  match (← get).attribute? data method with
  | none => raiseText .attributeError (lacks data method)
  | some found => callValue call found [argument]

/-! ## 3. Reports -/

/-- Whether a text occurs in another. -/
def occurs (part : List Char) : List Char → Bool
  | [] => part.isEmpty
  | c :: rest => part.isPrefixOf (c :: rest) || occurs part rest

/-- Reports a line: to the records, and to the sink in use if the grain is switched on. A sink has
    got the line also where it fails. -/
def report (enabled : Bool) (line : String) : Run Unit := do
  modify fun world =>
    { world with registry := world.registry.record [⟨.debug, .trace, line⟩] }
  match enabled, (← get).sink with
  | true, some sink => do
    modify fun world => { world with trace := (sink.name, line) :: world.trace }
    match sink.failsOn with
    | some part =>
      if occurs part.toList line.toList then
        raiseText .runtimeError ("sink " ++ sink.name ++ " failed")
      else return ()
    | none => return ()
  | _, _ => return ()

/-! ## 4. Requests -/

/-- Answers a request of a machine that runs by a table. -/
def answer (call : Caller) (table : Table) : Request → Run Value
  | .hook stage _ present data =>
    if present then callHook call data (stage.method table.machine.fallible) else return .null
  | .guard transition data => invoke call transition.guard data none
  | .action transition data =>
    match transition.action with
    | some callback => invoke call callback data none
    | none => return .null
  | .convert transition data => invoke call transition.conversion data none
  | .convertFailed _ conversion data => invoke call conversion data none
  | .consume data error => callMethod call data "consume_error" error
  | .deliver channel data message =>
    match channel.courier with
    | .method => callMethod call data Direction.push.method message
    | .callback callback => invoke call callback data (some message)
  | .produce channel data =>
    match channel.courier with
    | .method => callMethod call data Direction.poll.method (.cls channel.kind)
    | .callback callback => invoke call callback data none
  | .report enabled line => do
    report enabled line
    return .null

/-- Runs an operation of the machine at a place. -/
def play {α : Type} (call : Caller) (reference : Nat) (table : Table)
    (operation : Operation α) : Run α := do
  let world ← get
  let (outcome, world) :=
    (operation (world.slot reference)).play (World.putSlot reference) (·.slot reference)
      (fun request world => (answer call table request).run world) world
  set world
  match outcome with
  | .ok result => return result
  | .error (.error error) => refuse error
  | .error (.raised exception) => throw exception

end Run

end MachineSpec.Scenario
