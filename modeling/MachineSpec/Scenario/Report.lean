/-
MachineSpec.Scenario.Report — the report on a scenario, step by step.

The report on a step has its outcome, what programs noted, what sinks received and the
log kept during the step, and a view of the machine that it was about. An exception is
reported by its class and its message, and by further parts that depend on its kind. The
next step is performed whatever the outcome of the last was.
-/
import MachineSpec.Scenario.Interpreter

namespace MachineSpec.Scenario

/-! ## 1. Exceptions -/

/-- What an exception tells besides its class and message. -/
inductive Detail where
  | none
  | malformed (wrong : String) (place : Option Span)
  | carrying (error : Shown) (led : Bool)
  | inactive (state payload : Shown)
  /-- The kind of error that led to the exception. -/
  | undeclared (cause : Option String)
deriving Repr

/-- The report on an exception. -/
structure Fault where
  kind : String
  /-- The names of the classes that its class extends, up to the one for all exceptions that are
      meant to be caught. -/
  ancestors : List String
  message : String
  detail : Detail
deriving Repr

/-- What an object has as remark, if it is an exception. -/
def World.remark (world : World) (value : Value) : Remark :=
  match world.entity? value with
  | some ⟨_, .exception _ remark⟩ => remark
  | _ => .none

/-- The report on an exception. -/
def World.fault (world : World) (exception : Value) : Fault where
  kind := exception.kind.name
  ancestors :=
    (exception.kind.bases.takeWhile (·.id != Class.baseException.id)).map ClassLayer.name
  message := world.spoken exception
  detail :=
    match world.remark exception with
    | .malformed wrong place => .malformed wrong place
    | .carrying error led => .carrying (world.present error) led
    | .inactive state payload => .inactive (world.present state) (world.present payload)
    | .undeclared cause => .undeclared (some cause)
    | .none =>
      if exception.isA .channelNotDeclaredError then .undeclared Option.none else .none

/-! ## 2. Steps -/

/-- How a step ended. -/
inductive Outcome where
  | shown (value : Shown)
  | table (table : Table) (channels : Option Channels)
  | fault (fault : Fault)

/-- The report on a step. -/
structure Report where
  outcome : Outcome
  journal : List Shown
  /-- The lines that sinks got, each with the name of the sink. -/
  trace : List (String × String)
  logs : List String
  view : Option (View Shown)

/-- A world after a step, and the report on it. -/
def World.perform (world : World) (step : Step) : Report × World :=
  let (result, world) := (Scenario.perform (invoke callLimit) .empty step).run world.cleared
  let outcome : Outcome := match result with
    | .ok (.value value) => .shown (world.present value)
    | .ok (.table table channels) => .table table channels
    | .error exception => .fault (world.fault exception)
  (⟨outcome, world.journal.reverse, world.trace.reverse, world.registry.log.lines,
    step.variable?.bind world.view?⟩, world)

/-- The reports on steps that are performed one after another. -/
def World.performAll (world : World) : List Step → List Report
  | [] => []
  | step :: rest =>
    let (report, world) := world.perform step
    report :: world.performAll rest

/-- The reports on a scenario. A sink of the name `main` is in use from the start if it is wanted.
    -/
def reports (options : Options) (withSink : Bool) (steps : List Step) : List Report :=
  (World.initial options (if withSink then some ⟨"main", none⟩ else none)).performAll steps

/-! ## 3. Single exceptions -/

/-- A world in which all errors of the library can be called by name. -/
def World.ofErrors : World :=
  let world := World.initial .default none
  { world with
    classes := (Class.failures ++ Class.known).map fun kind => (kind.name, kind) }

/-- The report on an exception of the given class, if it can be made. -/
def faultOf (kind : String) (arguments : List Expr) : Option Fault :=
  match (World.ofErrors.perform (.call [.raise kind arguments] .nothing .nothing)).1.outcome with
  | .fault fault => some fault
  | _ => none

/-- The report on a remark on a malformed text. -/
def faultOfText (wrong : String) (place : Option Span) : Fault :=
  let run : Run Value := do
    throw (← Run.allocate .parseError
      (.exception [.text (located wrong place)] (.malformed wrong place)))
  match run.run (World.initial .default none) with
  | (.ok value, world) | (.error value, world) => world.fault value

/-- The verdict that the value of an expression is accepted as. `loosely` takes any value for a truth
    value, otherwise it has to be a verdict or a truth value. -/
def guardOf (loosely : Bool) (e : Expr) : Except Fault Guard :=
  let run : Run Guard := do
    let value ← evaluate (invoke callLimit) .empty e
    if loosely then return .ofBool value.truthy else Run.accept (Guard.coerce value)
  match run.run (World.initial .default none) with
  | (.ok verdict, _) => .ok verdict
  | (.error exception, world) => .error (world.fault exception)

end MachineSpec.Scenario
