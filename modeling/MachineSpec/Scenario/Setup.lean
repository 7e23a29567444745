/-
MachineSpec.Scenario.Setup — classes, bindings, compilers and sinks.

Setting up changes the world and calls nobody, but for a sink that gets a line.
Every class that is defined or compiled can be called by its name from then on;
a name that is given again means the newer class.
-/
import MachineSpec.Scenario.Invocation

namespace MachineSpec.Scenario

/-- What a step replies. -/
inductive Reply where
  | value (value : Value)
  | table (table : Table) (channels : Option Channels)

/-- A reply as a value; a table is none. -/
def Reply.toValue : Reply → Value
  | .value v => v
  | .table .. => .null

namespace Run

/-! ## 1. Names -/

/-- The type name that a text consists of. -/
def typeName (source : String) : Run TypeName :=
  match Reference.ofText source with
  | .ok reference => return reference.type
  | .error error => refuse (.rejected (.malformed error))

/-- The name of a state. -/
def stateName : StateKey → Run TypeName
  | .text source => typeName source
  | .type name => return name

/-- A target with the class that it names. -/
def designator : Target → Run Designator
  | .text name => return .text name
  | .cls name => do return .cls (← namedClass name)

/-- The table of a class, which has to be a machine class. -/
def tableOf (kind : Class) : Run Table := do
  match (← get).registry.table? kind with
  | some table => return table
  | none => raiseText .attributeError (lacks (.cls kind) "_dispatch")

/-! ## 2. Classes -/

/-- Keeps a program and gives it a number. -/
def register (program : Program) : Run Nat := do
  let world ← get
  set { world with routines := world.routines.push program }
  return world.routines.size

/-- The members that methods become. -/
def registerMethods : List (String × Method) → Run (List (String × Member))
  | [] => return []
  | (name, .program body) :: rest => do
    let number ← register body
    let others ← registerMethods rest
    return (name, .method number) :: others
  | (name, .constant value) :: rest => do
    let others ← registerMethods rest
    return (name, .constant value) :: others

/-- Makes a class known by its name. -/
def enroll (kind : Class) : Run Unit :=
  modify fun world => { world with classes := (kind.name, kind) :: world.classes }

/-- Puts a value into the namespace. -/
def enter (name : String) (value : Value) : Run Unit :=
  modify fun world => { world with space := (name, value) :: world.space }

/-- Defines a class. -/
def defineClass (name base : String) (fields : List (String × Value))
    (methods : List (String × Method)) (hidden : Bool) : Run Unit := do
  let base ← namedClass base
  if base.same .bool then
    raiseText .typeError "type 'bool' is not an acceptable base type"
  else do
    let members ← registerMethods methods
    let (number, registry) := (← get).registry.newNumber
    let kind := base.extend ⟨number, name, "user." ++ name, members⟩
    modify fun world =>
      { world with registry := registry, defaults := (number, fields) :: world.defaults }
    enroll kind
    if hidden then return () else enter name (.cls kind)

/-! ## 3. Bindings -/

/-- Binds a value to a type name. -/
def addType (name : String) (value : Value) : Run Unit := do
  let name ← typeName name
  let bindings ← accept ((← get).bindings.addType name value)
  modify fun world => { world with bindings }

/-- Binds the callbacks of a transition. -/
def addEdge (source destination : StateKey) (guard into action : Callback) : Run Unit := do
  let key := Bindings.edgeKey (← stateName source) (← stateName destination)
  modify fun world =>
    { world with
      bindings := world.bindings.addTransition key (some guard) (some into) (some action) }

/-- Binds one callback. -/
def bind (role : Role) (callback : Callback) : Run Unit := do
  let change : Bindings → Bindings ← match role with
    | .guard source destination => do
      let key := Bindings.edgeKey (← stateName source) (← stateName destination)
      pure (·.addGuard key callback)
    | .into source destination => do
      let key := Bindings.edgeKey (← stateName source) (← stateName destination)
      pure (·.addConversion key callback)
    | .action source destination => do
      let key := Bindings.edgeKey (← stateName source) (← stateName destination)
      pure (·.addAction key callback)
    | .intoAny destination => do
      let name ← stateName destination
      pure (·.addArrival name callback)
    | .receiver state payload => do
      let key := Bindings.messageKey (← stateName state) (← typeName payload)
      pure (·.addMessageCallback .push key callback)
    | .producer state payload => do
      let key := Bindings.messageKey (← stateName state) (← typeName payload)
      pure (·.addMessageCallback .poll key callback)
  modify fun world => { world with bindings := change world.bindings }

/-- What a type name is bound to, in a role if one is given. -/
def resolve (role : Option TypeRole) (source : String) : Run Value := do
  let name ← typeName source
  let bindings := (← get).currentBindings
  match role with
  | none => accept (bindings.resolve name)
  | some role => do return .cls (← accept (bindings.resolveClass role name))

/-! ## 4. Compilation -/

/-- Has the compiler of the world do a piece of work. -/
def compile {α : Type} (work : Bindings → Work α) : Run α := do
  let world ← get
  let (outcome, workshop) := (work world.compilerBindings).run ⟨world.compiler, world.registry⟩
  set { world with compiler := workshop.compiler, registry := workshop.registry }
  accept outcome

/-- Has a compiler for this one time do a piece of work. -/
def compileApart {α : Type} (work : Bindings → Work α) : Run α := do
  let world ← get
  let (outcome, workshop) :=
    (work world.currentBindings).run ⟨.fresh world.options, world.registry⟩
  set { world with registry := workshop.registry }
  accept outcome

/-- Compiles a text and makes the classes known that come of it. -/
def compileText (subject : Subject) (source home : String) (apart : Bool) : Run Value := do
  let compile {α : Type} (work : Bindings → Work α) : Run α :=
    if apart then compileApart work else compile work
  match subject with
  | .machine fallible => do
    let kind ← compile (Work.compileMachine · fallible home source)
    enroll kind
    return .cls kind
  | .document => do
    let made ← compile (Work.compileDocument · home source)
    made.forM fun entry => enroll entry.2
    return .list (made.map fun entry => .list [.text entry.1, .cls entry.2])
  | .messages => do return .cls (← compile (Work.compileMessages · source))

/-- Gives messages to a machine class. -/
def attach (source kind : String) : Run Value := do
  let kind ← namedClass kind
  let decl ← compileApart fun _ => Work.readMessages source
  let _ ← tableOf kind
  return .cls (← compileApart (Work.attachDecl · kind decl))

/-- Compiles a machine that was read before, with its remark, whether or not remarks are wanted. -/
def build (source : String) : Run Value := do
  let machine ← accept ((Machine.ofText false source).mapError .rejected)
  let kind ← compile fun bindings => do
    Work.record (machine.unreachableRemark.toList.map LogRecord.warning)
    Work.build bindings "user" machine
  enroll kind
  return .cls kind

/-- A machine that the compiler made. -/
def machineNamed (name : String) : Run Value := do
  match (← get).compiler.made.lookup name with
  | some kind => return .cls kind
  | none => raiseText .keyError name

/-! ## 5. Sinks -/

/-- The sink of a name, made now if it is new. -/
def sinkNamed (name : String) (failsOn : Option String) : Run Sink := do
  match (← get).sinks.find? (·.name == name) with
  | some sink => return sink
  | none => do
    let sink : Sink := ⟨name, failsOn⟩
    modify fun world => { world with sinks := sink :: world.sinks }
    return sink

/-- Sends the trace to a sink, unless it goes to another one. -/
def useSink (name : String) (failsOn : Option String) : Run Unit := do
  let sink ← sinkNamed name failsOn
  match (← get).sink with
  | some other =>
    if other.name = sink.name then return ()
    else
      raiseText .valueError ("A trace sink is already registered: <sink " ++ other.name ++ ">")
  | none => modify fun world => { world with sink := some sink }

/-! ## 6. Directives -/

/-- Carries out a directive. -/
def direct : Directive → Run Reply
  | .freshBindings linked => do
    modify fun world =>
      { world with
        bindings := .empty []
        linked := linked
        compiler := .fresh world.options
        bound := true }
    return .value .null
  | .freshCompiler options bound => do
    modify fun world =>
      { world with compiler := .fresh (options.getD world.options), bound := bound }
    return .value .null
  | .logLevel level => do
    modify fun world =>
      { world with
        registry := { world.registry with log := { world.registry.log with threshold := level } } }
    return .value .null
  | .useSink name failsOn => do
    useSink name failsOn
    return .value (.bool true)
  | .dropSink => do
    modify fun world => { world with sink := none }
    return .value .null
  | .askSink => do
    match (← get).sink with
    | some sink => return .value (.text ("<sink " ++ sink.name ++ ">"))
    | none => return .value .null
  | .trace machine grain action detail flags => do
    report (grain.enabled flags) (traceLine machine action detail)
    return .value .null
  | .bindState name kind => do
    let kind ← namedClass kind
    addType ((name.filter fun name => !name.isEmpty).getD kind.name) (.cls kind)
    return .value (.cls kind)
  | .resolve role source => do return .value (← resolve role source)
  | .hasCallback state payload direction => do
    let key := Bindings.messageKey (← typeName state) (← typeName payload)
    return .value (.bool ((← get).bindings.messageCallback? direction key).isSome)
  | .compile subject source home apart => do
    let home := if apart then none else home.filter fun home => !home.isEmpty
    return .value (← compileText subject source (home.getD "user") apart)
  | .attach source kind => do return .value (← attach source kind)
  | .build source => do return .value (← build source)
  | .machineNamed name => do return .value (← machineNamed name)
  | .table kind => do
    let kind ← namedClass kind
    let table ← tableOf kind
    return .table table ((← get).registry.channels? kind)
  | .tagsFor kind target => do
    let table ← tableOf (← namedClass kind)
    let tags ← accept (table.tagsFor (← designator target))
    return .value (.list (tags.map .text))

end Run

end MachineSpec.Scenario
