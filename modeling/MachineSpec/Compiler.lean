/-
MachineSpec.Compiler — machine classes made of specifications.

A compiler remembers by name the machines it made, so that messages declared
later can be attached to them. What it makes is not its own: machine classes
and their channels are kept in a registry that all compilers share.

Compiling a document reads all of it before the first machine is made. But then
machines are made one by one, and each stays when a later one fails.
-/
import MachineSpec.Table.Generate
import MachineSpec.Channel

namespace MachineSpec

/-! ## 1. The registry -/

/-- A machine class: what it was compiled to, and where it belongs. -/
structure MachineClass where
  kind : Class
  home : String
  table : Table
deriving Repr

/-- The remark that goes with a machine class. -/
def MachineClass.remark (made : MachineClass) : String :=
  "State machine " ++ made.table.name ++ " starting in " ++ made.table.machine.initial.text ++ "."

/-- All machine classes, their channels, and the number for the next class. -/
structure Registry where
  nextClass : Nat
  machines : List MachineClass
  /-- Channels by the number of the class they were attached to, the newest first. -/
  channels : List (Nat × Channels)
  log : Log

namespace Registry

/-- The registry without machines. -/
def empty : Registry := ⟨Class.firstFree, [], [], .quiet⟩

/-- The machine class that a class is or extends. -/
def machine? (registry : Registry) (kind : Class) : Option MachineClass :=
  kind.lineage.findSome? fun layer => registry.machines.find? (·.kind.id == layer.id)

/-- The table that machines of a class run by. -/
def table? (registry : Registry) (kind : Class) : Option Table :=
  (registry.machine? kind).map MachineClass.table

/-- The channels of machines of a class. -/
def channels? (registry : Registry) (kind : Class) : Option Channels :=
  kind.lineage.findSome? fun layer => registry.channels.lookup layer.id

/-- The registry with a number for one more class, and that number. -/
def newNumber (registry : Registry) : Nat × Registry :=
  (registry.nextClass, { registry with nextClass := registry.nextClass + 1 })

/-- The registry with more records in its log. -/
def record (registry : Registry) (entries : List LogRecord) : Registry :=
  { registry with log := registry.log.addAll entries }

end Registry

/-! ## 2. Compilers -/

/-- What can be chosen about compilation. -/
structure Options where
  flags : TraceFlags
  warnUnreachable : Bool
  checkTypes : Bool
deriving DecidableEq, Repr

/-- What is chosen if nothing is said. -/
def Options.default : Options := ⟨⟨false, false, false⟩, true, true⟩

/-- A compiler and the machines it made. -/
structure Compiler where
  options : Options
  made : List (String × Class)

/-- A compiler that made nothing yet. -/
def Compiler.fresh (options : Options) : Compiler := ⟨options, []⟩

/-- A compiler and the registry that it works on. -/
structure Workshop where
  compiler : Compiler
  registry : Registry

/-- A piece of work: it changes the workshop, also where it fails. -/
abbrev Work := ExceptT Error (StateM Workshop)

namespace Work

/-- Makes records. -/
def record (entries : List LogRecord) : Work Unit :=
  modify fun workshop => { workshop with registry := workshop.registry.record entries }

/-- Warns of unreachable states, if warnings are wanted. -/
def warn (remarks : List String) : Work Unit := do
  if (← get).compiler.options.warnUnreachable then record (remarks.map LogRecord.warning)
  else return ()

/-! ## 3. Machines -/

/-- A class for a table. -/
def define (table : Table) (home : String) : Work Class := do
  let (number, registry) := (← get).registry.newNumber
  let kind := Class.stateMachine.extend ⟨number, table.name, home ++ "." ++ table.name, []⟩
  modify fun workshop =>
    { compiler := { workshop.compiler with made := (table.name, kind) :: workshop.compiler.made }
      registry := { registry with machines := ⟨kind, home, table⟩ :: registry.machines } }
  return kind

/-- The record of a machine that was compiled. -/
def compiledRecord (machine : Machine) : LogRecord :=
  let sort := if machine.fallible then "fallible" else "non-fallible"
  ⟨.info, .compiler, "Compiled " ++ sort ++ " machine " ++ machine.name ++ " with " ++
    toString machine.states.length ++ " states"⟩

/-- Makes the class of a checked machine. -/
def build (bindings : Bindings) (home : String) (machine : Machine) : Work Class := do
  let compiler := (← get).compiler
  if (compiler.made.lookup machine.name).isSome then throw (.alreadyCompiled machine.name)
  else do
    let (records, generated) :=
      Table.generate bindings compiler.options.flags compiler.options.checkTypes machine
    record records
    let table ← generated
    let kind ← define table home
    record [compiledRecord machine]
    return kind

/-- The machine that a text declares, with a warning if it is due. -/
def readMachine (fallible : Bool) (source : String) : Work Machine := do
  let machine ← (Machine.ofText fallible source).mapError fun why => Error.rejected why
  warn machine.unreachableRemark.toList
  return machine

/-- Makes the class of the machine that a text declares. -/
def compileMachine (bindings : Bindings) (fallible : Bool) (home source : String) :
    Work Class := do
  let machine ← readMachine fallible source
  build bindings home machine

/-! ## 4. Messages -/

/-- The record of messages that were attached. -/
def attachedRecord (messages : Messages) : LogRecord :=
  ⟨.info, .compiler, "Attached " ++ toString messages.messages.length ++
    " message channels to " ++ messages.machine⟩

/-- Gives a machine class its channels. A class has them once, also if it inherits them. -/
def attach (bindings : Bindings) (kind : Class) (table : Table) (messages : Messages) :
    Work Class := do
  if ((← get).registry.channels? kind).isSome then throw (.alreadyAttached messages.machine)
  else do
    let channels ← Channels.ofMessages bindings table messages
    modify fun workshop =>
      { workshop with registry :=
          { workshop.registry with
            channels := (kind.id, channels) :: workshop.registry.channels } }
    record [attachedRecord messages]
    return kind

/-- The table of a class that the registry knows. -/
def tableOf (kind : Class) : Work Table := do
  match (← get).registry.table? kind with
  | some table => return table
  | none => throw (.notCompiled kind.name)

/-- Gives the messages that a declaration describes to a machine class. -/
def attachDecl (bindings : Bindings) (kind : Class) (decl : MessagesDecl) : Work Class := do
  let table ← tableOf kind
  let messages ← (Messages.ofDecl table.machine decl).mapError fun offence =>
    Error.rejected (.invalid offence)
  attach bindings kind table messages

/-- The messages that a text declares, not checked yet. -/
def readMessages (source : String) : Work MessagesDecl := do
  (MessagesDecl.ofText source).mapError fun error => Error.rejected (.malformed error)

/-- Gives the messages that a text declares to the machine they name. -/
def compileMessages (bindings : Bindings) (source : String) : Work Class := do
  let decl ← readMessages source
  match (← get).compiler.made.lookup decl.name with
  | none => throw (.notCompiled decl.name)
  | some kind => attachDecl bindings kind decl

/-! ## 5. Documents -/

/-- Makes the classes of several machines, one after another. -/
def buildAll (bindings : Bindings) (home : String) :
    List Machine → Work (List (String × Class))
  | [] => return []
  | machine :: rest => do
    let kind ← build bindings home machine
    let others ← buildAll bindings home rest
    return (machine.name, kind) :: others

/-- Gives machines that were just made their messages. -/
def attachAll (bindings : Bindings) (made : List (String × Class)) :
    List Messages → Work Unit
  | [] => return ()
  | messages :: rest => do
    match made.lookup messages.machine with
    | none => throw (.notCompiled messages.machine)
    | some kind => do
      let table ← tableOf kind
      let _ ← attach bindings kind table messages
      attachAll bindings made rest

/-- Makes the classes of all machines of a document and gives them their messages. -/
def compileDocument (bindings : Bindings) (home source : String) :
    Work (List (String × Class)) := do
  let (document, refused) := Document.read source
  warn document.remarks
  match refused with
  | some why => throw (.rejected why)
  | none => do
    let made ← buildAll bindings home document.machines
    attachAll bindings made document.messages
    return made

end Work

end MachineSpec
