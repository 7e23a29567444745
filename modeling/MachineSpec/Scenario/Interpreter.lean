/-
MachineSpec.Scenario.Interpreter — the effects of expressions, programs and steps.

Programs are interpreted by recursion on their structure. The only way in which a
program can run again is a call of a routine, which is a parameter. `invoke` defines it
level by level: at each level routines are called at the level below, and at the bottom
calls fail. So every scenario ends.

A program returns its result; without a return the result is `null`.
-/
import MachineSpec.Scenario.Conduct

namespace MachineSpec.Scenario

/-- What a program has at hand. -/
structure Frame where
  data : Value
  argument : Value

/-- The frame of a step that is part of no program. -/
def Frame.empty : Frame := ⟨.null, .null⟩

/-- How deep calls of routines can be in one another. -/
def callLimit : Nat := 150

/-! ## 1. Sums -/

/-- That two values cannot be added. -/
def noSum (first second : Value) : String :=
  match first with
  | .text _ =>
    "can only concatenate str (not \"" ++ second.kind.name ++ "\") to str"
  | .list _ => "can only concatenate list (not \"" ++ second.kind.name ++ "\") to list"
  | _ =>
    "unsupported operand type(s) for +: '" ++ first.kind.name ++ "' and '" ++ second.kind.name ++ "'"

/-- The sum of two values; `null` counts as zero. -/
def sum (first second : Value) : Option Value :=
  match first, second with
  | .null, amount => sum? (.int 0) amount
  | .text a, .text b => some (.text (a ++ b))
  | .list a, .list b => some (.list (a ++ b))
  | _, _ => sum? first second
where
  /-- The sum of two numbers. -/
  sum? (first second : Value) : Option Value :=
    match first.whole?, second.whole? with
    | some m, some n => some (.int (m + n))
    | _, _ =>
      match first.number?, second.number? with
      | some m, some n => some (.float (m.add n))
      | _, _ => none

namespace Run

/-- Adds to a field of the data. What is no object has no fields, and nothing is added. -/
def increase (data : Value) (field : String) (amount : Value) : Run Unit := do
  let world ← get
  match world.entity? data with
  | none => return ()
  | some _ =>
    let old := world.field data field
    match sum old amount with
    | some new => modify fun world => world.setField data field new
    | none => raiseText .typeError (noSum old amount)

/-- Notes an exception that was caught; one that is not meant to be caught goes on. -/
def caught (exception : Value) : Run Unit := do
  if exception.isA .exception then
    modify fun world =>
      world.note (.text ("caught " ++ exception.kind.name ++ ": " ++ world.spoken exception))
  else throw exception

/-- Sets fields of a new object. -/
def furnish (made : Value) (fields : List (String × Value)) : Run Unit :=
  modify fun world =>
    fields.foldl (fun world entry => world.setField made entry.1 entry.2) world

/-- A callback for a function that is no program. -/
def deriveCallback (kind : String) : Run Callback := do return .construct (← namedClass kind)

end Run

/-! ## 2. Expressions, programs and steps -/

open Run in
mutual

/-- The value of an expression. -/
def evaluate (call : Caller) (frame : Frame) : Expr → Run Value
  | .literal value => return value
  | .list items => do return .list (← evaluateAll call frame items)
  | .field name => do return (← get).field frame.data name
  | .argumentField name => do return (← get).field frame.argument name
  | .data => return frame.data
  | .argument => return frame.argument
  | .variable name => read name
  | .cls name => do return .cls (← namedClass name)
  | .not e => do
    match ← evaluate call frame e with
    | .bool true => return .bool false
    | _ => return .bool true
  | .equal first second => do
    let a ← evaluate call frame first
    let b ← evaluate call frame second
    return .bool (a.equal b)
  | .atLeast e bound => do
    match (← evaluate call frame e).whole? with
    | some n => return .bool (bound ≤ n)
    | none => return .bool false
  | .isA e kind => do
    let value ← evaluate call frame e
    return .bool (value.isA (← namedClass kind))
  | .words e => do
    let value ← evaluate call frame e
    return .text ((← get).spoken value)
  | .perform step => do return (← perform call frame step).toValue
  | .bundle entries => do return .bundle (← evaluateEntries call frame entries)
  | .make kind arguments fields => do
    let kind ← evaluate call frame kind
    let arguments ← evaluateAll call frame arguments
    let made ← callValue call kind arguments
    furnish made (← evaluateEntries call frame fields)
    return made

/-- The values of several expressions, in their order. -/
def evaluateAll (call : Caller) (frame : Frame) : List Expr → Run (List Value)
  | [] => return []
  | e :: rest => do
    let value ← evaluate call frame e
    let others ← evaluateAll call frame rest
    return value :: others

/-- The values of named expressions, in their order. -/
def evaluateEntries (call : Caller) (frame : Frame) :
    List (String × Expr) → Run (List (String × Value))
  | [] => return []
  | (name, e) :: rest => do
    let value ← evaluate call frame e
    let others ← evaluateEntries call frame rest
    return (name, value) :: others

/-- The callback that a function stands for. -/
def callback (call : Caller) (frame : Frame) : Function → Run Callback
  | .program body => do return .routine (← register body)
  | .derive kind => deriveCallback kind
  | .value e => do return .value (← evaluate call frame e)

/-- Runs a program to its end or to the first return, whose value is then the result. -/
def execute (call : Caller) (frame : Frame) : List Statement → Run (Option Value)
  | [] => return none
  | statement :: rest => do
    match ← executeOne call frame statement with
    | some result => return some result
    | none => execute call frame rest

/-- Runs one statement; the result is that of a return. -/
def executeOne (call : Caller) (frame : Frame) : Statement → Run (Option Value)
  | .log word => do
    modify (World.note (.text (frame.data.kind.name ++ "." ++ word)))
    return none
  | .note line => do
    modify (World.note (.text line))
    return none
  | .show e => do
    let value ← evaluate call frame e
    modify fun world => world.note (world.present value)
    return none
  | .set field e => do
    let value ← evaluate call frame e
    modify fun world => world.setField frame.data field value
    return none
  | .increase field e => do
    let amount ← evaluate call frame e
    increase frame.data field amount
    return none
  | .assign name e => do
    let value ← evaluate call frame e
    assign name value
    return none
  | .raise kind arguments => do
    let kind ← namedClass kind
    let arguments ← evaluateAll call frame arguments
    throw (← exceptionOf (← instantiate kind arguments))
  | .throw e => do throw (← exceptionOf (← evaluate call frame e))
  | .return e => do return some (← evaluate call frame e)
  | .perform step => do
    let _ ← perform call frame step
    return none
  | .branch condition yes no => do
    match ← evaluate call frame condition with
    | .bool true => execute call frame yes
    | _ => execute call frame no
  | .attempt block =>
    tryCatch (execute call frame block) fun exception => do
      caught exception
      return none

/-- Performs a step. -/
def perform (call : Caller) (frame : Frame) : Step → Run Reply
  | .directive directive => direct directive
  | .defineClass name base fields methods hidden => do
    let fields ← evaluateEntries call frame fields
    defineClass name base fields methods hidden
    return .value .null
  | .enter name e => do
    enter name (← evaluate call frame e)
    return .value .null
  | .assign name e => do
    let value ← evaluate call frame e
    assign name value
    return .value value
  | .evaluate e => do return .value (← evaluate call frame e)
  | .call program first second => do
    let first ← evaluate call frame first
    let second ← evaluate call frame second
    return .value ((← execute call ⟨first, second⟩ program).getD .null)
  | .addType name e => do
    let value ← evaluate call frame e
    addType name value
    return .value value
  | .addEdge source destination guard into action => do
    let guard ← callback call frame guard
    let into ← callback call frame into
    let action ← callback call frame action
    addEdge source destination guard into action
    return .value .null
  | .bind role function => do
    bind role (← callback call frame function)
    return .value (.bool true)
  | .probe machine source destination operand => do
    let operand ← evaluate call frame operand
    return .value (← probe call machine source destination operand)
  | .derive kind operand => do
    let _ ← evaluate call frame operand
    return .value (← derive kind)
  | .create kind name arguments => do
    create kind name (← evaluateAll call frame arguments)
    return .value .null
  | .operate machine wanted operand => do
    let machine ← evaluate call frame machine
    let operand ← evaluate call frame operand
    return .value (← order call machine wanted operand)

end

/-! ## 3. Calls -/

/-- Calls a routine, with so many levels of calls to go. -/
def invoke : Nat → Caller
  | 0, _, _, _ => Run.raiseText .recursionError "maximum recursion depth exceeded"
  | levels + 1, routine, data, argument => do
    match (← get).routines[routine]? with
    | some body => do
      let result ← execute (invoke levels) ⟨data, argument⟩ body
      return result.getD .null
    | none => return .null

end MachineSpec.Scenario
