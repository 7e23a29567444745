/-
MachineSpec.Scenario.Program — the language in which scenarios are written.

A scenario sets up bindings, compiles machines and drives them, one step after
another. The callbacks of its machines are small programs. A program runs with
two values at hand: the data it is called upon and the argument of the call.
Steps and programs can hold each other: a program can perform a step, and a step
can register a program.

Names of classes and of variables are looked up when they are reached and not
before, so a program may mention what is defined only later.
-/
import MachineSpec.Compiler

namespace MachineSpec.Scenario

/-! ## 1. Parts without programs -/

/-- A way to point out a state or a payload: by a text or by a class of the given name. -/
inductive Target where
  | text (name : String)
  | cls (name : String)
deriving DecidableEq, Repr

/-- The name of a state: a text that has to be read, or a name with its arguments. -/
inductive StateKey where
  | text (source : String)
  | type (name : TypeName)
deriving DecidableEq, Repr

/-- What a callback is bound as. -/
inductive Role where
  | guard (source destination : StateKey)
  | into (source destination : StateKey)
  | action (source destination : StateKey)
  | intoAny (destination : StateKey)
  | receiver (state : StateKey) (payload : String)
  | producer (state : StateKey) (payload : String)
deriving DecidableEq, Repr

/-- What a text is compiled as. -/
inductive Subject where
  | machine (fallible : Bool)
  | document
  | messages
deriving DecidableEq, Repr

/-- A grain of the trace. -/
inductive Grain where
  | life
  | steps
  | messages
deriving DecidableEq, Repr

/-- Whether a grain is switched on. -/
def Grain.enabled (flags : TraceFlags) : Grain → Bool
  | .life => flags.life
  | .steps => flags.steps
  | .messages => flags.messages

/-- What is done without the value of any expression. -/
inductive Directive where
  /-- To begin with new bindings and a new compiler. -/
  | freshBindings (linked : Bool)
  /-- To begin with a new compiler. -/
  | freshCompiler (options : Option Options) (bound : Bool)
  /-- To set the lowest level of records that are kept. -/
  | logLevel (level : LogLevel)
  /-- To send the trace to the sink of a name, which is made if it is new. -/
  | useSink (name : String) (failsOn : Option String)
  /-- To send the trace nowhere. -/
  | dropSink
  /-- To ask for the sink in use. -/
  | askSink
  /-- To report one line. -/
  | trace (machine : String) (grain : Grain) (action detail : String) (flags : TraceFlags)
  /-- To bind a class to a type name, which is its own name if none is given. -/
  | bindState (name : Option String) (kind : String)
  /-- To ask what a type name is bound to, in a role if one is given. -/
  | resolve (role : Option TypeRole) (source : String)
  /-- To ask whether a passage has a callback of its own. -/
  | hasCallback (state payload : String) (direction : Direction)
  /-- To compile a text; `apart` means with a compiler for this one time. -/
  | compile (subject : Subject) (source : String) (home : Option String) (apart : Bool)
  /-- To give messages to a machine class, with a compiler for this one time. -/
  | attach (source : String) (kind : String)
  /-- To compile a machine that was read before. -/
  | build (source : String)
  /-- To ask for a machine that the compiler made. -/
  | machineNamed (name : String)
  /-- To look at the table of a machine class. -/
  | table (kind : String)
  /-- To ask for the tags that a target points out. -/
  | tagsFor (kind : String) (target : Target)
deriving Repr

/-- What is done with a machine, perhaps with the value of an operand. -/
inductive Order where
  /-- To start it with the operand. -/
  | start
  | step
  | stop
  | reset
  | peek
  | isState (target : Target)
  /-- To ask the snapshot of the machine for its state. -/
  | activeIs (target : Target)
  /-- To push the operand. -/
  | push (target : Target)
  | poll (target payload : Target)
  /-- To put the operand into a field of the machine's data, behind its back. -/
  | poke (field : String)
deriving DecidableEq, Repr

/-- The name under which an order is looked up in the machine. -/
def Order.method : Order → String
  | .start => "start"
  | .step => "step"
  | .stop => "stop"
  | .reset => "reset"
  | .peek | .activeIs _ | .poke _ => "peek_state"
  | .isState _ => "is_state"
  | .push _ => "push_message"
  | .poll .. => "poll_message"

/-! ## 2. Programs and steps -/

mutual

/-- What stands in the place of a value. -/
inductive Expr where
  | literal (value : Value)
  | list (items : List Expr)
  /-- A field of the data. -/
  | field (name : String)
  /-- A field of the argument. -/
  | argumentField (name : String)
  | data
  | argument
  | variable (name : String)
  | cls (name : String)
  /-- Whether the value is anything but true. -/
  | not (value : Expr)
  | equal (first second : Expr)
  /-- Whether the value is a whole number of at least the bound. -/
  | atLeast (value : Expr) (bound : Int)
  | isA (value : Expr) (kind : String)
  /-- The value as a text. -/
  | words (value : Expr)
  /-- The result of a step. -/
  | perform (step : Step)
  /-- A collection of named values. -/
  | bundle (entries : List (String × Expr))
  /-- A new object of a class, and the fields that are set once it is made. -/
  | make (kind : Expr) (arguments : List Expr) (fields : List (String × Expr))

/-- What a class has under a name: a program, or a value that cannot be called. -/
inductive Method where
  | program (body : List Statement)
  | constant (value : Constant)

/-- What stands in the place of a callback. -/
inductive Function where
  | program (body : List Statement)
  /-- The conversion that makes a new object of a class. -/
  | derive (kind : String)
  | value (value : Expr)

/-- A statement of a program. -/
inductive Statement where
  /-- Notes the class of the data and a word. -/
  | log (word : String)
  | note (line : String)
  /-- Notes a value as it is now. -/
  | show (value : Expr)
  /-- Sets a field of the data. -/
  | set (field : String) (value : Expr)
  /-- Adds to a field of the data. -/
  | increase (field : String) (amount : Expr)
  | assign (name : String) (value : Expr)
  /-- Raises a new exception of a class. -/
  | raise (kind : String) (arguments : List Expr)
  /-- Raises an exception that there is. -/
  | throw (value : Expr)
  | return (value : Expr)
  | perform (step : Step)
  /-- Goes one way if the value is exactly true and the other if not. -/
  | branch (condition : Expr) (yes no : List Statement)
  /-- Runs a block and notes an exception that ends it. -/
  | attempt (block : List Statement)

/-- A step of a scenario. -/
inductive Step where
  | directive (directive : Directive)
  /-- To define a class. A hidden class does not get into the namespace. -/
  | defineClass (name base : String) (fields : List (String × Expr))
      (methods : List (String × Method)) (hidden : Bool)
  /-- To put a value into the namespace. -/
  | enter (name : String) (value : Expr)
  | assign (name : String) (value : Expr)
  | evaluate (value : Expr)
  | call (program : List Statement) (data argument : Expr)
  /-- To bind a value to a type name. -/
  | addType (name : String) (value : Expr)
  /-- To bind the callbacks of a transition. -/
  | addEdge (source destination : StateKey) (guard into action : Function)
  /-- To bind one callback. -/
  | bind (role : Role) (callback : Function)
  /-- To look up the callbacks of a transition and to call each on the data. -/
  | probe (machine source destination : String) (data : Expr)
  /-- To ask a conversion that makes new objects for its name, and to call it on the data. -/
  | derive (kind : String) (data : Expr)
  /-- To make a machine, of nothing or of its first data, and to keep it in a variable. -/
  | create (kind : String) (name : String) (arguments : List Expr)
  /-- To give an order to a machine. -/
  | operate (machine : Expr) (order : Order) (operand : Expr)

end

/-- A program. -/
abbrev Program := List Statement

/-- The expression for nothing. -/
def Expr.nothing : Expr := .literal .null

instance : Inhabited Expr := ⟨.nothing⟩

instance : Inhabited Method := ⟨.constant .null⟩

instance : Inhabited Function := ⟨.value .nothing⟩

instance : Inhabited Statement := ⟨.return .nothing⟩

instance : Inhabited Step := ⟨.evaluate .nothing⟩

/-- The variable whose machine a step is about. -/
def Step.variable? : Step → Option String
  | .create _ name _ => some name
  | .operate (.variable name) _ _ => some name
  | _ => none

end MachineSpec.Scenario
