/-
MachineSpec.CommandLine — what the program answers to its arguments.

    [--log-level debug|info|warn|error] check FILE
    [--log-level debug|info|warn|error] graph [--machine NAME] FILE
    --version

`check` summarises the machines of a document, `graph` draws one of them, the
first unless another is named. A document that is refused, a document without a
machine to draw and a machine that it does not have are failures with exit
code 1; arguments that make no sense, and a file that cannot be read, are
misuse with exit code 2.

Everything here is a function of the arguments and of the text of the file.
-/
import MachineSpec.Graph.Reading
import MachineSpec.Log
import MachineSpec.Report.Dot

namespace MachineSpec.CommandLine

/-! ## 1. Arguments -/

/-- What to do with a document. -/
inductive Action where
  /-- Summarise it. -/
  | check
  /-- Draw one of its machines. -/
  | graph (machine : Option String)
deriving DecidableEq, Repr

/-- What the arguments ask for. -/
inductive Request where
  /-- The version of the program. -/
  | version
  /-- A report on the document in a file. -/
  | report (threshold : LogLevel) (action : Action) (file : String)
deriving DecidableEq, Repr

/-- The log level of the given name, in whatever case. -/
def level? (word : String) : Option LogLevel :=
  match word.toLower with
  | "debug" => some .debug
  | "info" => some .info
  | "warn" => some .warning
  | "error" => some .error
  | _ => none

/-- Whether an argument is an option. A single hyphen is none. -/
def isOption (argument : String) : Bool :=
  match argument.toList with
  | '-' :: _ :: _ => true
  | _ => false

/-- The value of an option that is written in one argument, such as `--machine=M`. -/
def inlineValue? (option argument : String) : Option String :=
  let start := (option ++ "=").toList
  if start.isPrefixOf argument.toList then some (String.ofList (argument.toList.drop start.length))
  else none

/-- What stands behind a command: the value of its one option and the other arguments. The last
    value given counts; behind two hyphens nothing is an option. -/
def operands? (option : Option String) : (value : Option String) → (others : List String) →
    List String → Option (Option String × List String)
  | value, others, [] => some (value, others)
  | value, others, argument :: rest =>
    if argument = "--" then some (value, others ++ rest)
    else if !isOption argument then operands? option value (others ++ [argument]) rest
    else if some argument = option then
      match rest with
      | [] => none
      | given :: rest => operands? option (some given) others rest
    else
      match option.bind (inlineValue? · argument) with
      | some given => operands? option (some given) others rest
      | none => none

/-- The report that a command and what stands behind it ask for. -/
def report? (threshold : LogLevel) : List String → Option Request
  | "check" :: rest =>
    match operands? none none [] rest with
    | some (_, [file]) => some (.report threshold .check file)
    | _ => none
  | "graph" :: rest =>
    match operands? (some "--machine") none [] rest with
    | some (machine, [file]) => some (.report threshold (.graph machine) file)
    | _ => none
  | _ => none

/-- What all arguments ask for, given the log level and whether the version was asked for so far. -/
def requestWith? (level : String) (version : Bool) : List String → Option Request
  | [] => if version then some .version else none
  | argument :: rest =>
    if argument = "--version" then requestWith? level true rest
    else if argument = "--log-level" then
      match rest with
      | [] => none
      | given :: rest => requestWith? given version rest
    else
      match inlineValue? "--log-level" argument with
      | some given => requestWith? given version rest
      | none =>
        if isOption argument && argument != "--" then none
        else if version then some .version
        else
          let command := if argument = "--" then rest else argument :: rest
          (level? level).bind (report? · command)

/-- What the arguments ask for, if they make sense. -/
def request? (arguments : List String) : Option Request := requestWith? "warn" false arguments

/-! ## 2. Answers -/

/-- What the program leaves behind. -/
structure Outcome where
  exitCode : Nat
  output : String
  errors : String
deriving DecidableEq, Repr

/-- Misuse. What is printed about it is up to the shell the program runs in. -/
def Outcome.misuse : Outcome := ⟨2, "", ""⟩

/-- Lines, each with its end. -/
def unlines (lines : List String) : String := String.join (lines.map (· ++ "\n"))

/-- A text with every line end, of whatever convention, made a line feed. -/
def unifyLineEnds : List Char → List Char
  | [] => []
  | ['\r'] => ['\n']
  | '\r' :: '\n' :: rest => '\n' :: unifyLineEnds rest
  | c :: rest => (if c = '\r' then '\n' else c) :: unifyLineEnds rest

/-- A path as messages show it: without empty steps and steps on the spot. -/
def shownPath (path : String) : String :=
  let steps := (path.splitOn "/").filter fun step => step != "" && step != "."
  let root := if path.startsWith "/" then "/" else ""
  if root = "" && steps.isEmpty then "." else root ++ String.intercalate "/" steps

/-- The answer to a request about a document: its lines, or why there is no answer. -/
def answer (document : Document) (file : String) : Action → Except String (List String)
  | .check =>
    .ok (document.summary ++
      [file ++ ": " ++ toString document.machines.length ++ " machine(s) OK"])
  | .graph name =>
    match document.machines with
    | [] => .error "no machine declared"
    | first :: _ =>
      match name with
      | none => .ok [first.dot]
      | some name =>
        match document.machine? name with
        | some machine => .ok [machine.dot]
        | none => .error ("no machine named " ++ name)

/-- The outcome of a report on a file that holds the given text. -/
def outcome (threshold : LogLevel) (action : Action) (path source : String) : Outcome :=
  let file := shownPath path
  let (document, refused) := Document.read (String.ofList (unifyLineEnds source.toList))
  let log := (Log.mk threshold []).addAll (document.remarks.map LogRecord.warning)
  let result : Except String (List String) := match refused with
    | some rejection => .error rejection.message
    | none => answer document file action
  match result with
  | .ok lines => ⟨0, unlines lines, unlines log.lines⟩
  | .error reason => ⟨1, "", unlines (log.lines ++ ["Error: " ++ file ++ ": " ++ reason])⟩

/-- The name and the version of the program. -/
def versionLine : String := "fsmc, version 0.1.0"

/-- The outcome of the program, given how to look up the text of a file that can be read. -/
def run (arguments : List String) (read : String → Option String) : Outcome :=
  match request? arguments with
  | none => .misuse
  | some .version => ⟨0, unlines [versionLine], ""⟩
  | some (.report threshold action path) =>
    match read path with
    | none => .misuse
    | some source => outcome threshold action path source

end MachineSpec.CommandLine
