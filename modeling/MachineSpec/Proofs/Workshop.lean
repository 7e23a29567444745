/-
MachineSpec.Proofs.Workshop — compilation without the log.

A piece of work may fail, and what it did until then stays. For each piece of work this
module gives a function on workshops: `Workshop.build` and its like return a result and the
next workshop, or an error. Work that makes one machine class or attaches the messages of
one machine is equal to such a function (`outcome_build` and its like), so it is done as a
whole or not at all. Work on several things is `Workshop.advance`: one after another, and if
one fails, those before it stay done.

Log records are left out. They are written also by work that fails, and no work depends on
them (`Deaf`).
-/
import MachineSpec.Compiler
import MachineSpec.Proofs.Generation

namespace MachineSpec

variable {α β : Type}

/-! ## 1. Workshops -/

namespace Workshop

/-- The workshop with nothing in its log. -/
def unlogged (w : Workshop) : Workshop := { w with registry := { w.registry with log := .quiet } }

@[simp] theorem unlogged_unlogged {w : Workshop} : w.unlogged.unlogged = w.unlogged := rfl

/-- The end of work that is done as a whole or not at all. -/
def settle (w : Workshop) : Except Error (α × Workshop) → Except Error α × Workshop
  | .error error => (.error error, w.unlogged)
  | .ok (a, w') => (.ok a, w'.unlogged)

/-- The class that is made for a table next. -/
def nextKind (w : Workshop) (home : String) (table : Table) : Class :=
  Class.stateMachine.extend
    ⟨w.registry.nextClass, table.name, home ++ "." ++ table.name, []⟩

/-- The workshop with a class for a table. -/
def defined (w : Workshop) (home : String) (table : Table) : Workshop where
  compiler := { w.compiler with made := (table.name, w.nextKind home table) :: w.compiler.made }
  registry :=
    { w.registry with
      nextClass := w.registry.nextClass + 1
      machines := ⟨w.nextKind home table, home, table⟩ :: w.registry.machines }

/-- The workshop with channels for a class. -/
def equipped (w : Workshop) (kind : Class) (channels : Channels) : Workshop where
  compiler := w.compiler
  registry := { w.registry with channels := (kind.id, channels) :: w.registry.channels }

variable (w : Workshop) (bindings : Bindings) (home : String)

/-- The class of a checked machine, and the workshop with it. -/
def build (machine : Machine) : Except Error (Class × Workshop) :=
  if (w.compiler.made.lookup machine.name).isSome then .error (.alreadyCompiled machine.name)
  else do
    let table ← (Table.generate bindings w.compiler.options.flags
      w.compiler.options.checkTypes machine).2
    return (w.nextKind home table, w.defined home table)

/-- A class with its channels, and the workshop with them. -/
def attach (kind : Class) (table : Table) (messages : Messages) :
    Except Error (Class × Workshop) :=
  if (w.registry.channels? kind).isSome then .error (.alreadyAttached messages.machine)
  else do
    let channels ← Channels.ofMessages bindings table messages
    return (kind, w.equipped kind channels)

/-- The table of a class. -/
def tableOf (kind : Class) : Except Error Table :=
  match w.registry.table? kind with
  | some table => .ok table
  | none => .error (.notCompiled kind.name)

/-- The machine that a compiler made under a name. -/
def madeUnder (name : String) : Except Error Class :=
  match w.compiler.made.lookup name with
  | some kind => .ok kind
  | none => .error (.notCompiled name)

/-- What one declaration comes to, if it is compiled for itself. -/
def declare : Declaration → Except Error (Class × Workshop)
  | .machine decl => do
    let machine ← (Machine.ofDecl decl).mapError fun offence => Error.rejected (.invalid offence)
    w.build bindings home machine
  | .messages decl => do
    let kind ← w.madeUnder decl.name
    let table ← w.tableOf kind
    let messages ← (Messages.ofDecl table.machine decl).mapError fun offence =>
      Error.rejected (.invalid offence)
    w.attach bindings kind table messages

/-- The messages of one machine of a document, where the machines were just made. -/
def equip (made : List (String × Class)) (messages : Messages) : Except Error (Class × Workshop) :=
  match made.lookup messages.machine with
  | none => .error (.notCompiled messages.machine)
  | some kind => do
    let table ← w.tableOf kind
    w.attach bindings kind table messages

/-- One machine of a document. -/
def named (machine : Machine) : Except Error ((String × Class) × Workshop) := do
  let (kind, w') ← w.build bindings home machine
  return ((machine.name, kind), w')

/-- Several steps, up to the first that fails. -/
def advance (step : Workshop → α → Except Error (β × Workshop)) :
    Workshop → List α → Except Error (List β) × Workshop
  | w, [] => (.ok [], w)
  | w, a :: rest =>
    match step w a with
    | .error error => (.error error, w)
    | .ok (b, w') => ((advance step w' rest).1.map (b :: ·), (advance step w' rest).2)

/-- Machines, one after another. -/
def buildAll (machines : List Machine) : Except Error (List (String × Class)) × Workshop :=
  advance (fun w => w.named bindings home) w machines

/-- Messages of machines that were just made, one after another. -/
def equipAll (made : List (String × Class)) (messages : List Messages) :
    Except Error (List Class) × Workshop :=
  advance (fun w => w.equip bindings made) w messages

/-- All that a document declares: first the machines, and then the messages. -/
def compile (document : Document) : Except Error (List (String × Class)) × Workshop :=
  match w.buildAll bindings home document.machines with
  | (.error error, w') => (.error error, w')
  | (.ok made, w') =>
    ((w'.equipAll bindings made document.messages).1.map fun _ => made,
      (w'.equipAll bindings made document.messages).2)

variable {w : Workshop} {step : Workshop → α → Except Error (β × Workshop)} {a : α} {rest : List α}

theorem advance_failed {error : Error} (failed : step w a = .error error) :
    advance step w (a :: rest) = (.error error, w) := by
  rw [advance, failed]

theorem advance_done {b : β} {w' : Workshop} (done : step w a = .ok (b, w')) :
    advance step w (a :: rest) =
      ((advance step w' rest).1.map (b :: ·), (advance step w' rest).2) := by
  rw [advance, done]

theorem advance_nil_iff {bs : List β} {w' : Workshop} :
    advance step w [] = (.ok bs, w') ↔ bs = [] ∧ w' = w := by
  rw [advance]
  constructor
  · rintro ⟨⟩
    exact ⟨rfl, rfl⟩
  · rintro ⟨rfl, rfl⟩
    rfl

theorem advance_cons_iff {bs : List β} {w'' : Workshop} :
    advance step w (a :: rest) = (.ok bs, w'') ↔ ∃ b w' others, step w a = .ok (b, w') ∧
      advance step w' rest = (.ok others, w'') ∧ bs = b :: others := by
  cases done : step w a with
  | error error =>
    rw [advance_failed done]
    simp
  | ok made =>
    obtain ⟨b, w'⟩ := made
    rw [advance_done done]
    rcases ends : advance step w' rest with ⟨error | others, t⟩
    · refine iff_of_false (by rintro ⟨⟩) ?_
      rintro ⟨_, _, _, ⟨⟩, ends', -⟩
      cases ends.symm.trans ends'
    · constructor
      · rintro ⟨⟩
        exact ⟨b, w', others, rfl, ends, rfl⟩
      · rintro ⟨_, _, _, ⟨⟩, ends', rfl⟩
        cases ends.symm.trans ends'
        rfl

/-- What was done before the last step was done as well without it. -/
theorem advance_snoc_iff {before : List α} {bs : List β} {w' : Workshop} :
    advance step w (before ++ [a]) = (.ok bs, w') ↔ ∃ cs t b, advance step w before = (.ok cs, t) ∧
      step t a = .ok (b, w') ∧ bs = cs ++ [b] := by
  induction before generalizing w bs with
  | nil =>
    simp only [List.nil_append, advance_cons_iff, advance_nil_iff]
    constructor
    · rintro ⟨b, t, _, done, ⟨rfl, rfl⟩, rfl⟩
      exact ⟨[], w, b, ⟨rfl, rfl⟩, done, rfl⟩
    · rintro ⟨_, _, b, ⟨rfl, rfl⟩, done, rfl⟩
      exact ⟨b, w', [], done, ⟨rfl, rfl⟩, rfl⟩
  | cons first rest ih =>
    simp only [List.cons_append, advance_cons_iff, ih]
    constructor
    · rintro ⟨b, t, _, done, ⟨cs, u, c, others, last, rfl⟩, rfl⟩
      exact ⟨b :: cs, u, c, ⟨b, t, cs, done, others, rfl⟩, last, rfl⟩
    · rintro ⟨_, u, c, ⟨b, t, cs, done, others, rfl⟩, last, rfl⟩
      exact ⟨b, t, cs ++ [c], done, ⟨cs, u, c, others, last, rfl⟩, rfl⟩

/-- Steps that end with an error were done up to the one that failed. -/
theorem advance_error {all : List α} {error : Error} {w' : Workshop}
    (failed : advance step w all = (.error error, w')) :
    ∃ before a after bs, all = before ++ a :: after ∧ advance step w before = (.ok bs, w') ∧
      step w' a = .error error := by
  induction all generalizing w with
  | nil => cases failed
  | cons first rest ih =>
    cases done : step w first with
    | error other =>
      rw [advance_failed done] at failed
      cases failed
      exact ⟨[], first, rest, [], rfl, rfl, done⟩
    | ok made =>
      obtain ⟨b, t⟩ := made
      rw [advance_done done] at failed
      rcases ends : advance step t rest with ⟨other | others, u⟩
      · rw [ends] at failed
        cases failed
        obtain ⟨before, a, after, bs, rfl, sofar, fails⟩ := ih ends
        exact ⟨first :: before, a, after, b :: bs, rfl,
          advance_cons_iff.mpr ⟨b, t, bs, done, sofar, rfl⟩, fails⟩
      · rw [ends] at failed
        cases failed

/-! ## 2. Work that succeeds -/

variable {bindings : Bindings} {home : String} {w' : Workshop} {kind other : Class}

/-- A machine class is made if there is none of the name and its table can be generated. -/
theorem build_ok_iff {machine : Machine} :
    w.build bindings home machine = .ok (kind, w') ↔
      w.compiler.made.lookup machine.name = none ∧
      ∃ table, (Table.generate bindings w.compiler.options.flags
          w.compiler.options.checkTypes machine).2 = .ok table ∧
        kind = w.nextKind home table ∧ w' = w.defined home table := by
  unfold build
  cases w.compiler.made.lookup machine.name with
  | some taken => simp
  | none =>
    rw [if_neg (by simp)]
    constructor
    · intro made
      obtain ⟨table, generated, same⟩ := Except.bind_eq_ok_iff.mp made
      cases same
      exact ⟨rfl, table, generated, rfl, rfl⟩
    · rintro ⟨-, table, generated, rfl, rfl⟩
      rw [generated]
      rfl

/-- A class gets channels if it has none and they can be made. -/
theorem attach_ok_iff {table : Table} {messages : Messages} :
    w.attach bindings kind table messages = .ok (other, w') ↔
      w.registry.channels? kind = none ∧
      ∃ channels, Channels.ofMessages bindings table messages = .ok channels ∧
        other = kind ∧ w' = w.equipped kind channels := by
  unfold attach
  cases w.registry.channels? kind with
  | some taken => simp
  | none =>
    rw [if_neg (by simp)]
    constructor
    · intro made
      obtain ⟨channels, attached, same⟩ := Except.bind_eq_ok_iff.mp made
      cases same
      exact ⟨rfl, channels, attached, rfl, rfl⟩
    · rintro ⟨-, channels, attached, rfl, rfl⟩
      rw [attached]
      rfl

theorem equip_ok_iff {made : List (String × Class)} {messages : Messages} :
    w.equip bindings made messages = .ok (kind, w') ↔ ∃ other table,
      made.lookup messages.machine = some other ∧ w.tableOf other = .ok table ∧
      w.attach bindings other table messages = .ok (kind, w') := by
  unfold equip
  cases made.lookup messages.machine with
  | none => simp
  | some other =>
    constructor
    · intro done
      obtain ⟨table, found, attached⟩ := Except.bind_eq_ok_iff.mp done
      exact ⟨other, table, rfl, found, attached⟩
    · rintro ⟨_, table, ⟨⟩, found, attached⟩
      exact Except.bind_eq_ok_iff.mpr ⟨table, found, attached⟩

theorem named_ok_iff {machine : Machine} {entry : String × Class} :
    w.named bindings home machine = .ok (entry, w') ↔
      entry.1 = machine.name ∧ w.build bindings home machine = .ok (entry.2, w') := by
  unfold named
  constructor
  · intro done
    obtain ⟨⟨kind, t⟩, built, same⟩ := Except.bind_eq_ok_iff.mp done
    cases same
    exact ⟨rfl, built⟩
  · rintro ⟨same, built⟩
    obtain ⟨name, kind⟩ := entry
    cases same
    rw [built]
    rfl

/-- What machines add to a workshop: the compiler remembers them, the last one first, and there are
    no new channels. -/
structure Stocked (w : Workshop) (machines : List Machine) (made : List (String × Class))
    (w' : Workshop) : Prop where
  names : made.map Prod.fst = machines.map Machine.name
  made : w'.compiler.made = made.reverse ++ w.compiler.made
  options : w'.compiler.options = w.compiler.options
  channels : w'.registry.channels = w.registry.channels

theorem stocked_of_buildAll {machines : List Machine} {made : List (String × Class)}
    (built : w.buildAll bindings home machines = (.ok made, w')) :
    w.Stocked machines made w' := by
  induction machines generalizing w made with
  | nil =>
    obtain ⟨rfl, rfl⟩ := advance_nil_iff.mp built
    exact ⟨rfl, rfl, rfl, rfl⟩
  | cons machine rest ih =>
    obtain ⟨⟨name, kind⟩, t, others, done, onward, rfl⟩ := advance_cons_iff.mp built
    obtain ⟨rfl, done⟩ := named_ok_iff.mp done
    obtain ⟨-, table, generated, rfl, rfl⟩ := build_ok_iff.mp done
    obtain ⟨names, remembered, options, channels⟩ := ih onward
    refine ⟨by simp [names], ?_, options, channels⟩
    rw [remembered]
    have same : table.name = machine.name :=
      congrArg Machine.name (Table.generated_of_ok generated).origin
    simp [defined, same]

/-- Nothing was added to a workshop but channels. -/
structure Leaves (w w' : Workshop) : Prop where
  compiler : w'.compiler = w.compiler
  nextClass : w'.registry.nextClass = w.registry.nextClass
  machines : w'.registry.machines = w.registry.machines

theorem Leaves.trans {w'' : Workshop} (first : w.Leaves w') (second : w'.Leaves w'') :
    w.Leaves w'' where
  compiler := second.compiler.trans first.compiler
  nextClass := second.nextClass.trans first.nextClass
  machines := second.machines.trans first.machines

theorem leaves_of_attach {table : Table} {messages : Messages}
    (done : w.attach bindings kind table messages = .ok (other, w')) : w.Leaves w' := by
  obtain ⟨-, channels, -, -, rfl⟩ := attach_ok_iff.mp done
  exact ⟨rfl, rfl, rfl⟩

theorem leaves_of_equipAll {made : List (String × Class)} {messages : List Messages}
    {kinds : List Class} (done : w.equipAll bindings made messages = (.ok kinds, w')) :
    w.Leaves w' := by
  induction messages generalizing w kinds with
  | nil =>
    obtain ⟨-, rfl⟩ := advance_nil_iff.mp done
    exact ⟨rfl, rfl, rfl⟩
  | cons first rest ih =>
    obtain ⟨_, u, others, equipped, onward, -⟩ := advance_cons_iff.mp done
    obtain ⟨_, _, -, -, attached⟩ := equip_ok_iff.mp equipped
    exact (leaves_of_attach attached).trans (ih onward)

end Workshop

namespace Work

variable {p : Work α} {next : α → Work β} {w : Workshop}

/-! ## 3. Outcomes -/

/-- How a piece of work ends, and what it leaves but for the log. -/
def outcome (p : Work α) (w : Workshop) : Except Error α × Workshop :=
  ((p.run w).1, (p.run w).2.unlogged)

/-- The log is of no account to the work. -/
def Deaf (p : Work α) : Prop := ∀ w, outcome p w.unlogged = outcome p w

theorem outcome_pure {a : α} : outcome (pure a) w = (.ok a, w.unlogged) := rfl

theorem outcome_throw {error : Error} :
    outcome (throw error : Work α) w = (.error error, w.unlogged) := rfl

theorem outcome_lift {result : Except Error α} :
    outcome (liftM result : Work α) w = (result, w.unlogged) := by
  cases result <;> rfl

theorem outcome_get_bind {next : Workshop → Work β} :
    outcome (get >>= next) w = outcome (next w) w := rfl

theorem run_bind : (p >>= next).run w =
    match p.run w with
    | (.ok a, t) => (next a).run t
    | (.error error, t) => (.error error, t) := by
  rw [ExceptT.run_bind]
  simp only [bind, StateT.bind]
  rcases p.run w with ⟨a | error, t⟩ <;> rfl

theorem outcome_bind (deaf : ∀ a, Deaf (next a)) :
    outcome (p >>= next) w =
      match outcome p w with
      | (.ok a, t) => outcome (next a) t
      | (.error error, t) => (.error error, t) := by
  unfold outcome
  rw [run_bind]
  rcases p.run w with ⟨error | a, t⟩
  · rfl
  · exact (deaf a t).symm

theorem Deaf.pure {a : α} : Deaf (pure a : Work α) := fun _ => rfl

theorem Deaf.throw {error : Error} : Deaf (throw error : Work α) := fun _ => rfl

theorem Deaf.lift {result : Except Error α} : Deaf (liftM result : Work α) := fun _ => by
  rw [outcome_lift, outcome_lift, Workshop.unlogged_unlogged]

theorem Deaf.bind (first : Deaf p) (rest : ∀ a, Deaf (next a)) : Deaf (p >>= next) := fun w => by
  rw [outcome_bind rest, outcome_bind rest, first]

/-- Work that comes to a function of the workshop is deaf if the function is. -/
theorem Deaf.of_settle {f : Workshop → Except Error (α × Workshop)}
    (comes : ∀ w, outcome p w = w.settle (f w))
    (same : ∀ w : Workshop, w.unlogged.settle (f w.unlogged) = w.settle (f w)) : Deaf p := fun w => by
  rw [comes, comes, same]

theorem outcome_warn {remarks : List String} :
    outcome (warn remarks) w = (.ok (), w.unlogged) := by
  rw [warn, outcome_get_bind]
  split <;> rfl

/-- Where the first part only reads, a failure of it leaves nothing behind. -/
theorem outcome_read_bind {result : Except Error α} (reads : outcome p w = (result, w.unlogged))
    (deaf : ∀ a, Deaf (next a)) {done : α → Except Error (β × Workshop)}
    (comes : ∀ a, outcome (next a) w = w.settle (done a)) :
    outcome (p >>= next) w = w.settle (result >>= done) := by
  rw [outcome_bind deaf, reads]
  cases result with
  | error error => rfl
  | ok a => exact (deaf a w).trans (comes a)

/-! ## 4. Machines -/

variable {bindings : Bindings} {home : String}

theorem outcome_build {machine : Machine} :
    outcome (build bindings home machine) w = w.settle (w.build bindings home machine) := by
  unfold build Workshop.build
  rw [outcome_get_bind]
  dsimp only
  split
  · rfl
  · cases generated : Table.generate bindings w.compiler.options.flags
        w.compiler.options.checkTypes machine with
    | mk records result => cases result <;> rfl

theorem settle_build_unlogged {machine : Machine} :
    w.unlogged.settle (w.unlogged.build bindings home machine) =
      w.settle (w.build bindings home machine) := by
  have same : w.unlogged.compiler = w.compiler := rfl
  unfold Workshop.build
  rw [same]
  split
  · rfl
  · rcases (Table.generate bindings w.compiler.options.flags
      w.compiler.options.checkTypes machine).2 with error | table <;> rfl

theorem build_deaf {machine : Machine} : Deaf (build bindings home machine) :=
  .of_settle (fun _ => outcome_build) fun _ => settle_build_unlogged

theorem warn_deaf {remarks : List String} : Deaf (warn remarks) := fun w => by
  rw [outcome_warn, outcome_warn, Workshop.unlogged_unlogged]

theorem outcome_readMachine {fallible : Bool} {source : String} :
    outcome (readMachine fallible source) w =
      ((Machine.ofText fallible source).mapError .rejected, w.unlogged) := by
  unfold readMachine
  rw [outcome_bind fun _ => warn_deaf.bind fun _ => .pure, outcome_lift]
  cases Machine.ofText fallible source with
  | error why => rfl
  | ok machine =>
    show outcome (warn _ >>= fun _ => pure machine) w.unlogged = _
    rw [outcome_bind fun _ => .pure, outcome_warn]
    rfl

theorem outcome_compileMachine {fallible : Bool} {source : String} :
    outcome (compileMachine bindings fallible home source) w = w.settle (do
      let machine ← (Machine.ofText fallible source).mapError .rejected
      w.build bindings home machine) :=
  outcome_read_bind outcome_readMachine (fun _ => build_deaf) fun _ => outcome_build

/-! ## 5. Messages -/

variable {kind : Class} {table : Table} {messages : Messages}

theorem outcome_attach :
    outcome (attach bindings kind table messages) w =
      w.settle (w.attach bindings kind table messages) := by
  unfold attach Workshop.attach
  rw [outcome_get_bind]
  split
  · rfl
  · cases Channels.ofMessages bindings table messages <;> rfl

theorem settle_attach_unlogged :
    w.unlogged.settle (w.unlogged.attach bindings kind table messages) =
      w.settle (w.attach bindings kind table messages) := by
  have same : w.unlogged.registry.channels? kind = w.registry.channels? kind := rfl
  unfold Workshop.attach
  rw [same]
  split
  · rfl
  · cases Channels.ofMessages bindings table messages <;> rfl

theorem attach_deaf : Deaf (attach bindings kind table messages) :=
  .of_settle (fun _ => outcome_attach) fun _ => settle_attach_unlogged

theorem outcome_tableOf : outcome (tableOf kind) w = (w.tableOf kind, w.unlogged) := by
  unfold tableOf Workshop.tableOf
  rw [outcome_get_bind]
  cases w.registry.table? kind <;> rfl

theorem tableOf_deaf : Deaf (tableOf kind) := fun w => by
  rw [outcome_tableOf, outcome_tableOf]
  rfl

theorem outcome_attachDecl {decl : MessagesDecl} :
    outcome (attachDecl bindings kind decl) w = w.settle (do
      let table ← w.tableOf kind
      let messages ← (Messages.ofDecl table.machine decl).mapError fun offence =>
        Error.rejected (.invalid offence)
      w.attach bindings kind table messages) :=
  outcome_read_bind outcome_tableOf (fun _ => .bind .lift fun _ => attach_deaf) fun _ =>
    outcome_read_bind outcome_lift (fun _ => attach_deaf) fun _ => outcome_attach

theorem attachDecl_deaf {decl : MessagesDecl} : Deaf (attachDecl bindings kind decl) :=
  tableOf_deaf.bind fun _ => .bind .lift fun _ => attach_deaf

theorem outcome_compileMessages (home : String) {source : String} :
    outcome (compileMessages bindings source) w = w.settle (do
      let decl ← (MessagesDecl.ofText source).mapError fun error => Error.rejected (.malformed error)
      w.declare bindings home (.messages decl)) := by
  refine outcome_read_bind outcome_lift (fun decl w => ?_) fun decl => ?_
  · rw [outcome_get_bind, outcome_get_bind]
    have same : w.unlogged.compiler = w.compiler := rfl
    rw [same]
    cases w.compiler.made.lookup decl.name with
    | none => rfl
    | some kind => exact attachDecl_deaf w
  · rw [outcome_get_bind, Workshop.declare, Workshop.madeUnder]
    cases w.compiler.made.lookup decl.name with
    | none => rfl
    | some kind => exact outcome_attachDecl

/-! ## 6. Documents -/

/-- Several pieces of work, each of which comes to a function of the workshop. -/
theorem outcome_mapM {work : α → Work β} {step : Workshop → α → Except Error (β × Workshop)}
    (deaf : ∀ a, Deaf (work a)) (comes : ∀ a w, outcome (work a) w = w.settle (step w a))
    {as : List α} :
    Deaf (as.mapM work) ∧ ∀ w, outcome (as.mapM work) w =
      ((Workshop.advance step w as).1, (Workshop.advance step w as).2.unlogged) := by
  induction as with
  | nil => exact ⟨.pure, fun _ => rfl⟩
  | cons a rest ih =>
    obtain ⟨rest_deaf, rest_comes⟩ := ih
    have tail_deaf (b : β) : Deaf (do
        let others ← rest.mapM work
        return b :: others) := rest_deaf.bind fun _ => .pure
    rw [List.mapM_cons]
    refine ⟨(deaf a).bind tail_deaf, fun w => ?_⟩
    rw [outcome_bind tail_deaf, comes]
    cases done : step w a with
    | error error =>
      rw [Workshop.advance_failed done]
      rfl
    | ok made =>
      obtain ⟨b, w'⟩ := made
      rw [Workshop.advance_done done]
      show outcome (rest.mapM work >>= fun others => pure _) w'.unlogged = _
      rw [tail_deaf, outcome_bind fun _ => .pure, rest_comes]
      rcases Workshop.advance step w' rest with ⟨error | others, w''⟩ <;> rfl

theorem buildAll_eq_mapM {machines : List Machine} :
    buildAll bindings home machines = machines.mapM fun machine => do
      let kind ← build bindings home machine
      return (machine.name, kind) := by
  induction machines with
  | nil => rfl
  | cons machine rest ih =>
    rw [buildAll, ih, List.mapM_cons, bind_assoc]
    simp only [pure_bind]

theorem outcome_buildAll {machines : List Machine} :
    Deaf (buildAll bindings home machines) ∧ ∀ w, outcome (buildAll bindings home machines) w =
      ((w.buildAll bindings home machines).1, (w.buildAll bindings home machines).2.unlogged) := by
  rw [buildAll_eq_mapM]
  refine outcome_mapM (fun machine => build_deaf.bind fun _ => .pure) fun machine w => ?_
  rw [outcome_bind fun _ => .pure, outcome_build, Workshop.named]
  rcases w.build bindings home machine with error | ⟨kind, w'⟩ <;> rfl

/-- Gives one machine of those that were just made its messages. -/
def attachMade (bindings : Bindings) (made : List (String × Class)) (messages : Messages) :
    Work Class :=
  match made.lookup messages.machine with
  | none => throw (.notCompiled messages.machine)
  | some kind => do
    let table ← tableOf kind
    attach bindings kind table messages

variable {made : List (String × Class)}

theorem attachAll_eq_mapM {messages : List Messages} :
    attachAll bindings made messages = do
      let _ ← messages.mapM (attachMade bindings made)
      return () := by
  induction messages with
  | nil => rfl
  | cons first rest ih =>
    rw [attachAll, ih, List.mapM_cons, attachMade]
    cases made.lookup first.machine with
    | none => rfl
    | some kind => simp only [bind_assoc, pure_bind]

theorem attachMade_deaf {messages : Messages} : Deaf (attachMade bindings made messages) := by
  unfold attachMade
  cases made.lookup messages.machine with
  | none => exact .throw
  | some kind => exact tableOf_deaf.bind fun _ => attach_deaf

theorem outcome_attachMade {messages : Messages} :
    outcome (attachMade bindings made messages) w = w.settle (w.equip bindings made messages) := by
  unfold attachMade Workshop.equip
  cases made.lookup messages.machine with
  | none => rfl
  | some kind => exact outcome_read_bind outcome_tableOf (fun _ => attach_deaf) fun _ => outcome_attach

theorem outcome_attachAll {messages : List Messages} :
    Deaf (attachAll bindings made messages) ∧ ∀ w, outcome (attachAll bindings made messages) w =
      ((w.equipAll bindings made messages).1.map fun _ => (),
        (w.equipAll bindings made messages).2.unlogged) := by
  obtain ⟨deaf, comes⟩ := @outcome_mapM _ _ (attachMade bindings made) (fun w => w.equip bindings made)
    (fun _ => attachMade_deaf) (fun _ _ => outcome_attachMade) messages
  rw [attachAll_eq_mapM]
  refine ⟨deaf.bind fun _ => .pure, fun w => ?_⟩
  rw [outcome_bind fun _ => .pure, comes, Workshop.equipAll]
  rcases Workshop.advance (fun w => w.equip bindings made) w messages with ⟨error | kinds, w'⟩ <;> rfl

/-- A text that is refused leaves nothing behind. -/
theorem outcome_refused {source : String} {document : Document} {why : Rejection}
    (read : Document.read source = (document, some why)) :
    outcome (compileDocument bindings home source) w = (.error (.rejected why), w.unlogged) := by
  rw [compileDocument, read]
  show outcome (warn document.remarks >>= fun _ => throw (Error.rejected why)) w = _
  rw [outcome_bind fun _ => .throw, outcome_warn]
  rfl

theorem outcome_compileDocument {source : String} {document : Document}
    (read : Document.read source = (document, none)) :
    outcome (compileDocument bindings home source) w =
      ((w.compile bindings home document).1, (w.compile bindings home document).2.unlogged) := by
  have attach_deaf (made : List (String × Class)) : Deaf (do
      attachAll bindings made document.messages
      return made) := outcome_attachAll.1.bind fun _ => .pure
  rw [compileDocument, read]
  show outcome (warn document.remarks >>= fun _ =>
    buildAll bindings home document.machines >>= fun made => _) w = _
  rw [outcome_bind fun _ => outcome_buildAll.1.bind attach_deaf, outcome_warn]
  show outcome (buildAll bindings home document.machines >>= fun made => _) w.unlogged = _
  rw [outcome_buildAll.1.bind attach_deaf, outcome_bind attach_deaf, outcome_buildAll.2,
    Workshop.compile]
  rcases w.buildAll bindings home document.machines with ⟨error | made, w'⟩
  · rfl
  · show outcome (attachAll bindings made document.messages >>= fun _ => pure made) w'.unlogged = _
    rw [attach_deaf, outcome_bind fun _ => .pure, outcome_attachAll.2]
    dsimp only
    rcases w'.equipAll bindings made document.messages with ⟨error | _, w''⟩
    · rfl
    · rfl

end Work

end MachineSpec
