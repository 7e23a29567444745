/-
MachineSpec.Proofs.Order — machines first, or one declaration after another.

A document is compiled in phases: all declarations are validated, then all machines are
made, then all messages are attached. Declarations that are compiled one by one go through
the phases in turn. Both have the same result (`compile_iff_advance`), for two reasons. What
a declaration needs of those before it is found in the document by validation and in the
registry by the compiler, and the two agree (`Shelved`). And making a machine commutes with
attaching messages to others (`equipAll_defined_iff`).

The compiler has to be new: one that made machines before has names registered that the
document does not contain.
-/
import Mathlib.Data.List.Induction
import MachineSpec.Proofs.Workshop

namespace MachineSpec

/-! ## 1. Documents -/

theorem mapError_eq_ok_iff {α ε ε' : Type} {x : Except ε α} {f : ε → ε'} {a : α} :
    x.mapError f = .ok a ↔ x = .ok a := by
  cases x with
  | error error => exact iff_of_false (by rintro ⟨⟩) (by rintro ⟨⟩)
  | ok b =>
    constructor
    all_goals rintro ⟨⟩; rfl

theorem Machine.name_of_ofDecl {decl : MachineDecl} {machine : Machine}
    (made : Machine.ofDecl decl = .ok machine) : machine.name = decl.name := by
  simp only [Machine.ofDecl, Except.bind_eq_ok_iff] at made
  obtain ⟨_, _, _, _, initial, _, made⟩ := made
  cases failure : decl.failure with
  | none =>
    rw [failure] at made
    cases made
    rfl
  | some failing =>
    rw [failure] at made
    simp only [Except.bind_eq_ok_iff] at made
    obtain ⟨_, _, _, _, made⟩ := made
    cases made
    rfl

theorem Messages.machine_of_ofDecl {machine : Machine} {decl : MessagesDecl} {messages : Messages}
    (made : Messages.ofDecl machine decl = .ok messages) : messages.machine = decl.name := by
  unfold ofDecl at made
  split at made
  · cases made
  · obtain ⟨_, -, same⟩ := Except.bind_eq_ok_iff.mp made
    cases same
    rfl

namespace Document

variable {document extended : Document}

/-- All messages belong to machines of the document. -/
def Ordered (document : Document) : Prop :=
  ∀ messages ∈ document.messages, ∃ machine, document.machine? messages.machine = some machine

theorem declare_machine_iff {decl : MachineDecl} :
    document.declare (.machine decl) = .ok extended ↔ document.machine? decl.name = none ∧
      ∃ machine, Machine.ofDecl decl = .ok machine ∧
        extended = { document with machines := document.machines ++ [machine] } := by
  rw [declare]
  cases known : document.machine? decl.name with
  | some taken => simp
  | none =>
    rw [if_neg (by simp), Except.bind_eq_ok_iff]
    constructor
    · rintro ⟨machine, made, ⟨⟩⟩
      exact ⟨rfl, machine, made, rfl⟩
    · rintro ⟨-, machine, made, rfl⟩
      exact ⟨machine, made, rfl⟩

theorem declare_messages_iff {decl : MessagesDecl} :
    document.declare (.messages decl) = .ok extended ↔
      ∃ machine messages, document.machine? decl.name = some machine ∧
        Messages.ofDecl machine decl = .ok messages ∧
        extended = { document with messages := document.messages ++ [messages] } := by
  rw [declare]
  cases known : document.machine? decl.name with
  | none => simp
  | some machine =>
    dsimp only
    rw [Except.bind_eq_ok_iff]
    constructor
    · rintro ⟨messages, made, ⟨⟩⟩
      exact ⟨machine, messages, rfl, made, rfl⟩
    · rintro ⟨_, messages, ⟨⟩, made, rfl⟩
      exact ⟨messages, made, rfl⟩

theorem declareAll_snoc_iff {declarations : List Declaration} {last : Declaration} :
    document.declareAll (declarations ++ [last]) = (extended, none) ↔
      ∃ before, document.declareAll declarations = (before, none) ∧
        before.declare last = .ok extended := by
  induction declarations generalizing document with
  | nil =>
    show document.declareAll [last] = _ ↔ _
    rw [declareAll, declareAll]
    cases declared : document.declare last with
    | error offence => simp [declared]
    | ok extended' => simp [declareAll, declared]
  | cons first rest ih =>
    rw [List.cons_append, declareAll, declareAll]
    cases document.declare first with
    | error offence => simp
    | ok extended' => exact ih

theorem machine?_grown {machines : List Machine} {messages : List Messages} {last : Machine}
    {name : String} :
    (⟨machines ++ [last], messages⟩ : Document).machine? name =
      ((⟨machines, messages⟩ : Document).machine? name).or
        (if last.name == name then some last else none) := by
  show (machines ++ [last]).find? (·.name == name) = _
  rw [List.find?_append, List.find?_singleton]
  rfl

theorem ordered_of_declareAll {declarations : List Declaration}
    (declared : Document.empty.declareAll declarations = (document, none)) : document.Ordered := by
  induction declarations using List.reverseRecOn generalizing document with
  | nil =>
    cases declared
    rintro messages ⟨⟩
  | append_singleton declarations last ih =>
    obtain ⟨before, declared, extends_⟩ := declareAll_snoc_iff.mp declared
    have ordered := ih declared
    cases last with
    | machine decl =>
      obtain ⟨-, machine, -, rfl⟩ := declare_machine_iff.mp extends_
      intro messages mem
      obtain ⟨owner, found⟩ := ordered messages mem
      exact ⟨owner, by rw [machine?_grown, found]; rfl⟩
    | messages decl =>
      obtain ⟨machine, last, found, made, rfl⟩ := declare_messages_iff.mp extends_
      intro messages mem
      rcases List.mem_append.mp mem with mem | mem
      · exact ordered messages mem
      · obtain rfl := List.mem_singleton.mp mem
        exact ⟨machine, Messages.machine_of_ofDecl made ▸ found⟩

end Document

namespace Workshop

variable {w v : Workshop} {bindings : Bindings} {home : String} {kind : Class} {machine : Machine}
  {table : Table}

/-! ## 2. What a workshop holds -/

/-- The class was made of the machine. -/
structure Shelves (w : Workshop) (machine : Machine) (kind : Class) : Prop where
  old : kind.id < w.registry.nextClass
  here : ∃ entry, w.registry.machines.find? (·.kind.id == kind.id) = some entry ∧
    entry.table.machine = machine

/-- The nearest class of a line is the class itself. -/
theorem table?_found {entry : MachineClass}
    (found : w.registry.machines.find? (·.kind.id == kind.id) = some entry) :
    w.registry.table? kind = some entry.table := by
  unfold Registry.table? Registry.machine? Class.lineage
  rw [List.findSome?_cons, show kind.own.id = kind.id from rfl, found]
  rfl

theorem tableOf_found {entry : MachineClass}
    (found : w.registry.machines.find? (·.kind.id == kind.id) = some entry) :
    w.tableOf kind = .ok entry.table := by
  rw [tableOf, table?_found found]

theorem Shelves.table? (shelves : w.Shelves machine kind) :
    ∃ table, w.registry.table? kind = some table ∧ table.machine = machine := by
  obtain ⟨entry, found, same⟩ := shelves.here
  exact ⟨entry.table, table?_found found, same⟩

theorem Shelves.tableOf (shelves : w.Shelves machine kind) :
    ∃ table, w.tableOf kind = .ok table ∧ table.machine = machine := by
  obtain ⟨entry, found, same⟩ := shelves.here
  exact ⟨entry.table, tableOf_found found, same⟩

/-- A class that is made later has another number. -/
theorem Shelves.find?_defined (shelves : w.Shelves machine kind) :
    (w.defined home table).registry.machines.find? (·.kind.id == kind.id) =
      w.registry.machines.find? (·.kind.id == kind.id) := by
  have other : ((w.nextKind home table).id == kind.id) = false :=
    beq_eq_false_iff_ne.mpr (Nat.ne_of_gt shelves.old)
  show List.find? _ (⟨w.nextKind home table, home, table⟩ :: w.registry.machines) = _
  rw [List.find?_cons]
  dsimp only
  rw [other]

theorem Shelves.defined (shelves : w.Shelves machine kind) :
    (w.defined home table).Shelves machine kind where
  old := Nat.lt_succ_of_lt shelves.old
  here := shelves.find?_defined ▸ shelves.here

theorem Shelves.tableOf_defined (shelves : w.Shelves machine kind) :
    (w.defined home table).tableOf kind = w.tableOf kind := by
  obtain ⟨entry, found, -⟩ := shelves.here
  rw [tableOf_found found, tableOf_found (shelves.find?_defined.trans found)]

/-- A class is made of the machine of its table. -/
theorem shelves_defined : (w.defined home table).Shelves table.machine (w.nextKind home table) where
  old := Nat.lt_succ_self _
  here := ⟨⟨w.nextKind home table, home, table⟩,
    List.find?_cons_of_pos (beq_self_eq_true (w.nextKind home table).id), rfl⟩

theorem Shelves.of_leaves (shelves : w.Shelves machine kind) (leaves : w.Leaves v) :
    v.Shelves machine kind where
  old := leaves.nextClass ▸ shelves.old
  here := leaves.machines ▸ shelves.here

/-- What was made goes by the names of these machines, and the compiler knows it by them. -/
structure Shelved (w : Workshop) (machines : List Machine) (made : List (String × Class)) : Prop where
  missing : ∀ {name}, machines.find? (·.name == name) = none → made.lookup name = none
  found : ∀ {name machine}, machines.find? (·.name == name) = some machine →
    ∃ kind, made.lookup name = some kind ∧ w.Shelves machine kind
  remembered : ∀ name, w.compiler.made.lookup name = made.lookup name

variable {machines : List Machine} {made : List (String × Class)} {name : String}

theorem Shelved.of_leaves (shelved : w.Shelved machines made) (leaves : w.Leaves v) :
    v.Shelved machines made where
  missing := shelved.missing
  found found := by
    obtain ⟨kind, known, shelves⟩ := shelved.found found
    exact ⟨kind, known, shelves.of_leaves leaves⟩
  remembered := leaves.compiler ▸ shelved.remembered

theorem Shelved.defined (shelved : w.Shelved machines made)
    (new : w.compiler.made.lookup table.name = none) :
    (w.defined home table).Shelved (machines ++ [table.machine])
      (made ++ [(table.name, w.nextKind home table)]) where
  missing {name} missing := by
    rw [List.find?_append, Option.or_eq_none_iff, List.find?_singleton] at missing
    obtain ⟨before, last⟩ := missing
    have other : (name == table.name) = false := by
      rw [← Bool.not_eq_true, beq_iff_eq]
      rintro rfl
      rw [if_pos (show (table.machine.name == table.name) = true from beq_self_eq_true _)] at last
      cases last
    rw [List.lookup_append, shelved.missing before, Option.none_or, List.lookup_cons, other]
    rfl
  found {name machine} found := by
    rw [List.find?_append] at found
    cases before : machines.find? (·.name == name) with
    | some other =>
      obtain ⟨kind, known, shelves⟩ := shelved.found before
      rw [before, Option.some_or] at found
      cases found
      exact ⟨kind, by rw [List.lookup_append, known, Option.some_or], shelves.defined⟩
    | none =>
      rw [before, Option.none_or, List.find?_singleton] at found
      split at found
      case isTrue same =>
        cases found
        obtain rfl : table.name = name := beq_iff_eq.mp same
        refine ⟨_, ?_, shelves_defined⟩
        rw [List.lookup_append, shelved.missing before, Option.none_or, List.lookup_cons_self]
      case isFalse => cases found
  remembered name := by
    -- the newest stands in front here and at the end there, which is the same for a new name
    show ((table.name, w.nextKind home table) :: w.compiler.made).lookup name = _
    rw [List.lookup_cons, List.lookup_append, shelved.remembered, List.lookup_cons]
    cases same : name == table.name with
    | true =>
      obtain rfl := beq_iff_eq.mp same
      rw [← shelved.remembered, new]
      rfl
    | false =>
      cases made.lookup name <;> rfl

theorem shelved_of_buildAll (fresh : w.compiler.made = [])
    (built : w.buildAll bindings home machines = (.ok made, v)) : v.Shelved machines made := by
  induction machines using List.reverseRecOn generalizing made v with
  | nil =>
    obtain ⟨rfl, rfl⟩ := advance_nil_iff.mp built
    exact ⟨fun _ => rfl, nofun, fun _ => by rw [fresh]⟩
  | append_singleton machines last ih =>
    obtain ⟨before, u, ⟨name, kind⟩, others, named, rfl⟩ := advance_snoc_iff.mp built
    obtain ⟨rfl, done⟩ := named_ok_iff.mp named
    obtain ⟨new, table, generated, rfl, rfl⟩ := build_ok_iff.mp done
    obtain rfl := (Table.generated_of_ok generated).origin
    exact (ih others).defined new

/-- Every class that is made belongs to a machine of its name. -/
theorem shelves_of_buildAll (built : w.buildAll bindings home machines = (.ok made, v)) :
    ∀ entry ∈ made, ∃ machine, machine.name = entry.1 ∧ v.Shelves machine entry.2 := by
  induction machines using List.reverseRecOn generalizing made v with
  | nil =>
    obtain ⟨rfl, rfl⟩ := advance_nil_iff.mp built
    exact nofun
  | append_singleton machines last ih =>
    obtain ⟨before, u, ⟨name, kind⟩, others, named, rfl⟩ := advance_snoc_iff.mp built
    obtain ⟨rfl, done⟩ := named_ok_iff.mp named
    obtain ⟨new, table, generated, rfl, rfl⟩ := build_ok_iff.mp done
    intro entry mem
    rcases List.mem_append.mp mem with mem | mem
    · obtain ⟨machine, same, shelves⟩ := ih others entry mem
      exact ⟨machine, same, shelves.defined⟩
    · obtain rfl := List.mem_singleton.mp mem
      exact ⟨table.machine, by rw [(Table.generated_of_ok generated).origin], shelves_defined⟩

/-! ## 3. Either order -/

theorem attach_defined_iff {messages : Messages} {owner : Class} {other : Table} :
    (w.defined home table).attach bindings owner other messages = .ok (kind, v) ↔
      ∃ u, w.attach bindings owner other messages = .ok (kind, u) ∧ v = u.defined home table := by
  simp only [attach_ok_iff]
  constructor
  · rintro ⟨none, channels, made, rfl, rfl⟩
    exact ⟨_, ⟨none, channels, made, rfl, rfl⟩, rfl⟩
  · rintro ⟨_, ⟨none, channels, made, rfl, rfl⟩, rfl⟩
    exact ⟨none, channels, made, rfl, rfl⟩

/-- Messages can be attached to machines before or after another machine is made. -/
theorem equipAll_defined_iff {messages : List Messages} {kinds : List Class}
    {last : String × Class}
    (owned : ∀ channels ∈ messages, ∃ owner machine, made.lookup channels.machine = some owner ∧
      w.Shelves machine owner) :
    (w.defined home table).equipAll bindings (made ++ [last]) messages = (.ok kinds, v) ↔
      ∃ u, w.equipAll bindings made messages = (.ok kinds, u) ∧ v = u.defined home table := by
  induction messages generalizing w kinds with
  | nil =>
    simp only [equipAll, advance_nil_iff]
    constructor
    · rintro ⟨rfl, rfl⟩
      exact ⟨w, ⟨rfl, rfl⟩, rfl⟩
    · rintro ⟨u, ⟨rfl, rfl⟩, rfl⟩
      exact ⟨rfl, rfl⟩
  | cons first rest ih =>
    -- the owner was made before, so the machine between does not hide it
    obtain ⟨⟨owner, machine, known, shelves⟩, owned⟩ := List.forall_mem_cons.mp owned
    have step {kind : Class} {t : Workshop} :
        (w.defined home table).equip bindings (made ++ [last]) first = .ok (kind, t) ↔
          ∃ u, w.equip bindings made first = .ok (kind, u) ∧ t = u.defined home table := by
      simp only [equip_ok_iff, List.lookup_append, known, Option.some_or, Option.some.injEq,
        attach_defined_iff]
      constructor
      · rintro ⟨_, other, rfl, found, u, attached, rfl⟩
        exact ⟨u, ⟨_, other, rfl, shelves.tableOf_defined ▸ found, attached⟩, rfl⟩
      · rintro ⟨u, ⟨_, other, rfl, found, attached⟩, rfl⟩
        exact ⟨_, other, rfl, shelves.tableOf_defined ▸ found, u, attached, rfl⟩
    have onward {u : Workshop} (kind : Class) (done : w.equip bindings made first = .ok (kind, u)) :
        ∀ channels ∈ rest, ∃ owner machine, made.lookup channels.machine = some owner ∧
          u.Shelves machine owner := by
      intro channels mem
      obtain ⟨owner, machine, known, shelves⟩ := owned channels mem
      obtain ⟨_, _, -, -, attached⟩ := equip_ok_iff.mp done
      exact ⟨owner, machine, known, shelves.of_leaves (leaves_of_attach attached)⟩
    simp only [equipAll, advance_cons_iff, step] at ih ⊢
    constructor
    · rintro ⟨kind, _, others, ⟨u, done, rfl⟩, after, rfl⟩
      obtain ⟨t, before, rfl⟩ := (ih (onward kind done)).mp after
      exact ⟨t, ⟨kind, u, others, done, before, rfl⟩, rfl⟩
    · rintro ⟨t, ⟨kind, u, others, done, before, rfl⟩, rfl⟩
      exact ⟨kind, _, others, ⟨u, done, rfl⟩, (ih (onward kind done)).mpr ⟨t, before, rfl⟩, rfl⟩

/-! ## 4. One after another -/

variable {document : Document} {kinds : List Class}

theorem declare_machine_iff {decl : MachineDecl} :
    w.declare bindings home (.machine decl) = .ok (kind, v) ↔
      ∃ machine, Machine.ofDecl decl = .ok machine ∧ w.build bindings home machine = .ok (kind, v) := by
  rw [declare, Except.bind_eq_ok_iff]
  simp only [mapError_eq_ok_iff]

theorem declare_messages_iff {decl : MessagesDecl} :
    w.declare bindings home (.messages decl) = .ok (kind, v) ↔
      ∃ owner table messages, w.compiler.made.lookup decl.name = some owner ∧
        w.tableOf owner = .ok table ∧ Messages.ofDecl table.machine decl = .ok messages ∧
        w.attach bindings owner table messages = .ok (kind, v) := by
  rw [declare, Except.bind_eq_ok_iff]
  simp only [Except.bind_eq_ok_iff, mapError_eq_ok_iff]
  have known {owner : Class} :
      w.madeUnder decl.name = .ok owner ↔ w.compiler.made.lookup decl.name = some owner := by
    unfold madeUnder
    cases w.compiler.made.lookup decl.name <;> simp
  constructor
  · rintro ⟨owner, found, table, stored, messages, made, done⟩
    exact ⟨owner, table, messages, known.mp found, stored, made, done⟩
  · rintro ⟨owner, table, messages, found, stored, made, done⟩
    exact ⟨owner, known.mpr found, table, stored, messages, made, done⟩

theorem compile_ok_iff :
    w.compile bindings home document = (.ok made, v) ↔ ∃ u kinds,
      w.buildAll bindings home document.machines = (.ok made, u) ∧
        u.equipAll bindings made document.messages = (.ok kinds, v) := by
  unfold compile
  rcases built : w.buildAll bindings home document.machines with ⟨error | others, t⟩
  · exact iff_of_false (by rintro ⟨⟩) (by rintro ⟨_, _, ⟨⟩, -⟩)
  · dsimp only
    rcases equipped : t.equipAll bindings others document.messages with ⟨error | kinds, u⟩
    · refine iff_of_false (by rintro ⟨⟩) ?_
      rintro ⟨_, _, ⟨⟩, done⟩
      cases equipped.symm.trans done
    · constructor
      · rintro ⟨⟩
        exact ⟨t, kinds, rfl, equipped⟩
      · rintro ⟨_, _, ⟨⟩, done⟩
        cases equipped.symm.trans done
        rfl

theorem shelved_of_compile (fresh : w.compiler.made = [])
    (compiled : w.compile bindings home document = (.ok made, v)) :
    v.Shelved document.machines made := by
  obtain ⟨u, kinds, built, equipped⟩ := compile_ok_iff.mp compiled
  exact (shelved_of_buildAll fresh built).of_leaves (leaves_of_equipAll equipped)

theorem shelves_of_compile (compiled : w.compile bindings home document = (.ok made, v)) :
    ∀ entry ∈ made, ∃ machine, machine.name = entry.1 ∧ v.Shelves machine entry.2 := by
  obtain ⟨u, kinds, built, equipped⟩ := compile_ok_iff.mp compiled
  intro entry mem
  obtain ⟨machine, same, shelves⟩ := shelves_of_buildAll built entry mem
  exact ⟨machine, same, shelves.of_leaves (leaves_of_equipAll equipped)⟩

/-- One more machine at the end of a document is made first, or last. -/
theorem compile_machine_iff {machines : List Machine} {messages : List Messages}
    (fresh : w.compiler.made = []) (ordered : Document.Ordered ⟨machines, messages⟩) :
    (∃ made, w.compile bindings home ⟨machines ++ [machine], messages⟩ = (.ok made, v)) ↔
      ∃ made t kind, w.compile bindings home ⟨machines, messages⟩ = (.ok made, t) ∧
        t.build bindings home machine = .ok (kind, v) := by
  simp only [compile_ok_iff, buildAll, advance_snoc_iff, named_ok_iff]
  have owned {made : List (String × Class)} {u : Workshop} (shelved : u.Shelved machines made) :
      ∀ channels ∈ messages, ∃ owner machine, made.lookup channels.machine = some owner ∧
        u.Shelves machine owner := by
    intro channels mem
    obtain ⟨owner, found⟩ := ordered channels mem
    obtain ⟨kind, known, shelves⟩ := shelved.found found
    exact ⟨kind, owner, known, shelves⟩
  constructor
  · rintro ⟨_, _, kinds, ⟨before, u, ⟨name, kind⟩, others, ⟨rfl, done⟩, rfl⟩, equipped⟩
    obtain ⟨new, table, generated, rfl, rfl⟩ := build_ok_iff.mp done
    obtain ⟨t, early, rfl⟩ :=
      (equipAll_defined_iff (owned (shelved_of_buildAll fresh others))).mp equipped
    -- the name is as new, and the table the same, when the messages are attached
    rw [← (leaves_of_equipAll early).compiler] at new generated
    exact ⟨before, t, t.nextKind home table, ⟨u, kinds, others, early⟩,
      build_ok_iff.mpr ⟨new, table, generated, rfl, rfl⟩⟩
  · rintro ⟨before, t, kind, ⟨u, kinds, others, equipped⟩, done⟩
    obtain ⟨new, table, generated, rfl, rfl⟩ := build_ok_iff.mp done
    rw [(leaves_of_equipAll equipped).compiler] at new generated
    exact ⟨_, u.defined home table, kinds, ⟨before, u, (machine.name, u.nextKind home table), others,
      ⟨rfl, build_ok_iff.mpr ⟨new, table, generated, rfl, rfl⟩⟩, rfl⟩,
      (equipAll_defined_iff (owned (shelved_of_buildAll fresh others))).mpr ⟨t, equipped, rfl⟩⟩

/-- More messages at the end of a document are attached last. -/
theorem compile_messages_iff {machines : List Machine} {messages : List Messages} {last : Messages} :
    (∃ made, w.compile bindings home ⟨machines, messages ++ [last]⟩ = (.ok made, v)) ↔
      ∃ made t kind, w.compile bindings home ⟨machines, messages⟩ = (.ok made, t) ∧
        t.equip bindings made last = .ok (kind, v) := by
  simp only [compile_ok_iff, equipAll, advance_snoc_iff]
  constructor
  · rintro ⟨made, u, _, built, before, t, kind, equipped, done, rfl⟩
    exact ⟨made, t, kind, ⟨u, before, built, equipped⟩, done⟩
  · rintro ⟨made, t, kind, ⟨u, before, built, equipped⟩, done⟩
    exact ⟨made, u, _, built, before, t, kind, equipped, done, rfl⟩

/-- A name is free in the document just if it is in the compiler. -/
theorem Shelved.missing_iff (shelved : w.Shelved machines made) :
    machines.find? (·.name == name) = none ↔ w.compiler.made.lookup name = none := by
  rw [shelved.remembered]
  constructor
  · exact shelved.missing
  · intro missing
    refine Option.eq_none_iff_forall_ne_some.mpr fun machine found => ?_
    obtain ⟨kind, known, -⟩ := shelved.found found
    cases missing.symm.trans known

theorem Shelved.declare_machine_iff (shelved : w.Shelved machines made) {decl : MachineDecl} :
    w.declare bindings home (.machine decl) = .ok (kind, v) ↔
      machines.find? (·.name == decl.name) = none ∧ ∃ machine, Machine.ofDecl decl = .ok machine ∧
        w.build bindings home machine = .ok (kind, v) := by
  rw [Workshop.declare_machine_iff]
  constructor
  · rintro ⟨machine, checked, done⟩
    have new := (build_ok_iff.mp done).1
    rw [Machine.name_of_ofDecl checked] at new
    exact ⟨shelved.missing_iff.mpr new, machine, checked, done⟩
  · rintro ⟨-, declared⟩
    exact declared

/-- The document and the compiler know the same machine by a name. -/
theorem Shelved.declare_messages_iff (shelved : w.Shelved machines made) {decl : MessagesDecl} :
    w.declare bindings home (.messages decl) = .ok (kind, v) ↔ ∃ machine messages,
      machines.find? (·.name == decl.name) = some machine ∧
        Messages.ofDecl machine decl = .ok messages ∧
        w.equip bindings made messages = .ok (kind, v) := by
  rw [Workshop.declare_messages_iff]
  constructor
  · rintro ⟨owner, table, messages, known, stored, checked, done⟩
    cases found : machines.find? (·.name == decl.name) with
    | none => cases (shelved.missing_iff.mp found).symm.trans known
    | some machine =>
      obtain ⟨other, known', shelves⟩ := shelved.found found
      rw [shelved.remembered] at known
      cases known.symm.trans known'
      obtain ⟨table', stored', rfl⟩ := shelves.tableOf
      cases stored.symm.trans stored'
      rw [← Messages.machine_of_ofDecl checked] at known
      exact ⟨_, messages, rfl, checked, equip_ok_iff.mpr ⟨owner, table, known, stored, done⟩⟩
  · rintro ⟨machine, messages, found, checked, done⟩
    obtain ⟨owner, known, shelves⟩ := shelved.found found
    obtain ⟨table, stored, rfl⟩ := shelves.tableOf
    obtain ⟨other, table', known', stored', done⟩ := equip_ok_iff.mp done
    rw [Messages.machine_of_ofDecl checked] at known'
    cases known.symm.trans known'
    cases stored.symm.trans stored'
    exact ⟨owner, table, messages, by rw [shelved.remembered, known], stored, checked, done⟩

/-- Whether a document is compiled as a whole or its declarations are compiled one after another, it
    succeeds alike and leaves the same behind. -/
theorem compile_iff_advance {declarations : List Declaration} (fresh : w.compiler.made = []) :
    (∃ document made, Document.empty.declareAll declarations = (document, none) ∧
      w.compile bindings home document = (.ok made, v)) ↔
    ∃ kinds, advance (fun w => w.declare bindings home) w declarations = (.ok kinds, v) := by
  induction declarations using List.reverseRecOn generalizing v with
  | nil =>
    simp only [advance_nil_iff, compile_ok_iff]
    constructor
    · rintro ⟨_, made, ⟨⟩, u, kinds, built, equipped⟩
      obtain ⟨-, rfl⟩ := advance_nil_iff.mp built
      obtain ⟨-, rfl⟩ := advance_nil_iff.mp equipped
      exact ⟨[], rfl, rfl⟩
    · rintro ⟨_, -, rfl⟩
      exact ⟨.empty, [], rfl, v, [], rfl, rfl⟩
  | append_singleton declarations last ih =>
    simp only [advance_snoc_iff, Document.declareAll_snoc_iff]
    cases last with
    | machine decl =>
      simp only [Document.declare_machine_iff]
      constructor
      · rintro ⟨_, made, ⟨before, declared, new, machine, checked, rfl⟩, compiled⟩
        have ordered := Document.ordered_of_declareAll declared
        obtain ⟨earlier, t, kind, compiled, done⟩ :=
          (compile_machine_iff fresh ordered).mp ⟨made, compiled⟩
        obtain ⟨kinds, advanced⟩ := ih.mp ⟨before, earlier, declared, compiled⟩
        exact ⟨_, kinds, t, kind, advanced, (shelved_of_compile fresh compiled).declare_machine_iff.mpr
          ⟨new, machine, checked, done⟩, rfl⟩
      · rintro ⟨_, kinds, t, kind, advanced, done, rfl⟩
        obtain ⟨before, earlier, declared, compiled⟩ := ih.mpr ⟨kinds, advanced⟩
        have ordered := Document.ordered_of_declareAll declared
        obtain ⟨new, machine, checked, done⟩ :=
          (shelved_of_compile fresh compiled).declare_machine_iff.mp done
        obtain ⟨made, all⟩ :=
          (compile_machine_iff fresh ordered).mpr ⟨earlier, t, kind, compiled, done⟩
        exact ⟨_, made, ⟨before, declared, new, machine, checked, rfl⟩, all⟩
    | messages decl =>
      simp only [Document.declare_messages_iff]
      constructor
      · rintro ⟨_, made, ⟨before, declared, machine, messages, found, checked, rfl⟩, compiled⟩
        obtain ⟨earlier, t, kind, compiled, done⟩ := compile_messages_iff.mp ⟨made, compiled⟩
        obtain ⟨kinds, advanced⟩ := ih.mp ⟨before, earlier, declared, compiled⟩
        exact ⟨_, kinds, t, kind, advanced, (shelved_of_compile fresh compiled).declare_messages_iff.mpr
          ⟨machine, messages, found, checked, done⟩, rfl⟩
      · rintro ⟨_, kinds, t, kind, advanced, done, rfl⟩
        obtain ⟨before, earlier, declared, compiled⟩ := ih.mpr ⟨kinds, advanced⟩
        obtain ⟨machine, messages, found, checked, done⟩ :=
          (shelved_of_compile fresh compiled).declare_messages_iff.mp done
        obtain ⟨made, all⟩ := compile_messages_iff.mpr ⟨earlier, t, kind, compiled, done⟩
        exact ⟨_, made, ⟨before, declared, machine, messages, found, checked, rfl⟩, all⟩

/-- A new compiler remembers what a document made. -/
theorem made_of_compile (fresh : w.compiler.made = [])
    (compiled : w.compile bindings home document = (.ok made, v)) :
    v.compiler.made = made.reverse := by
  obtain ⟨u, kinds, built, equipped⟩ := compile_ok_iff.mp compiled
  rw [(leaves_of_equipAll equipped).compiler, (stocked_of_buildAll built).made, fresh,
    List.append_nil]

/-- What the declarations give one after another are the classes that the compiler made. -/
theorem mem_of_advance {declarations : List Declaration} (fresh : w.compiler.made = [])
    (advanced : advance (fun w => w.declare bindings home) w declarations = (.ok kinds, v)) :
    kind ∈ kinds ↔ kind ∈ v.compiler.made.map Prod.snd := by
  induction declarations using List.reverseRecOn generalizing kinds v with
  | nil =>
    obtain ⟨rfl, rfl⟩ := advance_nil_iff.mp advanced
    rw [fresh]
    rfl
  | append_singleton declarations last ih =>
    obtain ⟨before, t, newest, earlier, done, rfl⟩ := advance_snoc_iff.mp advanced
    rw [List.mem_append, List.mem_singleton, ih earlier]
    cases last with
    | machine decl =>
      obtain ⟨machine, -, done⟩ := declare_machine_iff.mp done
      obtain ⟨-, table, -, rfl, rfl⟩ := build_ok_iff.mp done
      exact or_comm.trans List.mem_cons.symm
    | messages decl =>
      obtain ⟨owner, table, messages, known, -, -, done⟩ := declare_messages_iff.mp done
      obtain ⟨-, channels, -, rfl, rfl⟩ := attach_ok_iff.mp done
      refine or_iff_left_of_imp ?_
      rintro rfl
      obtain ⟨newer, older, made, -⟩ := List.lookup_eq_some_iff.mp known
      show _ ∈ t.compiler.made.map Prod.snd
      rw [made]
      exact List.mem_map_of_mem (List.mem_append_right newer (List.mem_cons_self ..))

end Workshop

end MachineSpec
