/-
MachineSpec.Proofs.Readiness — which accepted documents compile.

The machines of an accepted document have distinct names, and its messages belong to
machines that it declares. So if the bindings supply everything that its machines and
messages need, then a new compiler makes all machines and attaches to each the channels that
are declared for it.

There is one exception. A compiler attaches messages to a machine once, and a document may
declare messages of one machine twice.

* `Workshop.furnished_document_compiles`: with everything bound, an accepted document
  compiles if no machine has its messages declared twice; otherwise compilation fails at the
  first second declaration.
* `Workshop.accepted_document_never_compiles`: a machine with two messages declarations.

That a new class has no channels follows from the numbering of classes: numbers are not
reused (`Orderly`, an invariant of all work).
-/
import MachineSpec.Proofs.Carriage

namespace MachineSpec

open Work

theorem mem_of_lookup {α β : Type} [BEq α] [LawfulBEq α] {entries : List (α × β)} {key : α} {value : β}
    (found : entries.lookup key = some value) : (key, value) ∈ entries := by
  obtain ⟨before, after, rfl, -⟩ := List.lookup_eq_some_iff.mp found
  exact List.mem_append_right before (List.mem_cons_self ..)

/-- A list in which something comes twice has a first place where it comes again. -/
theorem exists_repeated {α β : Type} {f : α → β} {all : List α} (twice : ¬ (all.map f).Nodup) :
    ∃ before a after, all = before ++ a :: after ∧ (before.map f).Nodup ∧ f a ∈ before.map f := by
  induction all using List.reverseRecOn with
  | nil => exact absurd List.nodup_nil twice
  | append_singleton all last ih =>
    by_cases once : (all.map f).Nodup
    · refine ⟨all, last, [], rfl, once, ?_⟩
      by_contra new
      refine twice ?_
      rw [List.map_append, List.nodup_append]
      exact ⟨once, List.nodup_singleton _, by simpa using new⟩
    · obtain ⟨before, a, after, rfl, first, again⟩ := ih once
      exact ⟨before, a, after ++ [last], by simp, first, again⟩

/-- Everything that a document needs is bound. -/
structure Bindings.Furnishes (bindings : Bindings) (document : Document) : Prop where
  machines : ∀ machine ∈ document.machines, bindings.Supplies machine
  messages : ∀ messages ∈ document.messages, ∀ machine ∈ document.machines,
    machine.name = messages.machine → bindings.Carries machine messages.messages

namespace Workshop

variable {w w' u v t : Workshop} {bindings : Bindings} {home : String} {kind other : Class}
  {machine : Machine} {table : Table} {channels : Channels}

/-! ## 1. Numbers -/

/-- The number was given to a class that was made. -/
def Gave (w : Workshop) (number : Nat) : Prop :=
  Class.firstFree ≤ number ∧ number < w.registry.nextClass

/-- Every number in use was given away, and none to two machines of the compiler. -/
structure Orderly (w : Workshop) : Prop where
  room : Class.firstFree ≤ w.registry.nextClass
  channels : ∀ entry ∈ w.registry.channels, w.Gave entry.1
  made : ∀ entry ∈ w.compiler.made, w.Gave entry.2.id ∧
    entry.2.bases = Class.stateMachine.lineage
  apart : (w.compiler.made.map fun entry => entry.2.id).Nodup

theorem orderly_start (options : Options) : Orderly ⟨.fresh options, .empty⟩ :=
  ⟨Nat.le_refl _, nofun, nofun, List.nodup_nil⟩

/-- One compiler after another can use the registry. -/
theorem Orderly.fresh (orderly : w.Orderly) (options : Options) :
    Orderly ⟨.fresh options, w.registry⟩ :=
  ⟨orderly.room, orderly.channels, nofun, List.nodup_nil⟩

theorem Orderly.unlogged (orderly : w.Orderly) : w.unlogged.Orderly :=
  ⟨orderly.room, orderly.channels, orderly.made, orderly.apart⟩

theorem Gave.defined {number : Nat} (gave : w.Gave number) : (w.defined home table).Gave number :=
  ⟨gave.1, Nat.lt_succ_of_lt gave.2⟩

theorem Orderly.defined (orderly : w.Orderly) : (w.defined home table).Orderly where
  room := Nat.le_succ_of_le orderly.room
  channels entry mem := (orderly.channels entry mem).defined
  made := List.forall_mem_cons.mpr ⟨⟨⟨orderly.room, Nat.lt_succ_self _⟩, rfl⟩, fun entry mem =>
    ⟨(orderly.made entry mem).1.defined, (orderly.made entry mem).2⟩⟩
  apart := by
    refine List.nodup_cons.mpr ⟨fun again => ?_, orderly.apart⟩
    obtain ⟨entry, mem, same⟩ := List.mem_map.mp again
    exact Nat.ne_of_lt (orderly.made entry mem).1.2 same

theorem Orderly.equipped (orderly : w.Orderly) (gave : w.Gave kind.id) :
    (w.equipped kind channels).Orderly where
  room := orderly.room
  channels := List.forall_mem_cons.mpr ⟨gave, orderly.channels⟩
  made := orderly.made
  apart := orderly.apart

theorem Orderly.build (orderly : w.Orderly) (done : w.build bindings home machine = .ok (kind, w')) :
    w'.Orderly := by
  obtain ⟨-, table, -, rfl, rfl⟩ := build_ok_iff.mp done
  exact orderly.defined

theorem Orderly.attach (orderly : w.Orderly) (gave : w.Gave kind.id) {messages : Messages}
    (done : w.attach bindings kind table messages = .ok (other, w')) : w'.Orderly := by
  obtain ⟨-, channels, -, rfl, rfl⟩ := attach_ok_iff.mp done
  exact orderly.equipped gave

theorem Orderly.settle {α : Type} {result : Except Error (α × Workshop)} (orderly : w.Orderly)
    (kept : ∀ a w', result = .ok (a, w') → w'.Orderly) : (w.settle result).2.Orderly := by
  rcases result with error | ⟨a, w'⟩
  · exact orderly.unlogged
  · exact (kept a w' rfl).unlogged

theorem advance_keeps {α β : Type} {step : Workshop → α → Except Error (β × Workshop)}
    {kept : Workshop → Prop} (each : ∀ w a b w', kept w → step w a = .ok (b, w') → kept w')
    {as : List α} (start : kept w) : kept (advance step w as).2 := by
  induction as generalizing w with
  | nil => exact start
  | cons a rest ih =>
    cases done : step w a with
    | error error =>
      rw [advance_failed done]
      exact start
    | ok made =>
      rw [advance_done done]
      exact ih (each w a made.1 made.2 start done)

theorem Orderly.buildAll (orderly : w.Orderly) {machines : List Machine} :
    (w.buildAll bindings home machines).2.Orderly :=
  advance_keeps (fun _ _ _ _ orderly done => orderly.build (named_ok_iff.mp done).2) orderly

theorem Orderly.equipAll (orderly : w.Orderly) {made : List (String × Class)}
    (gave : ∀ entry ∈ made, w.Gave entry.2.id) {messages : List Messages} :
    (w.equipAll bindings made messages).2.Orderly := by
  let kept (w : Workshop) : Prop := w.Orderly ∧ ∀ entry ∈ made, w.Gave entry.2.id
  have start : kept w := ⟨orderly, gave⟩
  refine (advance_keeps (fun w _ _ w' kept done => ?_) start).1
  obtain ⟨owner, table, known, -, done⟩ := equip_ok_iff.mp done
  refine ⟨kept.1.attach (kept.2 _ (mem_of_lookup known)) done, fun entry mem => ?_⟩
  obtain ⟨-, channels, -, -, rfl⟩ := attach_ok_iff.mp done
  exact kept.2 entry mem

theorem Orderly.compile (orderly : w.Orderly) {document : Document} :
    (w.compile bindings home document).2.Orderly := by
  have after := @Orderly.buildAll w bindings home orderly document.machines
  unfold Workshop.compile
  rcases built : w.buildAll bindings home document.machines with ⟨error | made, u⟩
  · rw [built] at after
    exact after
  · rw [built] at after
    refine after.equipAll fun entry mem => (after.made entry ?_).1
    rw [(stocked_of_buildAll built).made]
    exact List.mem_append_left _ (List.mem_reverse.mpr mem)

/-- All work keeps the numbers in order, also where it fails. -/
theorem Orderly.outcome (orderly : w.Orderly) (source : String) :
    (∀ fallible, (outcome (compileMachine bindings fallible home source) w).2.Orderly) ∧
    (outcome (compileMessages bindings source) w).2.Orderly ∧
    (outcome (compileDocument bindings home source) w).2.Orderly := by
  refine ⟨fun fallible => ?_, ?_, ?_⟩
  · rw [outcome_compileMachine]
    refine orderly.settle fun kind w' done => ?_
    obtain ⟨machine, -, done⟩ := Except.bind_eq_ok_iff.mp done
    exact orderly.build done
  · rw [outcome_compileMessages home]
    refine orderly.settle fun kind w' done => ?_
    obtain ⟨decl, -, done⟩ := Except.bind_eq_ok_iff.mp done
    obtain ⟨owner, table, messages, known, -, -, done⟩ := declare_messages_iff.mp done
    exact orderly.attach (orderly.made _ (mem_of_lookup known)).1 done
  · rcases read : Document.read source with ⟨document, _ | why⟩
    · rw [outcome_compileDocument read]
      exact orderly.compile.unlogged
    · rw [outcome_refused read]
      exact orderly.unlogged

/-! ## 2. Channels of classes -/

/-- The classes that a compiled class extends have no numbers that were given away. -/
theorem Gave.ne_of_line {number : Nat} (gave : w.Gave number)
    (line : kind.bases = Class.stateMachine.lineage) (differs : kind.id ≠ number) :
    ∀ layer ∈ kind.lineage, layer.id ≠ number := by
  have low : 100 ≤ number := gave.1
  have known : ∀ base ∈ Class.stateMachine.lineage, base.id < 100 := by decide
  unfold Class.lineage
  rw [line]
  exact List.forall_mem_cons.mpr ⟨differs, fun layer mem =>
    Nat.ne_of_lt (Nat.lt_of_lt_of_le (known layer mem) low)⟩

/-- A class that is made next has no channels. -/
theorem Orderly.bare (orderly : w.Orderly) :
    w.registry.channels? (w.nextKind home table) = none := by
  unfold Registry.channels?
  rw [List.findSome?_eq_none_iff]
  intro layer mem
  rw [List.lookup_eq_none_iff]
  intro entry known
  have gave := orderly.channels entry known
  have newer : (w.nextKind home table).id ≠ entry.1 := Nat.ne_of_gt gave.2
  simpa using gave.ne_of_line rfl newer layer mem

theorem channels?_equipped_self :
    (w.equipped kind channels).registry.channels? kind = some channels := by
  have found : (w.equipped kind channels).registry.channels.lookup kind.own.id = some channels :=
    List.lookup_cons_self
  unfold Registry.channels? Class.lineage
  rw [List.findSome?_cons, found]

/-- The channels of other classes stay as they are. -/
theorem channels?_equipped (far : ∀ layer ∈ other.lineage, layer.id ≠ kind.id) :
    (w.equipped kind channels).registry.channels? other = w.registry.channels? other := by
  unfold Registry.channels?
  generalize other.lineage = layers at far ⊢
  induction layers with
  | nil => rfl
  | cons layer rest ih =>
    obtain ⟨differs, others⟩ := List.forall_mem_cons.mp far
    have same : (w.equipped kind channels).registry.channels.lookup layer.id =
        w.registry.channels.lookup layer.id := by
      show List.lookup layer.id ((kind.id, channels) :: w.registry.channels) = _
      rw [List.lookup_cons, beq_false_of_ne differs]
    rw [List.findSome?_cons, List.findSome?_cons, ih others, same]

/-! ## 3. Machines -/

/-- The class was compiled from the machine. -/
structure Holds (w : Workshop) (bindings : Bindings) (options : Options) (machine : Machine)
    (kind : Class) : Prop where
  old : kind.id < w.registry.nextClass
  here : ∃ entry, w.registry.machines.find? (·.kind.id == kind.id) = some entry ∧
    (Table.generate bindings options.flags options.checkTypes machine).2 = .ok entry.table

variable {options : Options} {made : List (String × Class)} {machines : List Machine}

theorem Holds.shelves (holds : w.Holds bindings options machine kind) : w.Shelves machine kind where
  old := holds.old
  here := by
    obtain ⟨entry, found, generated⟩ := holds.here
    exact ⟨entry, found, (Table.generated_of_ok generated).origin⟩

theorem Holds.defined (holds : w.Holds bindings options machine kind) :
    (w.defined home table).Holds bindings options machine kind where
  old := Nat.lt_succ_of_lt holds.old
  here := holds.shelves.find?_defined ▸ holds.here

theorem holds_defined
    (generated : (Table.generate bindings options.flags options.checkTypes machine).2 = .ok table) :
    (w.defined home table).Holds bindings options machine (w.nextKind home table) where
  old := Nat.lt_succ_self _
  here := ⟨⟨w.nextKind home table, home, table⟩,
    List.find?_cons_of_pos (beq_self_eq_true (w.nextKind home table).id), generated⟩

theorem Holds.of_leaves (holds : w.Holds bindings options machine kind) (leaves : w.Leaves v) :
    v.Holds bindings options machine kind where
  old := leaves.nextClass ▸ holds.old
  here := leaves.machines ▸ holds.here

theorem Holds.stored (holds : w.Holds bindings options machine kind) : ∃ table,
    w.registry.table? kind = some table ∧ w.tableOf kind = .ok table ∧
      (Table.generate bindings options.flags options.checkTypes machine).2 = .ok table := by
  obtain ⟨entry, found, generated⟩ := holds.here
  exact ⟨entry.table, table?_found found, tableOf_found found, generated⟩

/-- Machines with different new names are made, all of them, if everything they need is bound. -/
theorem buildAll_supplied (names : (machines.map Machine.name).Nodup)
    (new : ∀ machine ∈ machines, w.compiler.made.lookup machine.name = none)
    (closed : ∀ machine ∈ machines, machine.Closed)
    (supplied : ∀ machine ∈ machines, bindings.Supplies machine) :
    ∃ made u, w.buildAll bindings home machines = (.ok made, u) := by
  induction machines generalizing w with
  | nil => exact ⟨[], w, rfl⟩
  | cons machine rest ih =>
    obtain ⟨free, new⟩ := List.forall_mem_cons.mp new
    obtain ⟨shut, closed⟩ := List.forall_mem_cons.mp closed
    obtain ⟨fed, supplied⟩ := List.forall_mem_cons.mp supplied
    obtain ⟨unlike, names⟩ := List.nodup_cons.mp names
    have needs : Needs (Table.generate bindings w.compiler.options.flags
      w.compiler.options.checkTypes machine).2 (bindings.Supplies machine) := Table.generate_needs shut
    obtain ⟨table, generated⟩ := needs.ok_iff.mpr fed
    have still : ∀ other ∈ rest, (w.defined home table).compiler.made.lookup other.name = none := by
      intro other mem
      have differs : other.name ≠ table.name := by
        rw [Table.name, (Table.generated_of_ok generated).origin]
        exact fun same => unlike (same ▸ List.mem_map_of_mem mem)
      show List.lookup other.name ((table.name, _) :: w.compiler.made) = none
      rw [List.lookup_cons, beq_false_of_ne differs]
      exact new other mem
    obtain ⟨made, u, built⟩ := ih names still closed supplied
    exact ⟨_, u, advance_cons_iff.mpr ⟨(machine.name, w.nextKind home table), _, made,
      named_ok_iff.mpr ⟨rfl, build_ok_iff.mpr ⟨free, table, generated, rfl, rfl⟩⟩, built, rfl⟩⟩

/-- Every machine has a class of its name. -/
theorem holds_of_buildAll (fresh : w.compiler.made = [])
    (built : w.buildAll bindings home machines = (.ok made, u)) : ∀ machine ∈ machines,
      ∃ kind, made.lookup machine.name = some kind ∧
        u.Holds bindings w.compiler.options machine kind := by
  induction machines using List.reverseRecOn generalizing made u with
  | nil => exact nofun
  | append_singleton machines last ih =>
    obtain ⟨before, t, ⟨name, kind⟩, others, named, rfl⟩ := advance_snoc_iff.mp built
    obtain ⟨rfl, done⟩ := named_ok_iff.mp named
    obtain ⟨new, table, generated, rfl, rfl⟩ := build_ok_iff.mp done
    rw [(stocked_of_buildAll others).options] at generated
    intro machine mem
    rcases List.mem_append.mp mem with mem | mem
    · obtain ⟨kind, known, holds⟩ := ih others machine mem
      exact ⟨kind, by rw [List.lookup_append, known, Option.some_or], holds.defined⟩
    · obtain rfl := List.mem_singleton.mp mem
      rw [(shelved_of_buildAll fresh others).remembered] at new
      exact ⟨_, by rw [List.lookup_append, new, Option.none_or, List.lookup_cons_self],
        holds_defined generated⟩

/-- No class has channels when it was just made. -/
theorem bare_of_buildAll (orderly : w.Orderly)
    (built : w.buildAll bindings home machines = (.ok made, u)) :
    ∀ entry ∈ made, u.registry.channels? entry.2 = none := by
  induction machines generalizing w made with
  | nil =>
    obtain ⟨rfl, rfl⟩ := advance_nil_iff.mp built
    exact nofun
  | cons machine rest ih =>
    obtain ⟨⟨name, kind⟩, t, others, done, onward, rfl⟩ := advance_cons_iff.mp built
    obtain ⟨rfl, done⟩ := named_ok_iff.mp done
    obtain ⟨-, table, generated, rfl, rfl⟩ := build_ok_iff.mp done
    refine List.forall_mem_cons.mpr ⟨?_, ih orderly.defined onward⟩
    unfold Registry.channels?
    rw [(stocked_of_buildAll onward).channels]
    exact orderly.bare

/-! ## 4. Messages -/

/-- The messages can be attached: their machine was made, they fit it, and all they need is bound. -/
structure Equips (w : Workshop) (bindings : Bindings) (options : Options)
    (made : List (String × Class)) (messages : Messages) (machine : Machine) (kind : Class) :
    Prop where
  known : made.lookup messages.machine = some kind
  holds : w.Holds bindings options machine kind
  closed : machine.Closed
  suits : messages.Suits machine
  carries : bindings.Carries machine messages.messages

variable {messages : Messages}

theorem Equips.of_leaves (equips : w.Equips bindings options made messages machine kind)
    (leaves : w.Leaves v) : v.Equips bindings options made messages machine kind :=
  { equips with holds := equips.holds.of_leaves leaves }

/-- What channels a class has that was given messages. -/
structure Channelled (w : Workshop) (bindings : Bindings) (messages : Messages) (kind : Class)
    (channels : Channels) : Prop where
  found : w.registry.channels? kind = some channels
  made : ∃ table, w.registry.table? kind = some table ∧
    Channels.ofMessages bindings table messages = .ok channels
  /-- All messages have a channel, in the order of their declaration. -/
  declared : ∀ direction, (channels.along direction).map Channel.message =
    messages.messages.filter (·.direction = direction)

theorem Equips.equip_ok (equips : w.Equips bindings options made messages machine kind)
    (free : w.registry.channels? kind = none) : ∃ channels,
      w.equip bindings made messages = .ok (kind, w.equipped kind channels) ∧
        (w.equipped kind channels).Channelled bindings messages kind channels := by
  obtain ⟨table, found, stored, generated⟩ := equips.holds.stored
  have needs : Needs (Channels.ofMessages bindings table messages) _ :=
    Channels.ofMessages_needs (Table.generated_of_ok generated) equips.closed equips.suits
  obtain ⟨channels, attached⟩ := needs.ok_iff.mpr equips.carries
  exact ⟨channels, equip_ok_iff.mpr ⟨kind, table, equips.known, stored,
      attach_ok_iff.mpr ⟨free, channels, attached, rfl, rfl⟩⟩,
    channels?_equipped_self, ⟨table, found, attached⟩, Channels.messages_along attached⟩

theorem Equips.equip_taken (equips : w.Equips bindings options made messages machine kind)
    (taken : w.registry.channels? kind ≠ none) :
    w.equip bindings made messages = .error (.alreadyAttached messages.machine) := by
  obtain ⟨table, -, stored, -⟩ := equips.holds.stored
  have refused : w.attach bindings kind table messages = .error (.alreadyAttached messages.machine) :=
    if_pos (Option.isSome_iff_ne_none.mpr taken)
  unfold equip
  rw [equips.known]
  dsimp only
  rw [stored]
  exact refused

theorem Leaves.table?_eq (leaves : w.Leaves v) : v.registry.table? kind = w.registry.table? kind := by
  unfold Registry.table? Registry.machine?
  rw [leaves.machines]

/-- The compiler knows every class under one name. -/
theorem Orderly.number_ne (orderly : w.Orderly) (recalls : ∀ entry ∈ made, entry ∈ w.compiler.made)
    {name name' : String} (known : made.lookup name = some kind)
    (known' : made.lookup name' = some other) (differs : name' ≠ name) :
    ∀ layer ∈ other.lineage, layer.id ≠ kind.id := by
  have here := recalls _ (mem_of_lookup known)
  have there := recalls _ (mem_of_lookup known')
  refine (orderly.made _ here).1.ne_of_line (orderly.made _ there).2 fun same => ?_
  exact differs (congrArg Prod.fst (List.inj_on_of_nodup_map orderly.apart there here same))

/-- All messages are attached if each is for another machine, and none of these has channels. -/
theorem equipAll_equips {all : List Messages} (orderly : w.Orderly)
    (recalls : ∀ entry ∈ made, entry ∈ w.compiler.made)
    (equips : ∀ messages ∈ all, ∃ machine kind,
      w.Equips bindings options made messages machine kind ∧ w.registry.channels? kind = none)
    (names : (all.map Messages.machine).Nodup) :
    ∃ kinds v, w.equipAll bindings made all = (.ok kinds, v) ∧
      (∀ messages ∈ all, ∃ kind channels, made.lookup messages.machine = some kind ∧
        v.Channelled bindings messages kind channels) ∧
      ∀ name kind, made.lookup name = some kind → name ∉ all.map Messages.machine →
        v.registry.channels? kind = w.registry.channels? kind := by
  induction all generalizing w with
  | nil => exact ⟨[], w, rfl, nofun, fun _ _ _ _ => rfl⟩
  | cons first rest ih =>
    obtain ⟨⟨machine, kind, here, free⟩, equips⟩ := List.forall_mem_cons.mp equips
    obtain ⟨unlike, names⟩ := List.nodup_cons.mp names
    obtain ⟨channels, done, channelled⟩ := here.equip_ok free
    have leaves : w.Leaves (w.equipped kind channels) := ⟨rfl, rfl, rfl⟩
    have others {name : String} {other : Class} (known : made.lookup name = some other)
        (differs : name ≠ first.machine) :
        (w.equipped kind channels).registry.channels? other = w.registry.channels? other :=
      channels?_equipped (orderly.number_ne recalls here.known known differs)
    have gave : w.Gave kind.id := (orderly.made _ (recalls _ (mem_of_lookup here.known))).1
    obtain ⟨kinds, v, onward, attached, same⟩ := ih (orderly.equipped gave) recalls (by
      intro messages mem
      obtain ⟨machine, other, equips, free⟩ := equips messages mem
      refine ⟨machine, other, equips.of_leaves leaves, ?_⟩
      rw [others equips.known fun same => unlike (same ▸ List.mem_map_of_mem mem), free]) names
    refine ⟨kind :: kinds, v, advance_cons_iff.mpr ⟨kind, _, kinds, done, onward, rfl⟩,
      List.forall_mem_cons.mpr ⟨⟨kind, channels, here.known, ?_⟩, attached⟩, ?_⟩
    · -- what is attached later is for other machines
      have stays := same first.machine kind here.known unlike
      obtain ⟨table, found, made⟩ := channelled.made
      exact ⟨stays.trans channelled.found,
        ⟨table, (leaves_of_equipAll onward).table?_eq.trans found, made⟩, channelled.declared⟩
    · intro name other known absent
      obtain ⟨differs, absent⟩ := not_or.mp (mt List.mem_cons.mpr absent)
      exact (same name other known absent).trans (others known differs)

/-! ## 5. Documents -/

/-- The class was compiled from the machine of a document, and has the channels of its messages. -/
structure Finishes (w : Workshop) (bindings : Bindings) (options : Options) (document : Document)
    (machine : Machine) (kind : Class) : Prop where
  holds : w.Holds bindings options machine kind
  attached : ∀ messages ∈ document.messages, messages.machine = machine.name →
    ∃ channels, w.Channelled bindings messages kind channels
  bare : machine.name ∉ document.messages.map Messages.machine → w.registry.channels? kind = none

theorem Finishes.unlogged {document : Document}
    (finishes : w.Finishes bindings options document machine kind) :
    w.unlogged.Finishes bindings options document machine kind where
  holds := ⟨finishes.holds.old, finishes.holds.here⟩
  attached messages mem same := by
    obtain ⟨channels, found, made, declared⟩ := finishes.attached messages mem same
    exact ⟨channels, found, made, declared⟩
  bare := finishes.bare

theorem advance_stops {α β : Type} {step : Workshop → α → Except Error (β × Workshop)}
    {before after : List α} {a : α} {bs : List β} {error : Error}
    (sofar : advance step w before = (.ok bs, v)) (failed : step v a = .error error) :
    advance step w (before ++ a :: after) = (.error error, v) := by
  induction before generalizing w bs with
  | nil =>
    obtain ⟨-, rfl⟩ := advance_nil_iff.mp sofar
    exact advance_failed failed
  | cons first rest ih =>
    obtain ⟨b, t, others, done, onward, rfl⟩ := advance_cons_iff.mp sofar
    rw [List.cons_append, advance_done done, ih onward]
    rfl

variable {document : Document} (fresh : w.compiler.made = []) (orderly : w.Orderly)
  (coherent : document.Coherent) (furnishes : bindings.Furnishes document)
include fresh orderly coherent furnishes

/-- All machines of a document are made, and all messages are ready to be attached to them. -/
theorem buildAll_furnished : ∃ made u,
    w.buildAll bindings home document.machines = (.ok made, u) ∧ u.Orderly ∧
      (∀ entry ∈ made, entry ∈ u.compiler.made) ∧
      (∀ {name kind}, made.lookup name = some kind → u.registry.channels? kind = none) ∧
      ∀ messages ∈ document.messages, ∃ machine kind,
        u.Equips bindings w.compiler.options made messages machine kind ∧
          u.registry.channels? kind = none := by
  obtain ⟨made, u, built⟩ := @buildAll_supplied w bindings home document.machines coherent.names
    (fun _ _ => by rw [fresh]; rfl) coherent.closed furnishes.machines
  have after := @Orderly.buildAll w bindings home orderly document.machines
  rw [built] at after
  have bare {name : String} {kind : Class} (known : made.lookup name = some kind) :
      u.registry.channels? kind = none :=
    bare_of_buildAll orderly built (name, kind) (mem_of_lookup known)
  refine ⟨made, u, built, after, fun entry mem => ?_, bare, fun messages mem => ?_⟩
  · rw [(stocked_of_buildAll built).made]
    exact List.mem_append_left _ (List.mem_reverse.mpr mem)
  · obtain ⟨machine, here, suits⟩ := coherent.owned messages mem
    obtain ⟨kind, known, holds⟩ := holds_of_buildAll fresh built machine here
    exact ⟨machine, kind, ⟨suits.named ▸ known, holds, coherent.closed machine here, suits,
      furnishes.messages messages mem machine here suits.named.symm⟩, bare known⟩

/-- If no machine has its messages declared twice then everything is made. -/
theorem compile_furnished (once : (document.messages.map Messages.machine).Nodup) : ∃ made v,
    w.compile bindings home document = (.ok made, v) ∧
      made.map Prod.fst = document.machines.map Machine.name ∧
      ∀ machine ∈ document.machines, ∃ kind, made.lookup machine.name = some kind ∧
        v.Finishes bindings w.compiler.options document machine kind := by
  obtain ⟨made, u, built, numbered, recalls, bare, equips⟩ :=
    @buildAll_furnished w bindings home document fresh orderly coherent furnishes
  obtain ⟨kinds, v, done, attached, others⟩ := equipAll_equips numbered recalls equips once
  refine ⟨made, v, compile_ok_iff.mpr ⟨u, kinds, built, done⟩, (stocked_of_buildAll built).names,
    fun machine mem => ?_⟩
  obtain ⟨kind, known, holds⟩ := holds_of_buildAll fresh built machine mem
  refine ⟨kind, known, holds.of_leaves (leaves_of_equipAll done), fun messages mem same => ?_,
    fun absent => (others machine.name kind known absent).trans (bare known)⟩
  obtain ⟨owner, channels, known', channelled⟩ := attached messages mem
  rw [same] at known'
  cases known.symm.trans known'
  exact ⟨channels, channelled⟩

/-- Messages for a machine that had some before are refused. -/
theorem compile_repeated {before after : List Messages} {messages : Messages}
    (split : document.messages = before ++ messages :: after)
    (once : (before.map Messages.machine).Nodup)
    (again : messages.machine ∈ before.map Messages.machine) : ∃ v,
    w.compile bindings home document = (.error (.alreadyAttached messages.machine), v) := by
  obtain ⟨made, u, built, numbered, recalls, bare, equips⟩ :=
    @buildAll_furnished w bindings home document fresh orderly coherent furnishes
  rw [split] at equips
  obtain ⟨kinds, v, done, attached, -⟩ := equipAll_equips numbered recalls
    (fun earlier mem => equips earlier (List.mem_append_left _ mem)) once
  obtain ⟨machine, kind, here, -⟩ :=
    equips messages (List.mem_append_right _ (List.mem_cons_self ..))
  obtain ⟨first, mem, same⟩ := List.mem_map.mp again
  obtain ⟨owner, channels, known, channelled⟩ := attached first mem
  rw [same, here.known] at known
  cases known
  have failed := (here.of_leaves (leaves_of_equipAll done)).equip_taken
    (channelled.found ▸ Option.some_ne_none channels)
  refine ⟨v, ?_⟩
  rw [Workshop.compile, built, split]
  dsimp only
  rw [Workshop.equipAll, advance_stops done failed]
  rfl

omit coherent in
/-- If everything is bound that an accepted document needs, a new compiler makes all its machines
    and attaches their messages, unless messages of one machine are declared twice; then it fails at
    the second of these declarations. -/
theorem furnished_document_compiles {source : String}
    (read : Document.read source = (document, none)) :
    ((document.messages.map Messages.machine).Nodup → ∃ made w',
      outcome (compileDocument bindings home source) w = (.ok made, w') ∧
        made.map Prod.fst = document.machines.map Machine.name ∧
        ∀ machine ∈ document.machines, ∃ kind, made.lookup machine.name = some kind ∧
          w'.Finishes bindings w.compiler.options document machine kind) ∧
    (¬ (document.messages.map Messages.machine).Nodup → ∃ before messages after w',
      document.messages = before ++ messages :: after ∧
        (before.map Messages.machine).Nodup ∧ messages.machine ∈ before.map Messages.machine ∧
        outcome (compileDocument bindings home source) w =
          (.error (.alreadyAttached messages.machine), w')) := by
  have coherent := Document.coherent_of_read read
  rw [outcome_compileDocument read]
  refine ⟨fun once => ?_, fun twice => ?_⟩
  · obtain ⟨made, v, done, names, finishes⟩ :=
      @compile_furnished w bindings home document fresh orderly coherent furnishes once
    rw [done]
    refine ⟨made, v.unlogged, rfl, names, fun machine mem => ?_⟩
    obtain ⟨kind, known, finished⟩ := finishes machine mem
    exact ⟨kind, known, finished.unlogged⟩
  · obtain ⟨before, messages, after, split, once, again⟩ := exists_repeated twice
    obtain ⟨v, failed⟩ :=
      @compile_repeated w bindings home document fresh orderly coherent furnishes _ _ _ split once again
    rw [failed]
    exact ⟨before, messages, after, v.unlogged, split, once, again, rfl⟩

omit fresh orderly coherent furnishes

/-! ## 6. Two messages for one machine -/

/-- The one state of the machine, and the payloads of its messages. -/
def station : Class := Class.object.plain 100 "X"
def parcel : Class := Class.object.plain 101 "P"
def letter : Class := Class.object.plain 102 "Q"

/-- Everything is bound, with receivers for the payloads. -/
def stationBindings : Bindings :=
  { Bindings.empty [("X", .cls station), ("P", .cls parcel), ("Q", .cls letter)] with
    receivers := [(("XState", "P"), .routine 0), (("XState", "Q"), .routine 1)] }

/-- A name as it stands in the text. -/
def nameAt (name : String) (offset : Nat) : Reference := ⟨⟨name, []⟩, ⟨⟨offset, 1, offset + 1⟩, 1⟩⟩

def stationMachine : Machine :=
  ⟨"M", ⟨nameAt "X" 15, []⟩, [⟨nameAt "X" 15, []⟩], [], none⟩

/-- A message to the machine that is declared with its payload at the offset. -/
def stationMessages (payload : String) (offset : Nat) : Messages :=
  ⟨"M", [⟨nameAt payload offset, .push, nameAt "X" (offset + 5), (nameAt payload offset).span⟩]⟩

def onceText : String := "machine(M, X, [X], []) messages(M, [P -> X])"
def twiceText : String := "machine(M, X, [X], []) messages(M, [P -> X]) messages(M, [Q -> X])"

theorem onceText_read : Document.read onceText =
    (⟨[stationMachine], [stationMessages "P" 36]⟩, none) := by
  decide +kernel

theorem twiceText_read : Document.read twiceText =
    (⟨[stationMachine], [stationMessages "P" 36, stationMessages "Q" 58]⟩, none) := by
  decide +kernel

theorem station_supplied : stationBindings.Supplies stationMachine where
  classes state mem := by
    obtain rfl := List.mem_singleton.mp mem
    exact ⟨station, rfl⟩
  guards := nofun
  conversions := nofun
  failures := nofun

theorem parcel_carried :
    stationBindings.Carries stationMachine (stationMessages "P" 36).messages :=
  Bindings.carries_cons_iff.mpr ⟨⟨parcel, rfl⟩, .inl ⟨.routine 0, rfl⟩, nofun, Bindings.carries_nil⟩

theorem letter_carried :
    stationBindings.Carries stationMachine (stationMessages "Q" 58).messages :=
  Bindings.carries_cons_iff.mpr ⟨⟨letter, rfl⟩, .inl ⟨.routine 1, rfl⟩, nofun, Bindings.carries_nil⟩

theorem station_furnished {all : List Messages}
    (carried : ∀ messages ∈ all, stationBindings.Carries stationMachine messages.messages) :
    stationBindings.Furnishes ⟨[stationMachine], all⟩ where
  machines := List.forall_mem_singleton.mpr station_supplied
  messages messages mem machine here _ := by
    obtain rfl := List.mem_singleton.mp here
    exact carried messages mem

/-- The compiler has made nothing yet. -/
def unused : Workshop := ⟨.fresh .default, .empty⟩

/-- With one messages declaration the machine is made and has its channel. -/
theorem furnished_document_compiles_station : ∃ made w',
    outcome (compileDocument stationBindings "m" onceText) unused = (.ok made, w') ∧
      made.map Prod.fst = ["M"] ∧ ∃ kind channels, made.lookup "M" = some kind ∧
        w'.Channelled stationBindings (stationMessages "P" 36) kind channels := by
  have furnished : stationBindings.Furnishes ⟨[stationMachine], [stationMessages "P" 36]⟩ :=
    station_furnished (List.forall_mem_singleton.mpr parcel_carried)
  obtain ⟨made, w', done, names, finishes⟩ :=
    (furnished_document_compiles rfl (orderly_start _) furnished onceText_read).1
      (List.nodup_singleton _)
  obtain ⟨kind, known, finished⟩ := finishes stationMachine (List.mem_singleton_self _)
  obtain ⟨channels, channelled⟩ :=
    finished.attached (stationMessages "P" 36) (List.mem_singleton_self _) rfl
  exact ⟨made, w', done, names, kind, channels, known, channelled⟩

/-- Two messages declarations for one machine: the text is accepted and everything is bound, and
    compilation fails with a validation error. -/
theorem accepted_document_never_compiles : ∃ document, Document.read twiceText = (document, none) ∧
    stationBindings.Furnishes document ∧
      (outcome (compileDocument stationBindings "m" twiceText) unused).1 =
        .error (.alreadyAttached "M") ∧
      (Error.alreadyAttached "M").kind = .validationError := by
  have carried : ∀ messages ∈ [stationMessages "P" 36, stationMessages "Q" 58],
      stationBindings.Carries stationMachine messages.messages :=
    List.forall_mem_cons.mpr ⟨parcel_carried, List.forall_mem_singleton.mpr letter_carried⟩
  refine ⟨_, twiceText_read, station_furnished carried, ?_, rfl⟩
  rw [outcome_compileDocument twiceText_read]
  rfl

end Workshop

end MachineSpec
