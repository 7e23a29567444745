/-
MachineSpec.Proofs.Lifecycle — operations by the condition of the machine.

A slot has four fields, but between operations it is in one of four conditions, as long as
callbacks do not call the machine: *fresh*; *seeded*, with the data that the machine was
created with and a pending entry; *holding* data of a state; or *halted*, running and with
no data. `Condition` lists them.

For each operation and condition this module gives the resulting operation on data. Most
cases are equations: a halted machine makes no request, so its step is a failure. Where data
is entered, run or left, the course is cut behind that, and the slot on either side is
known.

A seeded machine makes the pending entry first and then continues as a machine that holds
the result, with the same operation; only a step ends there if the entry was redirected.
-/
import MachineSpec.Engine.Lifecycle
import MachineSpec.Proofs.Frame

namespace MachineSpec

/-! ## 1. Conditions -/

/-- The slot of a machine that was created with data. -/
def Slot.seeded (table : Table) (given : Value) : Slot :=
  ⟨table.machine.initial.tag, given, true, true⟩

/-- The slot with an entry put into it. -/
def Slot.holding (entry : Entry) : Slot := ⟨entry.tag, entry.data, true, false⟩

/-- The slot of a running machine whose data was taken out. -/
def Slot.halted (tag : String) : Slot := ⟨tag, .null, true, false⟩

/-- The slot after data was dealt with by an operation that had taken it out: what came of it is put
    back, and a failure halts the machine. -/
def Slot.landing (tag : String) : Except Failure Entry → Slot
  | .ok entry => .holding entry
  | .error _ => .halted tag

@[simp] theorem Slot.holding_inj {entry entry' : Entry} :
    Slot.holding entry = .holding entry' ↔ entry = entry' := by
  obtain ⟨tag, data⟩ := entry
  obtain ⟨tag', data'⟩ := entry'
  simp [Slot.holding]

@[simp] theorem Slot.holding_ne_fresh {table : Table} {entry : Entry} :
    Slot.holding entry ≠ .fresh table := by
  simp [Slot.holding, Slot.fresh]

@[simp] theorem Slot.holding_ne_seeded {table : Table} {given : Value} {entry : Entry} :
    Slot.holding entry ≠ .seeded table given := by
  simp [Slot.holding, Slot.seeded]

/-- The conditions of a machine that was created with the given data or with none. -/
inductive Table.Condition (table : Table) (given : Value) : Slot → Prop where
  | fresh : Condition table given (.fresh table)
  | seeded (block : Block) (initial : table.block? table.machine.initial.tag = some block)
      (full : given.isNull = false) (fits : given.isA block.kind = true) :
      Condition table given (.seeded table given)
  | holding (entry : Entry) (block : Block) (known : table.block? entry.tag = some block)
      (full : entry.data.isNull = false) : Condition table given (.holding entry)
  | halted (tag : String) (known : table.Knows tag) : Condition table given (.halted tag)

theorem Value.eq_null_of_isNull {value : Value} (h : value.isNull = true) : value = .null := by
  cases value <;> simp_all [Value.isNull]

namespace Table

open Operation Dialogue

variable {table : Table} {given : Value}

/-- Data is put into the slot: the machine holds it, unless it is nothing. -/
theorem condition_holding {entry : Entry} (known : table.Knows entry.tag) :
    table.Condition given (.holding entry) := by
  cases full : entry.data.isNull with
  | true =>
    have hnull : Slot.holding entry = .halted entry.tag := by
      simp [Slot.holding, Slot.halted, Value.eq_null_of_isNull full]
    exact hnull ▸ .halted entry.tag known
  | false =>
    obtain ⟨block, hblock⟩ := known
    exact .holding entry block hblock full

/-- A new machine is fresh or seeded. -/
theorem create_cases {slot : Slot} (h : table.create given = .ok slot) :
    slot = .fresh table ∨ slot = .seeded table given ∧ given.isNull = false ∧
      ∃ block, table.block? table.machine.initial.tag = some block ∧
        given.isA block.kind = true := by
  unfold create at h
  split at h
  · cases h
    exact .inl rfl
  · rename_i full
    obtain ⟨_, hcheck, h⟩ := Except.bind_eq_ok_iff.mp h
    cases h
    unfold checkInitial at hcheck
    split at hcheck
    · cases hcheck
    · rename_i block hblock
      split at hcheck
      · rename_i fits
        exact .inr ⟨rfl, by simpa using full, block, hblock, fits⟩
      · cases hcheck

theorem create_condition {slot : Slot} (h : table.create given = .ok slot) :
    table.Condition given slot := by
  rcases create_cases h with rfl | ⟨rfl, full, block, hblock, fits⟩
  · exact .fresh
  · exact .seeded block hblock full fits

theorem create_tag {slot : Slot} (h : table.create given = .ok slot) :
    slot.tag = table.machine.initial.tag := by
  rcases create_cases h with rfl | ⟨rfl, -⟩ <;> rfl

/-! ## 2. Starting, stepping and stopping, by condition -/

theorem start_running {slot : Slot} (h : slot.running = true) (data : Value) :
    table.start data slot = .done (.error (.error (.alreadyRunning table.name))) slot := by
  simp [start, h]

theorem start_refused {data : Value} {error : Error} (h : table.checkInitial data = .error error) :
    table.start data (.fresh table) = .done (.error (.error error)) (.fresh table) := by
  simp [start, Slot.fresh, h]

/-- A start empties the slot for as long as the entry takes. -/
theorem start_fresh {data : Value} {block : Block}
    (initial : table.block? table.machine.initial.tag = some block)
    (h : table.checkInitial data = .ok ()) :
    table.start data (.fresh table) = (do
      let entry ← table.enter block data false
      settle entry
      table.reportLife "Start" table.machine.initial.text : Operation Unit)
        (.halted table.machine.initial.tag) := by
  simp [start, Slot.fresh, Slot.halted, h, Table.block, initial]

theorem step_fresh : table.step (.fresh table) =
    .done (.error (.error (.empty table.name))) (.fresh table) := rfl

theorem step_halted (tag : String) : table.step (.halted tag) =
    .done (.error (.error (.empty table.name))) (.halted tag) := rfl

theorem step_holding {entry : Entry} {block : Block} (known : table.block? entry.tag = some block)
    (full : entry.data.isNull = false) :
    table.step (.holding entry) = (do
      let entry ← table.run block entry.data
      settle entry : Operation Unit) (.halted entry.tag) := by
  simp [step, enterPending, takeData, Slot.holding, Slot.halted, full, Table.block, known]

theorem stop_fresh : table.stop (.fresh table) =
    .done (.error (.error (.empty table.name))) (.fresh table) := rfl

theorem stop_halted (tag : String) : table.stop (.halted tag) =
    .done (.error (.error (.empty table.name))) (.fresh table) := rfl

theorem stop_holding {entry : Entry} (full : entry.data.isNull = false) :
    table.stop (.holding entry) = (do
      table.reportLife "Stop" ""
      let block ← table.block (← Operation.slot).tag
      let entry ← table.retire block entry.data
      table.reset
      let last ← table.block entry.tag
      return ⟨entry.tag, last.kind, entry.data⟩ : Operation Snapshot) (.halted entry.tag) := by
  simp [stop, enterPending, takeData, Slot.holding, Slot.halted, full]

/-! ## 3. The pending entry -/

theorem enterPending_bind {α : Type} {slot : Slot} (h : slot.pending = false)
    {next : Bool → Operation α} : (table.enterPending >>= next) slot = next false slot := by
  simp [enterPending, h]

theorem enterPending_seeded {block : Block}
    (initial : table.block? table.machine.initial.tag = some block) (full : given.isNull = false) :
    table.enterPending (.seeded table given) = (do
      let entry ← table.enter block given true
      settle entry
      return entry.tag != block.tag : Operation Bool) (.halted table.machine.initial.tag) := by
  simp [enterPending, takeData, Slot.seeded, Slot.halted, Table.block, initial, full]

end Table

end MachineSpec
