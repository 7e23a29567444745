/-
MachineSpec.Proofs.Completeness — what compiles never misses a binding at run time.

At run time a machine looks up the blocks of tags and the conversions into the error state.
The tags come from the slot, from the transitions of the table and from states that failed.

`Table.generate_ok_iff_supplies` has two parts. A validated machine compiles if and only if
the bindings supply everything it needs (`Bindings.Supplies`), and otherwise compilation
fails with a binding error. For a compiled machine no such lookup fails, in any run, also
after failures and when callbacks call the machine (`Table.Complete`).
-/
import MachineSpec.Proofs.Generation
import MachineSpec.Proofs.Regime

namespace MachineSpec

namespace Table

variable {table : Table}

/-- Whatever is looked up under this tag is there. -/
structure Equipped (table : Table) (tag : String) : Prop where
  /-- The block, and with it the class. -/
  block : ∃ block, table.block? tag = some block
  /-- The conversion into the error state, if there is one and the tag is another. -/
  conversion : ∀ route, table.failure = some route → tag ≠ route.errorBlock.tag →
    ∃ conversion, route.conversions.lookup tag = some conversion

/-- No lookup fails, whatever callbacks answer and whatever calls they make on the machine. -/
structure Complete (table : Table) : Prop where
  /-- Nor does it when a machine is created. -/
  creates : ∀ given tag, table.create given ≠ .error (.noBlock tag)
  /-- At any moment, what there is to look up for the tag of the slot is there. -/
  slots : ∀ moment, table.Lives (fun _ _ => True) moment → table.Equipped moment.doing.slot.tag
  /-- The same for the state of every request on data. -/
  requests : ∀ moment, table.Lives (fun _ _ => True) moment →
    ∀ request slot resume, moment.doing = .ask request slot resume →
      ∀ tag data, request.owner? = some (tag, data) → table.Equipped tag
  /-- No call fails because something was not found. -/
  ends : ∀ moment, table.Lives (fun _ _ => True) moment →
    ∀ outcome slot, moment.doing = .done outcome slot →
      ∀ tag, outcome ≠ .error (.error (.noBlock tag))

theorem equipped_of_knows (sound : table.Sound) {tag : String} (known : table.Knows tag) :
    table.Equipped tag := by
  refine ⟨known, fun route fallible other => ?_⟩
  obtain ⟨block, found⟩ := known
  have same := tag_of_block? found
  rw [← same]
  exact sound.conversions route fallible block (mem_of_block? found) (same ▸ other)

theorem create_error (sound : table.Sound) {given : Value} {error : Error}
    (h : table.create given = .error error) : error.declines = true := by
  unfold create at h
  split at h
  · cases h
  · cases check : table.checkInitial given with
    | ok _ =>
      rw [check] at h
      cases h
    | error other =>
      rw [check] at h
      cases h
      exact checkInitial_error sound check

/-- A sound table is complete. -/
theorem Sound.complete (sound : table.Sound) : table.Complete := by
  have abides := Regime.ofTags_abides sound sound.confines fun _ _ => True
  refine ⟨fun given tag missed => ?_, fun moment lives => ?_,
    fun moment lives request slot resume asks tag data owned => ?_,
    fun moment lives outcome slot ends tag missed => ?_⟩
  · have declines := create_error sound missed
    cases declines
  · obtain ⟨past, secure⟩ := lives.secure abides
    exact equipped_of_knows sound secure.steady
  · obtain ⟨past, secure⟩ := lives.secure abides
    exact equipped_of_knows sound ((secure.asks asks).2 tag data owned)
  · obtain ⟨past, secure⟩ := lives.secure abides
    exact Blamed.found (secure.fails (missed ▸ ends)) tag rfl

/-- A validated machine compiles if and only if its bindings supply all that it needs, and fails
    with a binding error otherwise. No lookup of a compiled machine fails. -/
theorem generate_ok_iff_supplies {decl : MachineDecl} {machine : Machine}
    (checked : Machine.ofDecl decl = .ok machine) (bindings : Bindings) (flags : TraceFlags)
    (checkTypes : Bool) :
    ((∃ table, (Table.generate bindings flags checkTypes machine).2 = .ok table) ↔
      bindings.Supplies machine) ∧
    (∀ error, (Table.generate bindings flags checkTypes machine).2 = .error error →
      error.kind = .bindingError) ∧
    ∀ table, (Table.generate bindings flags checkTypes machine).2 = .ok table → table.Complete := by
  have needs : Needs (Table.generate bindings flags checkTypes machine).2
      (bindings.Supplies machine) :=
    Table.generate_needs (Machine.closed_of_ofDecl checked)
  refine ⟨needs.ok_iff, fun error failed => needs.error_kind failed, fun table made => ?_⟩
  have compiled : table.Compiled := ⟨decl, machine, bindings, flags, checkTypes, checked, made⟩
  exact compiled.sound.complete

/-- The bindings of the lamp supply what its machine needs; without the guard they do not. -/
theorem generate_ok_iff_supplies_lamp :
    Lamp.bindings.Supplies Lamp.fallible.machine ∧ Lamp.fallible.Complete ∧
      ¬ { Lamp.bindings with guards := [] }.Supplies Lamp.fallible.machine := by
  have checked : Machine.ofDecl (Lamp.decl (some ⟨Lamp.state "Fault", Lamp.state "Broken"⟩)) =
      .ok Lamp.fallible.machine := rfl
  have law := generate_ok_iff_supplies checked Lamp.bindings Lamp.fallible.flags true
  have missing := generate_ok_iff_supplies checked { Lamp.bindings with guards := [] }
    Lamp.fallible.flags true
  refine ⟨law.1.mp ⟨Lamp.fallible, rfl⟩, law.2.2 Lamp.fallible rfl, fun supplied => ?_⟩
  obtain ⟨table, made⟩ := missing.1.mpr supplied
  cases made

end Table

end MachineSpec
