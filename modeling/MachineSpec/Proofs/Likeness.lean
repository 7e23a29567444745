/-
MachineSpec.Proofs.Likeness — `is_state` of a machine and of its snapshot.

Whether a state is active can be asked of the machine and of a snapshot, which `peek` and
`stop` return. A machine resolves the designator to tags. A snapshot compares a class with
the class of its state, and a text with its tag. So the two agree on classes and tags, and a
type text that is no tag is denied by the snapshot (`Likens`).

* `Table.snapshot_agrees_with_machine`: at every moment of every run the snapshot of `peek`,
  and the one that `stop` returns, compared with a machine in the state it shows. Where the
  machine answers, the answers differ only if the active state was asked for by its type
  text.
* `Table.snapshot_denies_type_text`: the type text `Off` while `Off` is active.
-/
import MachineSpec.Proofs.Misdirection

namespace MachineSpec

namespace Table

open Dialogue

variable {table : Table} {snapshot : Snapshot} {slot : Slot} {target : Designator} {truth : Bool}

/-! ## 1. What a machine answers -/

theorem isState_eq_ok_iff : table.isState slot target = .ok truth ↔
    ∃ tags, table.tagsFor target = .ok tags ∧ truth = tags.contains slot.tag := by
  unfold isState
  cases table.tagsFor target with
  | error error => exact iff_of_false nofun (by rintro ⟨_, ⟨⟩, _⟩)
  | ok tags =>
    show Except.ok (tags.contains slot.tag) = .ok truth ↔ _
    simp [eq_comm]

theorem contains_singleton {tag other : String} : [tag].contains other = (other == tag) := by
  rw [List.contains_cons, List.contains_nil, Bool.or_false]

/-- Asked by class it tells whether its state is bound to that. -/
theorem isState_cls {block : Block} (sound : table.Sound)
    (known : table.block? slot.tag = some block) {kind : Class}
    (answers : table.isState slot (.cls kind) = .ok truth) : truth = block.kind.same kind := by
  obtain ⟨tags, points, rfl⟩ := isState_eq_ok_iff.mp answers
  by_cases unbound : table.tagsOf kind = []
  · rw [tagsFor_unbound unbound] at points
    cases points
  · rw [tagsFor_cls unbound] at points
    cases points
    rw [Bool.eq_iff_iff, List.contains_iff_mem, sound.mem_tagsOf_iff, known]
    simp

/-- Asked by tag it compares that with its own. -/
theorem isState_tag {tag : String} (known : table.Knows tag) :
    table.isState slot (.text tag) = .ok (slot.tag == tag) :=
  isState_eq_ok_iff.mpr ⟨_, tagsFor_tag known, contains_singleton.symm⟩

/-- Asked by type name it compares the tag of that. -/
theorem isState_named {text : String} {reference : Reference}
    (read : Reference.ofText text = .ok reference) (other : ¬ table.Knows text)
    (known : table.Knows reference.tag) :
    table.isState slot (.text text) = .ok (slot.tag == reference.tag) :=
  isState_eq_ok_iff.mpr ⟨_, tagsFor_read read other known, contains_singleton.symm⟩

/-! ## 2. Snapshots -/

/-- The snapshot shows a state of the machine with the class that is bound to it. -/
def Pictures (table : Table) (snapshot : Snapshot) : Prop :=
  ∃ block, table.block? snapshot.tag = some block ∧ snapshot.kind = block.kind

/-- The target is a text, and no tag. -/
def Untagged (table : Table) (target : Designator) : Prop :=
  ∃ text, target = .text text ∧ ¬ table.Knows text

/-- The snapshot answers like a machine with the slot, with one exception: it denies all texts that are
    no tags, and so the state that it shows, if that is asked for by the text of its type. -/
structure Likens (table : Table) (snapshot : Snapshot) (slot : Slot) : Prop where
  shows : snapshot.tag = slot.tag
  agrees : ∀ target truth, table.isState slot target = .ok truth →
    (snapshot.isState target = truth ↔ ¬ (table.Untagged target ∧ truth = true))
  denies : ∀ target, table.Untagged target → snapshot.isState target = false
  misses : ∀ text reference, Reference.ofText text = .ok reference → reference.tag = slot.tag →
    ¬ table.Knows text →
    table.isState slot (.text text) = .ok true ∧ snapshot.isState (.text text) = false

theorem isState_untagged (pictures : table.Pictures snapshot) (untagged : table.Untagged target) :
    snapshot.isState target = false := by
  obtain ⟨block, known, -⟩ := pictures
  obtain ⟨text, rfl, unknown⟩ := untagged
  refine beq_false_of_ne fun same => unknown ?_
  exact same ▸ ⟨block, known⟩

/-- Tags and classes they take alike. -/
theorem Sound.isState_agrees (sound : table.Sound) (pictures : table.Pictures snapshot)
    (shows : snapshot.tag = slot.tag) (tagged : ¬ table.Untagged target)
    (answers : table.isState slot target = .ok truth) : snapshot.isState target = truth := by
  cases target with
  | text text =>
    have known : table.Knows text := Classical.not_not.mp fun unknown => tagged ⟨text, rfl, unknown⟩
    cases (isState_tag known).symm.trans answers
    exact congrArg (· == text) shows
  | cls kind =>
    obtain ⟨block, known, bound⟩ := pictures
    rw [isState_cls sound (shows ▸ known) answers, ← bound]
    rfl

/-- Whatever shows a state is like a machine in that state. -/
theorem Sound.likens (sound : table.Sound) (pictures : table.Pictures snapshot)
    (shows : snapshot.tag = slot.tag) : table.Likens snapshot slot where
  shows := shows
  agrees target truth answers := by
    by_cases untagged : table.Untagged target
    · rw [isState_untagged pictures untagged]
      cases truth <;> simp [untagged]
    · exact iff_of_true (sound.isState_agrees pictures shows untagged answers)
        fun both => untagged both.1
  denies target := isState_untagged pictures
  misses text reference read active unknown := by
    obtain ⟨block, known, -⟩ := id pictures
    refine ⟨?_, isState_untagged pictures ⟨text, rfl, unknown⟩⟩
    rw [isState_named read unknown ⟨block, by rw [active, ← shows, known]⟩, active, beq_self_eq_true]

/-! ## 3. Main theorem -/

/-- At every moment of every run `peek` returns a snapshot with the data of the slot, which is
    related to the machine by `Likens`; so is the snapshot that `stop` returns to a machine in the
    state that it shows. -/
theorem snapshot_agrees_with_machine (compiled : table.Compiled) {allows : Request → Call → Prop}
    {moment : Moment}
    (lives : table.Lives allows moment) :
    (∃ snapshot, table.peek moment.doing.slot = .ok snapshot ∧
      snapshot.data = moment.doing.slot.data ∧ table.Likens snapshot moment.doing.slot) ∧
    ∀ snapshot slot, moment.call = .stop → moment.doing = .done (.ok (.snapshot snapshot)) slot →
      ∀ active : Slot, active.tag = snapshot.tag → table.Likens snapshot active := by
  have sound := compiled.sound
  obtain ⟨past, secure⟩ := lives.secure (Regime.ofTags_abides sound sound.confines allows)
  refine ⟨?_, fun snapshot slot stops ended active shown => ?_⟩
  · obtain ⟨block, known⟩ : table.Knows moment.doing.slot.tag := secure.steady
    refine ⟨⟨moment.doing.slot.tag, block.kind, moment.doing.slot.data⟩, ?_, rfl,
      sound.likens ⟨block, known, rfl⟩ rfl⟩
    simp [peek, known]
  · obtain ⟨-, pictures⟩ := (secure.returns ended).2 snapshot stops rfl
    exact sound.likens pictures shown.symm

/-! A lamp that is off, and then is stopped. -/

def offShown : Snapshot := ⟨Lamp.offBlock.tag, Lamp.off, .object 0 Lamp.off⟩

theorem off_read : ∃ reference, Reference.ofText "Off" = .ok reference ∧
    reference.tag = Lamp.offBlock.tag :=
  ⟨⟨⟨"Off", []⟩, ⟨⟨0, 1, 1⟩, 3⟩⟩, eq_ok_of_toOption (by decide +kernel), rfl⟩

theorem off_stops : Plays (Call.stop.operation Lamp.plain none offSlot)
    [(.report false (traceLine "Lamp" "Stop" ""), .ok .null),
      (.hook .exit Lamp.offBlock.tag true (.object 0 Lamp.off), .ok .null),
      (.action Lamp.switch (.object 0 Lamp.off), .ok .null),
      (.report false (traceLine "Lamp" "Exit" "Off"), .ok .null)]
    (.ok (.snapshot offShown)) (.fresh Lamp.plain) :=
  .ask (.ask (.ask (.ask (.done _ _))))

theorem off_stopped : Lamp.plain.Lives (fun _ _ => True)
    ⟨.stop, .done (.ok (.snapshot offShown)) (.fresh Lamp.plain), []⟩ :=
  (off_lives.called .stop none).plays off_stops

/-- The snapshots of `peek` and of `stop`, asked for the type text. -/
theorem snapshot_agrees_with_machine_lamp :
    (∃ snapshot, Lamp.plain.peek offSlot = .ok snapshot ∧
      Lamp.plain.isState offSlot (.text "Off") = .ok true ∧
      snapshot.isState (.text "Off") = false) ∧
    offShown.isState (.text "Off") = false := by
  obtain ⟨reference, read, tag⟩ := off_read
  have unknown : ¬ Lamp.plain.Knows "Off" := by rintro ⟨_, ⟨⟩⟩
  obtain ⟨⟨snapshot, peeks, -, likens⟩, -⟩ :=
    snapshot_agrees_with_machine Lamp.plain_compiled off_lives
  have stopped :=
    (snapshot_agrees_with_machine Lamp.plain_compiled off_stopped).2 offShown _ rfl rfl offSlot rfl
  exact ⟨⟨snapshot, peeks, likens.misses "Off" reference read tag unknown⟩,
    (stopped.misses "Off" reference read tag unknown).2⟩

/-- While `Off` is active, the machine answers true for the text `Off`, and the snapshots of `peek`
    and `stop` answer false. -/
theorem snapshot_denies_type_text :
    Lamp.plain.Compiled ∧ Lamp.plain.Reachable offSlot ∧
    Lamp.plain.isState offSlot (.text "Off") = .ok true ∧
    Lamp.plain.peek offSlot = .ok offShown ∧ offShown.isState (.text "Off") = false ∧
    Event.Occurs ⟨.stop, none,
      [(.report false (traceLine "Lamp" "Stop" ""), .ok .null),
        (.hook .exit Lamp.offBlock.tag true (.object 0 Lamp.off), .ok .null),
        (.action Lamp.switch (.object 0 Lamp.off), .ok .null),
        (.report false (traceLine "Lamp" "Exit" "Off"), .ok .null)], .ok (.snapshot offShown)⟩
      Lamp.plain offSlot (.fresh Lamp.plain) := by
  obtain ⟨reference, read, tag⟩ := off_read
  have answers : Lamp.plain.isState offSlot (.text "Off") = .ok (offSlot.tag == reference.tag) :=
    isState_named read (by rintro ⟨_, ⟨⟩⟩) ⟨Lamp.offBlock, by rw [tag]; rfl⟩
  rw [tag] at answers
  exact ⟨Lamp.plain_compiled, offSlot_reachable, answers, rfl, rfl, off_stops⟩

end Table

end MachineSpec
