/-
MachineSpec.Proofs.Drawing — the DOT graph of a machine.

Two properties of the DOT text are proved: every name in it is quoted correctly, and the
text determines the graph of the machine.

A line begins with a quoted text, and what follows the closing quote gives the kind of the
line (`Dot.label_inj`). Nothing that is read contains a line end or a double quote, so lines
can be told apart, and the quoted texts on them as well. The node that points to the initial
state has a name that is no tag.

* `dot_quoted_and_faithful`: two machines that were read have the same DOT text if and only
  if they have the same name, states, tags, initial and error state, and transitions in the
  same order; and the label of an arrow is the position at which its guard is asked.
-/
import MachineSpec.Proofs.Listing
import MachineSpec.Proofs.Quotation
import MachineSpec.Proofs.Refinement

namespace MachineSpec

/-! ## 1. Quoted texts -/

/-- Up to the first place of a separator there is one way to cut a list. -/
theorem eq_of_cut {α : Type} {separator : α} {before before' after after' : List α}
    (new : separator ∉ before) (new' : separator ∉ before')
    (same : before ++ separator :: after = before' ++ separator :: after') :
    before = before' ∧ after = after' := by
  induction before generalizing before' with
  | nil =>
    cases before' with
    | nil => exact ⟨rfl, (List.cons.inj same).2⟩
    | cons first rest =>
      obtain ⟨rfl, -⟩ := List.cons.inj same
      exact absurd (List.mem_cons_self ..) new'
  | cons first rest ih =>
    cases before' with
    | nil =>
      obtain ⟨rfl, -⟩ := List.cons.inj same
      exact absurd (List.mem_cons_self ..) new
    | cons other rest' =>
      obtain ⟨rfl, others⟩ := List.cons.inj same
      obtain ⟨rfl, rfl⟩ := ih (fun mem => new (.tail _ mem)) (fun mem => new' (.tail _ mem)) others
      exact ⟨rfl, rfl⟩

/-- Members that are written alike agree in whatever the writing tells. -/
theorem map_eq_of_told {α β γ δ : Type} {write : α → γ} {write' : β → γ} {tell : α → δ}
    {tell' : β → δ} {first : List α} {second : List β}
    (same : first.map write = second.map write')
    (told : ∀ a ∈ first, ∀ b ∈ second, write a = write' b → tell a = tell' b) :
    first.map tell = second.map tell' := by
  induction first generalizing second with
  | nil =>
    obtain rfl := List.map_eq_nil_iff.mp same.symm
    rfl
  | cons a first ih =>
    cases second with
    | nil => cases same
    | cons b second =>
      obtain ⟨here, others⟩ := List.cons.inj same
      rw [List.map_cons, List.map_cons, told a (.head _) b (.head _) here,
        ih others fun a mem b mem' => told a (.tail _ mem) b (.tail _ mem')]

theorem Clean.notMem {text : String} (clean : Clean text) {c : Char} (dirty : isClean c = false) :
    c ∉ text.toList := fun mem => by
  rw [clean c mem] at dirty
  cases dirty

theorem toList_toString (number : Nat) : (toString number).toList = Nat.toDigits 10 number := by
  show (Nat.repr number).toList = _
  rw [Nat.repr_eq_ofList_toDigits, String.toList_ofList]

theorem clean_toString (number : Nat) : Clean (toString number) := by
  intro c mem
  rw [toList_toString] at mem
  exact isClean_of_test (Nat.isDigit_of_mem_toDigits (by decide) (by decide) mem) (by decide)
    (by decide) (by decide)

/-- A number can be told from its digits. -/
theorem toString_inj {number other : Nat} (same : toString number = toString other) :
    number = other := by
  have digits := congrArg String.toList same
  rw [toList_toString, toList_toString] at digits
  have values := congrArg (Nat.ofDigitChars 10 · 0) digits
  simpa [Nat.ofDigitChars_toDigits] using values

/-- Texts that begin differently are different. -/
theorem append_ne {start start' rest rest' : String}
    (apart : ¬ start.toList <+: start'.toList ∧ ¬ start'.toList <+: start.toList) :
    start ++ rest ≠ start' ++ rest' := by
  intro same
  have lists := congrArg String.toList same
  rw [String.toList_append, String.toList_append] at lists
  have cut : start'.toList <+: start.toList ++ rest.toList := lists ▸ List.prefix_append _ _
  exact (List.prefix_or_prefix_of_prefix (List.prefix_append _ _) cut).elim apart.1 apart.2

namespace Dot

variable {text other rest rest' : String}

/-- A clean text between double quotes can be told from what stands behind it. -/
theorem label_inj (clean : Clean text) (clean' : Clean other)
    (same : label text ++ rest = label other ++ rest') : text = other ∧ rest = rest' := by
  have chars (text rest : String) :
      (label text ++ rest).toList = '"' :: (text.toList ++ '"' :: rest.toList) := by
    have quote : "\"".toList = ['"'] := rfl
    simp [label, quote]
  have lists := congrArg String.toList same
  rw [chars, chars, List.cons.injEq] at lists
  obtain ⟨texts, rests⟩ := eq_of_cut (clean.notMem (by decide)) (clean'.notMem (by decide)) lists.2
  exact ⟨String.toList_inj.mp texts, String.toList_inj.mp rests⟩

end Dot

/-! ## 2. Lines -/

/-- The text has no line end. -/
def Unbroken (text : String) : Prop := '\n' ∉ text.toList

instance (text : String) : Decidable (Unbroken text) :=
  inferInstanceAs (Decidable ('\n' ∉ text.toList))

theorem Unbroken.append {text other : String} (unbroken : Unbroken text) (unbroken' : Unbroken other) :
    Unbroken (text ++ other) := by
  rw [Unbroken, String.toList_append, List.mem_append]
  exact fun mem => mem.elim unbroken unbroken'

theorem Clean.label {text : String} (clean : Clean text) : Unbroken (Dot.label text) := by
  have inside : Unbroken text := clean.notMem (by decide)
  exact ((by decide : Unbroken "\"").append inside).append (by decide)

/-- Lines without line ends can be told from the text that they make. -/
theorem lines_inj {lines lines' : List String} (some : lines ≠ []) (some' : lines' ≠ [])
    (unbroken : ∀ line ∈ lines, Unbroken line) (unbroken' : ∀ line ∈ lines', Unbroken line)
    (same : String.intercalate "\n" lines = String.intercalate "\n" lines') : lines = lines' := by
  have cut {lines : List String} (some : lines ≠ []) (unbroken : ∀ line ∈ lines, Unbroken line) :
      (String.intercalate "\n" lines).toList.splitOn '\n' = lines.map String.toList := by
    rw [String.toList_intercalate]
    exact List.splitOn_intercalate '\n' (List.forall_mem_map.mpr unbroken) (by simpa using some)
  have chars : lines.map String.toList = lines'.map String.toList := by
    rw [← cut some unbroken, same, cut some' unbroken']
  have injective : Function.Injective String.toList := fun _ _ => String.toList_injective
  exact List.map_injective_iff.mpr injective chars

namespace Dot

/-- The line of an arrow. -/
def arrow (source : String) (number : Nat) (target : String) : String :=
  "  " ++ label source ++ " -> " ++ label target ++ " [label=" ++ label (toString number) ++ "];"

/-- The line of the arrow to the initial state. -/
def entrance (tag : String) : String := "  \"__start\" -> " ++ label tag ++ ";"

theorem entrance_eq (tag : String) :
    entrance tag = "  " ++ (label "__start" ++ (" -> " ++ (label tag ++ ";"))) := by
  have start : "  \"__start\" -> " = "  " ++ (label "__start" ++ " -> ") := rfl
  simp only [entrance, start, String.append_assoc]

theorem arrow_eq (source : String) (number : Nat) (target : String) : arrow source number target =
    "  " ++ (label source ++ (" -> " ++ (label target ++ (" [label=" ++
      (label (toString number) ++ "];"))))) := by
  simp only [arrow, String.append_assoc]

theorem arrow_starts (source : String) (number : Nat) (target : String) :
    ∃ rest, arrow source number target = "  \"" ++ rest := by
  have opens : "  \"" = "  " ++ "\"" := rfl
  obtain ⟨behind, quoted⟩ : ∃ behind, arrow source number target = "  " ++ (label source ++ behind) :=
    ⟨_, arrow_eq source number target⟩
  exact ⟨source ++ ("\"" ++ behind), by rw [quoted, label, opens]; simp only [String.append_assoc]⟩

theorem arrow_inj {source source' target target' : String} {number number' : Nat}
    (leaves : Clean source) (leaves' : Clean source') (enters : Clean target)
    (enters' : Clean target') (same : arrow source number target = arrow source' number' target') :
    source = source' ∧ number = number' ∧ target = target' := by
  rw [arrow_eq, arrow_eq, String.append_right_inj] at same
  obtain ⟨rfl, behind⟩ := label_inj leaves leaves' same
  rw [String.append_right_inj] at behind
  obtain ⟨rfl, numbers⟩ := label_inj enters enters' behind
  rw [String.append_right_inj] at numbers
  obtain ⟨numbers, -⟩ := label_inj (clean_toString _) (clean_toString _) numbers
  exact ⟨rfl, toString_inj numbers, rfl⟩

end Dot

namespace Machine

variable {machine machine' : Machine} {state state' : State}

theorem dotNode_eq : machine.dotNode state = "  " ++ (Dot.label state.tag ++ (" [label=" ++
    (Dot.label state.text ++ (", shape=" ++
      ((if machine.isErrorState state then "doubleoctagon" else "box") ++ "];"))))) := by
  simp only [dotNode, String.append_assoc]

theorem dotNode_inj (tag : Clean state.tag) (tag' : Clean state'.tag) (text : Clean state.text)
    (text' : Clean state'.text) (same : machine.dotNode state = machine'.dotNode state') :
    (state.tag, state.text, machine.isErrorState state) =
      (state'.tag, state'.text, machine'.isErrorState state') := by
  rw [dotNode_eq, dotNode_eq, String.append_right_inj] at same
  obtain ⟨tags, behind⟩ := Dot.label_inj tag tag' same
  rw [String.append_right_inj] at behind
  obtain ⟨texts, same⟩ := Dot.label_inj text text' behind
  rw [String.append_right_inj, String.append_left_inj] at same
  have shapes : machine.isErrorState state = machine'.isErrorState state' := by
    revert same
    cases machine.isErrorState state <;> cases machine'.isErrorState state' <;> decide
  rw [tags, texts, shapes]

/-! ## 3. Graphs as lists of lines -/

/-- The arrows of a graph: where each begins, its number, and where it ends. -/
def arrows (machine : Machine) : List (String × Nat × String) :=
  machine.states.flatMap fun state => (numberedFromOne state.transits).map fun (number, target) =>
    (state.tag, number, target.tag)

theorem dotEdges_eq : machine.states.flatMap State.dotEdges =
    machine.arrows.map fun (source, number, target) => Dot.arrow source number target := by
  rw [arrows, List.map_flatMap]
  refine List.flatMap_congr fun state _ => ?_
  rw [List.map_map]
  rfl

/-- First come lines that are alike but for the name, then the nodes, the arrow to the initial state,
    and the other arrows. -/
theorem dotLines_eq : machine.dotLines =
    ("digraph " ++ Dot.label machine.name ++ " \x7b") :: "  rankdir=LR;" ::
      "  \"__start\" [shape=point];" :: (machine.states.map machine.dotNode ++
        Dot.entrance machine.initial.tag ::
          (machine.arrows.map (fun (source, number, target) => Dot.arrow source number target) ++
            ["\x7d"])) := by
  rw [← dotEdges_eq]
  simp [dotLines, Dot.entrance]

theorem mem_numberedFromOne_iff {α : Type} {items : List α} {number : Nat} {item : α} :
    (number, item) ∈ numberedFromOne items ↔ 0 < number ∧ items[number - 1]? = some item := by
  rw [numberedFromOne, List.mem_iff_getElem?]
  constructor
  · rintro ⟨place, found⟩
    obtain ⟨counted, here⟩ := List.getElem?_zip_eq_some.mp found
    obtain ⟨within, rfl⟩ := List.getElem?_eq_some_iff.mp counted
    rw [List.getElem_range']
    simpa [Nat.add_pos_left] using here
  · rintro ⟨positive, here⟩
    refine ⟨number - 1, List.getElem?_zip_eq_some.mpr ⟨?_, here⟩⟩
    obtain ⟨within, -⟩ := List.getElem?_eq_some_iff.mp here
    rw [List.getElem?_range' within]
    simp
    omega

theorem mem_arrows_iff {source target : String} {number : Nat} :
    (source, number, target) ∈ machine.arrows ↔ ∃ state ∈ machine.states, state.tag = source ∧
      0 < number ∧ (state.transits.map Reference.tag)[number - 1]? = some target := by
  simp only [arrows, List.mem_flatMap, List.mem_map, Prod.exists, Prod.mk.injEq,
    mem_numberedFromOne_iff, List.getElem?_map, Option.map_eq_some_iff]
  constructor
  · rintro ⟨state, mem, _, reference, ⟨positive, here⟩, rfl, rfl, rfl⟩
    exact ⟨state, mem, rfl, positive, reference, here, rfl⟩
  · rintro ⟨state, mem, rfl, positive, reference, here, rfl⟩
    exact ⟨state, mem, number, reference, ⟨positive, here⟩, rfl, rfl, rfl⟩

/-- No tag is the name of the node that points to the initial state. -/
theorem tag_ne_start (state : State) : state.tag ≠ "__start" := by
  intro same
  have ends : "State".toList <:+ state.tag.toList := by
    rw [State.tag, Reference.tag, TypeName.tag, String.toList_append]
    exact List.suffix_append _ _
  rw [same] at ends
  exact absurd ends (by decide)

namespace Quotable

variable (quotable : machine.Quotable)
include quotable

/-- Tags at both ends of an arrow are clean. -/
theorem clean_arrow {source target : String} {number : Nat}
    (mem : (source, number, target) ∈ machine.arrows) :
    Clean source ∧ Clean target ∧ source ≠ "__start" := by
  obtain ⟨state, listed, rfl, -, leads⟩ := mem_arrows_iff.mp mem
  obtain ⟨target, here, rfl⟩ := List.mem_map.mp (List.mem_of_getElem? leads)
  exact ⟨(quotable.states state listed).1, (quotable.targets state listed target here).1,
    tag_ne_start state⟩

/-- No line has a line end in it. -/
theorem unbroken (closed : machine.Closed) : ∀ line ∈ machine.dotLines, Unbroken line := by
  rw [dotLines_eq]
  simp only [List.forall_mem_cons, List.forall_mem_append, List.forall_mem_map, Prod.forall]
  refine ⟨?_, by decide, by decide, fun state mem => ?_, ?_, fun source number target mem => ?_,
    by decide, nofun⟩
  · exact ((by decide : Unbroken "digraph ").append quotable.name.label).append (by decide)
  · obtain ⟨tag, text⟩ := quotable.states state mem
    have shape : Unbroken (if machine.isErrorState state then "doubleoctagon" else "box") := by
      split <;> decide
    exact ((((((by decide : Unbroken "  ").append tag.label).append (by decide)).append
      text.label).append (by decide)).append shape).append (by decide)
  · exact ((by decide : Unbroken "  \"__start\" -> ").append
      (quotable.states _ closed.initial).1.label).append (by decide)
  · obtain ⟨leaves, enters, -⟩ := quotable.clean_arrow mem
    exact ((((((by decide : Unbroken "  ").append leaves.label).append (by decide)).append
      enters.label).append (by decide)).append (clean_toString number).label).append (by decide)

/-- The line of an arrow between tags is in the graph for that arrow only. -/
theorem arrow_mem_iff {source target : String} {number : Nat} (leaves : Clean source)
    (enters : Clean target) (other : source ≠ "__start") :
    Dot.arrow source number target ∈ machine.dotLines ↔
      (source, number, target) ∈ machine.arrows := by
  have start : Clean "__start" := by decide
  rw [dotLines_eq]
  simp only [List.mem_cons, List.mem_append, List.mem_map, Prod.exists, List.not_mem_nil, or_false]
  constructor
  · obtain ⟨rest, begins⟩ := Dot.arrow_starts source number target
    rintro (same | same | same | ⟨state, mem, same⟩ | same |
      ⟨source', number', target', mem, same⟩ | same)
    · rw [begins, String.append_assoc] at same
      exact absurd same (append_ne (by decide))
    · rw [begins, ← @String.append_empty "  rankdir=LR;"] at same
      exact absurd same (append_ne (by decide))
    · have quoted : "  \"__start\" [shape=point];" =
          "  " ++ (Dot.label "__start" ++ " [shape=point];") := rfl
      rw [Dot.arrow_eq, quoted, String.append_right_inj] at same
      exact absurd (Dot.label_inj leaves start same).1 other
    · rw [Dot.arrow_eq, dotNode_eq, String.append_right_inj] at same
      have behind := (Dot.label_inj (quotable.states state mem).1 leaves same).2
      exact absurd behind (append_ne (by decide))
    · rw [Dot.arrow_eq, Dot.entrance_eq, String.append_right_inj] at same
      exact absurd (Dot.label_inj leaves start same).1 other
    · obtain ⟨leaves', enters', -⟩ := quotable.clean_arrow mem
      obtain ⟨rfl, rfl, rfl⟩ := Dot.arrow_inj leaves' leaves enters' enters same
      exact mem
    · rw [begins, ← @String.append_empty "\x7d"] at same
      exact absurd same (append_ne (by decide))
  · exact fun mem => .inr (.inr (.inr (.inr (.inr (.inl ⟨source, number, target, mem, rfl⟩)))))

end Quotable

/-! ## 4. What a graph tells -/

/-- What a graph tells of its machine is the same of both. -/
structure DrawnAlike (machine machine' : Machine) : Prop where
  name : machine.name = machine'.name
  /-- The states in order: their tags and texts, and which of them is the error state. -/
  states : machine.states.map (fun state => (state.tag, state.text, machine.isErrorState state)) =
    machine'.states.map fun state => (state.tag, state.text, machine'.isErrorState state)
  initial : machine.initial.tag = machine'.initial.tag
  /-- For every state the tags that it leads to, in order. -/
  targets : machine.states.map (fun state => state.transits.map Reference.tag) =
    machine'.states.map fun state => state.transits.map Reference.tag

theorem numberedFromOne_snd {α : Type} (items : List α) :
    (numberedFromOne items).map Prod.snd = items :=
  List.map_snd_zip (Nat.le_of_eq List.length_range'.symm)

/-- The arrows without their numbers. -/
theorem arrows_joined : machine.arrows.map (fun arrow => (arrow.1, arrow.2.2)) =
    machine.states.flatMap fun state => state.transits.map fun target => (state.tag, target.tag) := by
  rw [arrows, List.map_flatMap]
  refine List.flatMap_congr fun state _ => ?_
  conv_rhs => rw [← numberedFromOne_snd state.transits]
  rw [List.map_map, List.map_map]
  rfl

/-- The arrows of a state are those that begin at its tag. -/
theorem targets_of_joined {states : List State} (distinct : (states.map State.tag).Nodup) :
    ∀ state ∈ states, ((states.flatMap fun state =>
        state.transits.map fun target => (state.tag, target.tag)).filter
          (·.1 == state.tag)).map Prod.snd = state.transits.map Reference.tag := by
  induction states with
  | nil => exact nofun
  | cons first states ih =>
    obtain ⟨new, distinct⟩ := List.nodup_cons.mp distinct
    intro state mem
    rw [List.flatMap_cons, List.filter_append, List.map_append]
    rcases List.mem_cons.mp mem with rfl | mem
    · have own : (state.transits.map fun target => (state.tag, target.tag)).filter
          (·.1 == state.tag) = state.transits.map fun target => (state.tag, target.tag) :=
        List.filter_eq_self.mpr (List.forall_mem_map.mpr fun target _ => beq_self_eq_true _)
      have others : (states.flatMap fun other => other.transits.map fun target =>
          (other.tag, target.tag)).filter (·.1 == state.tag) = [] := by
        simp only [List.filter_eq_nil_iff, List.mem_flatMap, List.mem_map, beq_iff_eq]
        rintro _ ⟨other, mem, target, -, rfl⟩ same
        exact new (List.mem_map.mpr ⟨other, mem, same⟩)
      rw [own, others, List.map_nil, List.append_nil, List.map_map]
      rfl
    · have others : (first.transits.map fun target => (first.tag, target.tag)).filter
          (·.1 == state.tag) = [] := by
        refine List.filter_eq_nil_iff.mpr (List.forall_mem_map.mpr fun target _ same => ?_)
        exact new (List.mem_map.mpr ⟨state, mem, (beq_iff_eq.mp same).symm⟩)
      rw [others, List.map_nil, List.nil_append, ih distinct state mem]

/-- So the tags that states lead to can be told from the arrows. -/
theorem targets_eq (closed : machine.Closed) :
    machine.states.map (fun state => state.transits.map Reference.tag) =
      (machine.states.map State.tag).map fun tag =>
        ((machine.arrows.map fun arrow => (arrow.1, arrow.2.2)).filter (·.1 == tag)).map Prod.snd := by
  rw [arrows_joined, List.map_map]
  exact List.map_congr_left fun state mem => (targets_of_joined closed.distinct state mem).symm

theorem tags_of_states (states : machine.states.map (fun state =>
      (state.tag, state.text, machine.isErrorState state)) =
    machine'.states.map fun state => (state.tag, state.text, machine'.isErrorState state)) :
    machine.states.map State.tag = machine'.states.map State.tag := by
  have firsts := congrArg (List.map Prod.fst) states
  rwa [List.map_map, List.map_map] at firsts

/-- The arrow to the initial state is no other line. -/
theorem Quotable.entrance_notMem (quotable : machine.Quotable) {tag : String} :
    Dot.entrance tag ∉ machine.states.map machine.dotNode ∧
      Dot.entrance tag ∉ machine.arrows.map
        (fun (source, number, target) => Dot.arrow source number target) ++ ["\x7d"] := by
  have start : Clean "__start" := by decide
  simp only [List.mem_append, List.mem_map, Prod.exists, List.mem_singleton]
  refine ⟨?_, ?_⟩
  · rintro ⟨state, mem, same⟩
    rw [dotNode_eq, Dot.entrance_eq, String.append_right_inj] at same
    exact absurd (Dot.label_inj (quotable.states state mem).1 start same).2 (append_ne (by decide))
  · rintro (⟨source, number, target, mem, same⟩ | same)
    · obtain ⟨leaves, -, other⟩ := quotable.clean_arrow mem
      rw [Dot.arrow_eq, Dot.entrance_eq, String.append_right_inj] at same
      exact other (Dot.label_inj leaves start same).1
    · rw [Dot.entrance_eq, ← @String.append_empty "\x7d"] at same
      exact absurd same (append_ne (by decide))

/-- A graph tells these things of the machine that it is the graph of. -/
theorem drawnAlike_of_dot (quotable : machine.Quotable) (quotable' : machine'.Quotable)
    (closed : machine.Closed) (closed' : machine'.Closed) (same : machine.dot = machine'.dot) :
    machine.DrawnAlike machine' := by
  have lines := lines_inj (by rw [dotLines_eq]; exact List.cons_ne_nil _ _)
    (by rw [dotLines_eq]; exact List.cons_ne_nil _ _) (quotable.unbroken closed)
    (quotable'.unbroken closed') same
  rw [dotLines_eq, dotLines_eq] at lines
  obtain ⟨headings, body⟩ := List.cons.inj lines
  obtain ⟨nodes, entrances, rest⟩ :=
    (List.append_cons_inj_of_notMem quotable.entrance_notMem.1 quotable.entrance_notMem.2).mp
      (List.cons.inj (List.cons.inj body).2).2
  have states := map_eq_of_told nodes fun state mem state' mem' =>
    dotNode_inj (quotable.states state mem).1 (quotable'.states state' mem').1
      (quotable.states state mem).2 (quotable'.states state' mem').2
  have joined : machine.arrows.map (fun arrow => (arrow.1, arrow.2.2)) =
      machine'.arrows.map fun arrow => (arrow.1, arrow.2.2) := by
    refine map_eq_of_told (List.append_cancel_right rest) ?_
    rintro ⟨source, number, target⟩ mem ⟨source', number', target'⟩ mem' same
    obtain ⟨leaves, enters, -⟩ := quotable.clean_arrow mem
    obtain ⟨leaves', enters', -⟩ := quotable'.clean_arrow mem'
    obtain ⟨rfl, -, rfl⟩ := Dot.arrow_inj leaves leaves' enters enters' same
    rfl
  refine ⟨?_, states, ?_, ?_⟩
  · rw [String.append_assoc, String.append_assoc, String.append_right_inj] at headings
    exact (Dot.label_inj quotable.name quotable'.name headings).1
  · rw [Dot.entrance_eq, Dot.entrance_eq, String.append_right_inj, String.append_right_inj,
      String.append_right_inj] at entrances
    exact (Dot.label_inj (quotable.states _ closed.initial).1 (quotable'.states _ closed'.initial).1
      entrances).1
  · rw [targets_eq closed, targets_eq closed', tags_of_states states, joined]

/-- The arrows are made of tags alone. -/
theorem arrows_eq : machine.arrows =
    ((machine.states.map State.tag).zip (machine.states.map fun state =>
      state.transits.map Reference.tag)).flatMap fun (tag, targets) =>
        (numberedFromOne targets).map fun (number, target) => (tag, number, target) := by
  rw [List.zip_map', List.flatMap_map, arrows]
  refine List.flatMap_congr fun state _ => ?_
  dsimp only
  rw [numberedFromOne_map, List.map_map]
  rfl

/-- Machines that agree on them have the same graph. -/
theorem DrawnAlike.dot_eq (alike : machine.DrawnAlike machine') : machine.dot = machine'.dot := by
  have nodes (machine : Machine) : machine.states.map machine.dotNode =
      (machine.states.map fun state => (state.tag, state.text, machine.isErrorState state)).map
        fun (tag, text, isError) => "  " ++ Dot.label tag ++ " [label=" ++ Dot.label text ++
          ", shape=" ++ (if isError then "doubleoctagon" else "box") ++ "];" := by
    rw [List.map_map]
    rfl
  have arrows : machine.arrows = machine'.arrows := by
    rw [arrows_eq, arrows_eq, tags_of_states alike.states, alike.targets]
  rw [dot, dot, dotLines_eq, dotLines_eq, nodes machine, nodes machine', alike.name, alike.states,
    alike.initial, arrows]

/-- Nothing in the graph is out of place: the point is no state, and arrows lead from states to
    states. -/
structure Drawn (machine : Machine) : Prop where
  start : ∀ state ∈ machine.states, state.tag ≠ "__start"
  initial : machine.initial.tag ∈ machine.states.map State.tag
  ends : ∀ line ∈ machine.states.flatMap State.dotEdges, ∃ source ∈ machine.states,
    ∃ target ∈ machine.states, ∃ number, Clean (toString number) ∧
      line = Dot.arrow source.tag number target.tag

theorem drawn_of_closed (closed : machine.Closed) : machine.Drawn where
  start state _ := tag_ne_start state
  initial := List.mem_map_of_mem closed.initial
  ends := by
    rw [dotEdges_eq]
    refine List.forall_mem_map.mpr ?_
    rintro ⟨source, number, target⟩ mem
    obtain ⟨state, listed, rfl, -, leads⟩ := mem_arrows_iff.mp mem
    obtain ⟨reference, here, rfl⟩ := List.mem_map.mp (List.mem_of_getElem? leads)
    rw [closed.transits state listed] at here
    obtain ⟨edge, leaves, rfl⟩ := List.mem_map.mp here
    obtain ⟨target, declared, same⟩ := closed.destinations edge (List.mem_filter.mp leaves).1
    exact ⟨state, listed, target, declared, number, clean_toString number, by rw [same]⟩

end Machine

/-! ## 5. Numbers and guards -/

namespace Table

variable {table : Table} {bindings : Bindings} {block : Block}

/-- The numbers on the arrows of a state are the places of its transitions, from one, and their guards
    are asked in that order. -/
structure Numbers (table : Table) (bindings : Bindings) (block : Block) : Prop where
  labels : ∀ target ∈ table.machine.states, ∀ number,
    Dot.arrow block.tag number target.tag ∈ table.machine.dotLines ↔ 0 < number ∧
      (block.transitions.map (·.destination.tag))[number - 1]? = some target.tag
  /-- There is one arrow to each state at most. -/
  one : (block.transitions.map (·.destination.tag)).Nodup
  /-- Whenever guards are asked in this state, the number on the arrow tells when: behind those with
      smaller numbers, and only if they have all declined. -/
  asks : ∀ slot (event : Event) final, table.Reachable slot → slot.tag = block.tag →
    event.Occurs table slot final → ∀ place asked,
      (Course.verdicts event.course)[place]? = some asked →
      asked.1.source.tag = block.tag ∧
        Dot.arrow block.tag (place + 1) asked.1.destination.tag ∈ table.machine.dotLines ∧
        bindings.guard? (block.tag, asked.1.destination.tag) = some asked.1.guard ∧
        ∀ earlier < place, ∃ declined, (Course.verdicts event.course)[earlier]? = some declined ∧
          declined.2 = some .remain

/-- The arrow of a state to another one has a number just if the state has a transition at that place. -/
theorem Sound.labels (sound : table.Sound) (quotable : table.machine.Quotable)
    (mem : block ∈ table.blocks) {target : State} (declared : target ∈ table.machine.states)
    (number : Nat) : Dot.arrow block.tag number target.tag ∈ table.machine.dotLines ↔ 0 < number ∧
      (block.transitions.map (·.destination.tag))[number - 1]? = some target.tag := by
  have listed := sound.state_mem mem
  have own : block.state.transits.map Reference.tag =
      block.transitions.map (·.destination.tag) := by
    rw [← (sound.fits block mem).destinations, List.map_map]
    rfl
  have clean : Clean block.tag := (quotable.states _ listed).1
  rw [quotable.arrow_mem_iff clean (quotable.states target declared).1 (Machine.tag_ne_start _),
    Machine.mem_arrows_iff, ← own]
  constructor
  · rintro ⟨state, other, same, leads⟩
    have found := find?_of_distinct sound.closed.distinct other
    rw [same, show block.tag = block.state.tag from rfl,
      find?_of_distinct sound.closed.distinct listed] at found
    cases found
    exact leads
  · exact fun leads => ⟨block.state, listed, rfl, leads⟩

theorem Sound.numbers (sound : table.Sound) (generated : table.Generated bindings table.machine)
    (quotable : table.machine.Quotable) (mem : block ∈ table.blocks) :
    table.Numbers bindings block := by
  refine ⟨fun target declared => sound.labels quotable mem declared, sound.once mem,
    fun slot event final reachable here occurs place asked found => ?_⟩
  obtain ⟨_, _, _, created, history⟩ := reachable
  have asks := ((passage sound (history.condition sound created) occurs).moves generated sound).1
  obtain ⟨within, -⟩ := List.getElem?_eq_some_iff.mp found
  -- the transitions that were asked are the first of the block
  have among : (block.transitions.map Transition.tags)[place]? = some asked.1.tags := by
    obtain ⟨rest, order⟩ := here ▸ asks.order
    rw [sound.tags_eq mem, ← order, List.getElem?_append_left (by simpa using within),
      List.getElem?_map, found, Option.map_some]
  rw [List.getElem?_map, Option.map_eq_some_iff] at among
  obtain ⟨transition, placed, same⟩ := among
  have transits := List.mem_of_getElem? placed
  have source : asked.1.source.tag = block.tag :=
    (congrArg Prod.fst same).symm.trans (sound.source_tag mem transits)
  have destination : transition.destination.tag = asked.1.destination.tag := congrArg Prod.snd same
  refine ⟨source, ?_, ?_, fun earlier before => ?_⟩
  · obtain ⟨target, known⟩ := sound.block?_of_transition mem transits
    have goal : target.state.tag = asked.1.destination.tag := (tag_of_block? known).trans destination
    rw [← goal, sound.labels quotable mem (sound.state_mem (mem_of_block? known)), goal,
      Nat.add_sub_cancel, List.getElem?_map, placed, Option.map_some, destination]
    exact ⟨Nat.succ_pos place, rfl⟩
  · rw [← source]
    exact asks.bound asked (List.mem_of_getElem? found)
  · obtain ⟨declined, asked_earlier⟩ : ∃ declined,
        (Course.verdicts event.course)[earlier]? = some declined :=
      ⟨_, List.getElem?_eq_getElem (Nat.lt_trans before within)⟩
    have dropped : (Course.verdicts event.course).dropLast[earlier]? = some declined := by
      rw [List.getElem?_dropLast, if_pos (by omega), asked_earlier]
    exact ⟨declined, asked_earlier, asks.declined _ (List.mem_of_getElem? dropped)⟩

end Table

/-! ## 6. Main theorem -/

/-- What was read can be quoted as it is; the DOT text determines name, states, tags, initial and
    error state and transitions; its arrows join declared nodes; and in every table compiled from
    the machine the labels of the arrows of a state are the positions of their guards. -/
theorem dot_quoted_and_faithful {machine : Machine} (read : machine.WasRead) :
    machine.Quotable ∧ machine.Drawn ∧
    (∀ other : Machine, other.WasRead → (machine.dot = other.dot ↔ machine.DrawnAlike other)) ∧
    ∀ bindings flags checkTypes table,
      (Table.generate bindings flags checkTypes machine).2 = .ok table →
      ∀ block ∈ table.blocks, table.Numbers bindings block := by
  have quotable := read.quotable
  obtain ⟨decl, -, -, -, -, made⟩ := read.phrase
  have closed := Machine.closed_of_ofDecl made
  refine ⟨quotable, Machine.drawn_of_closed closed, fun other wasRead => ⟨fun same => ?_, ?_⟩,
    fun bindings flags checkTypes table compiled block mem => ?_⟩
  · obtain ⟨_, -, -, -, -, made'⟩ := wasRead.phrase
    exact Machine.drawnAlike_of_dot quotable wasRead.quotable closed
      (Machine.closed_of_ofDecl made') same
  · exact Machine.DrawnAlike.dot_eq
  · have sound : table.Sound :=
      Table.Compiled.sound ⟨decl, machine, bindings, flags, checkTypes, made, compiled⟩
    have generated := Table.generated_of_ok compiled
    obtain rfl := generated.origin
    exact sound.numbers generated quotable mem

/-! The lamp as it is read of a text. -/

/-- The name with its place in the text. -/
def shownName (name : String) (offset length : Nat) : Reference :=
  ⟨⟨name, []⟩, ⟨⟨offset, 1, offset + 1⟩, length⟩⟩

def shownLamp : Machine :=
  let off : State := ⟨shownName "Off" 12 3, [shownName "On" 30 2]⟩
  ⟨"Lamp", off, [off, ⟨shownName "On" 17 2, []⟩],
    [⟨shownName "Off" 23 3, shownName "On" 30 2, (shownName "Off" 23 3).span⟩], none⟩

theorem shownLamp_read : Machine.ofText false "Lamp, Off, [Off, On], [Off => On]" = .ok shownLamp :=
  eq_ok_of_toOption (by decide +kernel)

/-- A machine with one arrow, whose label is 1 and whose guard is asked first. -/
theorem dot_quoted_and_faithful_lamp :
    shownLamp.Quotable ∧ shownLamp.Drawn ∧ Dot.arrow "OffState" 1 "OnState" ∈ shownLamp.dotLines ∧
    ∃ table block, (Table.generate Lamp.bindings ⟨false, false, false⟩ true shownLamp).2 = .ok table ∧
      table.block? "OffState" = some block ∧ table.Numbers Lamp.bindings block := by
  have law := dot_quoted_and_faithful (.alone shownLamp_read)
  have numbers := law.2.2.2 Lamp.bindings ⟨false, false, false⟩ true _ rfl _ (.head _)
  refine ⟨law.1, law.2.1, ?_, _, _, rfl, rfl, numbers⟩
  exact (numbers.labels ⟨shownName "On" 17 2, []⟩ (.tail _ (.head _)) 1).mpr ⟨Nat.one_pos, rfl⟩

end MachineSpec
