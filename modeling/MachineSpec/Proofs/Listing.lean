/-
MachineSpec.Proofs.Listing — what `check` prints for a document.

For an accepted document `check` prints a section for each machine, in declared order, with
its states, the transitions that leave each state, and the messages. The messages are looked
up by the name of the machine.

Every state and every transition is printed once (`MachineDecl.ListedAs`). Several
declarations can name one machine, and only the messages of the last of them are printed:
all messages are `listed` or `dropped`.

* `CommandLine.check_lists_declarations`: the output for every accepted document. All
  messages are printed if and only if the declarations before the last one of each machine
  have none.
* `CommandLine.check_drops_messages`: a message that is not printed.
-/
import MachineSpec.CommandLine
import MachineSpec.Proofs.Diagnosis
import MachineSpec.Proofs.Distribution
import MachineSpec.Proofs.Readiness

namespace MachineSpec

/-! ## 1. Machines -/

/-- The machine that a declaration declares, if it is one of a machine. -/
def Declaration.machine? : Declaration → Option MachineDecl
  | .machine decl => some decl
  | .messages _ => none

namespace Document

variable {document : Document} {declarations : List Declaration} {name : String}

/-- The machines of a document are those that are declared, in declared order. -/
theorem machines_declared (declared : empty.declareAll declarations = (document, none)) :
    List.Forall₂ (fun decl machine => Machine.ofDecl decl = .ok machine)
      (declarations.filterMap Declaration.machine?) document.machines := by
  induction declarations using List.reverseRecOn generalizing document with
  | nil =>
    cases declared
    exact .nil
  | append_singleton declarations last ih =>
    obtain ⟨before, accepted, grown⟩ := declareAll_snoc_iff.mp declared
    have earlier := ih accepted
    rw [List.filterMap_append]
    cases last with
    | machine decl =>
      obtain ⟨-, machine, made, rfl⟩ := declare_machine_iff.mp grown
      exact List.rel_append earlier (.cons made .nil)
    | messages decl =>
      obtain ⟨_, messages, -, -, rfl⟩ := declare_messages_iff.mp grown
      exact (List.append_nil _).symm ▸ earlier

end Document

/-! ## 2. Messages -/

/-- What is not last has something behind it. -/
theorem mem_dropLast_iff {α : Type} {items : List α} {a : α} :
    a ∈ items.dropLast ↔ ∃ before after, items = before ++ a :: after ∧ after ≠ [] := by
  constructor
  · intro mem
    have some : items ≠ [] := by
      rintro rfl
      cases mem
    obtain ⟨before, after, split⟩ := List.append_of_mem mem
    refine ⟨before, after ++ [items.getLast some], ?_, by simp⟩
    rw [← List.cons_append, ← List.append_assoc, ← split, List.dropLast_concat_getLast]
  · rintro ⟨before, after, rfl, some⟩
    rw [List.dropLast_append_of_ne_nil (List.cons_ne_nil _ _), List.dropLast_cons_of_ne_nil some]
    simp

namespace Document

variable {document : Document} {name : String}

/-- All that is declared in the way of messages for the machine of the given name. -/
def announced (document : Document) (name : String) : List Messages :=
  document.messages.filter (·.machine == name)

/-- The messages of the last of these declarations. -/
def listed (document : Document) (name : String) : List Message :=
  ((document.announced name).getLast?.map Messages.messages).getD []

/-- The messages of the declarations before it. -/
def dropped (document : Document) (name : String) : List Message :=
  (document.announced name).dropLast.flatMap Messages.messages

theorem messages?_eq : document.messages? name = (document.announced name).getLast? := by
  rw [messages?, announced, ← List.head?_filter, List.filter_reverse, List.head?_reverse]

/-- Every message is listed or dropped. -/
theorem announced_eq : (document.announced name).flatMap Messages.messages =
    document.dropped name ++ document.listed name := by
  unfold dropped listed
  cases last : (document.announced name).getLast? with
  | none => simp [List.getLast?_eq_none_iff.mp last]
  | some messages =>
    obtain ⟨before, split⟩ := List.getLast?_eq_some_iff.mp last
    simp [split]

/-- Nothing is dropped just if no messages are declared in front of others for the same machine. -/
theorem dropped_eq_nil_iff : (∀ name, document.dropped name = []) ↔
    ∀ before first after, document.messages = before ++ first :: after →
      ∀ second ∈ after, second.machine = first.machine → first.messages = [] := by
  simp only [dropped, List.flatMap_eq_nil_iff, mem_dropLast_iff]
  constructor
  · intro none before first after split second mem same
    refine none first.machine first ⟨before.filter (·.machine == first.machine),
      after.filter (·.machine == first.machine), ?_, ?_⟩
    · rw [announced, split, List.filter_append, List.filter_cons_of_pos (by simp)]
    · exact List.ne_nil_of_mem (List.mem_filter.mpr ⟨mem, beq_iff_eq.mpr same⟩)
  · rintro none name first ⟨listed, later, split, more⟩
    obtain ⟨earlier, rest, whole, -, split⟩ := List.filter_eq_append_iff.mp split
    obtain ⟨between, after, rfl, -, here, rfl⟩ := List.filter_eq_cons_iff.mp split
    obtain ⟨second, mem⟩ := List.exists_mem_of_ne_nil _ more
    obtain ⟨mem, there⟩ := List.mem_filter.mp mem
    refine none (earlier ++ between) first after (by simp [whole]) second mem ?_
    rw [beq_iff_eq.mp here, beq_iff_eq.mp there]

/-- The lines on the messages of a machine, if there is a declaration of some. -/
def messageLines (document : Document) (name : String) : List String :=
  if document.announced name = [] then []
  else "  messages:" :: (document.listed name).map fun message => "    " ++ message.text

theorem messageLines_eq : ((document.messages? name).map Messages.summary).getD [] =
    document.messageLines name := by
  rw [messages?_eq]
  unfold messageLines listed
  cases last : (document.announced name).getLast? with
  | none => rw [if_pos (List.getLast?_eq_none_iff.mp last), Option.map_none, Option.getD_none]
  | some messages =>
    have some : document.announced name ≠ [] := by
      rintro none
      rw [none] at last
      cases last
    rw [if_neg some]
    rfl

end Document

/-! ## 3. States and transitions -/

theorem numberedFromOne_map {α β : Type} (f : α → β) (items : List α) :
    numberedFromOne (items.map f) = (numberedFromOne items).map (Prod.map id f) := by
  rw [numberedFromOne, List.length_map, List.zip_map_right]
  rfl

/-- The lines on a declared state: its text and its tag, and where the transitions lead that leave
    it, numbered in declared order. -/
def MachineDecl.stateLines (decl : MachineDecl) (state : Reference) : List String :=
  ("    " ++ state.text ++ " [" ++ state.tag ++ "]") ::
    (numberedFromOne (decl.leaving state.tag)).map fun (number, edge) =>
      "      " ++ toString number ++ ". => " ++ edge.destination.text

theorem Machine.Keeps.stateLines {machine : Machine} {decl : MachineDecl}
    (keeps : machine.Keeps decl) :
    machine.states.flatMap State.summary = decl.states.flatMap decl.stateLines := by
  rw [← keeps.states, List.flatMap_map]
  refine List.flatMap_congr fun state mem => ?_
  rw [State.summary, keeps.transits state mem, numberedFromOne_map, List.map_map]
  rfl

/-- The lines are those on the declared machine: behind its heading every state once, under every
    state the transitions that leave it, and at the end the messages that are listed. -/
structure MachineDecl.ListedAs (decl : MachineDecl) (document : Document) (lines : List String) :
    Prop where
  lines_eq : ∃ machine, Machine.ofDecl decl = .ok machine ∧
    lines = machine.heading ++ "  states:" :: decl.states.flatMap decl.stateLines ++
      document.messageLines decl.name
  /-- No state is declared twice. -/
  once : (decl.states.map Reference.tag).Nodup
  /-- Every transition leaves one of the states. -/
  leaving : (decl.states.flatMap fun state => decl.leaving state.tag).Perm decl.edges

theorem MachineDecl.listedAs {document : Document} {decl : MachineDecl} {machine : Machine}
    (made : Machine.ofDecl decl = .ok machine) :
    decl.ListedAs document (machine.summary (document.messages? machine.name)) := by
  have keeps := Machine.keeps_of_ofDecl made
  refine ⟨⟨machine, made, ?_⟩, ?_, ?_⟩
  · rw [Machine.summary, keeps.stateLines, Document.messageLines_eq, keeps.name]
  · have distinct := (Machine.closed_of_ofDecl made).distinct
    rw [← keeps.states, List.map_map]
    exact distinct
  · have partition := keeps.partition
    rw [← keeps.states, List.flatMap_map]
    exact partition

/-! ## 4. Main theorem -/

namespace Document

variable {document : Document} {declarations : List Declaration}

/-- The sections of the summary are those of the declared machines, in declared order. Every machine
    is declared once, all messages that are declared belong to one of them, and those that are not
    printed are the dropped ones. -/
structure SummedUp (document : Document) (declarations : List Declaration)
    (sections : List (List String)) : Prop where
  machines : List.Forall₂ (fun decl lines => decl.ListedAs document lines)
    (declarations.filterMap Declaration.machine?) sections
  names : ((declarations.filterMap Declaration.machine?).map MachineDecl.name).Nodup
  messages : document.messages = declarations.filterMap Declaration.messages?
  owned : ∀ messages ∈ document.messages,
    ∃ decl ∈ declarations.filterMap Declaration.machine?, decl.name = messages.machine
  told : ∀ name, (document.announced name).flatMap Messages.messages =
    document.dropped name ++ document.listed name
  whole : (∀ name, document.dropped name = []) ↔
    ∀ before first after, document.messages = before ++ first :: after →
      ∀ second ∈ after, second.machine = first.machine → first.messages = []

theorem summedUp (declared : empty.declareAll declarations = (document, none)) :
    document.SummedUp declarations
      (document.machines.map fun machine => machine.summary (document.messages? machine.name)) where
  machines := by
    rw [List.forall₂_map_right_iff]
    exact (machines_declared declared).imp fun _ _ => MachineDecl.listedAs
  names := by
    have names := (coherent_of_declareAll declared).names
    have same : (declarations.filterMap Declaration.machine?).map MachineDecl.name =
        document.machines.map Machine.name := by
      rw [← List.forall₂_eq_eq_eq, List.forall₂_map_left_iff, List.forall₂_map_right_iff]
      exact (machines_declared declared).imp fun _ _ made => (Machine.name_of_ofDecl made).symm
    rw [same]
    exact names
  messages := messages_eq declared
  owned := by
    intro messages mem
    obtain ⟨machine, known, suits⟩ := (coherent_of_declareAll declared).owned messages mem
    obtain ⟨decl, here, made⟩ := declared_of_mem declared known
    refine ⟨decl, List.mem_filterMap.mpr ⟨_, here, rfl⟩, ?_⟩
    rw [← Machine.name_of_ofDecl made]
    exact suits.named.symm
  told _ := announced_eq
  whole := dropped_eq_nil_iff

end Document

namespace CommandLine

/-- The text that is read of a file. -/
def fileText (source : String) : String := String.ofList (unifyLineEnds source.toList)

/-- If the text of a file is an accepted document, `check` exits with 0 and prints one section for
    each declared machine, as `SummedUp` describes, and a last line with their number. -/
theorem check_lists_declarations {source : String} {document : Document}
    (accepted : Document.ofText (fileText source) = .ok document) (threshold : LogLevel)
    (path : String) :
    ∃ tokens declarations sections, tokenize (fileText source) = .ok tokens ∧
      Document.Phrase tokens.items declarations ∧ document.SummedUp declarations sections ∧
      (outcome threshold .check path source).exitCode = 0 ∧
      (outcome threshold .check path source).output = unlines (sections.flatten ++
        [shownPath path ++ ": " ++ toString sections.length ++ " machine(s) OK"]) := by
  have read : Document.read (fileText source) = (document, none) := by
    unfold Document.ofText at accepted
    split at accepted
    · cases accepted
    · rename_i same
      cases accepted
      exact same
  obtain ⟨tokens, declarations, scanned, fits, declared⟩ := Document.read_iff.mp read
  refine ⟨tokens, declarations, _, scanned, fits, Document.summedUp declared, ?_⟩
  unfold outcome
  rw [← fileText, read, List.length_map, ← List.flatMap_def]
  exact ⟨rfl, rfl⟩

/-! Two messages for one machine are declared, each in a declaration of its own. -/

theorem twiceText_accepted : Document.ofText (fileText Workshop.twiceText) =
    .ok ⟨[Workshop.stationMachine],
      [Workshop.stationMessages "P" 36, Workshop.stationMessages "Q" 58]⟩ := by
  have same : fileText Workshop.twiceText = Workshop.twiceText := by decide +kernel
  rw [Document.ofText, same, Workshop.twiceText_read]

/-- A file with two messages declarations for one machine: the messages of the second are printed.
    -/
theorem check_lists_declarations_station : ∃ document sections,
    Document.ofText (fileText Workshop.twiceText) = .ok document ∧
    (outcome .warning .check "spec.fsm" Workshop.twiceText).output = unlines (List.flatten sections ++
      [shownPath "spec.fsm" ++ ": " ++ toString sections.length ++ " machine(s) OK"]) ∧
    document.dropped "M" = (Workshop.stationMessages "P" 36).messages ∧
    document.listed "M" = (Workshop.stationMessages "Q" 58).messages := by
  obtain ⟨_, _, sections, -, -, -, -, printed⟩ :=
    check_lists_declarations twiceText_accepted .warning "spec.fsm"
  exact ⟨_, sections, twiceText_accepted, printed, rfl, rfl⟩

/-- The message of the first of two declarations for one machine is not printed. -/
theorem check_drops_messages : ∃ document messages, ∃ message ∈ Messages.messages messages,
    Document.ofText (fileText Workshop.twiceText) = .ok document ∧ messages ∈ document.messages ∧
    messages.machine = "M" ∧ message.text = "P -> X" ∧
    ∀ path, outcome .warning .check path Workshop.twiceText = ⟨0, unlines
      ["machine M (initial: X)", "  states:", "    X [XState]", "  messages:", "    Q -> X",
        shownPath path ++ ": 1 machine(s) OK"], ""⟩ := by
  refine ⟨_, Workshop.stationMessages "P" 36, _, .head _, twiceText_accepted, .head _, rfl, rfl,
    fun path => ?_⟩
  have same : fileText Workshop.twiceText = Workshop.twiceText := by decide +kernel
  have summed : (⟨[Workshop.stationMachine],
      [Workshop.stationMessages "P" 36, Workshop.stationMessages "Q" 58]⟩ : Document).summary =
      ["machine M (initial: X)", "  states:", "    X [XState]", "  messages:", "    Q -> X"] := by
    decide +kernel
  have quiet : (⟨[Workshop.stationMachine],
      [Workshop.stationMessages "P" 36, Workshop.stationMessages "Q" 58]⟩ : Document).remarks = [] := by
    decide +kernel
  have counted : shownPath path ++ ": " ++ toString [Workshop.stationMachine].length ++
      " machine(s) OK" = shownPath path ++ ": 1 machine(s) OK" := by
    rw [String.append_assoc, String.append_assoc]
    rfl
  unfold outcome answer
  rw [← fileText, same, Workshop.twiceText_read]
  dsimp only
  rw [summed, quiet, counted]
  rfl

end CommandLine

end MachineSpec
