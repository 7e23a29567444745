/-
MachineSpec.Proofs.Refinement — a compiled machine refines its graph.

`Machine.Moves` says in terms of the graph and the bindings how a call may change the tag of
a machine: not at all; to the initial tag; along an edge whose guard answered `transit`
after the guards before it had answered `remain`; or into the error state, if data of the
active state or of the state just entered failed.

`Table.generated_refines_graph` proves that the calls of a compiled machine change the tag
in no other way, ask no other guards, and that the machine never holds a tag that no path of
such moves leads to, also while a call is under way.
-/
import MachineSpec.Proofs.Generation
import MachineSpec.Proofs.Reachability
import MachineSpec.Proofs.Regime
import MachineSpec.Proofs.Verdicts

namespace MachineSpec

/-! ## 1. Moves -/

/-- The calls that lead back to the initial state. -/
inductive Call.Returns : Call → Prop where
  | start {data : Value} : Returns (.start data)
  | stop : Returns .stop
  | reset : Returns .reset

/-- In a call upon a machine with the tag, data of `owner` is that of the active state, or it is what
    data of the active state was made into just before, at the other end of a transition. -/
inductive Concerns (tag : String) : (owner : String) → Value → (before : Course) → Prop where
  | active {data : Value} {before : Course} : Concerns tag tag data before
  | arriving {transition : Transition} {data made : Value} {before : Course}
      (leaving : transition.source.tag = tag) :
      Concerns tag transition.destination.tag made
        (before ++ [(.convert transition data, .ok made)])

namespace Machine

variable {machine : Machine} {bindings : Bindings} {call : Call} {tag target : String}
  {course : Course} {verdicts : List (Transition × Option Guard)}

/-- Guards are asked in steps only: those that are bound to the edges of the state, in declared order,
    and each after all before it have declined. -/
structure Asks (machine : Machine) (bindings : Bindings) (call : Call) (tag : String)
    (verdicts : List (Transition × Option Guard)) : Prop where
  steps : verdicts ≠ [] → call = .step
  order : verdicts.map (fun asked => asked.1.tags) <+:
    (machine.edges.filter (·.source.tag == tag)).map Edge.tags
  bound : ∀ asked ∈ verdicts, bindings.guard? asked.1.tags = some asked.1.guard
  declined : ∀ asked ∈ verdicts.dropLast, asked.2 = some .remain

/-- Of the edges that leave the state, all up to this one were asked, and this was the first that did
    not decline. -/
def Picks (machine : Machine) (tag : String) (edge : Edge)
    (verdicts : List (Transition × Option Guard)) : Prop :=
  ∃ earlier later, machine.edges.filter (·.source.tag == tag) = earlier ++ edge :: later ∧
    verdicts.map (fun asked => (asked.1.tags, asked.2)) =
      earlier.map (fun other => (other.tags, some .remain)) ++ [(edge.tags, some .transit)]

/-- How a call may change the tag of a machine. -/
inductive Moves (machine : Machine) (bindings : Bindings) (call : Call) (course : Course)
    (tag : String) : String → Prop where
  | stays : Moves machine bindings call course tag tag
  | returns (back : call.Returns) : Moves machine bindings call course tag machine.initial.tag
  | follows {edge : Edge} (steps : call = .step)
      (picks : machine.Picks tag edge (Course.verdicts course)) :
      Moves machine bindings call course tag edge.destination.tag
  | fails {policy : FailurePolicy} {kind : Class} {before after : Course} {request : Request}
      {owner : String} {data error : Value} (fallible : machine.failure = some policy)
      (errorType : bindings.resolve policy.errorType.type = .ok (.cls kind))
      (split : course = before ++ (request, .error error) :: after)
      (subject : request.subject? = some (owner, data)) (failure : error.isA kind = true)
      (whose : Concerns tag owner data before) :
      Moves machine bindings call course tag policy.errorState.tag

theorem Asks.none : machine.Asks bindings call tag [] := ⟨by simp, by simp, by simp, by simp⟩

/-- At most one guard lets the data go. -/
theorem Asks.once (asks : machine.Asks bindings call tag verdicts) :
    verdicts.countP (·.2 == some .transit) ≤ 1 := by
  rcases List.eq_nil_or_concat verdicts with rfl | ⟨earlier, last, rfl⟩
  · simp
  · have declined := asks.declined
    rw [List.concat_eq_append, List.dropLast_concat] at declined
    have none : earlier.countP (·.2 == some .transit) = 0 :=
      List.countP_eq_zero.mpr fun asked h => by simp [declined asked h]
    rw [List.concat_eq_append, List.countP_append, none, Nat.zero_add]
    exact List.countP_le_length

/-- Where a guard lets the data go, the edge is the first that did not decline. -/
theorem Asks.picks (asks : machine.Asks bindings call tag verdicts) {transition : Transition}
    {earlier : List (Transition × Option Guard)}
    (split : verdicts = earlier ++ [(transition, some .transit)]) :
    ∃ edge, edge.tags = transition.tags ∧ machine.Picks tag edge verdicts := by
  obtain ⟨rest, joined⟩ := asks.order
  have declined := asks.declined
  rw [split, List.dropLast_concat] at declined
  rw [split, List.map_append, List.append_assoc] at joined
  obtain ⟨before, more, hedges, hbefore, hmore⟩ := List.map_eq_append_iff.mp joined.symm
  obtain ⟨edge, later, rfl, same, -⟩ := List.map_eq_cons_iff.mp hmore
  refine ⟨edge, same, before, later, hedges, ?_⟩
  have asked : earlier.map (fun asked => (asked.1.tags, asked.2)) =
      (earlier.map fun asked => asked.1.tags).map fun tags => (tags, some .remain) := by
    rw [List.map_map]
    exact List.map_congr_left fun asked h => by simp [declined asked h]
  rw [split, List.map_append, asked, ← hbefore, List.map_map, same]
  rfl

/-- What a call did before it asked any guard may stand before its course. -/
theorem Moves.prepend (moves : machine.Moves bindings call course tag target) {past : Course}
    (silent : Course.verdicts past = []) :
    machine.Moves bindings call (past ++ course) tag target := by
  cases moves with
  | stays => exact .stays
  | returns back => exact .returns back
  | follows steps picks =>
    refine .follows steps ?_
    rwa [Course.verdicts_append, silent, List.nil_append]
  | fails fallible errorType split subject failure whose =>
    refine .fails fallible errorType (by rw [split, List.append_assoc]) subject failure
      (?_ : Concerns _ _ _ (past ++ _))
    cases whose with
    | active => exact .active
    | arriving leaving =>
      rw [← List.append_assoc]
      exact .arriving leaving

end Machine

namespace Table

open Operation Dialogue

variable {table : Table} {bindings : Bindings} {channels : Option Channels} {given data : Value}
  {slot final : Slot} {block : Block} {entry : Entry} {course : Course}

/-! ## 2. Tables move along their graphs -/

/-- The transitions of a block join what the edges of its state join. -/
theorem Sound.tags_eq (sound : table.Sound) (mem : block ∈ table.blocks) :
    block.transitions.map Transition.tags =
      (table.machine.edges.filter (·.source.tag == block.tag)).map Edge.tags := by
  have leaving : block.transitions.map Transition.tags =
      (block.transitions.map Transition.destination).map fun destination =>
        (block.tag, destination.tag) := by
    rw [List.map_map]
    exact List.map_congr_left fun transition ht => by
      simp [Transition.tags, sound.source_tag mem ht]
  rw [leaving, sound.destinations_eq mem, List.map_map]
  refine List.map_congr_left fun edge hedge => ?_
  have source : edge.source.tag = block.tag := by simpa using (List.mem_filter.mp hedge).2
  simp [Edge.tags, source]

section

variable (generated : table.Generated bindings table.machine)
include generated

/-- Where data failed and was made into something, that is data of the error state. -/
theorem Flees.moves {owner tag : String} {asked : Request × Answer} {call : Call}
    (flees : table.Flees owner data entry asked) {before after : Course}
    (split : course = before ++ asked :: after) (whose : Concerns tag owner data before) :
    table.machine.Moves bindings call course tag entry.tag := by
  obtain ⟨fallible, takes, home⟩ := flees
  obtain ⟨policy, failure, same, errorType⟩ := generated.failure _ fallible
  rw [home, same]
  exact .fails failure errorType split takes.subject takes.failure whose

theorem Fled.moves {tag : String} {call : Call} (fled : table.Fled tag data entry course) :
    table.machine.Moves bindings call course tag entry.tag := by
  obtain ⟨before, asked, after, split, flees⟩ := fled
  exact flees.moves generated split .active

variable (sound : table.Sound)
include sound

theorem Queries.asks (mem : block ∈ table.blocks) {verdicts : List (Transition × Option Guard)}
    (queries : Queries block.transitions verdicts) :
    table.machine.Asks bindings .step block.tag verdicts where
  steps _ := rfl
  order := by
    have order := queries.order.map Transition.tags
    rwa [List.map_map, sound.tags_eq mem] at order
  bound asked hasked := generated.draws.guards block mem asked.1
    (queries.order.subset (List.mem_map_of_mem hasked))
  declined := queries.declined

theorem run_moves {tag : String} (known : table.block? tag = some block)
    {result : Except Failure Entry}
    (plays : Plays (table.run block data slot) course result final) :
    table.machine.Asks bindings .step tag (Course.verdicts course) ∧
      ∀ entry, result = .ok entry → table.machine.Moves bindings .step course tag entry.tag := by
  obtain rfl := tag_of_block? known
  have mem := mem_of_block? known
  obtain ⟨queries, steps⟩ := run_steps sound mem plays
  have asks := queries.asks generated sound mem
  refine ⟨asks, fun entry same => ?_⟩
  cases steps entry same with
  | stayed here =>
    rw [here]
    exact .stays
  | fled fled => exact fled.moves generated
  | @took transition _ ht picked leads =>
    cases leads with
    | there here =>
      obtain ⟨edge, same, picks⟩ := asks.picks picked
      have arrives : edge.destination.tag = transition.destination.tag := congrArg Prod.snd same
      rw [here, ← arrives]
      exact .follows rfl picks
    | fled fled => exact fled.moves generated
    | failed split flees =>
      rw [List.append_cons] at split
      exact flees.moves generated split (.arriving (sound.source_tag mem ht))

/-- Data that enters its state from the slot stays there, or fails. -/
theorem enter_moves {tag : String} (known : table.block? tag = some block) {reported : Bool}
    (plays : Plays (table.enter block data reported slot) course (.ok entry) final)
    (call : Call) (rest : Course) :
    table.machine.Moves bindings call (course ++ rest) tag entry.tag := by
  obtain rfl := tag_of_block? known
  rcases enter_leads sound (mem_of_block? known) plays with here | ⟨asked, after, rfl, flees⟩
  · rw [here]
    exact .stays
  · exact flees.moves generated (List.nil_append _).symm .active

/-- A passage asks and moves as the graph says. -/
theorem Passage.moves {call : Call} {outcome : Except Failure Reply}
    (passage : table.Passage channels given slot call course outcome final) :
    table.machine.Asks bindings call slot.tag (Course.verdicts course) ∧
      table.machine.Moves bindings call course slot.tag final.tag := by
  induction passage with
  | refused => exact ⟨.none, .stays⟩
  | quiet looks carries =>
    rw [verdicts_of_carries carries]
    exact ⟨.none, .stays⟩
  | reset => exact ⟨.none, .returns .reset⟩
  | stopHalted => exact ⟨.none, .returns .stop⟩
  | startFailed initial enters | entryFailed _ initial enters =>
    rw [enter_unasked.plays enters]
    exact ⟨.none, .stays⟩
  | started answer initial enters =>
    rw [Course.verdicts_append, enter_unasked.plays enters]
    refine ⟨.none, ?_⟩
    exact enter_moves generated sound initial enters _ _
  | @stepped _ _ _ result known full runs =>
    have moved := run_moves generated sound known runs
    refine ⟨moved.1, ?_⟩
    cases result with
    | ok entry => exact moved.2 entry rfl
    | error failure => exact .stays
  | stopUnreported => exact ⟨.none, .stays⟩
  | stopFailed value known full retires =>
    rw [Course.verdicts_other rfl, retire_unasked.plays retires]
    exact ⟨.none, .stays⟩
  | stopped value known full retires =>
    rw [Course.verdicts_other rfl, retire_unasked.plays retires]
    exact ⟨.none, .returns .stop⟩
  | stepRedirected initial enters =>
    refine ⟨enter_unasked.plays enters ▸ .none, ?_⟩
    have moves := enter_moves generated sound initial enters .step []
    rwa [List.append_nil] at moves
  | @resumed call block first second entry _ final makesUp initial enters here goes rest ih =>
    obtain ⟨asks, moves⟩ := ih
    have silent := enter_unasked.plays enters
    rw [Course.verdicts_append, silent, List.nil_append]
    by_cases stays : entry.tag = table.machine.initial.tag
    · rw [show (Slot.holding entry).tag = table.machine.initial.tag from stays] at asks moves
      exact ⟨asks, moves.prepend silent⟩
    · -- the entry failed, so the call is no step, and nothing but another failure moves it on
      have other : call ≠ .step := fun step => stays (here step)
      have unasked : Course.verdicts second = [] :=
        Classical.byContradiction fun asked => other (asks.steps asked)
      have fled := enter_moves generated sound initial enters call second
      rw [unasked]
      refine ⟨.none, ?_⟩
      generalize final.tag = target at moves
      cases moves with
      | stays => exact fled
      | returns back => exact .returns back
      | follows step => exact absurd step other
      | fails fallible =>
        generalize entry.tag = fledTo at fled stays
        cases fled with
        | stays => exact absurd rfl stays
        | returns => exact absurd rfl stays
        | follows step => exact absurd step other
        | fails fallible' errorType split subject failure whose =>
          cases fallible.symm.trans fallible'
          exact .fails fallible errorType split subject failure whose

end

end Table

/-! ## 3. Reachable states -/

/-- A call leads to a tag that the graph leads to. -/
theorem Machine.Moves.reachable {machine : Machine} {bindings : Bindings} {call : Call}
    {course : Course} {tag target : String}
    (moves : machine.Moves bindings call course tag target) (closed : machine.Closed)
    (h : tag ∈ machine.reachable) : target ∈ machine.reachable := by
  cases moves with
  | stays => exact h
  | returns => exact initial_reachable
  | @follows edge _ picks =>
    obtain ⟨earlier, later, leaving, -⟩ := picks
    have among : edge ∈ machine.edges.filter (·.source.tag == tag) := by simp [leaving]
    obtain ⟨hedge, source⟩ := List.mem_filter.mp among
    have leads := destination_of_edge closed hedge
    rw [beq_iff_eq.mp source] at leads
    exact reachable_of_destination closed h leads
  | fails fallible => exact errorState_reachable fallible

/-- The tag is that of the slot, or the open request is about data of the state that has it. -/
def Moment.Involves (moment : Moment) (tag : String) : Prop :=
  moment.doing.slot.tag = tag ∨ ∃ request slot resume data,
    moment.doing = .ask request slot resume ∧ request.owner? = some (tag, data)

namespace Table

/-- The calls of a machine follow its graph and its guards. -/
structure Refines (table : Table) (bindings : Bindings) (machine : Machine) : Prop where
  /-- A new machine is in the initial state. -/
  created : ∀ given slot, table.create given = .ok slot → slot.tag = machine.initial.tag
  /-- A call asks the guards of the active state in declared order, and at most one of them lets the
      data go. -/
  asks : ∀ slot (event : Event) final, table.Reachable slot → event.Occurs table slot final →
    machine.Asks bindings event.call slot.tag (Course.verdicts event.course) ∧
      (Course.verdicts event.course).countP (·.2 == some .transit) ≤ 1
  /-- A call leaves the tag as it is, or moves it in one of three ways. -/
  moves : ∀ slot (event : Event) (final : Slot), table.Reachable slot →
    event.Occurs table slot final →
    machine.Moves bindings event.call event.course slot.tag final.tag
  /-- States that cannot be reached in the graph are never active. -/
  confined : ∀ state ∈ machine.unreachable, ∀ slot, table.Reachable slot → slot.tag ≠ state.tag
  /-- The same at every moment of every run, also if callbacks call the machine. -/
  spared : ∀ state ∈ machine.unreachable, ∀ moment, table.Lives (fun _ _ => True) moment →
    ¬ moment.Involves state.tag

variable {table : Table} {bindings : Bindings}

/-- The tag of the slot stays reachable in the graph. -/
theorem Sound.confines_reachable (sound : table.Sound)
    (generated : table.Generated bindings table.machine) :
    table.Confines fun tag => table.Knows tag ∧ tag ∈ table.machine.reachable where
  known h := h.1
  initial := ⟨sound.initial_block, Machine.initial_reachable⟩
  moves := by
    intro block transition mem here ht
    refine ⟨sound.block?_of_transition mem ht, ?_⟩
    have joined := List.mem_map_of_mem (f := Transition.tags) ht
    rw [sound.tags_eq mem] at joined
    obtain ⟨edge, hedge, same⟩ := List.mem_map.mp joined
    obtain ⟨hedge, source⟩ := List.mem_filter.mp hedge
    have leads := Machine.destination_of_edge sound.closed hedge
    rw [beq_iff_eq.mp source, show edge.destination.tag = transition.destination.tag from
      congrArg Prod.snd same] at leads
    exact Machine.reachable_of_destination sound.closed here.2 leads
  fails fallible := by
    obtain ⟨policy, failure, same, -⟩ := generated.failure _ fallible
    exact ⟨⟨_, sound.errorBlock _ fallible⟩, same ▸ Machine.errorState_reachable failure⟩

theorem History.reachable (sound : table.Sound)
    (generated : table.Generated bindings table.machine) {given : Value} {initial slot : Slot}
    {events : List Event} (created : table.create given = .ok initial)
    (history : table.History initial events slot) : slot.tag ∈ table.machine.reachable := by
  induction history with
  | nil => exact create_tag created ▸ Machine.initial_reachable
  | snoc before occurs ih =>
    have passage := passage sound (before.condition sound created) occurs
    exact (passage.moves generated sound).2.reachable sound.closed ih

/-- A table that is generated from a validated machine refines its graph, under whatever bindings,
    trace flags and type checks. -/
theorem generated_refines_graph {decl : MachineDecl} {machine : Machine} {flags : TraceFlags}
    {checkTypes : Bool}
    (checked : Machine.ofDecl decl = .ok machine)
    (compiled : (Table.generate bindings flags checkTypes machine).2 = .ok table) :
    table.Refines bindings machine := by
  have sound : table.Sound :=
    Compiled.sound ⟨decl, machine, bindings, flags, checkTypes, checked, compiled⟩
  have generated := generated_of_ok compiled
  obtain rfl := generated.origin
  refine ⟨fun _ _ => create_tag, fun slot event final reachable occurs => ?_,
    fun slot event final reachable occurs => ?_, fun state hidden slot reachable here => ?_,
    fun state hidden moment lives involved => ?_⟩
  · obtain ⟨_, _, _, created, history⟩ := reachable
    have asks := ((passage sound (history.condition sound created) occurs).moves generated sound).1
    exact ⟨asks, asks.once⟩
  · obtain ⟨_, _, _, created, history⟩ := reachable
    exact ((passage sound (history.condition sound created) occurs).moves generated sound).2
  · obtain ⟨_, _, _, created, history⟩ := reachable
    exact (Machine.mem_unreachable_iff.mp hidden).2
      (here ▸ history.reachable sound generated created)
  · have abides := Regime.ofTags_abides sound (sound.confines_reachable generated) fun _ _ => True
    obtain ⟨past, secure⟩ := lives.secure abides
    refine (Machine.mem_unreachable_iff.mp hidden).2 ?_
    rcases involved with here | ⟨request, slot, resume, data, asks, owned⟩
    · exact here ▸ secure.steady.2
    · exact ((secure.asks asks).2 _ data owned).2

/-- The lamp takes its first step, and is switched on. -/
def switching : Event :=
  ⟨.step, none,
    [(.hook .entry Lamp.offBlock.tag true (.object 0 Lamp.off), .ok .null),
     (.report false (traceLine "Lamp" "Enter" "Off"), .ok .null),
     (.report false (traceLine "Lamp" "Execute" "Off"), .ok .null),
     (.hook .execute Lamp.offBlock.tag true (.object 0 Lamp.off), .ok .null),
     (.guard Lamp.switch (.object 0 Lamp.off), .ok (.bool true)),
     (.hook .exit Lamp.offBlock.tag true (.object 0 Lamp.off), .ok .null),
     (.action Lamp.switch (.object 0 Lamp.off), .ok .null),
     (.report false (traceLine "Lamp" "Exit" "Off"), .ok .null),
     (.report false (traceLine "Lamp" "Transit" "From Off to On"), .ok .null),
     (.convert Lamp.switch (.object 0 Lamp.off), .ok (.object 1 Lamp.on)),
     (.hook .entry Lamp.onBlock.tag true (.object 1 Lamp.on), .ok .null),
     (.report false (traceLine "Lamp" "Enter" "On"), .ok .null)], .ok .nothing⟩

/-- A step of the lamp moves along its edge and asks the guard of that edge; the state `Broken` of a
    plain machine is never active. -/
theorem generated_refines_graph_lamp :
    Lamp.plain.machine.Moves Lamp.bindings .step switching.course Lamp.offBlock.tag
        Lamp.onBlock.tag ∧
      Lamp.plain.machine.Asks Lamp.bindings .step Lamp.offBlock.tag
        [(Lamp.switch, some .transit)] ∧
      ∀ slot, Lamp.plain.Reachable slot → slot.tag ≠ Lamp.brokenBlock.tag := by
  have checked : Machine.ofDecl (Lamp.decl none) = .ok Lamp.plain.machine := rfl
  have compiled : (Table.generate Lamp.bindings Lamp.plain.flags true Lamp.plain.machine).2 =
      .ok Lamp.plain := rfl
  have reachable : Lamp.plain.Reachable (.seeded Lamp.plain (.object 0 Lamp.off)) :=
    ⟨.object 0 Lamp.off, _, [], rfl, .nil⟩
  have occurs : switching.Occurs Lamp.plain (.seeded Lamp.plain (.object 0 Lamp.off))
      (.holding ⟨Lamp.onBlock.tag, .object 1 Lamp.on⟩) :=
    .ask (.ask (.ask (.ask (.ask (.ask (.ask (.ask (.ask (.ask (.ask (.ask (.done _ _))))))))))))
  have hidden : Lamp.brokenBlock.state ∈ Lamp.plain.machine.unreachable := by decide
  have law := generated_refines_graph checked compiled
  exact ⟨law.moves _ _ _ reachable occurs, (law.asks _ _ _ reachable occurs).1,
    law.confined _ hidden⟩

end Table

end MachineSpec
