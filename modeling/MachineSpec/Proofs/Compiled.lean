/-
MachineSpec.Proofs.Compiled — properties of every table that compilation yields.

Validation rejects graphs that are not closed, and the generation of the table rejects
graphs with names that are not bound. `Compiled` combines the two, and `Sound` is what the
engine relies on:

* the blocks are the declared states, in declared order and with distinct tags;
* the transitions of a block are the edges that leave its state, in declared order; each
  leads to a block, and no two of them to the same;
* a fallible machine has its error state and a conversion into it from every other state.

`Compiled.sound` derives `Sound`, from which other modules start.
-/
import MachineSpec.Table.Generate

namespace MachineSpec

theorem Except.bind_eq_ok_iff {ε α β : Type} {x : Except ε α} {f : α → Except ε β} {b : β} :
    (x >>= f) = .ok b ↔ ∃ a, x = .ok a ∧ f a = .ok b := by
  cases x <;> simp [bind, Except.bind]

/-- What has a tag of its own is found by it. -/
theorem find?_of_distinct {α : Type} {tag : α → String} {items : List α}
    (hdistinct : (items.map tag).Nodup) {item : α} (h : item ∈ items) :
    items.find? (tag · == tag item) = some item := by
  obtain ⟨before, after, rfl⟩ := List.append_of_mem h
  rw [List.map_append, List.map_cons, List.nodup_append] at hdistinct
  refine List.find?_eq_some_iff_append.mpr ⟨by simp, before, after, rfl, fun other hother => ?_⟩
  simpa using hdistinct.2.2 _ (List.mem_map_of_mem hother) _ (List.mem_cons_self ..)

/-! ## 1. Checked machines -/

/-- States that pass the check have different tags. -/
theorem nodup_of_checkTags {machine : String} {states : List Reference} :
    ∀ {before : List Reference}, checkTags machine before states = .ok () →
      (before.map Reference.tag).Nodup → ((before ++ states).map Reference.tag).Nodup := by
  induction states with
  | nil => intro before _ hb; simpa using hb
  | cons state rest ih =>
    intro before h hb
    rw [checkTags] at h
    split at h
    · cases h
    · rename_i unseen
      have hnew : ∀ other ∈ before, other.tag ≠ state.tag := by simpa using unseen
      have hb' : ((before ++ [state]).map Reference.tag).Nodup := by
        simp only [List.map_append, List.map_cons, List.map_nil, List.nodup_append,
          List.mem_map, List.mem_singleton]
        refine ⟨hb, by simp, ?_⟩
        rintro _ ⟨other, hother, rfl⟩ _ rfl
        exact hnew other hother
      simpa using ih h hb'

theorem declared_of_checkEndpoint {machine : String} {declared : List String} {edge : Edge}
    {state : Reference} (h : checkEndpoint machine declared edge state = .ok ()) :
    state.tag ∈ declared := by
  unfold checkEndpoint at h
  split at h
  · rename_i hmem
    exact List.contains_iff_mem.mp hmem
  · cases h

/-- Transitions that pass the check join declared tags, and no two of them join the same. -/
theorem closed_of_checkEdges {machine : String} {declared : List String} {edges : List Edge} :
    ∀ {before : List (String × String)}, checkEdges machine declared before edges = .ok () →
      (∀ edge ∈ edges, edge.source.tag ∈ declared ∧ edge.destination.tag ∈ declared ∧
        edge.tags ∉ before) ∧ (edges.map Edge.tags).Nodup := by
  induction edges with
  | nil => intro before _; simp
  | cons first rest ih =>
    intro before h
    simp only [checkEdges, Except.bind_eq_ok_iff] at h
    obtain ⟨_, hsource, _, hdestination, h⟩ := h
    split at h
    · cases h
    · rename_i unseen
      obtain ⟨hrest, hnodup⟩ := ih h
      refine ⟨fun edge hedge => ?_, ?_⟩
      · rcases List.mem_cons.mp hedge with rfl | hedge
        · exact ⟨declared_of_checkEndpoint hsource, declared_of_checkEndpoint hdestination,
            by simpa using unseen⟩
        · obtain ⟨hfrom, hto, hnew⟩ := hrest edge hedge
          exact ⟨hfrom, hto, fun hbefore => hnew (List.mem_cons_of_mem _ hbefore)⟩
      · rw [List.map_cons, List.nodup_cons]
        refine ⟨fun hagain => ?_, hnodup⟩
        obtain ⟨edge, hedge, hsame⟩ := List.mem_map.mp hagain
        exact (hrest edge hedge).2.2 (hsame ▸ List.mem_cons_self ..)

theorem findRole_mem {machine : String} {role : Role} {states : List State}
    {reference : Reference} {state : State}
    (h : findRole machine role states reference = .ok state) : state ∈ states := by
  unfold findRole at h
  split at h
  · rename_i found
    cases h
    exact List.mem_of_find?_eq_some found
  · cases h

/-- What is left of a declaration in the machine that it describes. -/
structure Machine.Closed (machine : Machine) : Prop where
  distinct : (machine.states.map State.tag).Nodup
  initial : machine.initial ∈ machine.states
  transits : ∀ state ∈ machine.states, state.transits =
    (machine.edges.filter (·.source.tag == state.tag)).map Edge.destination
  sources : ∀ edge ∈ machine.edges, ∃ state ∈ machine.states, state.tag = edge.source.tag
  destinations : ∀ edge ∈ machine.edges, ∃ state ∈ machine.states,
    state.tag = edge.destination.tag
  once : (machine.edges.map Edge.tags).Nodup
  errorState : ∀ policy, machine.failure = some policy → policy.errorState ∈ machine.states

theorem Machine.closed_of_ofDecl {decl : MachineDecl} {machine : Machine}
    (h : Machine.ofDecl decl = .ok machine) : machine.Closed := by
  simp only [Machine.ofDecl, Except.bind_eq_ok_iff] at h
  obtain ⟨_, htags, _, hedges, initial, hinitial, h⟩ := h
  have hmachine : ∃ failure, machine = ⟨decl.name, initial,
      decl.states.map (State.ofReference decl.edges), decl.edges, failure⟩ ∧
      ∀ policy, failure = some policy →
        policy.errorState ∈ decl.states.map (State.ofReference decl.edges) := by
    split at h
    · cases h
      exact ⟨none, rfl, by simp⟩
    · simp only [Except.bind_eq_ok_iff] at h
      obtain ⟨state, hstate, _, hfailure, h⟩ := h
      cases hfailure
      cases h
      refine ⟨_, rfl, ?_⟩
      rintro policy ⟨⟩
      exact findRole_mem hstate
  obtain ⟨failure, rfl, herror⟩ := hmachine
  obtain ⟨hdeclared, honce⟩ := closed_of_checkEdges hedges
  have hstate {tag : String} (h : tag ∈ decl.states.map Reference.tag) :
      ∃ state ∈ decl.states.map (State.ofReference decl.edges), state.tag = tag := by
    obtain ⟨reference, hreference, rfl⟩ := List.mem_map.mp h
    exact ⟨_, List.mem_map_of_mem hreference, rfl⟩
  refine ⟨?_, findRole_mem hinitial, ?_, fun edge hedge => hstate (hdeclared edge hedge).1,
    fun edge hedge => hstate (hdeclared edge hedge).2.1, honce, herror⟩
  · have hnodup := nodup_of_checkTags htags (by simp)
    have htag : State.tag ∘ State.ofReference decl.edges = Reference.tag := rfl
    simpa [htag] using hnodup
  · intro state hstate
    obtain ⟨reference, _, rfl⟩ := List.mem_map.mp hstate
    rfl

/-- No two transitions of a state lead to the same. -/
theorem Machine.Closed.apart {machine : Machine} (closed : machine.Closed) {state : State}
    (h : state ∈ machine.states) : (state.transits.map Reference.tag).Nodup := by
  have hleaving : ((machine.edges.filter (·.source.tag == state.tag)).map Edge.tags).Nodup :=
    closed.once.sublist (List.filter_sublist.map Edge.tags)
  -- with one source for all of them, edges are told apart by their destinations
  have htags : (machine.edges.filter (·.source.tag == state.tag)).map Edge.tags =
      (state.transits.map Reference.tag).map (Prod.mk state.tag) := by
    rw [closed.transits state h, List.map_map, List.map_map]
    refine List.map_congr_left fun edge hedge => ?_
    have hsource := (List.mem_filter.mp hedge).2
    simp only [beq_iff_eq] at hsource
    simp [Edge.tags, hsource]
  rw [htags] at hleaving
  exact List.Pairwise.of_map _ (fun _ _ hne hsame => hne (congrArg _ hsame)) hleaving

/-! ## 2. Blocks -/

/-- The classes of states stand beside the states. -/
theorem Bindings.classes_ok {bindings : Bindings} {states : List State} :
    ∀ {kinds}, bindings.classes states = .ok kinds → kinds.map Prod.fst = states := by
  induction states with
  | nil => rintro kinds ⟨⟩; rfl
  | cons state rest ih =>
    intro kinds h
    simp only [Bindings.classes, Except.bind_eq_ok_iff] at h
    obtain ⟨kind, _, others, hothers, h⟩ := h
    cases h
    simp [ih hothers]

theorem Bindings.transition_ok {bindings : Bindings} {machine : String}
    {source destination : Reference} {transition : Transition}
    (h : bindings.transition machine source destination = .ok transition) :
    transition.source = source ∧ transition.destination = destination := by
  dsimp only [Bindings.transition] at h
  split at h
  · cases h
  · obtain ⟨conversion, _, h⟩ := Except.bind_eq_ok_iff.mp h
    cases h
    exact ⟨rfl, rfl⟩

/-- The transitions of a state are made one by one, in the order of its destinations. -/
theorem Bindings.transitions_ok {bindings : Bindings} {machine : String} {source : Reference}
    {destinations : List Reference} :
    ∀ {transitions}, destinations.mapM (bindings.transition machine source) = .ok transitions →
      transitions.map Transition.destination = destinations ∧
        ∀ transition ∈ transitions, transition.source = source := by
  induction destinations with
  | nil => rintro transitions ⟨⟩; simp
  | cons destination rest ih =>
    intro transitions h
    simp only [List.mapM_cons, Except.bind_eq_ok_iff] at h
    obtain ⟨transition, htransition, others, hothers, h⟩ := h
    cases h
    obtain ⟨hdestinations, hsources⟩ := ih hothers
    obtain ⟨hsource, hdestination⟩ := Bindings.transition_ok htransition
    simpa [hsource, hdestination, hdestinations] using hsources

/-- What a block keeps of the state that it was made for. -/
structure Block.Fits (block : Block) : Prop where
  destinations : block.transitions.map Transition.destination = block.state.transits
  sources : ∀ transition ∈ block.transitions, transition.source = block.state.reference

theorem Block.ofState_ok {bindings : Bindings} {machine : Machine} {state : State} {kind : Class}
    {block : Block} (h : Block.ofState bindings machine state kind = .ok block) :
    block.state = state ∧ block.kind = kind ∧ block.Fits := by
  simp only [Block.ofState, Except.bind_eq_ok_iff] at h
  obtain ⟨transitions, htransitions, h⟩ := h
  cases h
  obtain ⟨hdestinations, hsources⟩ := Bindings.transitions_ok htransitions
  exact ⟨rfl, rfl, hdestinations, hsources⟩

/-- Without a fault there is a fitting block for every state, in the same order. -/
theorem blocksUpToFault_ok {bindings : Bindings} {machine : Machine}
    {kinds : List (State × Class)} :
    ∀ {blocks}, blocksUpToFault bindings machine kinds = (blocks, none) →
      blocks.map Block.state = kinds.map Prod.fst ∧ ∀ block ∈ blocks, block.Fits := by
  induction kinds with
  | nil => rintro blocks ⟨⟩; simp
  | cons entry rest ih =>
    obtain ⟨state, kind⟩ := entry
    intro blocks h
    rw [blocksUpToFault] at h
    split at h
    · cases h
    · rename_i block hblock
      obtain ⟨rfl, hfault⟩ := Prod.ext_iff.mp h
      obtain ⟨hstates, hfits⟩ := ih (Prod.ext rfl hfault)
      obtain ⟨hstate, -, hfit⟩ := Block.ofState_ok hblock
      simpa [hstate, hstates, hfit] using hfits

/-! ## 3. Failures -/

/-- Every state but the error state gets its way into the error state. -/
theorem errorConversions_ok {bindings : Bindings} {machine : Machine} {errorState : State}
    {states : List State} :
    ∀ {conversions}, errorConversions bindings machine errorState states = .ok conversions →
      ∀ state ∈ states, state.tag ≠ errorState.tag →
        ∃ conversion, conversions.lookup state.tag = some conversion := by
  induction states with
  | nil => intro conversions _ state hstate; cases hstate
  | cons first rest ih =>
    intro conversions h state hstate hother
    rw [errorConversions] at h
    split at h
    · rename_i hsame
      rcases List.mem_cons.mp hstate with rfl | hrest
      · exact absurd hsame hother
      · exact ih h state hrest hother
    · simp only [Except.bind_eq_ok_iff] at h
      obtain ⟨callback, _, others, hothers, h⟩ := h
      cases h
      by_cases hsame : state.tag = first.tag
      · exact ⟨callback, by simp [hsame]⟩
      · rcases List.mem_cons.mp hstate with rfl | hrest
        · exact absurd rfl hsame
        · obtain ⟨conversion, hlookup⟩ := ih hothers state hrest hother
          exact ⟨conversion, by simp [List.lookup_cons, beq_false_of_ne hsame, hlookup]⟩

theorem FailureRoute.ofPolicy_ok {bindings : Bindings} {machine : Machine} {blocks : List Block}
    {policy : FailurePolicy} {route : FailureRoute}
    (h : FailureRoute.ofPolicy bindings machine blocks policy = .ok route) :
    blocks.find? (·.tag == policy.errorState.tag) = some route.errorBlock ∧
      errorConversions bindings machine policy.errorState machine.states =
        .ok route.conversions := by
  simp only [FailureRoute.ofPolicy, Except.bind_eq_ok_iff] at h
  obtain ⟨errorType, _, h⟩ := h
  split at h
  · cases h
  · rename_i block hblock
    split at h
    · obtain ⟨conversions, hconversions, h⟩ := Except.bind_eq_ok_iff.mp h
      cases h
      exact ⟨hblock, hconversions⟩
    · cases h

/-! ## 4. Tables -/

namespace Table

/-- A table that some declaration compiles to under some bindings. -/
def Compiled (table : Table) : Prop :=
  ∃ decl machine bindings flags checkTypes, Machine.ofDecl decl = .ok machine ∧
    (Table.generate bindings flags checkTypes machine).2 = .ok table

/-- What a machine relies on in its table. -/
structure Sound (table : Table) : Prop where
  closed : table.machine.Closed
  states : table.blocks.map Block.state = table.machine.states
  fits : ∀ block ∈ table.blocks, block.Fits
  plain : table.failure = none ↔ table.machine.failure = none
  errorBlock : ∀ route, table.failure = some route →
    table.block? route.errorBlock.tag = some route.errorBlock
  conversions : ∀ route, table.failure = some route → ∀ block ∈ table.blocks,
    block.tag ≠ route.errorBlock.tag →
      ∃ conversion, route.conversions.lookup block.tag = some conversion

/-- What compiles is sound. -/
theorem Compiled.sound {table : Table} (h : table.Compiled) : table.Sound := by
  obtain ⟨decl, machine, bindings, flags, checkTypes, hdecl, hgenerate⟩ := h
  have hclosed := Machine.closed_of_ofDecl hdecl
  unfold Table.generate at hgenerate
  split at hgenerate
  · cases hgenerate
  · rename_i kinds hkinds
    generalize hblocks : blocksUpToFault bindings machine kinds = made at hgenerate
    obtain ⟨blocks, _ | error⟩ := made
    · obtain ⟨hstates, hfits⟩ := blocksUpToFault_ok hblocks
      rw [Bindings.classes_ok hkinds] at hstates
      dsimp only [Table.ofBlocks] at hgenerate
      split at hgenerate
      · rename_i hplain
        cases hgenerate
        exact ⟨hclosed, hstates, hfits, by simp [hplain], by simp, by simp⟩
      · rename_i policy hpolicy
        simp only [Except.bind_eq_ok_iff] at hgenerate
        obtain ⟨_, hroute, htable⟩ := hgenerate
        cases hpolicy' : FailureRoute.ofPolicy bindings machine blocks policy with
        | error error => simp [hpolicy', Functor.map, Except.map] at hroute
        | ok route =>
          simp only [hpolicy', Functor.map, Except.map, Except.ok.injEq] at hroute
          subst hroute
          cases htable
          obtain ⟨hblock, hconversions⟩ := FailureRoute.ofPolicy_ok hpolicy'
          have htag : route.errorBlock.tag = policy.errorState.tag := by
            simpa using List.find?_some hblock
          refine ⟨hclosed, hstates, hfits, by simp [hpolicy], ?_, ?_⟩
          · rintro _ ⟨⟩
            rwa [block?, htag]
          · rintro _ ⟨⟩ block hmem hother
            have hstate : block.state ∈ machine.states := hstates ▸ List.mem_map_of_mem hmem
            exact errorConversions_ok hconversions _ hstate (htag ▸ hother)
    · cases hgenerate

theorem mem_of_block? {table : Table} {tag : String} {block : Block}
    (h : table.block? tag = some block) : block ∈ table.blocks :=
  List.mem_of_find?_eq_some h

theorem tag_of_block? {table : Table} {tag : String} {block : Block}
    (h : table.block? tag = some block) : block.tag = tag := by
  simpa using List.find?_some h

namespace Sound

variable {table : Table} {block : Block} (sound : table.Sound)
include sound

theorem state_mem (h : block ∈ table.blocks) : block.state ∈ table.machine.states :=
  sound.states ▸ List.mem_map_of_mem h

/-- A declared tag is the tag of a block. -/
theorem block?_of_mem {state : State} (h : state ∈ table.machine.states) :
    ∃ block, table.block? state.tag = some block := by
  rw [← sound.states] at h
  obtain ⟨block, hmem, rfl⟩ := List.mem_map.mp h
  exact Option.isSome_iff_exists.mp (List.find?_isSome.mpr ⟨block, hmem, by simp [Block.tag]⟩)

theorem initial_block : ∃ block, table.block? table.machine.initial.tag = some block :=
  sound.block?_of_mem sound.closed.initial

/-- A block is found by its tag, since no other has the same. -/
theorem block?_of_tag (h : block ∈ table.blocks) : table.block? block.tag = some block := by
  have hdistinct := sound.closed.distinct
  rw [← sound.states, List.map_map] at hdistinct
  exact find?_of_distinct hdistinct h

/-- The transitions of a block are the edges that leave its state, in declared order. -/
theorem destinations_eq (h : block ∈ table.blocks) :
    block.transitions.map Transition.destination =
      (table.machine.edges.filter (·.source.tag == block.tag)).map Edge.destination :=
  (sound.fits block h).destinations.trans (sound.closed.transits _ (sound.state_mem h))

/-- No two transitions of a block lead to the same state. -/
theorem once (h : block ∈ table.blocks) :
    (block.transitions.map fun transition => transition.destination.tag).Nodup := by
  have apart := sound.closed.apart (sound.state_mem h)
  rw [← (sound.fits block h).destinations, List.map_map] at apart
  exact apart

/-- A transition leads to a block. -/
theorem block?_of_transition (h : block ∈ table.blocks) {transition : Transition}
    (ht : transition ∈ block.transitions) :
    ∃ target, table.block? transition.destination.tag = some target := by
  have hdestination := List.mem_map_of_mem (f := Transition.destination) ht
  rw [sound.destinations_eq h] at hdestination
  obtain ⟨edge, hedge, hsame⟩ := List.mem_map.mp hdestination
  obtain ⟨state, hstate, htag⟩ := sound.closed.destinations edge (List.mem_filter.mp hedge).1
  rw [← hsame, ← htag]
  exact sound.block?_of_mem hstate

theorem source_tag (h : block ∈ table.blocks) {transition : Transition}
    (ht : transition ∈ block.transitions) : transition.source.tag = block.tag := by
  rw [(sound.fits block h).sources transition ht]
  rfl

end Sound

end Table

/-! ## 5. A lamp

Two tables of one small machine, plain and fallible. Its classes have methods for all stages, and its
guard, conversions and action are routines, so any answers and exceptions can come of its requests.
Both tables compile. -/

namespace Lamp

/-- The place of everything that is written nowhere. -/
def span : Span := Position.start.span 1

def state (name : String) : Reference := ⟨⟨name, []⟩, span⟩

/-- The lamp as declared, with or without a word on faults. -/
def decl (failure : Option FailureDecl) : MachineDecl :=
  ⟨"Lamp", state "Off", [state "Off", state "On", state "Broken"],
    [⟨state "Off", state "On", span⟩], failure, span⟩

/-- A method for every stage, in either mode. -/
def methods (first : Nat) : List (String × Member) :=
  [("entry", .method first), ("execute", .method (first + 1)), ("exit", .method (first + 2)),
    ("try_entry", .method first), ("try_execute", .method (first + 1)),
    ("try_exit", .method (first + 2))]

def off : Class := Class.object.extend ⟨100, "Off", "Off", methods 0⟩
def on : Class := Class.object.extend ⟨101, "On", "On", methods 3⟩
def broken : Class :=
  Class.object.extend ⟨102, "Broken", "Broken", ("consume_error", .method 9) :: methods 6⟩
def fault : Class := Class.exception.plain 103 "Fault"

/-- The conversion into the error state. -/
def breaking : Callback := .routine 13

def bindings : Bindings :=
  { Bindings.empty [("Off", .cls off), ("On", .cls on), ("Broken", .cls broken),
      ("Fault", .cls fault)] with
    guards := [(((state "Off").tag, (state "On").tag), .routine 10)]
    conversions := [(((state "Off").tag, (state "On").tag), .routine 11)]
    actions := [(((state "Off").tag, (state "On").tag), .routine 12)]
    arrivals := [((state "Broken").tag, breaking)] }

def switch : Transition :=
  ⟨state "Off", state "On", .routine 10, .routine 11, some (.routine 12)⟩

def offBlock : Block := ⟨⟨state "Off", [state "On"]⟩, off, ⟨true, true, true⟩, [switch]⟩
def onBlock : Block := ⟨⟨state "On", []⟩, on, ⟨true, true, true⟩, []⟩
def brokenBlock : Block := ⟨⟨state "Broken", []⟩, broken, ⟨true, true, true⟩, []⟩

def machine (failure : Option FailurePolicy) : Machine :=
  ⟨"Lamp", offBlock.state, [offBlock.state, onBlock.state, brokenBlock.state],
    [⟨state "Off", state "On", span⟩], failure⟩

def table (failure : Option FailurePolicy) (route : Option FailureRoute) : Table :=
  ⟨machine failure, ⟨false, false, false⟩, [offBlock, onBlock, brokenBlock], route, true⟩

/-- The lamp that takes no notice of faults. -/
def plain : Table := table none none

def route : FailureRoute :=
  ⟨fault, brokenBlock, [(offBlock.tag, breaking), (onBlock.tag, breaking)]⟩

/-- The lamp that is broken by faults. -/
def fallible : Table := table (some ⟨state "Fault", brokenBlock.state⟩) (some route)

theorem plain_compiled : plain.Compiled :=
  ⟨decl none, plain.machine, bindings, plain.flags, true, rfl, rfl⟩

theorem fallible_compiled : fallible.Compiled :=
  ⟨decl (some ⟨state "Fault", state "Broken"⟩), fallible.machine, bindings, fallible.flags, true,
    rfl, rfl⟩

end Lamp

end MachineSpec
