/-
MachineSpec.Proofs.Activation — the order of the hooks of a plain machine.

An activation consists of the calls that a machine makes on one object in one state: the
entry hook; any number of execute hooks, each followed by guards; the exit hook and the
actions of the transitions of the state. `Table.history_splits_into_activations` proves that
the calls in every history of a plain machine are a sequence of activations.

An exception may cut an activation short. The machine is then halted, and only a reset, or a
stop that finds no data, allows the next activation. Both leave the sign `cleared`. The
calls between two such signs form a span, in which every activation but the last is
complete.

The induction is on the history. Its invariant is an assertion on the course of the current
span, in one of three forms: all activations are complete (`Settled`); the last one is open
and the machine holds its object (`Living`); the span is in order (`Orderly`), which is all
that a failure leaves.
-/
import MachineSpec.Proofs.History

namespace MachineSpec

/-! ## 1. Activations -/

/-- One execution of data, with the guards that were asked afterwards. -/
structure Round where
  executed : Answer
  guards : List (Transition × Answer)

/-- The exit of data, with the actions that were run afterwards. -/
structure Departure where
  exited : Answer
  actions : List (Transition × Answer)

/-- The time that a machine spends with one object in one state, with every answer that it got. -/
structure Activation where
  block : Block
  data : Value
  entered : Answer
  rounds : List Round
  departure : Option Departure

/-- A call upon data of a block at a stage. -/
def Block.hook (block : Block) (stage : Stage) (data : Value) : Request :=
  .hook stage block.tag (block.hooks.at stage) data

/-- The calls of a round. -/
def Round.calls (block : Block) (data : Value) (round : Round) : Course :=
  (block.hook .execute data, round.executed) ::
    round.guards.map fun (transition, answer) => (.guard transition data, answer)

/-- The calls of a departure. -/
def Departure.calls (block : Block) (data : Value) (departure : Departure) : Course :=
  (block.hook .exit data, departure.exited) ::
    departure.actions.map fun (transition, answer) => (.action transition data, answer)

namespace Activation

/-- The calls of an activation: the entry, the rounds, the departure. -/
def calls (activation : Activation) : Course :=
  (activation.block.hook .entry activation.data, activation.entered) ::
    (activation.rounds.flatMap (Round.calls activation.block activation.data) ++
      activation.departure.toList.flatMap (Departure.calls activation.block activation.data))

/-- The activation is one of a declared state. Guards and actions are those of the transitions that
    leave it, each once at most, in declared order and without a gap. -/
structure Proper (table : Table) (activation : Activation) : Prop where
  block : activation.block ∈ table.blocks
  state : activation.block.state ∈ table.machine.states
  transitions : activation.block.transitions.map Transition.destination =
    (table.machine.edges.filter (·.source.tag == activation.block.tag)).map Edge.destination
  sources : ∀ transition ∈ activation.block.transitions,
    transition.source.tag = activation.block.tag
  once : (activation.block.transitions.map fun transition => transition.destination.tag).Nodup
  guards : ∀ round ∈ activation.rounds,
    round.guards.map Prod.fst <+: activation.block.transitions
  actions : ∀ departure ∈ activation.departure,
    departure.actions.map Prod.fst <+: activation.block.transitions

/-- The exit and the actions of all transitions have returned normally. -/
def Complete (activation : Activation) : Prop :=
  ∃ departure, activation.departure = some departure ∧
    (∃ value, departure.exited = .ok value) ∧
    departure.actions.map Prod.fst = activation.block.transitions ∧
    ∀ action ∈ departure.actions, ∃ value, action.2 = .ok value

end Activation

/-- Activations one after the other: none begins before the one before it is complete. -/
structure Table.Span (table : Table) (span : List Activation) : Prop where
  proper : ∀ activation ∈ span, activation.Proper table
  complete : ∀ activation ∈ span.dropLast, activation.Complete

/-! ## 2. The record of a history -/

/-- Whether a request is for data in the course of an activation. -/
def Request.vital : Request → Bool
  | .hook .. | .guard .. | .action .. => true
  | _ => false

/-- What is recorded of a history: the calls upon data, and the times at which data was dropped. -/
inductive Sign where
  | asked (request : Request) (answer : Answer)
  | cleared

/-- The calls of a course upon data. -/
def Course.vital (course : Course) : Course := course.filter (·.1.vital)

/-- The calls as they are recorded. -/
def Course.signs (course : Course) : List Sign := course.map fun (request, answer) => .asked request answer

/-- Whether a call drops what the machine holds: a reset, or a stop that finds nothing. -/
def Call.clears (call : Call) (outcome : Except Failure Reply) : Bool :=
  match call, outcome with
  | .reset, _ => true
  | .stop, .error (.error (.empty _)) => true
  | _, _ => false

/-- What is recorded of an event. -/
def Event.signs (event : Event) : List Sign :=
  (Course.signs (Course.vital event.course)) ++
    if event.call.clears event.outcome then [.cleared] else []

namespace Course

@[simp] theorem vital_append (first second : Course) :
    vital (first ++ second) = vital first ++ vital second :=
  List.filter_append ..

theorem vital_of_carries {course : Course} (h : ∀ asked ∈ course, asked.1.Carries) :
    vital course = [] := by
  refine List.filter_eq_nil_iff.mpr fun asked hasked => ?_
  have carries := h asked hasked
  cases hrequest : asked.1 <;> simp_all [Request.Carries, Request.vital]

end Course

/-! ## 3. How far an activation is -/

namespace Activation

/-- The activation with one more round. -/
def executing (activation : Activation) (executed : Answer) (guards : List (Transition × Answer)) :
    Activation :=
  { activation with rounds := activation.rounds ++ [⟨executed, guards⟩] }

/-- The activation with its departure. -/
def leaving (activation : Activation) (exited : Answer) (actions : List (Transition × Answer)) :
    Activation :=
  { activation with departure := some ⟨exited, actions⟩ }

variable {activation : Activation} {answer last : Answer} {transition : Transition}
  {past : List (Transition × Answer)}

theorem calls_execute (h : activation.departure = none) :
    (activation.executing answer []).calls =
      activation.calls ++ [(activation.block.hook .execute activation.data, answer)] := by
  simp [calls, executing, Round.calls, h]

theorem calls_ask (h : activation.departure = none) :
    (activation.executing answer (past ++ [(transition, last)])).calls =
      (activation.executing answer past).calls ++ [(.guard transition activation.data, last)] := by
  simp [calls, executing, Round.calls, h]

theorem calls_exit (h : activation.departure = none) :
    (activation.leaving answer []).calls =
      activation.calls ++ [(activation.block.hook .exit activation.data, answer)] := by
  simp [calls, leaving, Departure.calls, h]

theorem calls_act :
    (activation.leaving answer (past ++ [(transition, last)])).calls =
      (activation.leaving answer past).calls ++ [(.action transition activation.data, last)] := by
  simp [calls, leaving, Departure.calls]

variable {table : Table}

theorem Proper.executing (h : activation.Proper table)
    (asked : past.map Prod.fst <+: activation.block.transitions) :
    (activation.executing answer past).Proper table := by
  refine ⟨h.block, h.state, h.transitions, h.sources, h.once, fun round hround => ?_, h.actions⟩
  rcases List.mem_append.mp hround with hround | hround
  · exact h.guards round hround
  · rw [List.mem_singleton.mp hround]
    exact asked

theorem Proper.of_executing (h : (activation.executing answer past).Proper table) :
    activation.Proper table :=
  ⟨h.block, h.state, h.transitions, h.sources, h.once,
    fun round hround => h.guards round (List.mem_append_left _ hround), h.actions⟩

theorem Proper.leaving (h : activation.Proper table)
    (run : past.map Prod.fst <+: activation.block.transitions) :
    (activation.leaving answer past).Proper table := by
  refine ⟨h.block, h.state, h.transitions, h.sources, h.once, h.guards, ?_⟩
  rintro departure ⟨⟩
  exact run

end Activation

namespace Table

open Operation Dialogue

variable {table : Table} {block : Block} {data : Value} {calls : Course} {request : Request}
  {answer : Answer}

/-- The calls are those of activations in order. -/
def Orderly (table : Table) (calls : Course) : Prop :=
  ∃ span, calls = span.flatMap Activation.calls ∧ table.Span span

/-- The calls are those of activations that are all complete. -/
def Settled (table : Table) (calls : Course) : Prop :=
  ∃ span : List Activation, calls = span.flatMap Activation.calls ∧
    (∀ activation ∈ span, activation.Proper table) ∧ ∀ activation ∈ span, activation.Complete

/-- The calls end with those of the activation, and those before it are complete. -/
def Reaches (table : Table) (activation : Activation) (calls : Course) : Prop :=
  activation.Proper table ∧ ∃ before, calls = before ++ activation.calls ∧ table.Settled before

/-- An object was entered and did not exit yet. -/
def Living (table : Table) (block : Block) (data : Value) (calls : Course) : Prop :=
  ∃ activation, table.Reaches activation calls ∧ activation.block = block ∧
    activation.data = data ∧ activation.departure = none

theorem Settled.orderly (h : table.Settled calls) : table.Orderly calls := by
  obtain ⟨span, same, proper, complete⟩ := h
  exact ⟨span, same, proper, fun activation ha => complete activation (List.dropLast_subset span ha)⟩

theorem Reaches.orderly {activation : Activation} (h : table.Reaches activation calls) :
    table.Orderly calls := by
  obtain ⟨proper, before, rfl, span, rfl, proper', complete⟩ := h
  have properAll : ∀ other ∈ span ++ [activation], other.Proper table :=
    List.forall_mem_append.mpr ⟨proper', by simpa using proper⟩
  exact ⟨span ++ [activation], by simp, properAll, by simpa using complete⟩

/-- The last activation is complete, too. -/
theorem Reaches.settled {activation : Activation} (h : table.Reaches activation calls)
    (complete : activation.Complete) : table.Settled calls := by
  obtain ⟨proper, before, rfl, span, rfl, proper', complete'⟩ := h
  exact ⟨span ++ [activation], by simp,
    List.forall_mem_append.mpr ⟨proper', by simpa using proper⟩,
    List.forall_mem_append.mpr ⟨complete', by simpa using complete⟩⟩

/-- The last activation is extended by one call. -/
theorem Reaches.extend {activation extended : Activation} (h : table.Reaches activation calls)
    (proper : extended.Proper table) (same : extended.calls = activation.calls ++ [(request, answer)]) :
    table.Reaches extended (calls ++ [(request, answer)]) := by
  obtain ⟨_, before, rfl, settled⟩ := h
  exact ⟨proper, before, by rw [same, List.append_assoc], settled⟩

theorem Living.orderly (h : table.Living block data calls) : table.Orderly calls := by
  obtain ⟨activation, reaches, _⟩ := h
  exact reaches.orderly

/-- Guards were asked after an execution, and these are the transitions whose guards were not. -/
def Asking (table : Table) (block : Block) (data : Value) (remaining : List Transition)
    (calls : Course) : Prop :=
  ∃ (activation : Activation) (executed : Answer) (asked : List (Transition × Answer)),
    table.Reaches (activation.executing executed asked) calls ∧
    activation.block = block ∧ activation.data = data ∧ activation.departure = none ∧
    asked.map Prod.fst ++ remaining = block.transitions

/-- The object exited and actions were run, all with a result, and these are the transitions whose
    actions were not. -/
def Departing (table : Table) (block : Block) (data : Value) (remaining : List Transition)
    (calls : Course) : Prop :=
  ∃ (activation : Activation) (exited : Value) (run : List (Transition × Answer)),
    table.Reaches (activation.leaving (.ok exited) run) calls ∧
    activation.block = block ∧ activation.data = data ∧
    run.map Prod.fst ++ remaining = block.transitions ∧
    ∀ action ∈ run, ∃ value, action.2 = .ok value

/-! ## 4. Assertions along operations -/

/-- An assertion on the calls upon data only. -/
def Tells (holds : Course → Prop) : Assertion := fun past _ => holds (Course.vital past)

/-- What a failure leaves behind. It is not the failure of an operation that finds no data. -/
def Struck (table : Table) (failure : Failure) : Assertion := fun past _ =>
  table.Orderly (Course.vital past) ∧ ∀ machine, failure ≠ .error (.empty machine)

variable {holds holds' : Course → Prop}

/-- A call upon data brings the activation forward if it returns, and is in order in any case. -/
theorem demand_vital (vital : request.vital = true)
    (orderly : ∀ calls answer, holds calls → table.Orderly (calls ++ [(request, answer)]))
    (forward : ∀ calls value, holds calls → holds' (calls ++ [(request, .ok value)])) :
    (demand request).Triple (Tells holds) (fun _ => Tells holds') table.Struck := by
  have step (past : Course) (answer : Answer) : Course.vital (past ++ [(request, answer)]) =
      Course.vital past ++ [(request, answer)] := by
    simp [Course.vital, vital]
  refine Triple.demand (fun past slot value told => ?_) (fun past slot exception told => ?_)
  · rw [Tells, step]
    exact forward _ value told
  · rw [Struck, step]
    exact ⟨orderly _ _ told, nofun⟩

/-- Other requests make no difference. -/
theorem demand_other (other : request.vital = false)
    (orderly : ∀ calls, holds calls → table.Orderly calls) :
    (demand request).Triple (Tells holds) (fun _ => Tells holds) table.Struck := by
  have step (past : Course) (answer : Answer) : Course.vital (past ++ [(request, answer)]) =
      Course.vital past := by
    simp [Course.vital, other]
  refine Triple.demand (fun past slot value told => ?_) (fun past slot exception told => ?_)
  · rwa [Tells, step]
  · rw [Struck, step]
    exact ⟨orderly _ told, nofun⟩

theorem report_tells {enabled : Bool} {line : String}
    (orderly : ∀ calls, holds calls → table.Orderly calls) :
    (do let _ ← demand (.report enabled line) : Operation Unit).Triple (Tells holds)
      (fun _ => Tells holds) table.Struck :=
  Triple.bind (demand_other rfl orderly) fun _ => .pure fun _ _ told => told

section

variable (plain : table.failure = none)
include plain

/-- In a plain machine a call upon data goes through or fails. -/
theorem call_tells {owner : Block} (vital : request.vital = true)
    (orderly : ∀ calls answer, holds calls → table.Orderly (calls ++ [(request, answer)]))
    (forward : ∀ calls value, holds calls → holds' (calls ++ [(request, .ok value)])) :
    (table.call owner data request).Triple (Tells holds)
      (fun result past slot => Tells holds' past slot ∧ result = none) table.Struck := by
  unfold call
  rw [plain]
  exact Triple.bind (demand_vital vital orderly forward) fun _ =>
    Triple.pure fun _ _ told => ⟨told, rfl⟩

variable (sound : table.Sound) (hmem : block ∈ table.blocks)
include sound hmem

omit plain in
theorem Settled.enters (settled : table.Settled calls) :
    table.Reaches ⟨block, data, answer, [], none⟩
      (calls ++ [(block.hook .entry data, answer)]) :=
  ⟨⟨hmem, sound.state_mem hmem, sound.destinations_eq hmem,
      fun _ ht => sound.source_tag hmem ht, sound.once hmem, by simp, by simp⟩,
    calls, by simp [Activation.calls], settled⟩

theorem enter_tells {reported : Bool} :
    (table.enter block data reported).Triple (Tells table.Settled)
      (fun entry past slot => Tells (table.Living block data) past slot ∧ entry = ⟨block.tag, data⟩)
      table.Struck := by
  have entered : (table.callHook block .entry data).Triple (Tells table.Settled)
      (fun result past slot => Tells (table.Living block data) past slot ∧ result = none)
      table.Struck :=
    call_tells plain rfl (fun _ _ settled => (settled.enters sound hmem).orderly)
      fun _ _ settled => ⟨_, settled.enters sound hmem, rfl, rfl, rfl⟩
  refine Triple.bind entered fun result => .given ?_
  rintro rfl
  dsimp only
  have returns : (Pure.pure ⟨block.tag, data⟩ : Operation Entry).Triple
      (Tells (table.Living block data))
      (fun entry past slot => Tells (table.Living block data) past slot ∧ entry = ⟨block.tag, data⟩)
      table.Struck :=
    Triple.pure fun _ _ told => ⟨told, rfl⟩
  split
  · exact Triple.bind (report_tells fun _ living => living.orderly) fun _ => returns
  · exact returns

omit hmem plain sound in
/-- The exit is the end of the rounds. -/
theorem Living.exits (living : table.Living block data calls) (answer : Answer) :
    ∃ activation : Activation,
      table.Reaches (activation.leaving answer []) (calls ++ [(block.hook .exit data, answer)]) ∧
      activation.block = block ∧ activation.data = data := by
  obtain ⟨activation, reaches, rfl, rfl, inside⟩ := living
  exact ⟨activation, reaches.extend (reaches.1.leaving (by simp)) (Activation.calls_exit inside),
    rfl, rfl⟩

omit hmem plain sound in
/-- The next action is run. -/
theorem Departing.runs {transition : Transition} {rest : List Transition}
    (departing : table.Departing block data (transition :: rest) calls) (answer : Answer) :
    ∃ (activation : Activation) (exited : Value) (run : List (Transition × Answer)),
      table.Reaches (activation.leaving (.ok exited) (run ++ [(transition, answer)]))
        (calls ++ [(.action transition data, answer)]) ∧
      activation.block = block ∧ activation.data = data ∧
      (run ++ [(transition, answer)]).map Prod.fst ++ rest = block.transitions ∧
      ∀ action ∈ run, ∃ value, action.2 = .ok value := by
  obtain ⟨activation, exited, run, reaches, rfl, rfl, whole, returned⟩ := departing
  have whole' : (run ++ [(transition, answer)]).map Prod.fst ++ rest = activation.block.transitions := by
    simpa using whole
  refine ⟨activation, exited, run, ?_, rfl, rfl, whole', returned⟩
  exact reaches.extend (reaches.1.leaving ⟨rest, whole'⟩) Activation.calls_act

omit hmem sound in
theorem runActions_tells {transitions : List Transition} :
    (table.runActions block data transitions).Triple (Tells (table.Departing block data transitions))
      (fun result past slot => Tells table.Settled past slot ∧ result = none) table.Struck := by
  induction transitions with
  | nil =>
    refine Triple.pure fun past slot departing => ⟨?_, rfl⟩
    obtain ⟨activation, exited, run, reaches, rfl, rfl, whole, returned⟩ := departing
    exact reaches.settled ⟨⟨.ok exited, run⟩, rfl, ⟨exited, rfl⟩,
      by simpa [Activation.leaving] using whole, returned⟩
  | cons transition rest ih =>
    have ran : (table.call block data (.action transition data)).Triple
        (Tells (table.Departing block data (transition :: rest)))
        (fun result past slot => Tells (table.Departing block data rest) past slot ∧ result = none)
        table.Struck := by
      refine call_tells plain rfl (fun _ answer departing => ?_) fun _ value departing => ?_
      · obtain ⟨_, _, _, reaches, _⟩ := departing.runs answer
        exact reaches.orderly
      · obtain ⟨activation, exited, run, reaches, rfl, rfl, whole, returned⟩ :=
          departing.runs (.ok value)
        exact ⟨activation, exited, _, reaches, rfl, rfl, whole,
          List.forall_mem_append.mpr ⟨returned, by simp⟩⟩
    refine Triple.bind ran fun result => .given ?_
    rintro rfl
    exact ih

omit hmem sound in
theorem leave_tells :
    (table.leave block data).Triple (Tells (table.Living block data))
      (fun result past slot => Tells table.Settled past slot ∧ result = none) table.Struck := by
  have exited : (table.callHook block .exit data).Triple (Tells (table.Living block data))
      (fun result past slot => Tells (table.Departing block data block.transitions) past slot ∧
        result = none) table.Struck := by
    refine call_tells plain rfl (fun _ answer living => ?_) fun _ value living => ?_
    · obtain ⟨_, reaches, _⟩ := living.exits answer
      exact reaches.orderly
    · obtain ⟨activation, reaches, rfl, rfl⟩ := living.exits (.ok value)
      exact ⟨activation, value, [], reaches, rfl, rfl, by simp, by simp⟩
  refine Triple.bind exited fun result => .given ?_
  rintro rfl
  exact runActions_tells plain

omit hmem sound in
theorem retire_tells :
    (table.retire block data).Triple (Tells (table.Living block data)) (fun _ => Tells table.Settled)
      table.Struck := by
  refine Triple.bind (leave_tells plain) fun result => .given ?_
  rintro rfl
  exact Triple.bind (report_tells fun _ settled => settled.orderly) fun _ => .pure fun _ _ h => h

theorem take_tells {transition : Transition} (ht : transition ∈ block.transitions) :
    (table.take block transition data).Triple (Tells (table.Living block data))
      (fun entry past slot => ∃ target, table.block? entry.tag = some target ∧
        Tells (table.Living target entry.data) past slot) table.Struck := by
  obtain ⟨target, htarget⟩ := sound.block?_of_transition hmem ht
  refine Triple.bind (leave_tells plain) fun result => .given ?_
  rintro rfl
  dsimp only
  refine Triple.bind (report_tells fun _ settled => settled.orderly) fun _ => ?_
  refine Triple.bind (report_tells fun _ settled => settled.orderly) fun _ => ?_
  rw [block_found htarget, pure_bind]
  refine Triple.bind (demand_other rfl fun _ settled => settled.orderly) fun converted => ?_
  split
  · exact Triple.refuse fun _ _ settled => ⟨settled.orderly, nofun⟩
  · refine (enter_tells plain sound (mem_of_block? htarget)).mono (fun _ _ settled => settled) ?_
      (fun _ _ _ struck => struck)
    rintro entry past slot ⟨living, rfl⟩
    exact ⟨target, by rwa [tag_of_block? htarget], living⟩

omit hmem plain sound in
/-- The object is executed once more. -/
theorem Living.executes (living : table.Living block data calls) (answer : Answer) :
    table.Asking block data block.transitions
      (calls ++ [(block.hook .execute data, answer)]) := by
  obtain ⟨activation, reaches, rfl, rfl, inside⟩ := living
  exact ⟨activation, answer, [], reaches.extend (reaches.1.executing (by simp))
    (Activation.calls_execute inside), rfl, rfl, inside, by simp⟩

omit hmem plain sound in
/-- The next guard is asked. -/
theorem Asking.asks {transition : Transition} {rest : List Transition}
    (asking : table.Asking block data (transition :: rest) calls) (answer : Answer) :
    table.Asking block data rest (calls ++ [(.guard transition data, answer)]) := by
  obtain ⟨activation, executed, asked, reaches, rfl, rfl, inside, whole⟩ := asking
  have whole' : (asked ++ [(transition, answer)]).map Prod.fst ++ rest =
      activation.block.transitions := by
    simpa using whole
  exact ⟨activation, executed, _, reaches.extend (reaches.1.of_executing.executing ⟨rest, whole'⟩)
    (Activation.calls_ask inside), rfl, rfl, inside, whole'⟩

omit hmem plain sound in
theorem Asking.living {remaining : List Transition}
    (asking : table.Asking block data remaining calls) : table.Living block data calls := by
  obtain ⟨activation, executed, asked, reaches, rfl, rfl, inside, _⟩ := asking
  exact ⟨_, reaches, rfl, rfl, inside⟩

omit hmem plain sound in
theorem choose_tells {transitions : List Transition} (subset : transitions ⊆ block.transitions) :
    (choose data transitions).Triple (Tells (table.Asking block data transitions))
      (fun chosen past slot => Tells (table.Living block data) past slot ∧
        ∀ transition ∈ chosen, transition ∈ block.transitions) table.Struck := by
  induction transitions with
  | nil => exact Triple.pure fun _ _ asking => ⟨asking.living, by simp⟩
  | cons transition rest ih =>
    have asked : (demand (.guard transition data)).Triple
        (Tells (table.Asking block data (transition :: rest)))
        (fun _ => Tells (table.Asking block data rest)) table.Struck :=
      demand_vital rfl (fun _ answer asking => (asking.asks answer).living.orderly)
        fun _ value asking => asking.asks (.ok value)
    refine Triple.bind asked fun answer => ?_
    generalize hverdict : Guard.coerce answer = verdict
    match verdict with
    | .error error =>
      rw [Guard.coerce_error hverdict]
      exact Triple.refuse fun _ _ asking => ⟨asking.living.orderly, nofun⟩
    | .ok .transit =>
      have chosen := subset (List.mem_cons_self (l := rest) (a := transition))
      exact Triple.pure fun _ _ asking => ⟨asking.living, by simpa using chosen⟩
    | .ok .remain => exact ih fun _ h => subset (List.mem_cons_of_mem _ h)

omit hmem in
theorem run_tells (known : table.block? block.tag = some block) :
    (table.run block data).Triple (Tells (table.Living block data))
      (fun entry past slot => ∃ target, table.block? entry.tag = some target ∧
        Tells (table.Living target entry.data) past slot) table.Struck := by
  refine Triple.bind (report_tells fun _ living => living.orderly) fun _ => ?_
  have executed : (table.callHook block .execute data).Triple (Tells (table.Living block data))
      (fun result past slot => Tells (table.Asking block data block.transitions) past slot ∧
        result = none) table.Struck :=
    call_tells plain rfl (fun _ answer living => (living.executes answer).living.orderly)
      fun _ value living => living.executes (.ok value)
  refine Triple.bind executed fun result => .given ?_
  rintro rfl
  refine Triple.bind (choose_tells (List.Subset.refl _)) fun chosen => .given fun hchosen => ?_
  cases chosen with
  | some transition => exact take_tells plain sound (mem_of_block? known) (hchosen transition rfl)
  | none => exact Triple.pure fun _ _ living => ⟨block, known, living⟩

end

/-! ## 5. Calls upon the machine -/

/-- How far the last activation of a span is, by what is in the slot. -/
structure Tally (table : Table) (slot : Slot) (calls : Course) : Prop where
  orderly : table.Orderly calls
  /-- A machine that does not run, or that has not entered its object yet, is between two. -/
  settled : slot.running = false ∨ slot.pending = true → table.Settled calls
  /-- A machine that holds an object is in an activation. -/
  living : slot.running = true → slot.pending = false → slot.data.isNull = false →
    ∃ block, table.block? slot.tag = some block ∧ table.Living block slot.data calls

variable {given : Value} {channels : Option Channels} {slot final : Slot} {course past : Course}

theorem tally_fresh (settled : table.Settled calls) : table.Tally (.fresh table) calls :=
  ⟨settled.orderly, fun _ => settled, nofun⟩

theorem tally_holding {entry : Entry} (known : table.block? entry.tag = some block)
    (living : table.Living block entry.data calls) : table.Tally (.holding entry) calls :=
  ⟨living.orderly, by simp [Slot.holding], fun _ _ _ => ⟨block, known, living⟩⟩

theorem tally_halted {tag : String} (orderly : table.Orderly calls) :
    table.Tally (.halted tag) calls :=
  ⟨orderly, by simp [Slot.halted], by simp [Slot.halted, Value.isNull]⟩

theorem Tally.alive {entry : Entry} (tally : table.Tally (.holding entry) calls)
    (known : table.block? entry.tag = some block) (full : entry.data.isNull = false) :
    table.Living block entry.data calls := by
  obtain ⟨other, hother, living⟩ := tally.living rfl rfl full
  cases known.symm.trans hother
  exact living

theorem clears_eq_false {call : Call} (makesUp : call.Enters) {failure : Failure}
    (other : ∀ machine, failure ≠ .error (.empty machine)) :
    call.clears (.error failure) = false := by
  cases makesUp with
  | stop =>
    unfold Call.clears
    split
    · rename_i same
      cases same
    · rename_i same
      cases same
      exact absurd rfl (other _)
    · rfl
  | _ => rfl

@[simp] theorem vital_startLine {answer : Answer} :
    Course.vital [(table.startLine, answer)] = [] := rfl

@[simp] theorem vital_stopLine {answer : Answer} :
    Course.vital ((table.stopLine, answer) :: course) = Course.vital course := rfl

/-- A passage carries the span on, or clears the machine and leaves the span in order. -/
theorem Passage.tally (plain : table.failure = none) (sound : table.Sound) {call : Call}
    {outcome : Except Failure Reply}
    (passage : table.Passage channels given slot call course outcome final)
    (before : table.Tally slot (Course.vital past)) :
    if call.clears outcome then
      final = .fresh table ∧ table.Orderly (Course.vital (past ++ course))
    else table.Tally final (Course.vital (past ++ course)) := by
  induction passage generalizing past with
  | refused why =>
    rw [List.append_nil]
    cases why with
    | stopFresh => exact ⟨rfl, before.orderly⟩
    | _ => exact before
  | quiet looks carries =>
    rw [Course.vital_append, Course.vital_of_carries carries, List.append_nil]
    cases looks <;> exact before
  | reset | stopHalted =>
    rw [List.append_nil]
    exact ⟨rfl, before.orderly⟩
  | startFailed initial enters =>
    have struck := enter_tells plain sound (mem_of_block? initial) (before.settled (.inl rfl)) enters
    exact tally_halted struck.1
  | started answer initial enters =>
    obtain ⟨living, rfl⟩ :=
      enter_tells plain sound (mem_of_block? initial) (before.settled (.inl rfl)) enters
    rw [← List.append_assoc, Course.vital_append, vital_startLine, List.append_nil]
    exact tally_holding (by rwa [tag_of_block? initial]) living
  | @stepped _ _ _ result known full runs =>
    have told := run_tells plain sound (by rwa [tag_of_block? known]) (before.alive known full) runs
    cases result with
    | ok entry =>
      obtain ⟨target, htarget, living⟩ := told
      exact tally_holding htarget living
    | error failure => exact tally_halted told.1
  | stopUnreported exception =>
    rw [Course.vital_append, vital_stopLine, ← Course.vital_append, List.append_nil]
    exact tally_halted before.orderly
  | stopFailed value known full retires =>
    have struck := retire_tells plain (before.alive known full) retires
    rw [clears_eq_false .stop struck.2, Course.vital_append, vital_stopLine, ← Course.vital_append]
    exact tally_halted struck.1
  | stopped value known full retires knownLast =>
    have settled := retire_tells plain (before.alive known full) retires
    rw [Course.vital_append, vital_stopLine, ← Course.vital_append]
    exact tally_fresh settled
  | entryFailed makesUp initial enters =>
    have struck := enter_tells plain sound (mem_of_block? initial) (before.settled (.inr rfl)) enters
    rw [clears_eq_false makesUp struck.2]
    exact tally_halted struck.1
  | stepRedirected initial enters =>
    obtain ⟨living, rfl⟩ :=
      enter_tells plain sound (mem_of_block? initial) (before.settled (.inr rfl)) enters
    exact tally_holding (by rwa [tag_of_block? initial]) living
  | resumed makesUp initial enters here goes rest ih =>
    obtain ⟨living, rfl⟩ :=
      enter_tells plain sound (mem_of_block? initial) (before.settled (.inr rfl)) enters
    rw [← List.append_assoc]
    exact ih (tally_holding (by rwa [tag_of_block? initial]) living)

/-! ## 6. Histories -/

/-- What was recorded before the present span, and the course of the present span. -/
theorem History.tally (plain : table.failure = none) (sound : table.Sound) {initial : Slot}
    {events : List Event} (created : table.create given = .ok initial)
    (history : table.History initial events slot) :
    ∃ (spans : List (List Activation)) (course : Course),
      events.flatMap Event.signs =
        spans.flatMap (fun span => Course.signs (span.flatMap Activation.calls) ++ [.cleared]) ++
          Course.signs (Course.vital course) ∧
      (∀ span ∈ spans, table.Span span) ∧ table.Tally slot (Course.vital course) := by
  induction history with
  | nil =>
    have settled : table.Settled (Course.vital []) := ⟨[], rfl, by simp, by simp⟩
    refine ⟨[], [], rfl, by simp, ?_⟩
    rcases create_cases created with rfl | ⟨rfl, -⟩
    · exact tally_fresh settled
    · exact ⟨settled.orderly, fun _ => settled, nofun⟩
  | @snoc events event slot final before occurs ih =>
    obtain ⟨spans, course, same, inOrder, tally⟩ := ih
    have passage := passage sound (before.condition sound created) occurs
    have carried := passage.tally plain sound tally
    have recorded : (events ++ [event]).flatMap Event.signs =
        spans.flatMap (fun span => Course.signs (span.flatMap Activation.calls) ++ [.cleared]) ++
          Course.signs (Course.vital (course ++ event.course)) ++
          if event.call.clears event.outcome then [.cleared] else [] := by
      simp [same, Event.signs, Course.signs]
    rw [recorded]
    split at carried
    · -- the span ends here, whatever became of its last activation
      rename_i clears
      obtain ⟨rfl, span, hspan, orderly⟩ := carried
      have settled : table.Settled (Course.vital []) := ⟨[], rfl, by simp, by simp⟩
      refine ⟨spans ++ [span], [], ?_, ?_, tally_fresh settled⟩
      · rw [if_pos clears, hspan]
        simp [Course.signs, Course.vital]
      · exact List.forall_mem_append.mpr ⟨inOrder, by simpa using orderly⟩
    · rename_i goes
      exact ⟨spans, course ++ event.course, by simp [goes], inOrder, carried⟩

/-- In every history of a plain machine, with arbitrary answers of the callbacks, the calls on data
    are a sequence of activations. Only the last one before each `cleared` sign, and the last of
    all, may be incomplete. -/
theorem history_splits_into_activations (compiled : table.Compiled)
    (plain : table.machine.fallible = false)
    {initial : Slot} {events : List Event} (created : table.create given = .ok initial)
    (history : table.History initial events slot) :
    ∃ (past : List (List Activation)) (present : List Activation),
      events.flatMap Event.signs =
        past.flatMap (fun span => Course.signs (span.flatMap Activation.calls) ++ [.cleared]) ++
          Course.signs (present.flatMap Activation.calls) ∧
      ∀ span ∈ past ++ [present], table.Span span := by
  have sound := compiled.sound
  have undisturbed : table.failure = none :=
    sound.plain.mpr (by simpa [Machine.fallible] using plain)
  obtain ⟨past, course, recorded, inOrder, tally⟩ := history.tally undisturbed sound created
  obtain ⟨present, same, span⟩ := tally.orderly
  refine ⟨past, present, by rw [recorded, same], ?_⟩
  exact List.forall_mem_append.mpr ⟨inOrder, by simpa using span⟩

/-- A step from `Off` to `On` and a stop make two complete activations. -/
theorem history_splits_into_activations_lamp :
    ∃ (past : List (List Activation)) (present : List Activation),
      [Sign.asked (.hook .entry Lamp.offBlock.tag true (.object 0 Lamp.off)) (.ok .null),
       .asked (.hook .execute Lamp.offBlock.tag true (.object 0 Lamp.off)) (.ok .null),
       .asked (.guard Lamp.switch (.object 0 Lamp.off)) (.ok (.bool true)),
       .asked (.hook .exit Lamp.offBlock.tag true (.object 0 Lamp.off)) (.ok .null),
       .asked (.action Lamp.switch (.object 0 Lamp.off)) (.ok .null),
       .asked (.hook .entry Lamp.onBlock.tag true (.object 1 Lamp.on)) (.ok .null),
       .asked (.hook .exit Lamp.onBlock.tag true (.object 1 Lamp.on)) (.ok .null)] =
        past.flatMap (fun span => Course.signs (span.flatMap Activation.calls) ++ [.cleared]) ++
          Course.signs (present.flatMap Activation.calls) ∧
      ∀ span ∈ past ++ [present], Lamp.plain.Span span := by
  have created : Lamp.plain.create (.object 0 Lamp.off) =
      .ok (.seeded Lamp.plain (.object 0 Lamp.off)) := rfl
  have steps : Event.Occurs ⟨.step, none,
      [(.hook .entry Lamp.offBlock.tag true (.object 0 Lamp.off), .ok .null),
       (.report false (traceLine "Lamp" "Enter" "Off"), .ok .null),
       (.report false (traceLine "Lamp" "Execute" "Off"), .ok .null),
       (.hook .execute Lamp.offBlock.tag true (.object 0 Lamp.off), .ok .null),
       (.guard Lamp.switch (.object 0 Lamp.off), .ok (.bool true)),
       (.hook .exit Lamp.offBlock.tag true (.object 0 Lamp.off), .ok .null),
       (.action Lamp.switch (.object 0 Lamp.off), .ok .null),
       (.report false (traceLine "Lamp" "Exit" "Off"), .ok .null),
       (.report false (traceLine "Lamp" "Transit" "From Off to On"), .ok .null),
       (.convert Lamp.switch (.object 0 Lamp.off), .ok (.object 1 Lamp.on)),
       (.hook .entry Lamp.onBlock.tag true (.object 1 Lamp.on), .ok .null),
       (.report false (traceLine "Lamp" "Enter" "On"), .ok .null)], .ok .nothing⟩
      Lamp.plain (.seeded Lamp.plain (.object 0 Lamp.off))
      (.holding ⟨Lamp.onBlock.tag, .object 1 Lamp.on⟩) :=
    .ask (.ask (.ask (.ask (.ask (.ask (.ask (.ask (.ask (.ask (.ask (.ask (.done _ _))))))))))))
  have stops : Event.Occurs ⟨.stop, none,
      [(.report false (traceLine "Lamp" "Stop" ""), .ok .null),
       (.hook .exit Lamp.onBlock.tag true (.object 1 Lamp.on), .ok .null),
       (.report false (traceLine "Lamp" "Exit" "On"), .ok .null)],
      .ok (.snapshot ⟨Lamp.onBlock.tag, Lamp.on, .object 1 Lamp.on⟩)⟩
      Lamp.plain (.holding ⟨Lamp.onBlock.tag, .object 1 Lamp.on⟩) (.fresh Lamp.plain) :=
    .ask (.ask (.ask (.done _ _)))
  exact history_splits_into_activations Lamp.plain_compiled rfl created
    (.snoc (.snoc .nil steps) stops)

end Table

end MachineSpec
