/-
MachineSpec.Proofs.Summons — which hook method is called.

Whether a hook of a state is called at all is decided when the table is generated: the bound
class is asked once for each stage, and every request for a hook carries the answer
(`Founded`), in every run (`Lives.founded`). The method itself is looked up in the data: an
attribute of the object goes before the methods of its class, and those of a subclass before
those of a base class.

`callOwn` is the call that depends on the class of the data alone, and `Called` lists the
cases of what the engine does.

* `Table.hook_called_as_bound_class_decides`: if the bound class has the hook, the nearest
  method of the class of the data is called, unless the data has an attribute of its own
  under the name or its class a constant: `null` is not called, and any other value is
  called and raises if it is not callable. If the bound class lacks the hook, nothing is
  called.
* `Table.hook_of_subclass_not_called`: data with a hook that the bound class lacks.
-/
import MachineSpec.Proofs.Generation
import MachineSpec.Proofs.Regime
import MachineSpec.Scenario.Invocation

namespace MachineSpec

/-! ## 1. What dialogues ask -/

namespace Dialogue

variable {α β : Type} {asks : Request → Prop}

/-- All requests of the dialogue are of this kind, whatever is answered and whatever becomes of the
    slot. -/
def Asks (asks : Request → Prop) : Dialogue α → Prop
  | .done _ _ => True
  | .ask request _ resume => asks request ∧ ∀ answer slot, Asks asks (resume answer slot)

theorem Asks.andThen {dialogue : Dialogue α} {next : α → Operation β} (h : dialogue.Asks asks)
    (hn : ∀ a slot, (next a slot).Asks asks) : (dialogue.andThen next).Asks asks := by
  induction dialogue with
  | done outcome slot =>
    cases outcome with
    | ok a => exact hn a slot
    | error failure => trivial
  | ask request slot resume ih =>
    obtain ⟨here, later⟩ := h
    exact ⟨here, fun answer slot => ih answer slot (later answer slot)⟩

end Dialogue

namespace Operation

variable {α β : Type} {asks : Request → Prop} {operation : Operation α} {next : α → Operation β}
  {request : Request}

/-- All requests of the operation are of this kind. -/
def Asks (asks : Request → Prop) (operation : Operation α) : Prop :=
  ∀ slot, (operation slot).Asks asks

namespace Asks

theorem pure {a : α} : (Pure.pure a : Operation α).Asks asks := fun _ => trivial

theorem fail {failure : Failure} : (Operation.fail failure : Operation α).Asks asks :=
  fun _ => trivial

theorem refuse {error : Error} : (Operation.refuse error : Operation α).Asks asks := fail

theorem ofExcept {result : Except Error α} : (Operation.ofExcept result).Asks asks := by
  cases result with
  | ok a => exact pure
  | error error => exact refuse

theorem bind (h : operation.Asks asks) (hn : ∀ a, (next a).Asks asks) :
    (operation >>= next).Asks asks :=
  fun slot => (h slot).andThen hn

theorem map {f : α → β} (h : operation.Asks asks) : (f <$> operation).Asks asks :=
  h.bind fun _ => pure

theorem look : Operation.slot.Asks asks := fun _ => trivial

theorem change {f : Slot → Slot} : (Operation.change f).Asks asks := fun _ => trivial

theorem attempt (here : asks request) : (Operation.attempt request).Asks asks :=
  fun _ => ⟨here, fun _ _ => trivial⟩

theorem demand (here : asks request) : (Operation.demand request).Asks asks :=
  (attempt here).bind fun answer => by
    cases answer with
    | ok value => exact pure
    | error exception => exact fail

theorem tell (here : asks request) :
    (do let _ ← Operation.demand request : Operation Unit).Asks asks :=
  (demand here).bind fun _ => pure

end Asks

end Operation

/-! ## 2. Stages and blocks -/

/-- A request for a stage says whether the block of the state has a method for it. -/
def Request.Founded (table : Table) : Request → Prop
  | .hook stage tag present _ =>
    ∃ block, table.block? tag = some block ∧ present = block.hooks.at stage
  | _ => True

namespace Table

open Operation

variable {table : Table} {route : FailureRoute} {request : Request} {block : Block} {data : Value}

/-- The block that is looked up is the one that is found. -/
theorem block_asks {α : Type} {asks : Request → Prop} {tag : String} {next : Block → Operation α}
    (h : ∀ block, table.block? tag = some block → (next block).Asks asks) :
    (table.block tag >>= next).Asks asks := by
  intro slot
  unfold Table.block
  cases found : table.block? tag with
  | some block => exact h block found slot
  | none => trivial

theorem founded_hook (known : table.block? block.tag = some block) {stage : Stage} :
    (Request.hook stage block.tag (block.hooks.at stage) data).Founded table :=
  ⟨block, known, rfl⟩

theorem callErrorState_asks (founded : request.Founded table) :
    (callErrorState route request).Asks (Request.Founded table) :=
  (Asks.attempt founded).bind fun answer => by
    cases answer with
    | ok value => exact .pure
    | error exception =>
      dsimp only
      split
      · exact .refuse
      · exact .fail

section

variable (sound : table.Sound)
include sound

theorem redirect_asks (fallible : table.failure = some route) {exception : Value} :
    (table.redirect route block data exception).Asks (Request.Founded table) := by
  refine (Asks.tell trivial).bind fun _ => ?_
  split
  · exact .refuse
  · refine (Asks.demand trivial).bind fun made => ?_
    dsimp only
    split
    · exact .refuse
    · exact (Asks.demand trivial).bind fun _ =>
        (callErrorState_asks (founded_hook (sound.errorBlock route fallible))).bind fun _ => .pure

theorem call_asks (founded : request.Founded table) :
    (table.call block data request).Asks (Request.Founded table) := by
  unfold Table.call
  split
  · exact (Asks.demand founded).bind fun _ => .pure
  · rename_i route fallible
    split
    · exact (callErrorState_asks founded).bind fun _ => .pure
    · refine (Asks.attempt founded).bind fun answer => ?_
      cases answer with
      | ok value => exact .pure
      | error exception =>
        dsimp only
        split
        · exact (redirect_asks sound fallible).map
        · exact .fail

theorem runActions_asks {transitions : List Transition} :
    (table.runActions block data transitions).Asks (Request.Founded table) := by
  induction transitions with
  | nil => exact .pure
  | cons transition rest ih =>
    have founded : (Request.action transition data).Founded table := trivial
    refine (call_asks sound founded).bind fun result => ?_
    cases result with
    | some entry => exact .pure
    | none => exact ih

variable (known : table.block? block.tag = some block)
include known

theorem enter_asks {reported : Bool} :
    (table.enter block data reported).Asks (Request.Founded table) := by
  refine (call_asks sound (founded_hook known)).bind fun result => ?_
  cases result with
  | some entry => exact .pure
  | none =>
    dsimp only
    split
    · exact (Asks.tell trivial).bind fun _ => .pure
    · exact .pure

theorem leave_asks : (table.leave block data).Asks (Request.Founded table) := by
  refine (call_asks sound (founded_hook known)).bind fun result => ?_
  cases result with
  | some entry => exact .pure
  | none => exact runActions_asks sound

theorem retire_asks : (table.retire block data).Asks (Request.Founded table) := by
  refine (leave_asks sound known).bind fun result => ?_
  cases result with
  | some entry => exact .pure
  | none => exact (Asks.tell trivial).bind fun _ => .pure

theorem take_asks {transition : Transition} :
    (table.take block transition data).Asks (Request.Founded table) := by
  refine (leave_asks sound known).bind fun result => ?_
  cases result with
  | some entry => exact .pure
  | none =>
    refine (Asks.tell trivial).bind fun _ => (Asks.tell trivial).bind fun _ => ?_
    refine block_asks fun target found => (Asks.demand trivial).bind fun converted => ?_
    split
    · exact .refuse
    · exact enter_asks sound (tag_of_block? found ▸ found)

omit known sound in
theorem choose_asks {transitions : List Transition} :
    (choose data transitions).Asks (Request.Founded table) := by
  induction transitions with
  | nil => exact .pure
  | cons transition rest ih =>
    refine (Asks.demand trivial).bind fun answer => Asks.ofExcept.bind fun verdict => ?_
    cases verdict with
    | transit => exact .pure
    | remain => exact ih

theorem run_asks : (table.run block data).Asks (Request.Founded table) := by
  refine (Asks.tell trivial).bind fun _ =>
    (call_asks sound (founded_hook known)).bind fun result => ?_
  cases result with
  | some entry => exact .pure
  | none =>
    refine choose_asks.bind fun chosen => ?_
    cases chosen with
    | some transition => exact take_asks sound known
    | none => exact .pure

omit known

theorem start_asks : (table.start data).Asks (Request.Founded table) := by
  refine Asks.look.bind fun slot => ?_
  split
  · exact .refuse
  · refine Asks.ofExcept.bind fun _ => Asks.change.bind fun _ => block_asks fun block found => ?_
    exact (enter_asks sound (tag_of_block? found ▸ found)).bind fun entry =>
      Asks.change.bind fun _ => .tell trivial

omit sound in
theorem takeData_asks : table.takeData.Asks (Request.Founded table) := by
  refine Asks.look.bind fun slot => ?_
  split
  · exact .refuse
  · exact Asks.change.bind fun _ => .pure

theorem enterPending_asks : table.enterPending.Asks (Request.Founded table) := by
  refine Asks.look.bind fun slot => ?_
  split
  · refine Asks.change.bind fun _ => Asks.look.bind fun slot => block_asks fun block found => ?_
    exact takeData_asks.bind fun data => (enter_asks sound (tag_of_block? found ▸ found)).bind
      fun entry => Asks.change.bind fun _ => .pure
  · exact .pure

theorem step_asks : table.step.Asks (Request.Founded table) := by
  refine (enterPending_asks sound).bind fun elsewhere => ?_
  split
  · exact .pure
  · refine takeData_asks.bind fun data => Asks.look.bind fun slot => block_asks fun block found => ?_
    exact (run_asks sound (tag_of_block? found ▸ found)).bind fun entry => .change

theorem stop_asks : table.stop.Asks (Request.Founded table) := by
  refine (enterPending_asks sound).bind fun _ => Asks.look.bind fun slot => ?_
  split
  · exact Asks.change.bind fun _ => .refuse
  · refine takeData_asks.bind fun data => (Asks.tell trivial).bind fun _ => Asks.look.bind fun slot =>
      block_asks fun block found => ?_
    exact (retire_asks sound (tag_of_block? found ▸ found)).bind fun entry =>
      Asks.change.bind fun _ => block_asks fun last _ => .pure

omit sound in
theorem activeChannel_asks {found : List (String × Channel)} {target : Designator}
    {rejected : Value} : (table.activeChannel found target rejected).Asks (Request.Founded table) := by
  refine Asks.look.bind fun slot => Asks.ofExcept.bind fun active => ?_
  split
  · split
    · exact .refuse
    · exact .pure
  · exact .refuse

/-- No call asks for anything that is not founded. -/
theorem operation_asks (call : Call) (channels : Option Channels) :
    (call.operation table channels).Asks (Request.Founded table) := by
  cases call with
  | start data => exact (start_asks sound).map
  | step => exact (step_asks sound).map
  | stop => exact (stop_asks sound).map
  | reset => exact Asks.change.map
  | peek => exact (Asks.look.bind fun _ => .ofExcept).map
  | isState target => exact (Asks.look.bind fun _ => .ofExcept).map
  | push target message =>
    cases channels with
    | none => exact Asks.refuse.map
    | some channels =>
      refine ((enterPending_asks sound).bind fun _ => ?_).map
      exact Asks.ofExcept.bind fun found => activeChannel_asks.bind fun choice =>
        (Asks.tell trivial).bind fun _ => .tell trivial
  | poll target payload =>
    cases channels with
    | none => exact Asks.refuse.map
    | some channels =>
      refine ((enterPending_asks sound).bind fun _ => ?_).map
      refine Asks.ofExcept.bind fun found => activeChannel_asks.bind fun choice =>
        (Asks.demand trivial).bind fun message => ?_
      split
      · exact .pure
      · exact (Asks.tell trivial).bind fun _ => .pure

end

/-! ## 3. Runs -/

/-- The request of a waiting call is founded, and so are its later requests. -/
structure Awaits (table : Table) (frame : Frame) : Prop where
  request : frame.request.Founded table
  resume : ∀ answer slot, (frame.resume answer slot).Asks (Request.Founded table)

/-- At every moment of a run, the later requests of the running call and of the waiting calls are
    founded. -/
theorem Lives.founded (sound : table.Sound) {allows : Request → Call → Prop} {moment : Moment}
    (lives : table.Lives allows moment) : moment.doing.Asks (Request.Founded table) ∧
      ∀ frame ∈ moment.waiting, table.Awaits frame := by
  induction lives with
  | begun call channels => exact ⟨operation_asks sound call channels _, List.forall_mem_nil _⟩
  | called next channels => exact ⟨operation_asks sound next channels _, List.forall_mem_nil _⟩
  | answered answer _ ih =>
    obtain ⟨⟨here, later⟩, waiting⟩ := ih
    exact ⟨later answer _, waiting⟩
  | nested next channels _ _ ih =>
    obtain ⟨⟨here, later⟩, waiting⟩ := ih
    exact ⟨operation_asks sound next channels _, List.forall_mem_cons.mpr ⟨⟨here, later⟩, waiting⟩⟩
  | returned _ ih =>
    obtain ⟨⟨here, later⟩, waiting⟩ := List.forall_mem_cons.mp ih.2
    exact ⟨⟨here, later⟩, waiting⟩

/-- A table is assembled of the machine and the blocks that it was given. -/
theorem parts_of_ofBlocks {bindings : Bindings} {flags : TraceFlags} {checkTypes : Bool}
    {machine : Machine} {blocks : List Block}
    (assembled : Table.ofBlocks bindings flags checkTypes machine blocks = .ok table) :
    table.machine = machine ∧ table.blocks = blocks := by
  unfold Table.ofBlocks at assembled
  dsimp only at assembled
  split at assembled
  all_goals
    obtain ⟨failure, -, same⟩ := Except.bind_eq_ok_iff.mp assembled
    cases same
    exact ⟨rfl, rfl⟩

/-- The blocks of a table have the methods of their classes, those of the mode of the machine. -/
theorem Compiled.hooks (compiled : table.Compiled) (mem : block ∈ table.blocks) :
    block.hooks = .ofClass table.machine.fallible block.kind := by
  obtain ⟨decl, machine, bindings, flags, checkTypes, -, generated⟩ := compiled
  rw [Table.generate_eq] at generated
  obtain ⟨kinds, -, built⟩ := Except.bind_eq_ok_iff.mp generated
  obtain ⟨blocks, made, assembled⟩ := Except.bind_eq_ok_iff.mp built
  obtain ⟨rfl, rfl⟩ := parts_of_ofBlocks assembled
  rw [allBlocks_eq] at made
  obtain ⟨entry, -, made⟩ := mem_of_mapM made block mem
  obtain ⟨transitions, -, made⟩ := Except.bind_eq_ok_iff.mp made
  cases made
  rfl

end Table

/-! ## 4. Main theorem -/

theorem Stage.method_ordinary (stage : Stage) (fallible : Bool) :
    stage.method fallible ≠ "__class__" := by
  cases stage <;> cases fallible <;> decide

namespace Scenario

open Run

/-- Calls the nearest method in the line of the class of the data, if there is one. -/
def callOwn (call : Caller) (data : Value) (method : String) : Run Value :=
  match data.kind.member? method with
  | none => return .null
  | some member => if member.callable then callBound call data method member none else return .null

/-- The result of a request for a hook of a state bound to `kind`: the method of the data's class is
    called, unless the bound class lacks it, the data has an attribute of its own under the name, or
    its class has a constant in place of a method that the bound class has. -/
inductive Called (call : Caller) (world : World) (kind : Class) (data : Value) (method : String)
    (result : Except Value Value × World) : Prop where
  | own (heard : data.kind.answers method = true → kind.answers method = true)
      (bare : kind.answers method = true → world.own? data method = none)
      (proper : ∀ constant, kind.answers method = true →
        data.kind.member? method = some (.constant constant) → constant = .null)
      (same : result = (callOwn call data method).run world) :
      Called call world kind data method result
  | unheard (able : data.kind.answers method = true) (deaf : kind.answers method = false)
      (same : result = (.ok .null, world)) : Called call world kind data method result
  | shadowed {value : Value} (able : kind.answers method = true)
      (found : world.own? data method = some value)
      (same : result =
        if value.isNull then (.ok .null, world) else (callValue call value []).run world) :
      Called call world kind data method result
  | mistaken {constant : Constant} (able : kind.answers method = true)
      (bare : world.own? data method = none)
      (found : data.kind.member? method = some (.constant constant)) (some : constant ≠ .null)
      (same : result = (raiseText .typeError (notCallable constant.value)).run world) :
      Called call world kind data method result

variable {call : Caller} {world : World} {kind : Class} {data : Value} {method : String}

theorem callOwn_of_unable (unable : data.kind.answers method = false) :
    callOwn call data method = return .null := by
  unfold callOwn
  unfold Class.answers at unable
  cases found : data.kind.member? method with
  | none => rfl
  | some member =>
    have uncallable : member.callable = false := by simpa [found] using unable
    simp [uncallable]

/-- What is found in data is called unless it is `null`. -/
theorem callHook_run :
    (callHook call data method).run world =
      match world.attribute? data method with
      | none | some .null => (.ok .null, world)
      | some found => (callValue call found []).run world := by
  show (match world.attribute? data method with
    | none | some .null => (return .null : Run Value)
    | some found => callValue call found []).run world = _
  cases world.attribute? data method with
  | none => rfl
  | some found => cases found <;> rfl

/-- An attribute of the data itself is called in the place of a method. -/
theorem callHook_shadowed (ordinary : method ≠ "__class__") {value : Value}
    (found : world.own? data method = some value) :
    (callHook call data method).run world =
      if value.isNull then (.ok .null, world) else (callValue call value []).run world := by
  rw [callHook_run, World.attribute?, if_neg ordinary, found]
  cases value <;> rfl

/-- Otherwise it is the member of its class, if there is one. -/
theorem callHook_bare (ordinary : method ≠ "__class__") (bare : world.own? data method = none) :
    (callHook call data method).run world =
      match data.kind.member? method with
      | none | some (.constant .null) => (.ok .null, world)
      | some member => (callBound call data method member none).run world := by
  rw [callHook_run, World.attribute?, if_neg ordinary, bare, Option.none_or, Class.attribute?,
    Class.member?]
  cases data.kind.find? method with
  | none => rfl
  | some found =>
    obtain ⟨owner, member⟩ := found
    cases member with
    | constant constant => cases constant <;> rfl
    | _ => rfl

/-- Where the bound class has a method, what is found in the data is called. -/
theorem called_of_able (ordinary : method ≠ "__class__") (able : kind.answers method = true) :
    Called call world kind data method ((callHook call data method).run world) := by
  cases bare : world.own? data method with
  | some value => exact .shadowed able bare (callHook_shadowed ordinary bare)
  | none =>
    rw [callHook_bare ordinary bare]
    by_cases proper : ∀ constant, data.kind.member? method = some (.constant constant) →
        constant = .null
    · refine .own (fun _ => able) (fun _ => bare) (fun constant _ => proper constant) ?_
      unfold callOwn
      cases found : data.kind.member? method with
      | none => rfl
      | some member =>
        cases member with
        | constant constant =>
          rw [proper constant found]
          rfl
        | _ => rfl
    · obtain ⟨constant, contrary⟩ := Classical.not_forall.mp proper
      obtain ⟨found, some⟩ := Classical.not_imp.mp contrary
      refine .mistaken able bare found some ?_
      rw [found]
      cases constant with
      | null => exact absurd rfl some
      | _ => rfl

/-- Where it has none, nothing is called. -/
theorem called_of_unable (unable : kind.answers method = false) :
    Called call world kind data method (.ok .null, world) := by
  have not_able : ¬ kind.answers method = true := by simp [unable]
  cases able : data.kind.answers method with
  | true => exact .unheard able unable rfl
  | false =>
    refine .own (fun contrary => ?_) (fun contrary => absurd contrary not_able)
      (fun _ contrary => absurd contrary not_able) ?_
    · rw [able] at contrary
      cases contrary
    · rw [callOwn_of_unable able]
      rfl

end Scenario

namespace Table

open Scenario

variable {table : Table}

/-- Whenever a hook is requested, in any run, the block of the tag exists and the call is one of the
    cases of `Called`: the bound class decides whether there is a call, and the lookup in the data,
    its own attributes first, what is called. -/
theorem hook_called_as_bound_class_decides (compiled : table.Compiled)
    {allows : Request → Call → Prop} {moment : Moment}
    (lives : table.Lives allows moment) {stage : Stage} {tag : String} {present : Bool}
    {data : Value} {slot : Slot} {resume : Answer → Slot → Dialogue Reply}
    (asking : moment.doing = .ask (.hook stage tag present data) slot resume) :
    ∃ block, table.block? tag = some block ∧ ∀ call world,
      Called call world block.kind data (stage.method table.machine.fallible)
        ((Run.answer call table (.hook stage tag present data)).run world) := by
  have founded := (lives.founded compiled.sound).1
  rw [asking] at founded
  obtain ⟨⟨block, found, rfl⟩, -⟩ := founded
  refine ⟨block, found, fun call world => ?_⟩
  have present : block.hooks.at stage =
      block.kind.answers (stage.method table.machine.fallible) := by
    rw [compiled.hooks (mem_of_block? found)]
    cases stage <;> rfl
  rw [Run.answer, present]
  cases able : block.kind.answers (stage.method table.machine.fallible) with
  | true => exact called_of_able (Stage.method_ordinary stage _) able
  | false => exact called_of_unable able

/-! A lamp with an entry method, and a class that overrides it and adds an exit method. -/

def flash : Class := Class.object.extend ⟨104, "Flash", "Flash", [("entry", .method 0)]⟩

def blink : Class := flash.extend ⟨105, "Blink", "Blink", [("entry", .method 1), ("exit", .method 2)]⟩

def signal : Table :=
  ⟨⟨"Lamp", ⟨Lamp.state "Off", []⟩, [⟨Lamp.state "Off", []⟩], [], none⟩, ⟨false, false, false⟩,
    [⟨⟨Lamp.state "Off", []⟩, flash, ⟨true, false, false⟩, []⟩], none, true⟩

theorem signal_compiled : signal.Compiled :=
  ⟨⟨"Lamp", Lamp.state "Off", [Lamp.state "Off"], [], none, Lamp.span⟩, signal.machine,
    Bindings.empty [("Off", .cls flash)], signal.flags, true, rfl, rfl⟩

/-- Routines that do nothing but tell which they are. -/
def telling : Caller := fun routine _ _ => return .int routine

/-- Two objects of the overriding class, the second with a number under the name of the method. -/
def signalWorld : World :=
  { World.initial .default none with
    entities := #[⟨[], .plain⟩, ⟨[("entry", .int 5)], .plain⟩] }

/-- The entry of the first object overrides that of the bound class; the second object has a number
    in its place, and the call raises. -/
theorem hook_called_as_bound_class_decides_lamp :
    ((Run.answer telling signal (.hook .entry "OffState" true (.object 0 blink))).run
      signalWorld).1 = .ok (.int 1) ∧
    (Run.answer telling signal (.hook .entry "OffState" true (.object 1 blink))).run signalWorld =
      (Run.raiseText .typeError "'int' object is not callable").run signalWorld := by
  have created : signal.create .null = .ok (.fresh signal) := rfl
  have first : signal.Lives (fun _ _ => True) _ := .begun (.start (.object 0 blink)) none created
  have second : signal.Lives (fun _ _ => True) _ := .begun (.start (.object 1 blink)) none created
  constructor
  · obtain ⟨block, found, called⟩ := hook_called_as_bound_class_decides signal_compiled first rfl
    cases found
    cases called telling signalWorld with
    | own heard bare proper same => exact congrArg Prod.fst same
    | unheard able deaf => cases deaf
    | shadowed able found => cases found
    | mistaken able bare found => cases found
  · obtain ⟨block, found, called⟩ := hook_called_as_bound_class_decides signal_compiled second rfl
    cases found
    cases called telling signalWorld with
    | own heard bare => cases bare rfl
    | unheard able deaf => cases deaf
    | shadowed able found same =>
      cases found
      exact same
    | mistaken able bare => cases bare

/-- The exit hook of the data is not called, since the bound class has none. -/
theorem hook_of_subclass_not_called :
    signal.Compiled ∧
    (∃ moment slot resume, signal.Lives (fun _ _ => False) moment ∧
      moment.doing = .ask (.hook .exit "OffState" false (.object 0 blink)) slot resume) ∧
    (Value.object 0 blink).isA flash = true ∧ blink.answers "exit" = true ∧
    Run.answer telling signal (.hook .exit "OffState" false (.object 0 blink)) ≠
      callOwn telling (.object 0 blink) "exit" := by
  have created : signal.create .null = .ok (.fresh signal) := rfl
  have starts : Dialogue.Plays
      ((Call.start (.object 0 blink)).operation signal none (.fresh signal))
      [(.hook .entry "OffState" true (.object 0 blink), .ok .null),
        (.report false "Lamp: Start - Off", .ok .null)] (.ok .nothing)
      (.holding ⟨"OffState", .object 0 blink⟩) := .ask (.ask (.done _ _))
  have started : signal.Lives (fun _ _ => False) _ := (Lives.begun _ none created).plays starts
  have stopping : signal.Lives (fun _ _ => False) _ :=
    .answered (.ok .null) (.called .stop none started)
  refine ⟨signal_compiled, ⟨_, _, _, stopping, rfl⟩, by decide, by decide, fun same => ?_⟩
  have results := congrArg (fun run : Run Value => (run.run (World.initial .default none)).1) same
  cases results

end Table

end MachineSpec
