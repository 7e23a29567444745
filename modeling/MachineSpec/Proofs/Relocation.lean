/-
MachineSpec.Proofs.Relocation — compilation and runs do not depend on places.

`MachineSpec.Proofs.Placement` shows that machines and documents are read alike up to
places. This module continues: tables, channels and the registry of a compiler, without
places, are those made from machines without places (`Table.unplaced_generate`,
`Channels.unplaced_ofMessages`, `Workshop.unplaced_declare`).

A table contains places, since the request for a guard contains the transition. They have no
other effect: a machine without places takes part in the same dialogues, without places
(`Relocates`, one rule for each way of building an operation; `Table.operation_relocates`).
-/
import MachineSpec.Proofs.Calls
import MachineSpec.Proofs.Placement
import MachineSpec.Proofs.Workshop

namespace MachineSpec

open Placed (unplaced)

variable {α β : Type}

/-! ## 1. Without places -/

instance : Placed Class := ⟨id⟩

instance : Placed Value := ⟨id⟩

instance : Placed Callback := ⟨id⟩

instance : Placed Transition := ⟨fun transition =>
  { transition with
    source := unplaced transition.source
    destination := unplaced transition.destination }⟩

instance : Placed Block := ⟨fun block =>
  { block with state := unplaced block.state, transitions := unplaced block.transitions }⟩

instance : Placed FailureRoute := ⟨fun route =>
  { route with errorBlock := unplaced route.errorBlock }⟩

instance : Placed Table := ⟨fun table =>
  { table with
    machine := unplaced table.machine
    blocks := unplaced table.blocks
    failure := unplaced table.failure }⟩

instance : Placed Channel := ⟨fun channel => { channel with message := unplaced channel.message }⟩

instance : Placed Channels := ⟨fun channels => ⟨unplaced channels.push, unplaced channels.poll⟩⟩

/-- Of all errors only those of texts tell where. -/
instance : Placed Error where
  unplaced
  | .rejected why => .rejected (unplaced why)
  | error => error

/-- Callbacks stand nowhere anyway. -/
theorem unplaced_callbacks {callbacks : List (String × Callback)} : unplaced callbacks = callbacks :=
  List.map_id _

/-! ## 2. Tables -/

section Tables

variable {bindings : Bindings} {machine : Machine}

theorem Bindings.unplaced_resolveClass {role : TypeRole} {name : TypeName} :
    unplaced (bindings.resolveClass role name) = bindings.resolveClass role name := by
  cases found : bindings.resolveClass role name with
  | ok kind => rfl
  | error error =>
    have needs := @Bindings.resolveClass_needs bindings role name
    have kind := needs.error_kind found
    cases error with
    | rejected why => cases why <;> cases kind
    | _ => rfl

theorem unplaced_mapM [Placed α] [Placed β] {f g : α → Except Error β} {items : List α}
    (same : ∀ item, g (unplaced item) = unplaced (f item)) :
    (unplaced items).mapM g = unplaced (items.mapM f) := by
  induction items with
  | nil => rfl
  | cons item rest ih =>
    show (unplaced item :: unplaced rest).mapM g = _
    rw [List.mapM_cons, List.mapM_cons]
    exact unplaced_bind (same item) fun first => unplaced_bind ih fun others => rfl

theorem Bindings.unplaced_classes {states : List State} :
    bindings.classes (unplaced states) = unplaced (bindings.classes states) := by
  induction states with
  | nil => rfl
  | cons state rest ih =>
    exact unplaced_bind unplaced_resolveClass.symm fun kind => unplaced_bind ih fun others => rfl

theorem Bindings.unplaced_conversion {name : String} {source destination : Reference} :
    bindings.conversion name (unplaced source) (unplaced destination) =
      unplaced (bindings.conversion name source destination) := by
  show bindings.conversion name source destination = _
  unfold conversion
  cases bindings.conversion? (source.tag, destination.tag) <;> rfl

theorem Bindings.unplaced_transition {name : String} {source destination : Reference} :
    bindings.transition name (unplaced source) (unplaced destination) =
      unplaced (bindings.transition name source destination) := by
  have key : ((unplaced source).tag, (unplaced destination).tag) = (source.tag, destination.tag) :=
    rfl
  unfold transition
  rw [key]
  dsimp only
  cases bindings.guard? (source.tag, destination.tag) with
  | none => rfl
  | some guard => exact unplaced_bind unplaced_conversion fun conversion => rfl

theorem Machine.unplaced_fallible : (unplaced machine).fallible = machine.fallible :=
  Option.isSome_map

theorem Block.unplaced_ofState {state : State} {kind : Class} :
    Block.ofState bindings (unplaced machine) (unplaced state) kind =
      unplaced (Block.ofState bindings machine state kind) := by
  unfold Block.ofState
  rw [Machine.unplaced_fallible]
  exact unplaced_bind (unplaced_mapM fun _ => Bindings.unplaced_transition) fun transitions => rfl

theorem unplaced_errorConversions {errorState : State} {states : List State} :
    errorConversions bindings (unplaced machine) (unplaced errorState) (unplaced states) =
      unplaced (errorConversions bindings machine errorState states) := by
  induction states with
  | nil => rfl
  | cons state rest ih =>
    have here : (unplaced state).tag = state.tag := rfl
    have error : (unplaced errorState).tag = errorState.tag := rfl
    show errorConversions bindings (unplaced machine) (unplaced errorState)
      (unplaced state :: unplaced rest) = _
    unfold errorConversions
    rw [here, error]
    split
    · exact ih
    · exact unplaced_bind Bindings.unplaced_conversion fun callback =>
        unplaced_bind ih fun others => rfl

theorem FailureRoute.unplaced_ofPolicy {blocks : List Block} {policy : FailurePolicy} :
    FailureRoute.ofPolicy bindings (unplaced machine) (unplaced blocks) (unplaced policy) =
      unplaced (FailureRoute.ofPolicy bindings machine blocks policy) := by
  refine unplaced_bind Bindings.unplaced_resolveClass.symm fun errorType => ?_
  have found : (unplaced blocks).find? (·.tag == (unplaced policy).errorState.tag) =
      unplaced (blocks.find? (·.tag == policy.errorState.tag)) := unplaced_find? fun _ => rfl
  rw [found]
  cases blocks.find? (·.tag == policy.errorState.tag) with
  | none => rfl
  | some block =>
    have kind : (unplaced block).kind = block.kind := rfl
    show (if canConsume (unplaced block).kind then _ else _) = _
    rw [kind]
    dsimp only
    split
    · refine unplaced_bind unplaced_errorConversions fun conversions => ?_
      rw [unplaced_callbacks]
      rfl
    · rfl

variable {flags : TraceFlags} {checkTypes : Bool}

theorem Table.unplaced_ofBlocks {blocks : List Block} :
    Table.ofBlocks bindings flags checkTypes (unplaced machine) (unplaced blocks) =
      unplaced (Table.ofBlocks bindings flags checkTypes machine blocks) := by
  obtain ⟨name, initial, states, edges, failure⟩ := machine
  cases failure with
  | none => rfl
  | some policy =>
    refine unplaced_bind ?_ fun route => rfl
    exact unplaced_bind FailureRoute.unplaced_ofPolicy fun route => rfl

/-- The table of a machine without places is its table without places. -/
theorem Table.unplaced_generate :
    (Table.generate bindings flags checkTypes (unplaced machine)).2 =
      unplaced (Table.generate bindings flags checkTypes machine).2 := by
  rw [Table.generate_eq, Table.generate_eq]
  refine unplaced_bind Bindings.unplaced_classes fun kinds => ?_
  refine unplaced_bind ?_ fun blocks => Table.unplaced_ofBlocks
  rw [allBlocks_eq, allBlocks_eq]
  exact unplaced_mapM fun entry => Block.unplaced_ofState

end Tables

/-! ## 3. Channels -/

instance : Placed Courier := ⟨id⟩

theorem Table.unplaced_block? {table : Table} {tag : String} :
    (unplaced table).block? tag = unplaced (table.block? tag) :=
  unplaced_find? fun _ => rfl

namespace Channels

variable {bindings : Bindings} {table : Table} {channels : Channels}

theorem unplaced_along {direction : Direction} :
    (unplaced channels).along direction = unplaced (channels.along direction) := by
  cases direction <;> rfl

theorem unplaced_ofKind {among : List Channel} {tag : String} {kind : Nat} :
    ofKind (unplaced among) tag kind = unplaced (ofKind among tag kind) :=
  unplaced_find? fun _ => rfl

theorem unplaced_add {name : String} {channel : Channel} :
    (unplaced channels).add name (unplaced channel) = unplaced (channels.add name channel) := by
  have found : ofKind ((unplaced channels).along (unplaced channel).message.direction)
        (unplaced channel).tag (unplaced channel).kind.id =
      unplaced (ofKind (channels.along channel.message.direction) channel.tag channel.kind.id) := by
    rw [unplaced_along]
    exact unplaced_ofKind
  unfold add
  dsimp only
  rw [found]
  cases ofKind (channels.along channel.message.direction) channel.tag channel.kind.id with
  | some other => rfl
  | none =>
    have same : (unplaced channel).message.direction = channel.message.direction := rfl
    rw [same]
    cases channel.message.direction with
    | push =>
      show Except.ok (⟨unplaced channels.push ++ [unplaced channel], _⟩ : Channels) = _
      rw [← unplaced_concat]
      rfl
    | poll =>
      show Except.ok (⟨_, unplaced channels.poll ++ [unplaced channel]⟩ : Channels) = _
      rw [← unplaced_concat]
      rfl

theorem unplaced_courier {name : String} {kind : Class} {message : Message} :
    courier bindings name kind (unplaced message) = unplaced (courier bindings name kind message) := by
  show courier bindings name kind _ = _
  have key : Bindings.messageKey (unplaced message).target.type (unplaced message).payload.type =
      Bindings.messageKey message.target.type message.payload.type := rfl
  have way : (unplaced message).direction = message.direction := rfl
  unfold courier
  rw [key, way]
  cases bindings.messageCallback? message.direction
      (Bindings.messageKey message.target.type message.payload.type) with
  | some callback => rfl
  | none =>
    dsimp only
    split <;> rfl

theorem unplaced_addMessages {messages : List Message} :
    addMessages bindings (unplaced table) (unplaced channels) (unplaced messages) =
      unplaced (addMessages bindings table channels messages) := by
  induction messages generalizing channels with
  | nil => rfl
  | cons message rest ih =>
    refine unplaced_bind Bindings.unplaced_resolveClass.symm fun kind => ?_
    have target : (unplaced message).target.tag = message.target.tag := rfl
    rw [target, Table.unplaced_block?]
    cases table.block? message.target.tag with
    | none => rfl
    | some block =>
      refine unplaced_bind unplaced_courier fun courier => ?_
      have added := @unplaced_add channels table.name ⟨message, kind, courier⟩
      exact unplaced_bind added fun extended => ih

theorem unplaced_ofMessages {messages : Messages} :
    ofMessages bindings (unplaced table) (unplaced messages) =
      unplaced (ofMessages bindings table messages) :=
  @unplaced_addMessages bindings table .empty messages.messages

end Channels

/-! ## 4. Workshops -/

instance : Placed Nat := ⟨id⟩

instance : Placed MachineClass := ⟨fun made => { made with table := unplaced made.table }⟩

instance : Placed Registry := ⟨fun registry =>
  { registry with
    machines := unplaced registry.machines
    channels := unplaced registry.channels }⟩

instance : Placed Workshop := ⟨fun w => { w with registry := unplaced w.registry }⟩

/-- Classes stand nowhere anyway. -/
theorem unplaced_kinds {kinds : List Class} : unplaced kinds = kinds := List.map_id _

theorem unplaced_findSome? [Placed β] {find find' : α → Option β} {items : List α}
    (same : ∀ item, find' item = unplaced (find item)) :
    items.findSome? find' = unplaced (items.findSome? find) := by
  induction items with
  | nil => rfl
  | cons item rest ih =>
    rw [List.findSome?_cons, List.findSome?_cons, same]
    cases find item with
    | none => exact ih
    | some b => rfl

theorem unplaced_lookup {κ : Type} [BEq κ] [Placed κ] [Placed β] {entries : List (κ × β)} {key : κ}
    (still : ∀ key : κ, unplaced key = key) :
    (unplaced entries).lookup key = unplaced (entries.lookup key) := by
  induction entries with
  | nil => rfl
  | cons entry rest ih =>
    show List.lookup key (((unplaced entry).1, (unplaced entry).2) :: unplaced rest) = _
    rw [List.lookup_cons, List.lookup_cons]
    have same : (unplaced entry).1 = entry.1 := still entry.1
    rw [same]
    cases key == entry.1 with
    | true => rfl
    | false => exact ih

namespace Workshop

variable {w : Workshop} {bindings : Bindings} {home : String} {kind : Class}

theorem unplaced_channels? : (unplaced w).registry.channels? kind = unplaced (w.registry.channels? kind) :=
  unplaced_findSome? fun _ => unplaced_lookup fun _ => rfl

theorem unplaced_table? : (unplaced w).registry.table? kind = unplaced (w.registry.table? kind) := by
  have found : (unplaced w).registry.machine? kind = unplaced (w.registry.machine? kind) :=
    unplaced_findSome? fun _ => unplaced_find? fun _ => rfl
  unfold Registry.table?
  rw [found]
  cases w.registry.machine? kind <;> rfl

theorem unplaced_tableOf : (unplaced w).tableOf kind = unplaced (w.tableOf kind) := by
  unfold tableOf
  rw [unplaced_table?]
  cases w.registry.table? kind <;> rfl

theorem unplaced_madeUnder {name : String} :
    (unplaced w).madeUnder name = unplaced (w.madeUnder name) := by
  show w.madeUnder name = _
  unfold madeUnder
  cases w.compiler.made.lookup name <;> rfl

theorem unplaced_build {machine : Machine} :
    (unplaced w).build bindings home (unplaced machine) =
      unplaced (w.build bindings home machine) := by
  have name : (unplaced machine).name = machine.name := rfl
  have compiler : (unplaced w).compiler = w.compiler := rfl
  unfold build
  rw [name, compiler]
  split
  · rfl
  · exact unplaced_bind Table.unplaced_generate fun table => rfl

theorem unplaced_attach {table : Table} {messages : Messages} :
    (unplaced w).attach bindings kind (unplaced table) (unplaced messages) =
      unplaced (w.attach bindings kind table messages) := by
  have taken : ((unplaced w).registry.channels? kind).isSome =
      (w.registry.channels? kind).isSome := by
    rw [unplaced_channels?]
    exact Option.isSome_map
  unfold attach
  rw [taken]
  split
  · rfl
  · exact unplaced_bind Channels.unplaced_ofMessages fun channels => rfl

theorem unplaced_invalid [Placed α] {x : Except Invalid α} :
    unplaced (x.mapError fun offence => Error.rejected (.invalid offence)) =
      (unplaced x).mapError fun offence => Error.rejected (.invalid offence) := by
  cases x <;> rfl

/-- What becomes of a declaration without places is what becomes of it, without places. -/
theorem unplaced_declare {declaration : Declaration} :
    (unplaced w).declare bindings home (unplaced declaration) =
      unplaced (w.declare bindings home declaration) := by
  cases declaration with
  | machine decl =>
    refine unplaced_bind ?_ fun machine => unplaced_build
    rw [unplaced_invalid]
    exact congrArg (Except.mapError _) Machine.unplaced_ofDecl
  | messages decl =>
    refine unplaced_bind unplaced_madeUnder fun kind => unplaced_bind unplaced_tableOf fun table => ?_
    refine unplaced_bind ?_ fun messages => unplaced_attach
    rw [unplaced_invalid]
    exact congrArg (Except.mapError _) Messages.unplaced_ofDecl

theorem unplaced_advance {declarations : List Declaration} :
    advance (fun w => w.declare bindings home) (unplaced w) (unplaced declarations) =
      unplaced (advance (fun w => w.declare bindings home) w declarations) := by
  induction declarations generalizing w with
  | nil => rfl
  | cons first rest ih =>
    show advance _ (unplaced w) (unplaced first :: unplaced rest) = _
    cases done : w.declare bindings home first with
    | error error =>
      have failed : advance (fun w => w.declare bindings home) w (first :: rest) =
          (.error error, w) := advance_failed done
      rw [failed, advance_failed (unplaced_declare.trans (congrArg unplaced done))]
      rfl
    | ok made =>
      obtain ⟨kind, v⟩ := made
      have onward : advance (fun w => w.declare bindings home) w (first :: rest) = _ :=
        advance_done done
      rw [onward, advance_done (unplaced_declare.trans (congrArg unplaced done)), ih]
      rcases advance (fun w => w.declare bindings home) v rest with ⟨error | others, u⟩ <;> rfl

/-- Declarations that are equal but for places come to the same, but for places. -/
theorem advance_congr {declarations declarations' : List Declaration} {kinds : List Class}
    {v : Workshop} (same : unplaced declarations = unplaced declarations')
    (advanced : advance (fun w => w.declare bindings home) w declarations = (.ok kinds, v)) :
    ∃ v', advance (fun w => w.declare bindings home) w declarations' = (.ok kinds, v') ∧
      unplaced v = unplaced v' := by
  have both : unplaced (advance (fun w => w.declare bindings home) w declarations') =
      unplaced (advance (fun w => w.declare bindings home) w declarations) := by
    rw [← unplaced_advance, ← unplaced_advance, same]
  rw [advanced] at both
  generalize advance (fun w => w.declare bindings home) w declarations' = result at both
  obtain ⟨error | kinds', v'⟩ := result
  · cases congrArg Prod.fst both
  · have results : (Except.ok (unplaced kinds') : Except Error (List Class)) = .ok (unplaced kinds) :=
      congrArg Prod.fst both
    rw [unplaced_kinds, unplaced_kinds] at results
    cases results
    exact ⟨v', rfl, (congrArg Prod.snd both).symm⟩

end Workshop

/-! ## 5. Dialogues -/

instance : Placed Guard := ⟨id⟩

instance : Placed Slot := ⟨id⟩

instance : Placed Entry := ⟨id⟩

instance : Placed Snapshot := ⟨id⟩

instance : Placed Reply := ⟨id⟩

instance : Placed Request where
  unplaced
  | .guard transition data => .guard (unplaced transition) data
  | .action transition data => .action (unplaced transition) data
  | .convert transition data => .convert (unplaced transition) data
  | .deliver channel data message => .deliver (unplaced channel) data message
  | .produce channel data => .produce (unplaced channel) data
  | request => request

/-- The same dialogue with requests that stand nowhere. -/
def Dialogue.moved [Placed α] : Dialogue α → Dialogue α
  | .done (.ok a) slot => .done (.ok (unplaced a)) slot
  | .done (.error failure) slot => .done (.error failure) slot
  | .ask request slot resume => .ask (unplaced request) slot fun answer slot =>
      (resume answer slot).moved

namespace Operation

variable [Placed α] [Placed β]

/-- The second operation takes part in the same dialogues as the first one, without places. -/
def Relocates (p q : Operation α) : Prop := ∀ slot, q slot = (p slot).moved

namespace Relocates

variable {p p' q q' : Operation α} {next next' : α → Operation β} {request : Request}

theorem pure {a b : α} (same : unplaced a = b) : Relocates (Pure.pure a) (Pure.pure b) := by
  intro slot
  subst same
  rfl

theorem bind (first : Relocates p q) (rest : ∀ a, Relocates (next a) (next' (unplaced a))) :
    Relocates (p >>= next) (q >>= next') := by
  -- answers have no places, so the two dialogues go on with the same ones
  have onward (dialogue : Dialogue α) :
      dialogue.moved.andThen next' = (dialogue.andThen next).moved := by
    induction dialogue with
    | done outcome slot =>
      cases outcome with
      | ok a => exact rest a slot
      | error failure => rfl
    | ask request slot resume ih =>
      exact congrArg (Dialogue.ask (unplaced request) slot)
        (funext fun answer => funext fun slot => ih answer slot)
  intro slot
  show (q slot).andThen next' = _
  rw [first slot]
  exact onward (p slot)

theorem map {f g : α → β} (first : Relocates p q) (same : ∀ a, unplaced (f a) = g (unplaced a)) :
    Relocates (f <$> p) (g <$> q) := by
  rw [map_eq_pure_bind, map_eq_pure_bind]
  exact bind first fun a => pure (same a)

theorem fail {failure : Failure} : Relocates (Operation.fail failure : Operation α) (.fail failure) :=
  fun _ => rfl

theorem refuse {error : Error} : Relocates (Operation.refuse error : Operation α) (.refuse error) := fail

theorem ofExcept {x y : Except Error α} (same : y = x.map unplaced) :
    Relocates (Operation.ofExcept x) (.ofExcept y) := by
  subst same
  cases x with
  | ok a => exact pure rfl
  | error error => exact refuse

theorem slot : Relocates Operation.slot Operation.slot := fun _ => rfl

theorem change {f : Slot → Slot} : Relocates (Operation.change f) (Operation.change f) := fun _ => rfl

/-- An answer is the same with or without places. -/
theorem attempt {next next' : Answer → Operation α}
    (rest : ∀ answer, Relocates (next answer) (next' answer)) :
    Relocates (Operation.attempt request >>= next) (Operation.attempt (unplaced request) >>= next') :=
  fun slot => congrArg (Dialogue.ask (unplaced request) slot)
    (funext fun answer => funext fun slot => rest answer slot)

theorem demand : Relocates (Operation.demand request) (Operation.demand (unplaced request)) :=
  attempt fun answer => by
    cases answer with
    | ok value => exact pure rfl
    | error exception => exact fail

end Relocates

end Operation

/-! ## 6. Operations -/

namespace Table

open Operation.Relocates

variable {table : Table} {route : FailureRoute} {block : Block} {data : Value}

theorem reportLife_relocates {action detail : String} :
    (table.reportLife action detail).Relocates ((unplaced table).reportLife action detail) :=
  demand.bind fun _ => pure rfl

theorem reportStep_relocates {action detail : String} :
    (table.reportStep action detail).Relocates ((unplaced table).reportStep action detail) :=
  demand.bind fun _ => pure rfl

theorem reportMessage_relocates {action detail : String} :
    (table.reportMessage action detail).Relocates ((unplaced table).reportMessage action detail) :=
  demand.bind fun _ => pure rfl

theorem block_relocates {tag : String} : (table.block tag).Relocates ((unplaced table).block tag) := by
  unfold Table.block
  rw [unplaced_block?]
  cases table.block? tag with
  | none => exact refuse
  | some block => exact pure rfl

theorem callErrorState_relocates {request : Request} :
    (callErrorState route request).Relocates (callErrorState (unplaced route) (unplaced request)) := by
  refine attempt fun answer => ?_
  cases answer with
  | ok value => exact pure rfl
  | error exception =>
    have errorType : (unplaced route).errorType = route.errorType := rfl
    dsimp only
    rw [errorType]
    split
    · exact refuse
    · exact fail

theorem redirect_relocates {exception : Value} :
    (table.redirect route block data exception).Relocates
      ((unplaced table).redirect (unplaced route) (unplaced block) data exception) := by
  refine reportLife_relocates.bind fun _ => ?_
  have known : (unplaced route).conversions.lookup (unplaced block).tag =
      route.conversions.lookup block.tag := rfl
  rw [known]
  cases route.conversions.lookup block.tag with
  | none => exact refuse
  | some conversion =>
    refine demand.bind fun errorData => ?_
    have checks : ((unplaced table).checkTypes &&
        !(unplaced errorData).isA (unplaced route).errorBlock.kind) =
        (table.checkTypes && !errorData.isA route.errorBlock.kind) := rfl
    dsimp only
    rw [checks]
    split
    · exact refuse
    · exact demand.bind fun _ => callErrorState_relocates.bind fun _ => pure rfl

theorem call_relocates {request : Request} :
    (table.call block data request).Relocates
      ((unplaced table).call (unplaced block) data (unplaced request)) := by
  have failure : (unplaced table).failure = unplaced table.failure := rfl
  unfold Table.call
  rw [failure]
  cases table.failure with
  | none => exact demand.bind fun _ => pure rfl
  | some route =>
    show Operation.Relocates _ (if (unplaced block).tag = (unplaced route).errorBlock.tag then _ else _)
    have owner : (unplaced block).tag = block.tag := rfl
    have errors : (unplaced route).errorBlock.tag = route.errorBlock.tag := rfl
    rw [owner, errors]
    dsimp only
    split
    · exact callErrorState_relocates.bind fun _ => pure rfl
    · refine attempt fun answer => ?_
      cases answer with
      | ok value => exact pure rfl
      | error exception =>
        have errorType : (unplaced route).errorType = route.errorType := rfl
        dsimp only
        rw [errorType]
        split
        · exact redirect_relocates.map fun _ => rfl
        · exact fail

theorem callHook_relocates {stage : Stage} :
    (table.callHook block stage data).Relocates
      ((unplaced table).callHook (unplaced block) stage data) :=
  call_relocates

theorem enter_relocates {reported : Bool} :
    (table.enter block data reported).Relocates
      ((unplaced table).enter (unplaced block) data reported) := by
  refine callHook_relocates.bind fun found => ?_
  cases found with
  | some entry => exact pure rfl
  | none =>
    cases reported with
    | true => exact reportLife_relocates.bind fun _ => pure rfl
    | false => exact bind (pure rfl) fun _ => pure rfl

theorem runActions_relocates {transitions : List Transition} :
    (table.runActions block data transitions).Relocates
      ((unplaced table).runActions (unplaced block) data (unplaced transitions)) := by
  induction transitions with
  | nil => exact pure rfl
  | cons transition rest ih =>
    refine call_relocates.bind fun found => ?_
    cases found with
    | some entry => exact pure rfl
    | none => exact ih

theorem leave_relocates :
    (table.leave block data).Relocates ((unplaced table).leave (unplaced block) data) := by
  refine callHook_relocates.bind fun found => ?_
  cases found with
  | some entry => exact pure rfl
  | none => exact runActions_relocates

theorem retire_relocates :
    (table.retire block data).Relocates ((unplaced table).retire (unplaced block) data) := by
  refine leave_relocates.bind fun found => ?_
  cases found with
  | some entry => exact pure rfl
  | none => exact reportLife_relocates.bind fun _ => pure rfl

theorem take_relocates {transition : Transition} :
    (table.take block transition data).Relocates
      ((unplaced table).take (unplaced block) (unplaced transition) data) := by
  refine leave_relocates.bind fun found => ?_
  cases found with
  | some entry => exact pure rfl
  | none =>
    refine reportLife_relocates.bind fun _ => reportLife_relocates.bind fun _ =>
      block_relocates.bind fun target => demand.bind fun converted => ?_
    have checks : ((unplaced table).checkTypes && !(unplaced converted).isA (unplaced target).kind) =
        (table.checkTypes && !converted.isA target.kind) := rfl
    rw [checks]
    split
    · exact refuse
    · exact enter_relocates

theorem choose_relocates {transitions : List Transition} :
    (choose data transitions).Relocates (choose data (unplaced transitions)) := by
  induction transitions with
  | nil => exact pure rfl
  | cons transition rest ih =>
    refine demand.bind fun answer => ?_
    have verdict : Guard.coerce answer = (Guard.coerce answer).map unplaced := by
      cases Guard.coerce answer <;> rfl
    refine (ofExcept verdict).bind fun verdict => ?_
    cases verdict with
    | transit => exact pure rfl
    | remain => exact ih

theorem run_relocates : (table.run block data).Relocates ((unplaced table).run (unplaced block) data) := by
  refine reportStep_relocates.bind fun _ => callHook_relocates.bind fun found => ?_
  cases found with
  | some entry => exact pure rfl
  | none =>
    refine choose_relocates.bind fun chosen => ?_
    cases chosen with
    | some transition => exact take_relocates
    | none => exact pure rfl

/-! ## 7. Calls -/

variable {channels : Channels} {slot : Slot}

theorem unplaced_checkInitial : (unplaced table).checkInitial data = table.checkInitial data := by
  have tag : (unplaced table).machine.initial.tag = table.machine.initial.tag := rfl
  unfold checkInitial
  rw [tag, unplaced_block?]
  cases table.block? table.machine.initial.tag <;> rfl

theorem unplaced_create : (unplaced table).create data = table.create data := by
  unfold create
  rw [unplaced_checkInitial]
  rfl

theorem unplaced_peek : (unplaced table).peek slot = table.peek slot := by
  unfold peek
  rw [unplaced_block?]
  cases table.block? slot.tag <;> rfl

theorem unplaced_designated {target : Designator} :
    (unplaced table).designated target = table.designated target := by
  have known {tag : String} : ((unplaced table).block? tag).isSome = (table.block? tag).isSome := by
    rw [unplaced_block?]
    exact Option.isSome_map
  cases target with
  | cls kind =>
    show Except.ok (((table.blocks.map unplaced).filter (·.kind.same kind)).map Block.tag) = _
    rw [List.filter_map, List.map_map]
    rfl
  | text name =>
    unfold designated
    simp only [known]

theorem unplaced_tagsFor {target : Designator} :
    (unplaced table).tagsFor target = table.tagsFor target := by
  unfold tagsFor
  rw [unplaced_designated]
  rfl

theorem unplaced_isState {target : Designator} :
    (unplaced table).isState slot target = table.isState slot target := by
  unfold isState
  rw [unplaced_tagsFor]

theorem unplaced_describe {className : String} :
    (unplaced table).describe className slot = table.describe className slot := by
  unfold describe
  rw [unplaced_block?]
  cases table.block? slot.tag <;> rfl

theorem takeData_relocates : table.takeData.Relocates (unplaced table).takeData := by
  refine slot.bind fun slot => ?_
  show Operation.Relocates _ (if !slot.running || slot.data.isNull then _ else _)
  split
  · exact refuse
  · exact change.bind fun _ => pure rfl

theorem start_relocates : (table.start data).Relocates ((unplaced table).start data) := by
  refine slot.bind fun slot => ?_
  show Operation.Relocates _ (if slot.running then _ else _)
  split
  · exact refuse
  · rw [unplaced_checkInitial]
    have checked : table.checkInitial data = (table.checkInitial data).map unplaced := by
      cases table.checkInitial data <;> rfl
    exact (ofExcept checked).bind fun _ => change.bind fun _ => block_relocates.bind fun _ =>
      enter_relocates.bind fun _ => change.bind fun _ => reportLife_relocates

theorem enterPending_relocates : table.enterPending.Relocates (unplaced table).enterPending := by
  refine slot.bind fun slot => ?_
  show Operation.Relocates _ (if slot.pending then _ else _)
  split
  · exact change.bind fun _ => Operation.Relocates.slot.bind fun _ => block_relocates.bind fun _ =>
      takeData_relocates.bind fun _ => enter_relocates.bind fun _ => change.bind fun _ => pure rfl
  · exact pure rfl

theorem step_relocates : table.step.Relocates (unplaced table).step := by
  refine enterPending_relocates.bind fun moved => ?_
  show Operation.Relocates _ (if moved then _ else _)
  split
  · exact pure rfl
  · exact takeData_relocates.bind fun _ => slot.bind fun _ => block_relocates.bind fun _ =>
      run_relocates.bind fun _ => change

theorem reset_relocates : table.reset.Relocates (unplaced table).reset := change

theorem stop_relocates : table.stop.Relocates (unplaced table).stop := by
  refine enterPending_relocates.bind fun _ => slot.bind fun slot => ?_
  show Operation.Relocates _ (if slot.running && slot.data.isNull then _ else _)
  split
  · exact reset_relocates.bind fun _ => refuse
  · exact takeData_relocates.bind fun _ => reportLife_relocates.bind fun _ =>
      Operation.Relocates.slot.bind fun _ => block_relocates.bind fun _ => retire_relocates.bind fun _ => reset_relocates.bind fun _ =>
      block_relocates.bind fun _ => pure rfl

theorem requireChannels_relocates {channels : Option Channels} :
    (table.requireChannels channels).Relocates ((unplaced table).requireChannels (unplaced channels)) := by
  cases channels with
  | some channels => exact pure rfl
  | none => exact refuse

theorem activeChannel_relocates {found : List (String × Channel)} {target : Designator}
    {rejected : Value} :
    (table.activeChannel found target rejected).Relocates
      ((unplaced table).activeChannel (unplaced found) target rejected) := by
  refine slot.bind fun slot => ?_
  have seen : (unplaced table).peek (unplaced slot) = (table.peek slot).map unplaced := by
    rw [show unplaced slot = slot from rfl, unplaced_peek]
    cases table.peek slot <;> rfl
  refine (ofExcept seen).bind fun active => ?_
  have chosen : (unplaced found).lookup (unplaced active).tag = unplaced (found.lookup active.tag) :=
    unplaced_lookup fun _ => rfl
  rw [chosen]
  cases found.lookup active.tag with
  | none => exact refuse
  | some channel =>
    show Operation.Relocates _ (if active.data.isNull then _ else _)
    dsimp only
    split
    · exact refuse
    · exact pure rfl

end Table

namespace Channels

variable {channels : Channels} {table : Table}

theorem unplaced_find {among : List Channel} {tag : String} {payload : Designator} :
    find (unplaced among) tag payload = unplaced (find among tag payload) := by
  cases payload with
  | text name => exact unplaced_find? fun _ => rfl
  | cls kind => exact unplaced_findSome? fun _ => unplaced_ofKind

theorem unplaced_select {direction : Direction} {target payload : Designator} :
    (unplaced channels).select (unplaced table) direction target payload =
      (channels.select table direction target payload).map unplaced := by
  have found {tags : List String} :
      (tags.filterMap fun tag => (find ((unplaced channels).along direction) tag payload).map
          fun channel => (tag, channel)) =
        unplaced (tags.filterMap fun tag => (find (channels.along direction) tag payload).map
          fun channel => (tag, channel)) := by
    show _ = List.map unplaced _
    rw [List.map_filterMap, unplaced_along]
    refine congrArg (List.filterMap · tags) (funext fun tag => ?_)
    rw [unplaced_find]
    cases find (channels.along direction) tag payload <;> rfl
  unfold select
  rw [Table.unplaced_tagsFor]
  rcases table.tagsFor target with error | tags
  · cases error <;> rfl
  · dsimp only
    rw [found]
    generalize (tags.filterMap fun tag => (find (channels.along direction) tag payload).map
      fun channel => (tag, channel)) = selected
    cases selected <;> rfl

end Channels

namespace Table

open Operation.Relocates

variable {table : Table} {channels : Option Channels}

theorem push_relocates {target : Designator} {message : Value} :
    (table.push channels target message).Relocates
      ((unplaced table).push (unplaced channels) target message) := by
  refine requireChannels_relocates.bind fun _ => enterPending_relocates.bind fun _ =>
    (ofExcept Channels.unplaced_select).bind fun _ => activeChannel_relocates.bind fun chosen => ?_
  obtain ⟨channel, data⟩ := chosen
  exact reportMessage_relocates.bind fun _ => demand.bind fun _ => pure rfl

theorem poll_relocates {target payload : Designator} :
    (table.poll channels target payload).Relocates
      ((unplaced table).poll (unplaced channels) target payload) := by
  refine requireChannels_relocates.bind fun _ => enterPending_relocates.bind fun _ =>
    (ofExcept Channels.unplaced_select).bind fun _ => activeChannel_relocates.bind fun chosen => ?_
  obtain ⟨channel, data⟩ := chosen
  refine demand.bind fun message => ?_
  show Operation.Relocates _ (if message.isNull then _ else _)
  split
  · exact pure rfl
  · exact reportMessage_relocates.bind fun _ => pure rfl

/-- Whatever is wanted of a machine, one without places does the same and asks for the same. -/
theorem operation_relocates {call : Call} :
    (call.operation table channels).Relocates (call.operation (unplaced table) (unplaced channels)) := by
  cases call with
  | start data => exact start_relocates.map fun _ => rfl
  | step => exact step_relocates.map fun _ => rfl
  | stop => exact stop_relocates.map fun _ => rfl
  | reset => exact reset_relocates.map fun _ => rfl
  | peek =>
    refine map (slot.bind fun slot => ?_) fun _ => rfl
    rw [show unplaced slot = slot from rfl, unplaced_peek]
    exact ofExcept (by cases table.peek slot <;> rfl)
  | isState target =>
    refine map (slot.bind fun slot => ?_) fun _ => rfl
    rw [show unplaced slot = slot from rfl, unplaced_isState]
    exact ofExcept (by cases table.isState slot target <;> rfl)
  | push target message => exact push_relocates.map fun _ => rfl
  | poll target payload => exact poll_relocates.map fun _ => rfl

/-- Nobody can tell machines of the one table and channels from machines of the other. They are
    created and described alike, and whatever is wanted of them they ask the same of others, get on
    alike with every answer and end alike. Only the places of what they ask about may differ. -/
structure Resembles (table table' : Table) (channels channels' : Option Channels) : Prop where
  create : ∀ data, table.create data = table'.create data
  describe : ∀ name slot, table.describe name slot = table'.describe name slot
  calls : ∀ (call : Call) slot,
    (call.operation table channels slot).moved = (call.operation table' channels' slot).moved

theorem resembles_of_unplaced {table' : Table} {channels' : Option Channels}
    (tables : unplaced table = unplaced table') (passages : unplaced channels = unplaced channels') :
    table.Resembles table' channels channels' where
  create data := by rw [← unplaced_create, tables, unplaced_create]
  describe name slot := by rw [← unplaced_describe, tables, unplaced_describe]
  calls call slot := by rw [← operation_relocates slot, ← operation_relocates slot, tables, passages]

end Table

end MachineSpec
