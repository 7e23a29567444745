/-
MachineSpec.Proofs.Regime — invariants that hold at every request.

A property that holds at every request has to be carried through every function of the
engine, past every request, and for a slot that callbacks may have changed. This module does
so once. A `Regime` states what holds of the slot between operations, when nothing is
pending, and while data is out of it; how it may change during a request; and which data
belongs to which tag. Its proof obligations are the places where the engine moves data from
one of these conditions to another. The property itself is a parameter.

* `Regime.terms`: at every request no answer so far was at fault, and the data of the
  request belongs to its tag; a failure comes from the last answer.
* `Regime.performs`: all calls of a machine keep to these terms.
-/
import MachineSpec.Proofs.Blame
import MachineSpec.Proofs.Interference

namespace MachineSpec

/-! ## 1. Regimes -/

/-- The data of a state that a request is about, with the tag of the state. -/
def Request.owner? : Request → Option (String × Value)
  | .guard transition data | .convert transition data => some (transition.source.tag, data)
  | .convertFailed tag _ data => some (tag, data)
  | request => request.subject?

/-- Whether a request carries a message. -/
def Request.isMessage : Request → Bool
  | .deliver .. | .produce .. => true
  | _ => false

/-- What is known of a machine that others may use while it calls upon them. -/
structure Regime (table : Table) where
  /-- What may become of the slot while a request is open. -/
  rely : Request → Slot → Slot → Prop
  /-- What holds of the slot while a callback runs that may change it. -/
  idle : Slot → Prop
  /-- What is known of it when no entry is pending. -/
  ready : Slot → Prop
  /-- What is known of it while its data is dealt with. -/
  busy : Slot → Prop
  /-- Which data belongs to a tag. -/
  place : String → Value → Prop
  still : ∀ request slot, rely request slot slot
  trans : ∀ {request slot middle final}, rely request slot middle → rely request middle final →
    rely request slot final
  idle_rely : ∀ {request slot final}, rely request slot final → idle slot → idle final
  /-- Nothing but a message is carried while the data is in the slot. -/
  busy_rely : ∀ {request slot final}, request.isMessage = false → rely request slot final →
    busy slot → busy final
  held : ∀ {request slot final data}, request.isMessage = false → rely request slot final →
    busy slot → place slot.tag data → place final.tag data
  known : ∀ {slot}, idle slot → table.Knows slot.tag
  known_place : ∀ {tag data}, place tag data → table.Knows tag
  idle_of_ready : ∀ {slot}, ready slot → idle slot
  idle_of_busy : ∀ {slot}, busy slot → idle slot
  created : ∀ {given slot}, table.create given = .ok slot → idle slot
  fresh : idle (.fresh table)
  /-- A start makes the machine run, with nothing in the slot yet. -/
  begins : ∀ {slot}, idle slot → slot.running = false →
    busy { slot with running := true, pending := false, tag := table.machine.initial.tag }
  starts : ∀ {data}, table.checkInitial data = .ok () → place table.machine.initial.tag data
  owes : ∀ {slot}, idle slot → ready { slot with pending := false }
  out : ∀ {slot}, ready slot → slot.running = true → slot.data.isNull = false →
    busy { slot with data := .null } ∧ place slot.tag slot.data
  back : ∀ {slot} {entry : Entry}, busy slot → place entry.tag entry.data →
    ready { slot with tag := entry.tag, data := entry.data }
  /-- A transition leads from data that belongs to its source to data that belongs to its
      destination, if that is of the right class or types are not checked. -/
  moves : ∀ {block data transition target made}, block ∈ table.blocks → place block.tag data →
    transition ∈ block.transitions → table.block? transition.destination.tag = some target →
    (table.checkTypes = true → made.isA target.kind = true) → place target.tag made
  fails : ∀ {route made}, table.failure = some route →
    (table.checkTypes = true → made.isA route.errorBlock.kind = true) →
    place route.errorBlock.tag made

namespace Regime

open Operation Table

variable {table : Table} {α β : Type}

/-- The snapshot of a stop has data that belongs to its tag, and the class bound to that. -/
def Shows (regime : Regime table) (snapshot : Snapshot) : Prop :=
  regime.place snapshot.tag snapshot.data ∧
    ∃ block, table.block? snapshot.tag = some block ∧ snapshot.kind = block.kind

/-- The terms of a regime. -/
def terms (regime : Regime table) : Terms where
  rely := regime.rely
  steady := regime.idle
  asks request past := table.Unharmed past ∧
    ∀ tag data, request.owner? = some (tag, data) → regime.place tag data
  returns call reply past := table.Unharmed past ∧
    ∀ snapshot, call = .stop → reply = .snapshot snapshot → regime.Shows snapshot
  fails failure past := table.Blamed failure past
  still := regime.still
  trans := regime.trans
  steady_rely := regime.idle_rely

/-- No answer so far was at fault, and this is known of the slot. -/
def At (_ : Regime table) (slotted : Slot → Prop) : Assertion := fun past slot =>
  table.Unharmed past ∧ slotted slot

/-- The operation failed, and something can be blamed for it. -/
def Fallen (regime : Regime table) (failure : Failure) : Assertion := fun past slot =>
  regime.idle slot ∧ table.Blamed failure past

variable {regime : Regime table} {slotted : Slot → Prop} {request : Request}

/-! ## 2. Requests -/

/-- An operation that fails upon an answer at fault, and continues only upon others, keeps to the
    terms. -/
theorem attempted {next : Answer → Operation α} {after : α → Assertion}
    (idle : ∀ slot, slotted slot → regime.idle slot)
    (stays : ∀ slot final, regime.rely request slot final → slotted slot → slotted final)
    (placed : ∀ tag data, request.owner? = some (tag, data) → regime.place tag data)
    (goes : ∀ answer, table.fault (request, answer) = none →
      (next answer).Secure regime.terms (regime.At slotted) after regime.Fallen)
    (ends : ∀ answer failure, table.fault (request, answer) = some failure →
      next answer = Operation.fail failure) :
    (Operation.attempt request >>= next).Secure regime.terms (regime.At slotted) after
      regime.Fallen := by
  have asked : (Operation.attempt request).Secure regime.terms (regime.At slotted)
      (fun answer past slot => slotted slot ∧
        ∃ before, past = before ++ [(request, answer)] ∧ table.Unharmed before) regime.Fallen :=
    Secure.attempt (fun _ slot holds => idle slot holds.2) (fun _ _ holds => ⟨holds.1, placed⟩)
      (fun past slot answer final holds relied =>
        ⟨stays slot final relied holds.2, past, rfl, holds.1⟩)
  refine asked.bind fun answer => ?_
  rintro _ slot ⟨here, before, rfl, unharmed⟩
  cases faulty : table.fault (request, answer) with
  | none => exact goes answer faulty ⟨unharmed.snoc faulty, here⟩
  | some failure =>
    rw [ends answer failure faulty]
    exact ⟨idle slot here, unharmed.blamed faulty⟩

/-- The same of a demand. An exception ends it, so it has to be at fault. -/
theorem demanded {next : Value → Operation α} {after : α → Assertion}
    (idle : ∀ slot, slotted slot → regime.idle slot)
    (stays : ∀ slot final, regime.rely request slot final → slotted slot → slotted final)
    (placed : ∀ tag data, request.owner? = some (tag, data) → regime.place tag data)
    (raises : ∀ exception, table.fault (request, .error exception) = some (.raised exception))
    (goes : ∀ value, table.fault (request, .ok value) = none →
      (next value).Secure regime.terms (regime.At slotted) after regime.Fallen)
    (ends : ∀ value failure, table.fault (request, .ok value) = some failure →
      next value = Operation.fail failure) :
    (Operation.demand request >>= next).Secure regime.terms (regime.At slotted) after
      regime.Fallen := by
  rw [Operation.demand, bind_assoc]
  refine attempted idle stays placed (fun answer harmless => ?_) (fun answer failure faulty => ?_)
  · cases answer with
    | ok value => exact goes value harmless
    | error exception =>
      rw [raises exception] at harmless
      cases harmless
  · cases answer with
    | ok value => exact ends value failure faulty
    | error exception =>
      rw [raises exception] at faulty
      cases faulty
      rfl

/-- Whatever is answered to a report, it is not at fault unless it is an exception. -/
theorem reported {enabled : Bool} {line : String}
    (idle : ∀ slot, slotted slot → regime.idle slot)
    (stays : ∀ slot final, regime.rely (.report enabled line) slot final → slotted slot →
      slotted final) :
    (do let _ ← demand (.report enabled line) : Operation Unit).Secure regime.terms
      (regime.At slotted) (fun _ => regime.At slotted) regime.Fallen :=
  demanded idle stays nofun (fault_foreign rfl) (fun _ _ => .pure fun _ _ holds => holds) nofun

/-! ## 3. Dealing with data -/

/-- The operation keeps to the terms while data is out of the slot, and its results are good. -/
def Handles (regime : Regime table) (operation : Operation α) (good : α → Prop) : Prop :=
  operation.Secure regime.terms (regime.At regime.busy)
    (fun a past slot => regime.At regime.busy past slot ∧ good a) regime.Fallen

namespace Handles

variable {good : α → Prop} {fine : β → Prop}

theorem pure {a : α} (h : good a) : regime.Handles (Pure.pure a) good :=
  Secure.pure fun _ _ holds => ⟨holds, h⟩

theorem bind {operation : Operation α} {next : α → Operation β} (h : regime.Handles operation good)
    (hn : ∀ a, good a → regime.Handles (next a) fine) : regime.Handles (operation >>= next) fine :=
  Secure.bind h fun a => .given fun ha => hn a ha

theorem attempt {next : Answer → Operation α} (speechless : request.isMessage = false)
    (placed : ∀ tag data, request.owner? = some (tag, data) → regime.place tag data)
    (goes : ∀ answer, table.fault (request, answer) = none → regime.Handles (next answer) good)
    (ends : ∀ answer failure, table.fault (request, answer) = some failure →
      next answer = Operation.fail failure) :
    regime.Handles (Operation.attempt request >>= next) good :=
  attempted (fun _ => regime.idle_of_busy) (fun _ _ => regime.busy_rely speechless) placed goes ends

theorem demand {next : Value → Operation α} (speechless : request.isMessage = false)
    (placed : ∀ tag data, request.owner? = some (tag, data) → regime.place tag data)
    (raises : ∀ exception, table.fault (request, .error exception) = some (.raised exception))
    (goes : ∀ value, table.fault (request, .ok value) = none → regime.Handles (next value) good)
    (ends : ∀ value failure, table.fault (request, .ok value) = some failure →
      next value = Operation.fail failure) :
    regime.Handles (Operation.demand request >>= next) good :=
  demanded (fun _ => regime.idle_of_busy) (fun _ _ => regime.busy_rely speechless) placed raises
    goes ends

theorem report {enabled : Bool} {line : String} :
    regime.Handles (do let _ ← Operation.demand (.report enabled line) : Operation Unit)
      fun _ => True :=
  Secure.mono (reported (fun _ => regime.idle_of_busy) (fun _ _ => regime.busy_rely rfl))
    (fun _ _ holds => holds) (fun _ _ _ holds => ⟨holds, trivial⟩) (fun _ _ _ fallen => fallen)

end Handles

/-! A request that calls upon data of a state: nobody carries a message, the data is that of its
owner, and no result is at fault. -/

section

variable {tag : String} {data : Value} (subject : request.subject? = some (tag, data))
include subject

theorem speechless_of_subject : request.isMessage = false := by
  cases request <;> first | rfl | cases subject

theorem placed_of_subject (placed : regime.place tag data) :
    ∀ tag data, request.owner? = some (tag, data) → regime.place tag data := by
  have owner : request.owner? = some (tag, data) := by
    cases request <;> first | exact subject | cases subject
  rintro _ _ same
  rw [owner] at same
  cases same
  exact placed

theorem harmless_of_subject (value : Value) : table.fault (request, .ok value) = none := by
  cases request <;> first | rfl | cases subject

end

variable {route : FailureRoute} {data : Value}

theorem callErrorState_handles (fallible : table.failure = some route)
    (subject : request.subject? = some (route.errorBlock.tag, data))
    (placed : regime.place route.errorBlock.tag data) :
    regime.Handles (callErrorState route request) fun _ => True := by
  refine Handles.attempt (speechless_of_subject subject) (placed_of_subject subject placed)
    (fun answer harmless => ?_) (fun answer failure faulty => ?_)
  · cases answer with
    | ok value => exact .pure trivial
    | error exception =>
      rw [fault_subject fallible subject] at harmless
      split at harmless <;> simp at harmless
  · cases answer with
    | ok value =>
      rw [harmless_of_subject subject] at faulty
      cases faulty
    | error exception =>
      rw [fault_subject fallible subject, if_pos rfl] at faulty
      dsimp only
      split at faulty
      · rename_i failed
        cases faulty
        rw [if_pos failed]
        rfl
      · rename_i foreign
        cases faulty
        rw [if_neg foreign]

/-- If types are checked, a result that is not at fault is of the right class. -/
theorem fits_of_harmless {kind : Class} {made : Value} {failure : Failure}
    (harmless : (if table.checkTypes && !made.isA kind then some failure else none) = none)
    (checks : table.checkTypes = true) : made.isA kind = true := by
  simpa [checks] using harmless

variable (sound : table.Sound)
include sound

theorem redirect_handles (fallible : table.failure = some route) {failed : Block}
    (mem : failed ∈ table.blocks) (other : failed.tag ≠ route.errorBlock.tag)
    (placed : regime.place failed.tag data) {exception : Value} :
    regime.Handles (table.redirect route failed data exception)
      fun entry => regime.place entry.tag entry.data := by
  obtain ⟨conversion, converts⟩ := sound.conversions route fallible failed mem other
  have known := sound.block?_of_tag mem
  rw [redirect_eq converts]
  refine Handles.demand rfl nofun (fault_foreign rfl) (fun _ _ => ?_) nofun
  refine Handles.demand rfl (by rintro _ _ ⟨⟩; exact placed) (fault_foreign rfl)
    (fun made harmless => ?_) (fun made failure faulty => ?_)
  · rw [fault_convertFailed fallible known] at harmless
    have made := regime.fails fallible (fits_of_harmless harmless)
    split at harmless
    · cases harmless
    · rename_i fits
      rw [if_neg fits]
      refine Handles.demand rfl nofun (fault_foreign rfl) (fun _ _ => ?_) nofun
      exact (callErrorState_handles fallible rfl made).bind fun _ _ => .pure made
  · rw [fault_convertFailed fallible known] at faulty
    split at faulty
    · rename_i unfit
      cases faulty
      rw [if_pos unfit]
      rfl
    · cases faulty

theorem call_handles {owner : Block} (mem : owner ∈ table.blocks)
    (subject : request.subject? = some (owner.tag, data)) (placed : regime.place owner.tag data) :
    regime.Handles (table.call owner data request)
      fun result => ∀ entry ∈ result, regime.place entry.tag entry.data := by
  have speechless := speechless_of_subject subject
  have owned := placed_of_subject subject placed
  unfold Table.call
  split
  · rename_i plain
    refine Handles.demand speechless owned (fault_plain plain request)
      (fun _ _ => .pure (by simp)) (fun value _ faulty => ?_)
    rw [harmless_of_subject subject] at faulty
    cases faulty
  · rename_i route fallible
    split
    · rename_i same
      exact (callErrorState_handles fallible (same ▸ subject) (same ▸ placed)).bind
        fun _ _ => .pure (by simp)
    · rename_i other
      refine Handles.attempt speechless owned (fun answer harmless => ?_)
        (fun answer failure faulty => ?_)
      · cases answer with
        | ok value => exact .pure (by simp)
        | error exception =>
          rw [fault_subject fallible subject] at harmless
          dsimp only
          split at harmless
          · rename_i failed
            rw [if_pos failed]
            exact (redirect_handles sound fallible mem other placed).bind fun entry hentry =>
              .pure (by simpa using hentry)
          · cases harmless
      · cases answer with
        | ok value =>
          rw [harmless_of_subject subject] at faulty
          cases faulty
        | error exception =>
          rw [fault_subject fallible subject, if_neg other] at faulty
          dsimp only
          split at faulty
          · cases faulty
          · rename_i foreign
            cases faulty
            rw [if_neg foreign]

variable {block : Block} (mem : block ∈ table.blocks) (placed : regime.place block.tag data)
include mem placed

theorem callHook_handles {stage : Stage} :
    regime.Handles (table.callHook block stage data)
      fun result => ∀ entry ∈ result, regime.place entry.tag entry.data :=
  call_handles sound mem rfl placed

theorem enter_handles {reporting : Bool} :
    regime.Handles (table.enter block data reporting)
      fun entry => regime.place entry.tag entry.data := by
  refine (callHook_handles sound mem placed).bind fun result hresult => ?_
  cases result with
  | some entry => exact .pure (hresult entry rfl)
  | none =>
    dsimp only
    split
    · exact Handles.report.bind fun _ _ => .pure placed
    · exact .pure placed

theorem runActions_handles {transitions : List Transition}
    (subset : transitions ⊆ block.transitions) :
    regime.Handles (table.runActions block data transitions)
      fun result => ∀ entry ∈ result, regime.place entry.tag entry.data := by
  induction transitions with
  | nil => exact .pure (by simp)
  | cons transition rest ih =>
    have source := sound.source_tag mem (subset (List.mem_cons_self ..))
    have acts : regime.Handles (table.call block data (.action transition data))
        fun result => ∀ entry ∈ result, regime.place entry.tag entry.data :=
      call_handles sound mem (by simp [Request.subject?, source]) placed
    refine acts.bind fun result hresult => ?_
    cases result with
    | some entry => exact .pure hresult
    | none => exact ih fun _ h => subset (List.mem_cons_of_mem _ h)

theorem leave_handles : regime.Handles (table.leave block data)
    fun result => ∀ entry ∈ result, regime.place entry.tag entry.data := by
  refine (callHook_handles sound mem placed).bind fun result hresult => ?_
  cases result with
  | some entry => exact .pure hresult
  | none => exact runActions_handles sound mem placed (List.Subset.refl _)

theorem retire_handles : regime.Handles (table.retire block data)
    fun entry => regime.place entry.tag entry.data := by
  refine (leave_handles sound mem placed).bind fun result hresult => ?_
  cases result with
  | some entry => exact .pure (hresult entry rfl)
  | none => exact Handles.report.bind fun _ _ => .pure placed

theorem take_handles {transition : Transition} (ht : transition ∈ block.transitions) :
    regime.Handles (table.take block transition data)
      fun entry => regime.place entry.tag entry.data := by
  have source := sound.source_tag mem ht
  obtain ⟨target, known⟩ := sound.block?_of_transition mem ht
  refine (leave_handles sound mem placed).bind fun result hresult => ?_
  cases result with
  | some entry => exact .pure (hresult entry rfl)
  | none =>
    refine Handles.report.bind fun _ _ => Handles.report.bind fun _ _ => ?_
    rw [block_found known, pure_bind]
    refine Handles.demand rfl (by rintro _ _ ⟨⟩; rw [source]; exact placed) (fault_foreign rfl)
      (fun made harmless => ?_) (fun made failure faulty => ?_)
    · rw [fault_convert known] at harmless
      have arrives := regime.moves mem placed ht known (fits_of_harmless harmless)
      split at harmless
      · cases harmless
      · rename_i fits
        rw [if_neg fits]
        exact enter_handles sound (mem_of_block? known) arrives
    · rw [fault_convert known] at faulty
      split at faulty
      · rename_i unfit
        cases faulty
        rw [if_pos unfit]
        rfl
      · cases faulty

theorem choose_handles {transitions : List Transition}
    (subset : transitions ⊆ block.transitions) :
    regime.Handles (choose data transitions)
      fun chosen => ∀ transition ∈ chosen, transition ∈ block.transitions := by
  induction transitions with
  | nil => exact .pure (by simp)
  | cons transition rest ih =>
    have ht := subset (List.mem_cons_self ..)
    have source := sound.source_tag mem ht
    refine Handles.demand rfl (by rintro _ _ ⟨⟩; rw [source]; exact placed) (fault_foreign rfl)
      (fun answer harmless => ?_) (fun answer failure faulty => ?_)
    · rw [fault_guard] at harmless
      cases given : answer.verdict? with
      | none =>
        rw [given] at harmless
        cases harmless
      | some verdict =>
        rw [Guard.coerce_some given]
        cases verdict with
        | transit => exact .pure (by simpa using ht)
        | remain => exact ih fun _ h => subset (List.mem_cons_of_mem _ h)
    · rw [fault_guard] at faulty
      cases given : answer.verdict? with
      | none =>
        rw [given] at faulty
        cases faulty
        rw [Guard.coerce_none given]
        rfl
      | some verdict =>
        rw [given] at faulty
        cases faulty

theorem run_handles : regime.Handles (table.run block data)
    fun entry => regime.place entry.tag entry.data := by
  refine Handles.report.bind fun _ _ => ?_
  refine (callHook_handles sound mem placed).bind fun result hresult => ?_
  cases result with
  | some entry => exact .pure (hresult entry rfl)
  | none =>
    refine (choose_handles sound mem placed (List.Subset.refl _)).bind fun chosen hchosen => ?_
    cases chosen with
    | some transition => exact take_handles sound mem placed (hchosen transition rfl)
    | none => exact .pure placed

omit mem placed

/-! ## 4. Operations -/

omit sound

/-- Data that was taken out belongs to the tag of the slot. -/
theorem takeData_secure {tag : String} :
    table.takeData.Secure regime.terms (regime.At fun slot => regime.ready slot ∧ slot.tag = tag)
      (fun data past slot => regime.At (fun slot => regime.busy slot ∧ slot.tag = tag) past slot ∧
        regime.place tag data) regime.Fallen := by
  refine .look fun now => ?_
  split
  · exact Secure.fail fun _ slot holds =>
      ⟨regime.idle_of_ready holds.1.2.1, holds.1.1.declined rfl⟩
  · rename_i full
    refine Secure.bind (Secure.change (fun _ past slot =>
      regime.At (fun slot => regime.busy slot ∧ slot.tag = tag) past slot ∧
        regime.place tag now.data) ?_) fun _ => .pure fun _ _ holds => holds
    rintro past slot ⟨⟨unharmed, ready, rfl⟩, rfl⟩
    obtain ⟨running, present⟩ : slot.running = true ∧ slot.data.isNull = false := by
      simpa using full
    obtain ⟨busy, placed⟩ := regime.out ready running present
    exact ⟨⟨unharmed, busy, rfl⟩, placed⟩

/-- What came of the data is put back. -/
theorem settle_secure {entry : Entry} (placed : regime.place entry.tag entry.data) :
    (settle entry).Secure regime.terms (regime.At regime.busy) (fun _ => regime.At regime.ready)
      regime.Fallen :=
  .change _ fun _ _ holds => ⟨holds.1, regime.back holds.2 placed⟩

/-- Where nothing is pending, other calls may change the slot. -/
theorem idle_of_ready_at {past : Course} {slot : Slot} (holds : regime.At regime.ready past slot) :
    regime.At regime.idle past slot :=
  ⟨holds.1, regime.idle_of_ready holds.2⟩

/-- Where nothing is pending, there is no deferred entry. -/
theorem ready_of_idle {slot : Slot} (idle : regime.idle slot) (settled : slot.pending = false) :
    regime.ready slot := by
  have ready := regime.owes idle
  rwa [← settled] at ready

include sound

theorem start_secure {data : Value} :
    (table.start data).Secure regime.terms (regime.At regime.idle) (fun _ => regime.At regime.idle)
      regime.Fallen := by
  refine .look fun now => ?_
  split
  · exact Secure.fail fun _ slot holds => ⟨holds.1.2, holds.1.1.declined rfl⟩
  · rename_i stopped
    cases check : table.checkInitial data with
    | error error =>
      exact Secure.fail fun _ slot holds =>
        ⟨holds.1.2, holds.1.1.declined (checkInitial_error sound check)⟩
    | ok _ =>
      obtain ⟨block, initial⟩ := sound.initial_block
      have placed := regime.starts check
      rw [← tag_of_block? initial] at placed
      rw [ofExcept_ok, pure_bind, block_found initial]
      refine Secure.bind (Secure.change (fun _ => regime.At regime.busy) ?_) fun _ => ?_
      · rintro past slot ⟨⟨unharmed, idle⟩, rfl⟩
        exact ⟨unharmed, regime.begins idle (by simpa using stopped)⟩
      · rw [pure_bind]
        refine Secure.bind (enter_handles sound (mem_of_block? initial) placed) fun entry =>
          .given fun settled => (settle_secure settled).bind fun _ => ?_
        exact (reported (fun _ h => h) fun _ _ => regime.idle_rely).mono
          (fun _ _ => idle_of_ready_at) (fun _ _ _ h => h) (fun _ _ _ h => h)

theorem enterPending_secure :
    table.enterPending.Secure regime.terms (regime.At regime.idle) (fun _ => regime.At regime.ready)
      regime.Fallen := by
  refine .look fun now => ?_
  split
  · refine Secure.bind (Secure.change (fun _ => regime.At regime.ready) ?_) fun _ =>
      .look ?_
    · rintro past slot ⟨⟨unharmed, idle⟩, -⟩
      exact ⟨unharmed, regime.owes idle⟩
    · rintro _ past slot ⟨⟨unharmed, ready⟩, rfl⟩
      obtain ⟨block, known⟩ := regime.known (regime.idle_of_ready ready)
      rw [block_found known, pure_bind]
      refine Secure.bind takeData_secure (fun data => .given fun placed => ?_)
        ⟨unharmed, ready, (tag_of_block? known).symm⟩
      refine Secure.bind ?_ fun entry => .given fun settled =>
        (settle_secure settled).bind fun _ => .pure fun _ _ holds => holds
      exact Secure.mono (enter_handles sound (mem_of_block? known) placed)
        (fun _ _ holds => ⟨holds.1, holds.2.1⟩) (fun _ _ _ h => h) (fun _ _ _ h => h)
  · rename_i settled
    refine .pure ?_
    rintro past slot ⟨⟨unharmed, idle⟩, rfl⟩
    exact ⟨unharmed, ready_of_idle idle (by simpa using settled)⟩

theorem step_secure :
    table.step.Secure regime.terms (regime.At regime.idle) (fun _ => regime.At regime.idle)
      regime.Fallen := by
  refine (enterPending_secure sound).bind fun elsewhere => ?_
  split
  · exact .pure fun _ _ => idle_of_ready_at
  · rintro past slot ⟨unharmed, ready⟩
    obtain ⟨block, known⟩ := regime.known (regime.idle_of_ready ready)
    refine Secure.bind takeData_secure (fun data => .given fun placed => .look ?_)
      ⟨unharmed, ready, (tag_of_block? known).symm⟩
    rintro _ past slot ⟨⟨unharmed, busy, same⟩, rfl⟩
    have mem := mem_of_block? known
    rw [same, block_found (sound.block?_of_tag mem), pure_bind]
    refine Secure.bind (run_handles sound mem placed) (fun entry => .given fun settled => ?_)
      ⟨unharmed, busy⟩
    exact (settle_secure settled).mono (fun _ _ h => h) (fun _ _ _ => idle_of_ready_at)
      (fun _ _ _ h => h)

/-- A stop returns data that belongs to its tag. -/
theorem stop_secure :
    table.stop.Secure regime.terms (regime.At regime.idle)
      (fun snapshot past slot => regime.At regime.idle past slot ∧ regime.Shows snapshot)
      regime.Fallen := by
  refine (enterPending_secure sound).bind fun _ => .look fun now => ?_
  split
  · refine Secure.bind (Secure.change (fun _ => regime.At regime.idle) ?_) fun _ => ?_
    · rintro past slot ⟨⟨unharmed, -⟩, -⟩
      exact ⟨unharmed, regime.fresh⟩
    · exact Secure.fail fun _ _ holds => ⟨holds.2, holds.1.declined rfl⟩
  · rintro past slot ⟨⟨unharmed, ready⟩, -⟩
    refine Secure.bind takeData_secure (fun data => .given fun placed => ?_)
      ⟨unharmed, ready, rfl⟩
    -- whoever is told of the stop may touch the slot, so its tag is looked up behind that
    have told : (table.reportLife "Stop" "").Secure regime.terms
        (regime.At fun slot => regime.busy slot ∧ regime.place slot.tag data)
        (fun _ => regime.At fun slot => regime.busy slot ∧ regime.place slot.tag data)
        regime.Fallen :=
      reported (fun _ h => regime.idle_of_busy h.1)
        fun _ _ relied h => ⟨regime.busy_rely rfl relied h.1, regime.held rfl relied h.1 h.2⟩
    refine Secure.bind (told.mono ?_ (fun _ _ _ h => h) (fun _ _ _ h => h)) fun _ => .look ?_
    · rintro past slot ⟨unharmed, busy, same⟩
      exact ⟨unharmed, busy, same.symm ▸ placed⟩
    · rintro _ past slot ⟨⟨unharmed, busy, placed⟩, rfl⟩
      obtain ⟨block, known⟩ := regime.known (regime.idle_of_busy busy)
      rw [← tag_of_block? known] at placed
      rw [block_found known, pure_bind]
      refine Secure.bind (retire_handles sound (mem_of_block? known) placed)
        (fun entry => .given fun left => ?_) ⟨unharmed, busy⟩
      obtain ⟨last, found⟩ := regime.known_place left
      refine Secure.bind (Secure.change (fun _ => regime.At regime.idle) fun _ _ holds =>
        ⟨holds.1, regime.fresh⟩) fun _ => ?_
      rw [block_found found, pure_bind]
      exact .pure fun _ _ holds => ⟨holds, left, last, found, rfl⟩

omit sound

/-! ## 5. Looking and messages -/

/-- The operation keeps to the terms from one idle moment to another. -/
def Serves (regime : Regime table) (operation : Operation α) : Prop :=
  operation.Secure regime.terms (regime.At regime.idle) (fun _ => regime.At regime.idle)
    regime.Fallen

namespace Serves

theorem pure {a : α} : regime.Serves (Pure.pure a) := Secure.pure fun _ _ holds => holds

theorem bind {operation : Operation α} {next : α → Operation β} (h : regime.Serves operation)
    (hn : ∀ a, regime.Serves (next a)) : regime.Serves (operation >>= next) :=
  Secure.bind h hn

theorem refuse {error : Error} (declines : error.declines = true) :
    regime.Serves (Operation.refuse error : Operation α) :=
  Secure.fail fun _ _ holds => ⟨holds.2, holds.1.declined declines⟩

theorem ofExcept {result : Except Error α}
    (h : ∀ error, result = .error error → error.declines = true) :
    regime.Serves (Operation.ofExcept result) := by
  cases result with
  | ok a => exact pure
  | error error => exact refuse (h error rfl)

/-- Whoever looks at an idle machine finds a tag that is known. -/
theorem look {next : Slot → Operation α}
    (h : ∀ slot, table.Knows slot.tag → regime.Serves (next slot)) :
    regime.Serves (Operation.slot >>= next) :=
  Secure.look fun now _ _ holds => by
    obtain ⟨⟨unharmed, idle⟩, rfl⟩ := holds
    exact h _ (regime.known idle) ⟨unharmed, idle⟩

theorem demand (ownerless : request.owner? = none) (subject : request.subject? = none)
    (harmless : ∀ value, table.fault (request, .ok value) = none) {next : Value → Operation α}
    (goes : ∀ value, regime.Serves (next value)) :
    regime.Serves (Operation.demand request >>= next) := by
  refine demanded (fun _ h => h) (fun _ _ => regime.idle_rely) ?_ (fault_foreign subject)
    (fun value _ => goes value) ?_
  · rw [ownerless]
    exact nofun
  · intro value failure faulty
    rw [harmless value] at faulty
    cases faulty

theorem report {enabled : Bool} {line : String} :
    regime.Serves (do let _ ← Operation.demand (.report enabled line) : Operation Unit) :=
  reported (fun _ h => h) fun _ _ => regime.idle_rely

end Serves

theorem activeChannel_serves {found : List (String × Channel)} {target : Designator}
    {rejected : Value} : regime.Serves (table.activeChannel found target rejected) := by
  refine .look fun slot known => ?_
  refine (Serves.ofExcept fun error h => absurd h (peek_error known)).bind fun active => ?_
  split
  · split
    · exact .refuse rfl
    · exact .pure
  · exact .refuse rfl

theorem pushed_serves {channels : Channels} {target : Designator} {message : Value} :
    regime.Serves (table.pushed channels target message) := by
  refine (Serves.ofExcept fun error h => select_error h).bind fun found => ?_
  refine activeChannel_serves.bind fun (channel, data) => ?_
  exact Serves.report.bind fun _ => .demand rfl rfl (fun _ => rfl) fun _ => .pure

theorem polled_serves {channels : Channels} {target payload : Designator} :
    regime.Serves (table.polled channels target payload) := by
  refine (Serves.ofExcept fun error h => select_error h).bind fun found => ?_
  refine activeChannel_serves.bind fun (channel, data) => ?_
  refine .demand rfl rfl (fun _ => rfl) fun message => ?_
  split
  · exact .pure
  · exact Serves.report.bind fun _ => .pure

/-! ## 6. Calls -/

/-- All that matters of most calls is that they serve. -/
theorem Serves.performs {operation : Operation α} (h : regime.Serves operation) (call : Call)
    (other : call ≠ .stop) {reply : α → Reply} :
    (reply <$> operation).Secure regime.terms (fun past slot => past = [] ∧ regime.idle slot)
      (fun reply past slot => regime.idle slot ∧ regime.terms.returns call reply past)
      regime.Fallen := by
  refine .map (Secure.mono h ?_ ?_ fun _ _ _ h => h)
  · rintro _ slot ⟨rfl, idle⟩
    exact ⟨.nil, idle⟩
  · exact fun a past slot holds => ⟨holds.2, holds.1, fun _ stop => absurd stop other⟩

variable (sound : table.Sound)
include sound

/-- What serves may come after a pending entry. -/
theorem made_up_serves {operation : Operation α} (h : regime.Serves operation) :
    regime.Serves (table.enterPending >>= fun _ => operation) :=
  Secure.bind (enterPending_secure sound) fun _ =>
    Secure.mono h (fun _ _ => idle_of_ready_at) (fun _ _ _ holds => holds)
      (fun _ _ _ fallen => fallen)

/-- All calls keep to the terms of a regime. -/
theorem performs (call : Call) (channels : Option Channels) :
    (call.operation table channels).Secure regime.terms
      (fun past slot => past = [] ∧ regime.idle slot)
      (fun reply past slot => regime.idle slot ∧ regime.terms.returns call reply past)
      regime.Fallen := by
  cases call with
  | start data => exact Serves.performs (start_secure sound) (.start data) nofun
  | step => exact Serves.performs (step_secure sound) .step nofun
  | stop =>
    refine .map ((stop_secure sound).mono ?_ ?_ fun _ _ _ h => h)
    · rintro _ slot ⟨rfl, idle⟩
      exact ⟨.nil, idle⟩
    · rintro snapshot past slot ⟨⟨unharmed, idle⟩, shows⟩
      refine ⟨idle, unharmed, ?_⟩
      rintro _ - ⟨⟩
      exact shows
  | reset =>
    have resets : regime.Serves table.reset :=
      .change _ fun _ _ holds => ⟨holds.1, regime.fresh⟩
    exact resets.performs .reset nofun
  | peek =>
    have looks : regime.Serves (Operation.slot >>= fun slot => .ofExcept (table.peek slot)) :=
      .look fun slot known => .ofExcept fun error h => absurd h (peek_error known)
    exact looks.performs .peek nofun
  | isState target =>
    have looks : regime.Serves
        (Operation.slot >>= fun slot => .ofExcept (table.isState slot target)) :=
      .look fun slot _ => .ofExcept fun error h => isState_error h
    exact looks.performs (.isState target) nofun
  | push target message =>
    have pushes : regime.Serves (table.push channels target message) := by
      cases channels with
      | none => exact Serves.refuse rfl
      | some channels => exact made_up_serves sound pushed_serves
    exact pushes.performs (.push target message) nofun
  | poll target payload =>
    have polls : regime.Serves (table.poll channels target payload) := by
      cases channels with
      | none => exact Serves.refuse rfl
      | some channels => exact made_up_serves sound polled_serves
    exact polls.performs (.poll target payload) nofun

/-- A machine abides by a regime if the calls of callbacks do. -/
theorem abides {allows : Request → Call → Prop}
    (tolerates : ∀ request call channels slot, allows request call → regime.idle slot →
      (∀ final, regime.idle final → regime.rely request slot final) ∨
        ∃ outcome, call.operation table channels slot = .done outcome slot) :
    table.Abides regime.terms allows where
  created _ _ := regime.created
  performs := performs sound
  tolerates := tolerates

omit sound

/-! ## 7. Regimes that only look at tags -/

end Regime

/-- A property of tags that a machine never loses: the initial tag has it, and neither transitions nor
    failures lead out of it. -/
structure Table.Confines (table : Table) (holds : String → Prop) : Prop where
  known : ∀ {tag}, holds tag → table.Knows tag
  initial : holds table.machine.initial.tag
  moves : ∀ {block : Block} {transition}, block ∈ table.blocks → holds block.tag →
    transition ∈ block.transitions → holds transition.destination.tag
  fails : ∀ {route}, table.failure = some route → holds route.errorBlock.tag

/-- To have a block is such a property. -/
theorem Table.Sound.confines {table : Table} (sound : table.Sound) :
    table.Confines table.Knows where
  known := id
  initial := sound.initial_block
  moves mem _ ht := sound.block?_of_transition mem ht
  fails fallible := ⟨_, sound.errorBlock _ fallible⟩

namespace Regime

open Operation Table

variable {table : Table} {holds : String → Prop}

/-- The regime of a machine without restrictions on the calls of callbacks. -/
def ofTags (confines : table.Confines holds) : Regime table where
  rely _ slot final := holds slot.tag → holds final.tag
  idle slot := holds slot.tag
  ready slot := holds slot.tag
  busy slot := holds slot.tag
  place tag _ := holds tag
  still _ _ := id
  trans first second := fun here => second (first here)
  idle_rely relied here := relied here
  busy_rely _ relied here := relied here
  held _ relied here _ := relied here
  known := confines.known
  known_place := confines.known
  idle_of_ready := id
  idle_of_busy := id
  created made := create_tag made ▸ confines.initial
  fresh := confines.initial
  begins _ _ := confines.initial
  starts _ := confines.initial
  owes := id
  out here _ _ := ⟨here, here⟩
  back _ placed := placed
  moves mem placed ht found _ := (tag_of_block? found).symm ▸ confines.moves mem placed ht
  fails fallible _ := confines.fails fallible

/-- Whatever calls are made upon it meanwhile, a machine abides by that. -/
theorem ofTags_abides (sound : table.Sound) (confines : table.Confines holds)
    (allows : Request → Call → Prop) : table.Abides (ofTags confines).terms allows :=
  abides sound fun _ _ _ _ _ _ => .inl fun _ here _ => here

/-- Whatever a call comes to can be blamed on its last answer, or was declined. -/
theorem blame (sound : table.Sound) {call : Call} {channels : Option Channels} {slot final : Slot}
    {course : Course} {outcome : Except Failure Reply} (known : table.Knows slot.tag)
    (plays : Dialogue.Plays (call.operation table channels slot) course outcome final) :
    (∀ reply, outcome = .ok reply → table.Unharmed course) ∧
      ∀ why, outcome = .error why → table.Blamed why course := by
  have kept := ((ofTags sound.confines).performs sound call channels ⟨rfl, known⟩).plays plays
  cases outcome with
  | ok reply => exact ⟨fun _ _ => kept.2.1, nofun⟩
  | error why => exact ⟨nofun, by rintro _ ⟨⟩; exact kept.2⟩

/-- Upon an answer that is at fault a dialogue that keeps to the terms ends, with what the answer
    comes to. -/
theorem ends_of_fault {α : Type} {regime : Regime table} {ended : α → Operation.Assertion}
    {failed : Failure → Operation.Assertion} {past : Course} {request : Request} {slot : Slot}
    {resume : Answer → Slot → Dialogue α}
    (secure : (Dialogue.ask request slot resume).Secure regime.terms ended failed past)
    (returned : ∀ a past slot, ended a past slot → table.Unharmed past)
    (fallen : ∀ failure past slot, failed failure past slot → table.Blamed failure past)
    {answer : Answer} {failure : Failure} (faulty : table.fault (request, answer) = some failure) :
    ∃ final, resume answer slot = .done (.error failure) final := by
  have ends := secure.2.2 answer slot (regime.still request slot)
  have harmed : ¬ table.Unharmed (past ++ [(request, answer)]) := fun unharmed =>
    unharmed.not_fault (by simp) faulty
  cases gone : resume answer slot with
  | done outcome final =>
    rw [gone] at ends
    cases outcome with
    | ok a => exact absurd (returned _ _ _ ends) harmed
    | error other =>
      obtain ⟨-, rfl⟩ := (fallen _ _ _ ends).ends faulty
      exact ⟨final, rfl⟩
  | ask next slot resume =>
    rw [gone] at ends
    exact absurd ends.2.1.1 harmed

end Regime

namespace Table

open Dialogue

variable {table : Table} {channels : Option Channels} {call : Call} {outcome : Except Failure Reply}
  {slot final : Slot} {course before after : Course} {asked : Request × Answer}

/-- So a call ends there, whatever calls are made in the meantime. -/
theorem Lives.ends_of_fault (sound : table.Sound) {allows : Request → Call → Prop}
    {request : Request} {resume : Answer → Slot → Dialogue Reply} {waiting : List Frame}
    (lives : table.Lives allows ⟨call, .ask request slot resume, waiting⟩) {answer : Answer}
    {failure : Failure} (faulty : table.fault (request, answer) = some failure) :
    ∃ last, resume answer slot = .done (.error failure) last := by
  obtain ⟨past, secure⟩ := lives.secure (Regime.ofTags_abides sound sound.confines allows)
  exact Regime.ends_of_fault secure (fun _ _ _ ended => ended.1.2.1) (fun _ _ _ ended => ended.1.2)
    faulty

/-- Nothing is asked behind an answer that is at fault, and the call fails with what it comes to. -/
theorem fault_ends (sound : table.Sound) (known : table.Knows slot.tag) {failure : Failure}
    (plays : Plays (call.operation table channels slot) (before ++ asked :: after) outcome final)
    (faulty : table.fault asked = some failure) : after = [] ∧ outcome = .error failure := by
  obtain ⟨unharmed, blamed⟩ := Regime.blame sound known plays
  cases outcome with
  | ok reply => exact absurd faulty ((unharmed reply rfl).not_fault (by simp))
  | error other =>
    obtain ⟨rfl, rfl⟩ := (blamed other rfl).ends faulty
    exact ⟨rfl, rfl⟩

/-- Whatever state a request is about, it is one that the table knows. -/
theorem knows_owner (sound : table.Sound) (known : table.Knows slot.tag)
    (plays : Plays (call.operation table channels slot) (before ++ asked :: after) outcome final)
    {tag : String} {data : Value} (owned : asked.1.owner? = some (tag, data)) : table.Knows tag := by
  have secure := (Regime.ofTags sound.confines).performs sound call channels ⟨rfl, known⟩
  exact (secure.asked plays rfl).2 tag data owned

end Table

end MachineSpec
