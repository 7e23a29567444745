/-
MachineSpec.Proofs.Exploration — the unreachable states are those without a path.

A machine starts in its initial state and, if it is fallible, can be put into its error
state; from there it follows its transitions. `Reaches` defines reachability by paths.

`Machine.reachable` computes it in rounds. The worklist algorithm takes one tag at a time,
looks up its state, and adds the tags it finds for the first time: `Search` is its state,
and `Searches` the relation of its steps. The invariant `Covers` says that what was found is
reachable, and that the destinations of a tag already taken were found. Every tag is added
once, so every search ends, and with the same result.

The unreachable states are also logged: validation logs one warning for each machine that
has some, if warnings are switched on.

* `unreachable_iff_no_path`: both parts.
-/
import Mathlib.Data.List.Perm.Subperm
import Mathlib.Logic.Relation
import MachineSpec.Proofs.Diagnosis
import MachineSpec.Proofs.Printing
import MachineSpec.Proofs.Workshop

namespace MachineSpec

open Relation

namespace Machine

variable {machine : Machine}

/-! ## 1. Paths -/

/-- A declared transition leads from the one tag to the other. -/
def Joins (machine : Machine) (tag next : String) : Prop :=
  ∃ edge ∈ machine.edges, edge.tags = (tag, next)

/-- The states that a machine can be in without a transition: the initial one, and the one that
    takes the faults. -/
def Origin (machine : Machine) (tag : String) : Prop :=
  tag = machine.initial.tag ∨ ∃ policy ∈ machine.failure, tag = policy.errorState.tag

/-- There is a path of transitions, if only an empty one. -/
def Reaches (machine : Machine) (tag : String) : Prop :=
  ∃ origin, machine.Origin origin ∧ ReflTransGen machine.Joins origin tag

theorem mem_origins_iff {tag : String} : tag ∈ machine.origins ↔ machine.Origin tag := by
  unfold origins Origin
  cases machine.failure <;> simp [List.mem_eraseDups]

/-- The destinations of a tag are those of the transitions that leave it. -/
theorem mem_destinations_iff (closed : machine.Closed) {tag next : String} :
    next ∈ machine.destinations tag ↔ machine.Joins tag next := by
  constructor
  · intro leads
    unfold destinations at leads
    split at leads
    · cases leads
    · rename_i state found
      have same : state.tag = tag := by simpa using List.find?_some found
      rw [closed.transits state (List.mem_of_find?_eq_some found), List.map_map] at leads
      obtain ⟨edge, leaves, rfl⟩ := List.mem_map.mp leads
      obtain ⟨mem, source⟩ := List.mem_filter.mp leaves
      exact ⟨edge, mem, Prod.ext ((beq_iff_eq.mp source).trans same) rfl⟩
  · rintro ⟨edge, mem, same⟩
    cases same
    exact destination_of_edge closed mem

theorem Reaches.origin {tag : String} (mem : tag ∈ machine.origins) : machine.Reaches tag :=
  ⟨tag, mem_origins_iff.mp mem, .refl⟩

theorem Reaches.next (closed : machine.Closed) {tag next : String} (reached : machine.Reaches tag)
    (leads : next ∈ machine.destinations tag) : machine.Reaches next := by
  obtain ⟨origin, starts, path⟩ := reached
  exact ⟨origin, starts, path.tail ((mem_destinations_iff closed).mp leads)⟩

/-- What has the origins and goes along with the transitions has all that can be reached. -/
theorem Reaches.mem (closed : machine.Closed) {found : List String}
    (origins : machine.origins ⊆ found)
    (onward : ∀ tag ∈ found, machine.destinations tag ⊆ found) {tag : String}
    (reached : machine.Reaches tag) : tag ∈ found := by
  obtain ⟨origin, starts, path⟩ := reached
  induction path with
  | refl => exact origins (mem_origins_iff.mpr starts)
  | tail _ joins ih => exact onward _ ih ((mem_destinations_iff closed).mpr joins)

/-- The reachable tags are those that paths lead to. -/
theorem mem_reachable_iff (closed : machine.Closed) {tag : String} :
    tag ∈ machine.reachable ↔ machine.Reaches tag :=
  ⟨spread_induct (fun _ _ => .next closed) (fun _ => .origin) (fun _ => .origin) tag,
    Reaches.mem closed subset_spread
      fun _ found _ => reachable_of_destination closed found⟩

end Machine

/-! ## 2. Searches -/

/-- A search: the tags that wait to be taken up, and all that were found. -/
structure Search where
  frontier : List String
  found : List String

/-- A tag that was not found before is put aside. -/
def Search.note (search : Search) (tag : String) : Search :=
  if search.found.contains tag then search
  else ⟨search.frontier ++ [tag], search.found ++ [tag]⟩

/-- Noting several tags puts aside those that are new, each once. -/
theorem Search.notes (tags : List String) (search : Search) (once : search.found.Nodup) :
    ∃ new, tags.foldl note search = ⟨search.frontier ++ new, search.found ++ new⟩ ∧
      (search.found ++ new).Nodup ∧ (∀ tag ∈ new, tag ∈ tags) ∧ tags ⊆ search.found ++ new := by
  induction tags generalizing search with
  | nil => exact ⟨[], by simp, by simpa using once, by simp, by simp⟩
  | cons tag rest ih =>
    rw [List.foldl_cons, note]
    by_cases known : tag ∈ search.found
    · rw [if_pos (List.contains_iff_mem.mpr known)]
      obtain ⟨new, noted, once, among, all⟩ := ih search once
      exact ⟨new, noted, once, fun other mem => .tail _ (among other mem),
        List.cons_subset.mpr ⟨List.mem_append_left _ known, all⟩⟩
    · rw [if_neg (by simpa using known)]
      have once : (search.found ++ [tag]).Nodup := by
        refine List.nodup_append.mpr ⟨once, by simp, ?_⟩
        rintro other mem _ isLast rfl
        exact known (List.mem_singleton.mp isLast ▸ mem)
      obtain ⟨new, noted, once, among, all⟩ := ih ⟨search.frontier ++ [tag], _⟩ once
      rw [List.append_assoc, List.singleton_append] at all once
      refine ⟨tag :: new, by simpa using noted, once, ?_, ?_⟩
      · exact List.forall_mem_cons.mpr ⟨.head _, fun other mem => .tail _ (among other mem)⟩
      · exact List.cons_subset.mpr ⟨by simp, all⟩

namespace Machine

variable {machine : Machine} {search next : Search}

/-- Any tag that waits is taken up, and the tags are noted that its state leads to. -/
inductive Visits (machine : Machine) : Search → Search → Prop where
  | visit {before after found : List String} {tag : String} {state : State}
      (known : machine.state? tag = some state) :
      Visits machine ⟨before ++ tag :: after, found⟩
        ((state.transits.map Reference.tag).foldl Search.note ⟨before ++ after, found⟩)

/-- A search from the origins that has taken up so many tags. -/
inductive Searches (machine : Machine) : Nat → Search → Prop where
  | start : Searches machine 0 ⟨machine.origins, machine.origins⟩
  | visit {steps : Nat} {search next : Search} (before : Searches machine steps search)
      (visits : machine.Visits search next) : Searches machine (steps + 1) next

/-- How far a search has got. -/
structure Covers (machine : Machine) (steps : Nat) (search : Search) : Prop where
  /-- Everything was found once, and taken up or not. -/
  once : search.found.Nodup
  taken : search.found.length = steps + search.frontier.length
  waiting : search.frontier ⊆ search.found
  origins : machine.origins ⊆ search.found
  /-- Nothing was found that cannot be reached. -/
  reached : ∀ tag ∈ search.found, machine.Reaches tag
  /-- Where a tag leads that was taken up, that was found. -/
  onward : ∀ tag ∈ search.found, tag ∈ search.frontier ∨ machine.destinations tag ⊆ search.found

theorem origins_nodup : machine.origins.Nodup := by
  unfold origins
  split
  · exact List.nodup_singleton _
  · rename_i policy _
    rw [List.eraseDups_cons]
    by_cases same : policy.errorState.tag = machine.initial.tag <;>
      simp [List.eraseDups_cons, same, Ne.symm]

/-- One tag more is taken up, and the search has got further. -/
theorem Covers.visit (closed : machine.Closed) {steps : Nat} (covers : machine.Covers steps search)
    (visits : machine.Visits search next) : machine.Covers (steps + 1) next := by
  cases visits with
  | @visit before after found tag state known =>
    obtain ⟨once, taken, waiting, origins, reached, onward⟩ := covers
    have leads := destinations_of_state? known
    obtain ⟨new, noted, once', among, all⟩ :=
      Search.notes (state.transits.map Reference.tag) ⟨before ++ after, found⟩ once
    rw [noted]
    have here : tag ∈ found := waiting (by simp)
    have others : before ++ after ⊆ before ++ tag :: after := fun other mem => by
      rcases List.mem_append.mp mem with mem | mem <;> simp [mem]
    refine { once := once', taken := ?taken, waiting := ?waiting, reached := ?reached,
             origins := List.subset_append_of_subset_left _ origins, onward := ?onward }
    case taken =>
      simp only [List.length_append, List.length_cons] at taken ⊢
      omega
    case waiting =>
      refine fun other mem => List.mem_append.mpr ((List.mem_append.mp mem).imp_left fun mem => ?_)
      exact waiting (others mem)
    case reached =>
      refine List.forall_mem_append.mpr ⟨reached, fun other mem => ?_⟩
      exact (reached tag here).next closed (leads ▸ among other mem)
    case onward =>
      refine List.forall_mem_append.mpr ⟨fun other mem => ?_, fun other mem => ?_⟩
      · by_cases same : other = tag
        · exact .inr (same ▸ leads ▸ all)
        · refine (onward other mem).imp (fun waits => List.mem_append_left _ ?_)
            (List.subset_append_of_subset_left _)
          simpa [same] using waits
      · exact .inl (List.mem_append_right _ mem)

/-- Every search covers what it has taken up. -/
theorem Searches.covers (closed : machine.Closed) {steps : Nat}
    (searches : machine.Searches steps search) : machine.Covers steps search := by
  induction searches with
  | start =>
    exact ⟨origins_nodup, (Nat.zero_add _).symm, List.Subset.refl _, List.Subset.refl _,
      fun _ => .origin, fun _ => .inl⟩
  | visit _ visits ih => exact ih.visit closed visits

/-- What was found are tags of states. -/
theorem Covers.declared (closed : machine.Closed) {steps : Nat}
    (covers : machine.Covers steps search) : search.found ⊆ machine.states.map State.tag := by
  intro tag mem
  obtain ⟨state, listed, found⟩ :=
    state?_of_reachable closed ((mem_reachable_iff closed).mpr (covers.reached tag mem))
  have same : state.tag = tag := by simpa using List.find?_some found
  exact same ▸ List.mem_map_of_mem listed

/-- With nothing waiting, what was found is what can be reached. -/
theorem Covers.mem_found_iff (closed : machine.Closed) {steps : Nat}
    (covers : machine.Covers steps search) (ended : search.frontier = []) {tag : String} :
    tag ∈ search.found ↔ machine.Reaches tag := by
  refine ⟨covers.reached tag, Reaches.mem closed covers.origins fun other mem => ?_⟩
  exact (covers.onward other mem).resolve_left (by simp [ended])

/-! ## 3. What is found -/

/-- The unreachable states are what the name says, and any search comes to them. -/
structure Explored (machine : Machine) : Prop where
  /-- They are the states that no path leads to. -/
  exact : ∀ state, state ∈ machine.unreachable ↔
    state ∈ machine.states ∧ ¬ machine.Reaches state.tag
  /-- They keep the order in which they are declared. -/
  ordered : machine.unreachable.Sublist machine.states
  /-- None is listed twice. -/
  once : (machine.unreachable.map State.tag).Nodup
  /-- A tag in the worklist is the tag of a state, so a search can continue with any of them. -/
  onward : ∀ steps search, machine.Searches steps search → ∀ tag ∈ search.frontier,
    (∃ state, machine.state? tag = some state) ∧ ∃ next, machine.Visits search next
  /-- It comes to an end. -/
  bounded : ∀ steps search, machine.Searches steps search → steps ≤ machine.states.length
  /-- And then these are the states it has not found. -/
  ended : ∀ steps search, machine.Searches steps search → search.frontier = [] →
    machine.unreachable = machine.states.filter fun state => !search.found.contains state.tag

theorem Closed.explored (closed : machine.Closed) : machine.Explored where
  exact state := by rw [mem_unreachable_iff, mem_reachable_iff closed]
  ordered := List.filter_sublist
  once := closed.distinct.sublist (List.filter_sublist.map State.tag)
  onward steps search searches tag waits := by
    have covers := searches.covers closed
    obtain ⟨state, -, known⟩ := state?_of_reachable closed
      ((mem_reachable_iff closed).mpr (covers.reached tag (covers.waiting waits)))
    obtain ⟨frontier, found⟩ := search
    obtain ⟨before, after, rfl⟩ := List.append_of_mem waits
    exact ⟨⟨state, known⟩, _, .visit known⟩
  bounded steps search searches := by
    have covers := searches.covers closed
    have few := (List.subperm_of_subset covers.once (covers.declared closed)).length_le
    rw [covers.taken, List.length_map] at few
    omega
  ended steps search searches ended := by
    have covers := searches.covers closed
    refine List.filter_congr fun state _ => congrArg (!·) ?_
    rw [Bool.eq_iff_iff, List.contains_iff_mem, List.contains_iff_mem, mem_reachable_iff closed,
      covers.mem_found_iff closed ended]

end Machine

/-! ## 4. Warnings -/

/-- The records of a log are kept if their level is. -/
theorem Log.addAll_records {log : Log} {entries : List LogRecord} :
    (log.addAll entries).records =
      log.records ++ entries.filter fun entry => log.keeps entry.level := by
  induction entries generalizing log with
  | nil => exact (List.append_nil _).symm
  | cons first rest ih =>
    show ((log.add first).addAll rest).records = _
    rw [ih, List.filter_cons, add]
    split
    · exact List.append_assoc ..
    · rfl

/-- What is to be recorded of a machine when it has passed the check. -/
def Machine.warnings (machine : Machine) (wanted : Bool) : List LogRecord :=
  if wanted = true ∧ machine.unreachable ≠ [] then
    [⟨.warning, .check, machine.name ++ ": states " ++
      Text.quotedList (machine.unreachable.map State.text) ++
      " are not reachable from initial state " ++ machine.initial.text⟩]
  else []

theorem Machine.warnings_eq {machine : Machine} {wanted : Bool} :
    machine.warnings wanted =
      if wanted then machine.unreachableRemark.toList.map LogRecord.warning else [] := by
  unfold warnings unreachableRemark
  cases wanted with
  | false => rfl
  | true => cases machine.unreachable <;> rfl

theorem Document.warnings_eq {document : Document} {wanted : Bool} :
    document.machines.flatMap (·.warnings wanted) =
      if wanted then document.remarks.map LogRecord.warning else [] := by
  unfold remarks
  induction document.machines with
  | nil => cases wanted <;> rfl
  | cons machine rest ih =>
    rw [List.flatMap_cons, ih, Machine.warnings_eq, List.filterMap_cons]
    cases wanted with
    | false => rfl
    | true => cases machine.unreachableRemark <;> rfl

/-- The records of the check that a workshop has in its log. -/
def Workshop.noted (w : Workshop) : List LogRecord :=
  w.registry.log.records.filter (·.source == .check)

namespace Work

variable {α β : Type} {p : Work α} {next : α → Work β} {w : Workshop} {entries : List LogRecord}

/-- The work makes no records of the check. -/
def Discreet (p : Work α) : Prop := ∀ w, (p.run w).2.noted = w.noted

theorem Discreet.pure {a : α} : Discreet (pure a : Work α) := fun _ => rfl

theorem Discreet.throw {error : Error} : Discreet (throw error : Work α) := fun _ => rfl

theorem Discreet.lift {result : Except Error α} : Discreet (liftM result : Work α) := fun _ => by
  cases result <;> rfl

theorem Discreet.get_bind {next : Workshop → Work β} (rest : ∀ w, Discreet (next w)) :
    Discreet (get >>= next) := fun w => rest w w

theorem Discreet.bind (first : Discreet p) (rest : ∀ a, Discreet (next a)) :
    Discreet (p >>= next) := fun w => by
  have before := first w
  rw [run_bind]
  cases ran : p.run w with
  | mk result t =>
    rw [ran] at before
    cases result with
    | error error => exact before
    | ok a => exact (rest a t).trans before

theorem noted_record : ((record entries).run w).2.noted =
    w.noted ++ (entries.filter fun entry => w.registry.log.keeps entry.level).filter
      (·.source == .check) := by
  show ((w.registry.log.addAll entries).records.filter (·.source == .check)) = _
  rw [Log.addAll_records, List.filter_append]
  rfl

theorem Discreet.record (other : ∀ entry ∈ entries, entry.source ≠ .check) :
    Discreet (record entries) := fun w => by
  rw [noted_record, List.filter_eq_nil_iff.mpr, List.append_nil]
  intro entry mem
  simpa using other entry (List.mem_filter.mp mem).1

variable {bindings : Bindings} {home : String}

/-- Tables are made without a warning. -/
theorem generate_source (bindings : Bindings) (flags : TraceFlags) (checkTypes : Bool)
    (machine : Machine) :
    ∀ entry ∈ (Table.generate bindings flags checkTypes machine).1, entry.source ≠ .check := by
  unfold Table.generate
  split
  · simp
  · intro entry mem
    obtain ⟨block, -, rfl⟩ := List.mem_map.mp mem
    exact nofun

theorem define_discreet {table : Table} : Discreet (define table home) := fun _ => rfl

theorem build_discreet {machine : Machine} : Discreet (build bindings home machine) := by
  refine .get_bind fun w => ?_
  dsimp only
  split
  · exact .throw
  have silent := generate_source bindings w.compiler.options.flags
    w.compiler.options.checkTypes machine
  cases generated : Table.generate bindings w.compiler.options.flags
      w.compiler.options.checkTypes machine with
  | mk records result =>
    rw [generated] at silent
    refine (Discreet.record silent).bind fun _ => Discreet.lift.bind fun table => ?_
    refine define_discreet.bind fun kind => Discreet.bind (.record ?_) fun _ => .pure
    exact List.forall_mem_singleton.mpr nofun

theorem buildAll_discreet {machines : List Machine} :
    Discreet (buildAll bindings home machines) := by
  induction machines with
  | nil => exact .pure
  | cons machine rest ih => exact build_discreet.bind fun _ => ih.bind fun _ => .pure

theorem attach_discreet {kind : Class} {table : Table} {messages : Messages} :
    Discreet (attach bindings kind table messages) := by
  refine .get_bind fun w => ?_
  split
  · exact .throw
  refine Discreet.lift.bind fun channels => Discreet.bind (fun _ => rfl) fun _ => ?_
  exact Discreet.bind (.record (List.forall_mem_singleton.mpr nofun)) fun _ => .pure

theorem tableOf_discreet {kind : Class} : Discreet (tableOf kind) := by
  refine .get_bind fun w => ?_
  split
  · exact .pure
  · exact .throw

theorem attachAll_discreet {made : List (String × Class)} {messages : List Messages} :
    Discreet (attachAll bindings made messages) := by
  induction messages with
  | nil => exact .pure
  | cons first rest ih =>
    rw [attachAll]
    split
    · exact .throw
    · exact tableOf_discreet.bind fun _ => attach_discreet.bind fun _ => ih

/-- What comes behind a warning does not change that it was given. -/
theorem noted_warn_bind {remarks : List String} (keeps : w.registry.log.keeps .warning = true)
    {next : Unit → Work β} (rest : ∀ a, Discreet (next a)) :
    ((warn remarks >>= next).run w).2.noted =
      w.noted ++ if w.compiler.options.warnUnreachable then remarks.map LogRecord.warning else [] := by
  have warned : ((warn remarks).run w).2.noted =
      w.noted ++ if w.compiler.options.warnUnreachable then remarks.map LogRecord.warning else [] := by
    show ((if w.compiler.options.warnUnreachable then
      record (remarks.map LogRecord.warning) else pure () : Work Unit).run w).2.noted = _
    split
    · rw [noted_record, List.filter_eq_self.mpr, List.filter_eq_self.mpr]
      all_goals simp [LogRecord.warning, keeps]
    · exact (List.append_nil _).symm
  rw [run_bind, ← warned]
  cases (warn remarks).run w with
  | mk result t =>
    cases result with
    | error error => rfl
    | ok a => exact rest a t

/-- A machine that is compiled is warned of just if it has unreachable states. -/
theorem noted_compileMachine {fallible : Bool} {source : String} {machine : Machine}
    (keeps : w.registry.log.keeps .warning = true)
    (accepted : Machine.ofText fallible source = .ok machine) :
    ((compileMachine bindings fallible home source).run w).2.noted =
      w.noted ++ machine.warnings w.compiler.options.warnUnreachable := by
  have same : compileMachine bindings fallible home source =
      warn machine.unreachableRemark.toList >>= fun _ => build bindings home machine := by
    unfold compileMachine readMachine
    rw [accepted]
    show ((pure machine : Work Machine) >>= fun machine =>
      warn machine.unreachableRemark.toList >>= fun _ => pure machine) >>= _ = _
    simp only [pure_bind, bind_assoc]
  rw [same, noted_warn_bind keeps fun _ => build_discreet, Machine.warnings_eq]

/-- So are all machines of a document, up to its first fault. -/
theorem noted_compileDocument {source : String} (keeps : w.registry.log.keeps .warning = true) :
    ((compileDocument bindings home source).run w).2.noted =
      w.noted ++ (Document.read source).1.machines.flatMap
        (·.warnings w.compiler.options.warnUnreachable) := by
  rw [Document.warnings_eq]
  refine noted_warn_bind keeps fun _ => ?_
  split
  · exact .throw
  · exact buildAll_discreet.bind fun _ => attachAll_discreet.bind fun _ => .pure

end Work

/-! ## 5. Main theorem -/

/-- The unreachable states of an accepted machine are exactly those that no path leads to, in
    declared order, and every search looks up declared tags only. One warning is logged for each
    machine that has some, if `warnUnreachable` is set and the log keeps warnings. -/
theorem unreachable_iff_no_path :
    (∀ decl machine, Machine.ofDecl decl = .ok machine → machine.Explored) ∧
    ∀ (w : Workshop) (bindings : Bindings) (home : String), w.registry.log.keeps .warning = true →
      (∀ fallible source machine, Machine.ofText fallible source = .ok machine →
        ((Work.compileMachine bindings fallible home source).run w).2.noted =
          w.noted ++ machine.warnings w.compiler.options.warnUnreachable) ∧
      ∀ source, ((Work.compileDocument bindings home source).run w).2.noted =
        w.noted ++ (Document.read source).1.machines.flatMap
          (·.warnings w.compiler.options.warnUnreachable) :=
  ⟨fun _ _ accepted => (Machine.closed_of_ofDecl accepted).explored, fun _ _ _ keeps =>
    ⟨fun _ _ _ accepted => Work.noted_compileMachine keeps accepted,
      fun _ => Work.noted_compileDocument keeps⟩⟩

/-- The states of a lamp, and which of them leads to which. -/
def strayOff : State := ⟨⟨⟨"Off", []⟩, ⟨⟨12, 1, 13⟩, 3⟩⟩, [⟨⟨"On", []⟩, ⟨⟨38, 1, 39⟩, 2⟩⟩]⟩
def strayOn : State := ⟨⟨⟨"On", []⟩, ⟨⟨17, 1, 18⟩, 2⟩⟩, []⟩
def strayBroken : State := ⟨⟨⟨"Broken", []⟩, ⟨⟨21, 1, 22⟩, 6⟩⟩, []⟩

/-- The machine of `Lamp, Off, [Off, On, Broken], [Off => On]`. -/
def strayLamp : Machine where
  name := "Lamp"
  initial := strayOff
  states := [strayOff, strayOn, strayBroken]
  edges := [⟨⟨⟨"Off", []⟩, ⟨⟨31, 1, 32⟩, 3⟩⟩, ⟨⟨"On", []⟩, ⟨⟨38, 1, 39⟩, 2⟩⟩, ⟨⟨31, 1, 32⟩, 3⟩⟩]
  failure := none

/-- No path leads to `Broken` in a plain machine, and compiling it logs a warning. -/
theorem unreachable_iff_no_path_lamp :
    strayLamp.unreachable = [strayBroken] ∧ ¬ strayLamp.Reaches strayBroken.tag ∧
    ((Work.compileMachine Lamp.bindings false "lamp"
        "Lamp, Off, [Off, On, Broken], [Off => On]").run ⟨.fresh .default, .empty⟩).2.noted =
      [.warning "Lamp: states ['Broken'] are not reachable from initial state Off"] := by
  have read : Machine.ofText false "Lamp, Off, [Off, On, Broken], [Off => On]" = .ok strayLamp :=
    eq_ok_of_toOption (by decide +kernel)
  obtain ⟨decl, -, accepted⟩ := Machine.declared_of_ofText read
  have unreachable : strayLamp.unreachable = [strayBroken] := by decide +kernel
  have warned :=
    (unreachable_iff_no_path.2 ⟨.fresh .default, .empty⟩ Lamp.bindings "lamp" rfl).1 _ _ _ read
  refine ⟨unreachable, ?_, warned.trans ?_⟩
  · have listed : strayBroken ∈ strayLamp.unreachable := unreachable ▸ List.mem_singleton_self _
    exact (((unreachable_iff_no_path.1 _ _ accepted).exact strayBroken).mp listed).2
  · unfold Machine.warnings
    rw [unreachable]
    decide +kernel

end MachineSpec
