/-
MachineSpec.Proofs.Verdicts — the guards asked in a step, and its destination.

A step asks the guards of the active state in order, and the first that does not answer
`remain` decides. `Course.verdicts` is the record of these requests and answers in a course.
Most operations ask no guard (`Unasked`).

The data then has one of a few destinations (`Steps`): it stays; it takes the transition of
the deciding guard and is entered there; or it fails, before that or on entry, and goes into
the error state. A course in which data failed shows the failure (`Flees`).

* `run_steps`: a step of data asks its guards in order, and ends in one of these ways.
-/
import MachineSpec.Proofs.Redirection

namespace MachineSpec

/-! ## 1. Verdicts -/

/-- The tags that a transition joins. -/
def Transition.tags (transition : Transition) : EdgeKey :=
  (transition.source.tag, transition.destination.tag)

/-- The verdict that an answer comes to, if it does. -/
def verdictOf : Answer → Option Guard
  | .ok value => value.verdict?
  | .error _ => none

/-- The transitions whose guards were asked, with the verdicts, in the order of asking. -/
def Course.verdicts (course : Course) : List (Transition × Option Guard) :=
  course.filterMap fun
    | (.guard transition _, answer) => some (transition, verdictOf answer)
    | _ => none

/-- Whether a request asks for a verdict. -/
def Request.isGuard : Request → Bool
  | .guard .. => true
  | _ => false

@[simp] theorem Course.verdicts_nil : Course.verdicts [] = [] := rfl

@[simp] theorem Course.verdicts_append (first second : Course) :
    Course.verdicts (first ++ second) = Course.verdicts first ++ Course.verdicts second :=
  List.filterMap_append

@[simp] theorem Course.verdicts_guard (transition : Transition) (data : Value) (answer : Answer)
    (rest : Course) : Course.verdicts ((.guard transition data, answer) :: rest) =
      (transition, verdictOf answer) :: Course.verdicts rest := rfl

theorem Course.verdicts_other {request : Request} (other : request.isGuard = false)
    (answer : Answer) (rest : Course) :
    Course.verdicts ((request, answer) :: rest) = Course.verdicts rest := by
  cases request <;> first | rfl | cases other

theorem verdicts_of_carries {course : Course} (h : ∀ asked ∈ course, asked.1.Carries) :
    Course.verdicts course = [] := by
  refine List.filterMap_eq_nil_iff.mpr fun (request, answer) asked => ?_
  have carries := h _ asked
  cases request <;> first | rfl | exact carries.elim

/-! ## 2. Operations that ask for no verdict -/

namespace Operation

variable {α β : Type}

/-- Nobody is asked for a verdict. -/
def Unasked (operation : Operation α) : Prop :=
  operation.Preserves fun past _ => Course.verdicts past = []

namespace Unasked

theorem plays {operation : Operation α} (h : operation.Unasked) {slot final : Slot}
    {course : Course} {outcome : Except Failure α}
    (plays : Dialogue.Plays (operation slot) course outcome final) : Course.verdicts course = [] :=
  Preserves.plays h (by rfl) plays

theorem attempt {request : Request} (other : request.isGuard = false) :
    (Operation.attempt request).Unasked :=
  Preserves.attempt fun past _ answer silent => by
    rw [Course.verdicts_append, silent, Course.verdicts_other other, Course.verdicts_nil]
    rfl

theorem demand {request : Request} (other : request.isGuard = false) :
    (Operation.demand request).Unasked :=
  Preserves.demand fun past _ answer silent => by
    rw [Course.verdicts_append, silent, Course.verdicts_other other, Course.verdicts_nil]
    rfl

theorem report {enabled : Bool} {line : String} :
    (do let _ ← Operation.demand (.report enabled line) : Operation Unit).Unasked :=
  Preserves.bind (demand rfl) fun _ => Preserves.pure

end Unasked

end Operation

namespace Table

open Operation Dialogue

variable {table : Table} {route : FailureRoute} {block : Block} {data : Value} {request : Request}

theorem callErrorState_unasked (other : request.isGuard = false) :
    (callErrorState route request).Unasked := by
  refine Preserves.bind (Unasked.attempt other) fun answer => ?_
  cases answer with
  | ok value => exact Preserves.pure
  | error exception =>
    dsimp only
    split
    · exact Preserves.refuse
    · exact Preserves.fail

theorem redirect_unasked {exception : Value} :
    (table.redirect route block data exception).Unasked := by
  refine Preserves.bind Unasked.report fun _ => ?_
  split
  · exact Preserves.refuse
  · refine Preserves.bind (Unasked.demand rfl) fun made => ?_
    dsimp only
    split
    · exact Preserves.refuse
    · refine Preserves.bind (Unasked.demand rfl) fun _ => ?_
      exact Preserves.bind (callErrorState_unasked rfl) fun _ => Preserves.pure

theorem call_unasked (other : request.isGuard = false) :
    (table.call block data request).Unasked := by
  unfold Table.call
  split
  · exact Preserves.bind (Unasked.demand other) fun _ => Preserves.pure
  · split
    · exact Preserves.bind (callErrorState_unasked other) fun _ => Preserves.pure
    · refine Preserves.bind (Unasked.attempt other) fun answer => ?_
      cases answer with
      | ok value => exact Preserves.pure
      | error exception =>
        dsimp only
        split
        · exact Preserves.bind redirect_unasked fun _ => Preserves.pure
        · exact Preserves.fail

theorem enter_unasked {reported : Bool} : (table.enter block data reported).Unasked := by
  refine Preserves.bind (call_unasked rfl) fun result => ?_
  cases result with
  | some entry => exact Preserves.pure
  | none =>
    dsimp only
    split
    · exact Preserves.bind Unasked.report fun _ => Preserves.pure
    · exact Preserves.pure

theorem runActions_unasked {transitions : List Transition} :
    (table.runActions block data transitions).Unasked := by
  induction transitions with
  | nil => exact Preserves.pure
  | cons transition rest ih =>
    refine Preserves.bind (call_unasked rfl) fun result => ?_
    cases result with
    | some entry => exact Preserves.pure
    | none => exact ih

theorem leave_unasked : (table.leave block data).Unasked := by
  refine Preserves.bind (call_unasked rfl) fun result => ?_
  cases result with
  | some entry => exact Preserves.pure
  | none => exact runActions_unasked

theorem retire_unasked : (table.retire block data).Unasked := by
  refine Preserves.bind leave_unasked fun result => ?_
  cases result with
  | some entry => exact Preserves.pure
  | none => exact Preserves.bind Unasked.report fun _ => Preserves.pure

/-! ## 3. Where operations lead -/

/-- Data of `owner` failed when this was asked, and was made into the entry. -/
inductive Flees (table : Table) (owner : String) (data : Value) (entry : Entry) :
    Request × Answer → Prop where
  | intro {route : FailureRoute} {request : Request} {error : Value}
      (fallible : table.failure = some route) (takes : route.Takes request owner data error)
      (home : entry.tag = route.errorBlock.tag) : Flees table owner data entry (request, .error error)

variable {slot final : Slot} {course : Course} {entry : Entry}

/-- What has come of data of the owner at the end of a course on which it failed at some place. -/
def Fled (table : Table) (owner : String) (data : Value) (entry : Entry) (course : Course) : Prop :=
  ∃ before asked after, course = before ++ asked :: after ∧ table.Flees owner data entry asked

theorem Fled.prepend {owner : String} (h : table.Fled owner data entry course) (past : Course) :
    table.Fled owner data entry (past ++ course) := by
  obtain ⟨before, asked, after, rfl, flees⟩ := h
  exact ⟨past ++ before, asked, after, by simp, flees⟩

variable (sound : table.Sound)
include sound

/-- A call upon data leads elsewhere only if the data fails, and that at once. -/
theorem call_flees {owner : Block} (mem : owner ∈ table.blocks)
    (subject : request.subject? = some (owner.tag, data))
    (plays : Plays (table.call owner data request slot) course (.ok (some entry)) final) :
    ∃ asked after, course = asked :: after ∧ table.Flees owner.tag data entry asked := by
  cases fallible : table.failure with
  | none =>
    unfold Table.call at plays
    rw [fallible] at plays
    rcases plays_demand_bind_iff.mp plays with ⟨_, _, _, ends⟩ | ⟨_, _, same, _⟩
    · obtain ⟨_, same, _⟩ := plays_done_iff.mp ends
      cases same
    · cases same
  | some route =>
    rcases call_cases fallible subject plays with
      ⟨_, nothing⟩ | ⟨error, after, result, rfl, takes, redirects, same⟩
    · cases nothing _ rfl
    · cases result with
      | error failure => cases same
      | ok made =>
        cases same
        exact ⟨_, after, rfl, fallible, takes, redirect_tag sound fallible mem takes redirects⟩

variable (mem : block ∈ table.blocks)
include mem

/-- Data that enters a state stays there unless it fails, and that at once. -/
theorem enter_leads {reported : Bool}
    (plays : Plays (table.enter block data reported slot) course (.ok entry) final) :
    entry.tag = block.tag ∨
      ∃ asked after, course = asked :: after ∧ table.Flees block.tag data entry asked := by
  rcases plays_bind_iff.mp plays with
    ⟨result, _, first, second, calls, ends, rfl⟩ | ⟨_, _, same⟩
  · cases result with
    | some made =>
      obtain ⟨asked, after, rfl, flees⟩ := call_flees sound mem rfl calls
      obtain ⟨rfl, same, rfl⟩ := plays_done_iff.mp ends
      cases same
      exact .inr ⟨asked, after, by simp, flees⟩
    | none =>
      dsimp only at ends
      split at ends
      · rcases plays_tell_bind_iff.mp ends with ⟨_, _, _, ends⟩ | ⟨_, _, same, _⟩
        · obtain ⟨_, same, _⟩ := plays_done_iff.mp ends
          cases same
          exact .inl rfl
        · cases same
      · obtain ⟨_, same, _⟩ := plays_done_iff.mp ends
        cases same
        exact .inl rfl
  · cases same

theorem runActions_flees {transitions : List Transition} (subset : transitions ⊆ block.transitions)
    (plays : Plays (table.runActions block data transitions slot) course (.ok (some entry)) final) :
    table.Fled block.tag data entry course := by
  induction transitions generalizing slot course with
  | nil =>
    obtain ⟨_, same, _⟩ := plays_done_iff.mp plays
    cases same
  | cons transition rest ih =>
    have source := sound.source_tag mem (subset (List.mem_cons_self ..))
    rcases plays_bind_iff.mp plays with
      ⟨result, _, first, second, calls, ends, rfl⟩ | ⟨_, _, same⟩
    · cases result with
      | some made =>
        have subject : (Request.action transition data).subject? = some (block.tag, data) := by
          simp [Request.subject?, source]
        obtain ⟨asked, after, rfl, flees⟩ := call_flees sound mem subject calls
        obtain ⟨rfl, same, rfl⟩ := plays_done_iff.mp ends
        cases same
        exact ⟨[], asked, after, by simp, flees⟩
      | none => exact (ih (fun _ h => subset (List.mem_cons_of_mem _ h)) ends).prepend first
    · cases same

theorem leave_flees
    (plays : Plays (table.leave block data slot) course (.ok (some entry)) final) :
    table.Fled block.tag data entry course := by
  rcases plays_bind_iff.mp plays with
    ⟨result, _, first, second, calls, ends, rfl⟩ | ⟨_, _, same⟩
  · cases result with
    | some made =>
      obtain ⟨asked, after, rfl, flees⟩ := call_flees sound mem rfl calls
      obtain ⟨rfl, same, rfl⟩ := plays_done_iff.mp ends
      cases same
      exact ⟨[], asked, after, by simp, flees⟩
    | none => exact (runActions_flees sound mem (List.Subset.refl _) ends).prepend first
  · cases same

/-- Where data goes that takes a transition: to the destination, or into the error state because it
    failed itself, or because what it was made into failed to enter. -/
inductive Leads (table : Table) (block : Block) (data : Value) (transition : Transition)
    (entry : Entry) (course : Course) : Prop where
  | there (here : entry.tag = transition.destination.tag)
  | fled (fled : table.Fled block.tag data entry course)
  | failed {before after : Course} {made : Value} {asked : Request × Answer}
      (split : course = before ++ (.convert transition data, .ok made) :: asked :: after)
      (flees : table.Flees transition.destination.tag made entry asked)

theorem take_leads {transition : Transition} (ht : transition ∈ block.transitions)
    (plays : Plays (table.take block transition data slot) course (.ok entry) final) :
    table.Leads block data transition entry course := by
  obtain ⟨target, known⟩ := sound.block?_of_transition mem ht
  rcases plays_bind_iff.mp plays with ⟨result, _, first, _, left, goes, rfl⟩ | ⟨_, _, same⟩
  · cases result with
    | some made =>
      obtain ⟨rfl, same, rfl⟩ := plays_done_iff.mp goes
      cases same
      rw [List.append_nil]
      exact .fled (leave_flees sound mem left)
    | none =>
      rcases plays_tell_bind_iff.mp goes with ⟨_, _, rfl, transits⟩ | ⟨_, _, same, _⟩
      · rcases plays_tell_bind_iff.mp transits with ⟨_, _, rfl, converts⟩ | ⟨_, _, same, _⟩
        · rw [block_found known, pure_bind] at converts
          rcases plays_demand_bind_iff.mp converts with ⟨made, _, rfl, enters⟩ | ⟨_, _, same, _⟩
          · split at enters
            · obtain ⟨_, same, _⟩ := plays_done_iff.mp enters
              cases same
            · rcases enter_leads sound (mem_of_block? known) enters with
                here | ⟨asked, after, rfl, flees⟩
              · exact .there (here.trans (tag_of_block? known))
              · rw [tag_of_block? known] at flees
                exact .failed (List.append_assoc first [_, _] (_ :: asked :: after)).symm flees
          · cases same
        · cases same
      · cases same
  · cases same

omit sound mem

theorem take_unasked {transition : Transition} :
    (table.take block transition data).Unasked := by
  refine Preserves.bind leave_unasked fun result => ?_
  cases result with
  | some entry => exact Preserves.pure
  | none =>
    refine Preserves.bind Unasked.report fun _ => Preserves.bind Unasked.report fun _ =>
      Preserves.bind ?_ fun target => Preserves.bind (Unasked.demand rfl) fun made => ?_
    · unfold Table.block
      split
      · exact Preserves.pure
      · exact Preserves.refuse
    · split
      · exact Preserves.refuse
      · exact enter_unasked

/-! ## 4. Steps -/

/-- Guards are asked one after the other, and all but the last that is asked decline. -/
structure Queries (transitions : List Transition) (verdicts : List (Transition × Option Guard)) :
    Prop where
  order : verdicts.map Prod.fst <+: transitions
  declined : ∀ asked ∈ verdicts.dropLast, asked.2 = some .remain

namespace Queries

variable {transition : Transition} {rest : List Transition}
  {verdicts : List (Transition × Option Guard)}

theorem none {transitions : List Transition} : Queries transitions [] := ⟨by simp, by simp⟩

theorem one (verdict : Option Guard) : Queries (transition :: rest) [(transition, verdict)] :=
  ⟨by simp, by simp⟩

theorem declines (h : Queries rest verdicts) :
    Queries (transition :: rest) ((transition, some .remain) :: verdicts) := by
  refine ⟨by simpa using h.order, ?_⟩
  cases verdicts with
  | nil => simp
  | cons asked others =>
    rw [List.dropLast_cons_cons, List.forall_mem_cons]
    exact ⟨rfl, h.declined⟩

end Queries

theorem choose_queries {transitions : List Transition} {outcome : Except Failure (Option Transition)}
    (plays : Plays (choose data transitions slot) course outcome final) :
    Queries transitions (Course.verdicts course) ∧
      ∀ transition, outcome = .ok (some transition) → transition ∈ transitions ∧
        ∃ earlier, Course.verdicts course = earlier ++ [(transition, some .transit)] := by
  induction transitions generalizing slot course with
  | nil =>
    obtain ⟨rfl, rfl, -⟩ := plays_done_iff.mp plays
    exact ⟨.none, by rintro _ ⟨⟩⟩
  | cons transition rest ih =>
    rcases plays_demand_bind_iff.mp plays with ⟨answer, _, rfl, goes⟩ | ⟨exception, rfl, rfl, -⟩
    · rw [Course.verdicts_guard]
      cases given : answer.verdict? with
      | none =>
        rw [Guard.coerce_none given] at goes
        obtain ⟨rfl, rfl, -⟩ := plays_done_iff.mp goes
        exact ⟨.one _, by rintro _ ⟨⟩⟩
      | some verdict =>
        rw [Guard.coerce_some given] at goes
        rw [show verdictOf (.ok answer) = some verdict from given]
        cases verdict with
        | transit =>
          obtain ⟨rfl, rfl, -⟩ := plays_done_iff.mp goes
          refine ⟨.one _, ?_⟩
          rintro _ ⟨⟩
          exact ⟨by simp, [], rfl⟩
        | remain =>
          obtain ⟨queries, chosen⟩ := ih goes
          refine ⟨queries.declines, fun picked same => ?_⟩
          obtain ⟨among, earlier, split⟩ := chosen picked same
          exact ⟨List.mem_cons_of_mem _ among, _ :: earlier, by rw [split]; rfl⟩
    · exact ⟨.one _, by rintro _ ⟨⟩⟩

/-- How a step of data ends that does not fail. -/
inductive Steps (table : Table) (block : Block) (data : Value) (entry : Entry) (course : Course) :
    Prop where
  | stayed (here : entry.tag = block.tag)
  | fled (fled : table.Fled block.tag data entry course)
  | took {transition : Transition} {earlier : List (Transition × Option Guard)}
      (ht : transition ∈ block.transitions)
      (picked : Course.verdicts course = earlier ++ [(transition, some .transit)])
      (leads : table.Leads block data transition entry course)

theorem Leads.prepend {transition : Transition} (h : table.Leads block data transition entry course)
    (past : Course) : table.Leads block data transition entry (past ++ course) := by
  cases h with
  | there here => exact .there here
  | fled fled => exact .fled (fled.prepend past)
  | failed split flees =>
    subst split
    exact .failed (List.append_assoc ..).symm flees

variable (sound : table.Sound) (mem : block ∈ table.blocks)
include sound mem

theorem run_steps {outcome : Except Failure Entry}
    (plays : Plays (table.run block data slot) course outcome final) :
    Queries block.transitions (Course.verdicts course) ∧
      ∀ entry, outcome = .ok entry → table.Steps block data entry course := by
  rcases plays_tell_bind_iff.mp plays with ⟨said, _, rfl, goes⟩ | ⟨_, rfl, rfl, -⟩
  · rw [Course.verdicts_other rfl]
    have executed : (table.callHook block .execute data).Unasked := call_unasked rfl
    rcases plays_bind_iff.mp goes with ⟨result, _, first, _, calls, rest, rfl⟩ | ⟨_, calls, rfl⟩
    · rw [Course.verdicts_append, executed.plays calls, List.nil_append]
      cases result with
      | some made =>
        obtain ⟨rfl, rfl, -⟩ := plays_done_iff.mp rest
        refine ⟨.none, ?_⟩
        rintro _ ⟨⟩
        obtain ⟨asked, after, rfl, flees⟩ := call_flees sound mem rfl calls
        have fled : table.Fled block.tag data made (asked :: after) :=
          ⟨[], asked, after, rfl, flees⟩
        rw [List.append_nil]
        exact .fled (fled.prepend [_])
      | none =>
        rcases plays_bind_iff.mp rest with
          ⟨chosen, _, second, third, asks, ends, rfl⟩ | ⟨_, asks, rfl⟩
        · obtain ⟨queries, choice⟩ := choose_queries asks
          rw [Course.verdicts_append]
          cases chosen with
          | some transition =>
            obtain ⟨ht, earlier, split⟩ := choice transition rfl
            rw [take_unasked.plays ends, List.append_nil]
            refine ⟨queries, ?_⟩
            rintro entry rfl
            refine .took ht (?_ : Course.verdicts _ = earlier ++ [(transition, some .transit)]) ?_
            · rw [Course.verdicts_other rfl, Course.verdicts_append, Course.verdicts_append,
                executed.plays calls, take_unasked.plays ends, split]
              simp
            · rw [← List.append_assoc]
              exact ((take_leads sound mem ht ends).prepend (first ++ second)).prepend [_]
          | none =>
            obtain ⟨rfl, rfl, -⟩ := plays_done_iff.mp ends
            rw [Course.verdicts_nil, List.append_nil]
            refine ⟨queries, ?_⟩
            rintro _ ⟨⟩
            exact .stayed rfl
        · exact ⟨(choose_queries asks).1, nofun⟩
    · rw [executed.plays calls]
      exact ⟨.none, nofun⟩
  · exact ⟨.none, nofun⟩

end Table

end MachineSpec
