/-
MachineSpec.Proofs.Pace — the order of requests in a step of a plain machine.

A step executes the data and asks the guards of the state in order until one answers
`transit`. Then it leaves the state, runs its actions, converts the data, checks the result
and enters the destination. An exception ends the step wherever it is raised. So the courses
of a step are determined by three lists of requests (`opening`, `departure`, `arrival`) and
by the answers of the guards. `Pace` puts them together from these without reference to the
program; each of them is realised by some answers (`Recites`).

Callbacks may change the slot in the meantime. A step that has taken the data out does not
read the slot again before it puts the result back (`Goes`).

* `Table.step_paced_by_guards`: the courses of a step are exactly these, and the slot after
  each is determined.
-/
import MachineSpec.Proofs.Refinement

namespace MachineSpec

/-! ## 1. Courses of a machine that others use -/

namespace Dialogue

variable {α β : Type}

/-- A course that a dialogue can take if anything may become of the slot while a request is open. -/
inductive Goes : Dialogue α → Course → Except Failure α → Slot → Prop where
  | done (outcome : Except Failure α) (slot : Slot) : Goes (.done outcome slot) [] outcome slot
  | ask {request : Request} {slot : Slot} {resume : Answer → Slot → Dialogue α} {answer : Answer}
      (back : Slot) {course : Course} {outcome : Except Failure α} {final : Slot}
      (rest : Goes (resume answer back) course outcome final) :
      Goes (.ask request slot resume) ((request, answer) :: course) outcome final

variable {course : Course} {outcome : Except Failure α} {final : Slot}

/-- It may be that nothing becomes of it. -/
theorem Plays.goes {dialogue : Dialogue α} (plays : Plays dialogue course outcome final) :
    Goes dialogue course outcome final := by
  induction plays with
  | done outcome slot => exact .done outcome slot
  | ask _ ih => exact .ask _ ih

theorem goes_done {result : Except Failure α} {slot : Slot}
    (goes : Goes (.done result slot) course outcome final) :
    course = [] ∧ outcome = result ∧ final = slot := by
  cases goes
  exact ⟨rfl, rfl, rfl⟩

/-- A course of a dialogue and its sequel is cut where the sequel begins. -/
theorem goes_andThen {dialogue : Dialogue β} {next : β → Operation α}
    (goes : Goes (dialogue.andThen next) course outcome final) :
    (∃ b middle first second, Goes dialogue first (.ok b) middle ∧
      Goes (next b middle) second outcome final ∧ course = first ++ second) ∨
    ∃ failure, Goes dialogue course (.error failure) final ∧ outcome = .error failure := by
  induction dialogue generalizing course with
  | done result slot =>
    cases result with
    | ok b => exact .inl ⟨b, slot, [], course, .done _ _, goes, rfl⟩
    | error failure =>
      obtain ⟨rfl, rfl, rfl⟩ := goes_done goes
      exact .inr ⟨failure, .done _ _, rfl⟩
  | ask request slot resume ih =>
    cases goes with
    | ask back rest =>
      rcases ih _ _ rest with ⟨b, middle, first, second, goes, onward, rfl⟩ | ⟨failure, goes, rfl⟩
      · exact .inl ⟨b, middle, _, second, .ask back goes, onward, rfl⟩
      · exact .inr ⟨failure, .ask back goes, rfl⟩

end Dialogue

/-! ## 2. Scripts -/

/-- All requests of a script are made, in this order, and answered with such results. -/
def Course.Yields (course : Course) (script : List Request) (good : Value → Prop) : Prop :=
  course.map Prod.fst = script ∧ ∀ asked ∈ course, ∃ value, asked.2 = .ok value ∧ good value

/-- All requests of a script are made and answered with results. -/
def Course.Completes (course : Course) (script : List Request) : Prop :=
  course.Yields script fun _ => True

/-- The requests are made up to one that is answered with the exception. -/
def Course.BreaksOff (course : Course) (script : List Request) (exception : Value) : Prop :=
  ∃ before request after done, script = before ++ request :: after ∧
    Course.Completes done before ∧ course = done ++ [(request, .error exception)]

namespace Course

variable {course : Course} {script : List Request} {request : Request} {good : Value → Prop}
  {exception : Value}

theorem yields_nil_iff : Yields course [] good ↔ course = [] := by
  refine ⟨fun yields => List.map_eq_nil_iff.mp yields.1, ?_⟩
  rintro rfl
  exact ⟨rfl, List.forall_mem_nil _⟩

theorem yields_cons_iff : Yields course (request :: script) good ↔
    ∃ value rest, course = (request, .ok value) :: rest ∧ good value ∧ Yields rest script good := by
  constructor
  · rintro ⟨asked, results⟩
    obtain ⟨⟨_, answer⟩, rest, rfl, rfl, others⟩ := List.map_eq_cons_iff.mp asked
    obtain ⟨⟨value, rfl, here⟩, later⟩ := List.forall_mem_cons.mp results
    exact ⟨value, rest, rfl, here, others, later⟩
  · rintro ⟨value, rest, rfl, here, asked, results⟩
    exact ⟨congrArg _ asked, List.forall_mem_cons.mpr ⟨⟨value, rfl, here⟩, results⟩⟩

theorem completes_nil_iff : Completes course [] ↔ course = [] := yields_nil_iff

theorem completes_cons_iff : Completes course (request :: script) ↔
    ∃ value rest, course = (request, .ok value) :: rest ∧ Completes rest script := by
  simp only [Completes, yields_cons_iff, true_and]

theorem Completes.nil : Completes [] [] := completes_nil_iff.mpr rfl

theorem not_breaksOff_nil : ¬ BreaksOff course [] exception := by
  rintro ⟨before, request, after, done, split, -⟩
  simp at split

theorem breaksOff_cons_iff : BreaksOff course (request :: script) exception ↔
    course = [(request, .error exception)] ∨
      ∃ value rest, course = (request, .ok value) :: rest ∧ BreaksOff rest script exception := by
  constructor
  · rintro ⟨before, last, after, done, split, completes, rfl⟩
    cases before with
    | nil =>
      cases split
      rw [completes_nil_iff.mp completes]
      exact .inl rfl
    | cons first before =>
      cases split
      obtain ⟨value, rest, rfl, onward⟩ := completes_cons_iff.mp completes
      exact .inr ⟨value, _, rfl, before, last, after, rest, rfl, onward, rfl⟩
  · rintro (rfl | ⟨value, rest, rfl, before, last, after, done, rfl, completes, rfl⟩)
    · exact ⟨[], request, script, [], rfl, .nil, rfl⟩
    · exact ⟨request :: before, last, after, _, rfl,
        completes_cons_iff.mpr ⟨value, done, rfl, completes⟩, rfl⟩

end Course

/-- Behind the script something else follows, unless the script breaks off. -/
inductive Behind {α : Type} (script : List Request) (rest : Course → Except Failure α → Prop) :
    Course → Except Failure α → Prop where
  | breaksOff {course : Course} {exception : Value} (breaks : course.BreaksOff script exception) :
      Behind script rest course (.error (.raised exception))
  | onward {first second : Course} {outcome : Except Failure α}
      (completes : first.Completes script) (goes : rest second outcome) :
      Behind script rest (first ++ second) outcome

/-- Nothing follows but the result. -/
def Returns {α : Type} (a : α) (course : Course) (outcome : Except Failure α) : Prop :=
  course = [] ∧ outcome = .ok a

section

variable {α : Type} {script script' : List Request} {request : Request} {course : Course}
  {rest : Course → Except Failure α → Prop} {outcome : Except Failure α}

theorem behind_nil_iff : Behind [] rest course outcome ↔ rest course outcome := by
  constructor
  · rintro (breaks | ⟨completes, goes⟩)
    · exact absurd breaks Course.not_breaksOff_nil
    · rwa [Course.completes_nil_iff.mp completes]
  · exact fun goes => .onward .nil goes

theorem behind_cons_iff : Behind (request :: script) rest course outcome ↔
    (∃ exception, course = [(request, .error exception)] ∧
      outcome = .error (.raised exception)) ∨
    ∃ value after, course = (request, .ok value) :: after ∧
      Behind script rest after outcome := by
  constructor
  · rintro (breaks | ⟨completes, goes⟩)
    · rcases Course.breaksOff_cons_iff.mp breaks with rfl | ⟨value, after, rfl, later⟩
      · exact .inl ⟨_, rfl, rfl⟩
      · exact .inr ⟨value, after, rfl, .breaksOff later⟩
    · obtain ⟨value, after, rfl, others⟩ := Course.completes_cons_iff.mp completes
      exact .inr ⟨value, _, rfl, .onward others goes⟩
  · rintro (⟨exception, rfl, rfl⟩ | ⟨value, after, rfl, breaks | ⟨completes, goes⟩⟩)
    · exact .breaksOff (Course.breaksOff_cons_iff.mpr (.inl rfl))
    · exact .breaksOff (Course.breaksOff_cons_iff.mpr (.inr ⟨value, _, rfl, breaks⟩))
    · exact .onward (Course.completes_cons_iff.mpr ⟨value, _, rfl, completes⟩) goes

/-- Where a script is cut does not matter. -/
theorem behind_append_iff : Behind (script ++ script') rest course outcome ↔
    Behind script (Behind script' rest) course outcome := by
  induction script generalizing course with
  | nil => exact behind_nil_iff.symm
  | cons request script ih =>
    rw [List.cons_append, behind_cons_iff, behind_cons_iff]
    simp only [ih]

end

/-! ## 3. Operations that are known by their courses -/

namespace Operation

open Dialogue

variable {α β : Type}

/-- These are the courses of the operation, whoever uses the slot meanwhile, and it does nothing to
    the slot itself. -/
structure Recites (operation : Operation α) (courses : Course → Except Failure α → Prop) :
    Prop where
  only : ∀ {slot course outcome final},
    Goes (operation slot) course outcome final → courses course outcome
  all : ∀ {slot course outcome}, courses course outcome → Plays (operation slot) course outcome slot

namespace Recites

variable {operation : Operation α} {next : α → Operation β}
  {courses : Course → Except Failure α → Prop} {all : Course → Except Failure β → Prop}

theorem congr {courses' : Course → Except Failure α → Prop} (recites : operation.Recites courses)
    (same : ∀ course outcome, courses' course outcome ↔ courses course outcome) :
    operation.Recites courses' where
  only goes := (same _ _).mpr (recites.only goes)
  all here := recites.all ((same _ _).mp here)

theorem pure {a : α} : (Pure.pure a : Operation α).Recites (Returns a) where
  only goes := by
    obtain ⟨rfl, rfl, rfl⟩ := goes_done goes
    exact ⟨rfl, rfl⟩
  all := by
    rintro slot _ _ ⟨rfl, rfl⟩
    exact .done _ _

theorem refuse {error : Error} : (Operation.refuse error : Operation α).Recites
    fun course outcome => course = [] ∧ outcome = .error (.error error) where
  only goes := by
    obtain ⟨rfl, rfl, rfl⟩ := goes_done goes
    exact ⟨rfl, rfl⟩
  all := by
    rintro slot _ _ ⟨rfl, rfl⟩
    exact .done _ _

/-- The rule of sequels: of which courses those of both are made up. -/
theorem bind (rest : α → Course → Except Failure β → Prop) (first : operation.Recites courses)
    (onward : ∀ a course, courses course (.ok a) → (next a).Recites (rest a))
    (iff : ∀ course outcome, all course outcome ↔
      (∃ a before after, courses before (.ok a) ∧ rest a after outcome ∧
        course = before ++ after) ∨
      ∃ failure, courses course (.error failure) ∧ outcome = .error failure) :
    (operation >>= next).Recites all where
  only goes := by
    refine (iff _ _).mpr ?_
    rcases goes_andThen goes with
      ⟨a, _, before, after, begins, ends, rfl⟩ | ⟨failure, fails, rfl⟩
    · have here := first.only begins
      exact .inl ⟨a, before, after, here, (onward a _ here).only ends, rfl⟩
    · exact .inr ⟨failure, first.only fails, rfl⟩
  all := by
    intro slot course outcome here
    refine plays_bind_iff.mpr ?_
    rcases (iff _ _).mp here with ⟨a, before, after, begins, ends, rfl⟩ | ⟨failure, fails, rfl⟩
    · exact .inl ⟨a, slot, before, after, first.all begins, (onward a _ begins).all ends, rfl⟩
    · exact .inr ⟨failure, first.all fails, rfl⟩

/-- A demand comes first, and what follows depends on the result. -/
theorem demand_bind {request : Request} {next : Value → Operation β}
    (rest : Value → Course → Except Failure β → Prop)
    (onward : ∀ value, (next value).Recites (rest value)) :
    (Operation.demand request >>= next).Recites fun course outcome =>
      (∃ exception, course = [(request, .error exception)] ∧
        outcome = .error (.raised exception)) ∨
      ∃ value after, course = (request, .ok value) :: after ∧ rest value after outcome where
  only goes := by
    cases goes with
    | @ask _ _ _ answer back course outcome _ goes =>
      cases answer with
      | ok value => exact .inr ⟨value, course, rfl, (onward value).only goes⟩
      | error exception =>
        obtain ⟨rfl, rfl, rfl⟩ := goes_done goes
        exact .inl ⟨exception, rfl, rfl⟩
  all := by
    intro slot course outcome here
    refine plays_demand_bind_iff.mpr ?_
    rcases here with ⟨exception, rfl, rfl⟩ | ⟨value, after, rfl, here⟩
    · exact .inr ⟨exception, rfl, rfl, rfl⟩
    · exact .inl ⟨value, after, rfl, (onward value).all here⟩

/-- A request of which nobody waits for the result is a script of its own. -/
theorem tell {request : Request} {a : α} :
    (do let _ ← Operation.demand request; return a : Operation α).Recites
      (Behind [request] (Returns a)) :=
  (demand_bind _ fun _ => pure).congr fun _ _ => by simp only [behind_cons_iff, behind_nil_iff]

/-- A script goes on where another ends. -/
theorem behind {script script' : List Request} {a : α} {rest : Course → Except Failure β → Prop}
    (first : operation.Recites (Behind script (Returns a)))
    (onward : (next a).Recites (Behind script' rest)) :
    (operation >>= next).Recites (Behind (script ++ script') rest) := by
  refine .bind (fun _ => Behind script' rest) first (fun other course here => ?_) ?_
  · cases here with
    | onward _ returns =>
      cases returns.2
      exact onward
  · intro course outcome
    rw [behind_append_iff]
    constructor
    · rintro (breaks | ⟨completes, goes⟩)
      · exact .inr ⟨_, .breaksOff breaks, rfl⟩
      · have ends : Behind script (Returns a) (_ ++ []) (.ok a) := .onward completes ⟨rfl, rfl⟩
        rw [List.append_nil] at ends
        exact .inl ⟨a, _, _, ends, goes, rfl⟩
    · rintro (⟨_, _, _, here, goes, rfl⟩ | ⟨_, here, rfl⟩)
      · cases here with
        | onward completes returns =>
          obtain ⟨rfl, -⟩ := returns
          rw [List.append_nil]
          exact .onward completes goes
      · cases here with
        | breaksOff breaks => exact .breaksOff breaks
        | onward _ returns => cases returns.2

/-- A script begins with a request of which nobody waits for the result. -/
theorem tell_bind {request : Request} {script : List Request} {next : Unit → Operation β}
    {rest : Course → Except Failure β → Prop} (onward : (next ()).Recites (Behind script rest)) :
    ((do let _ ← Operation.demand request : Operation Unit) >>= next).Recites
      (Behind (request :: script) rest) :=
  tell.behind onward

end Recites

end Operation

/-! ## 4. Guards -/

/-- The answers that let data go. -/
inductive Value.Assents : Value → Prop where
  | transit : Assents (.guard .transit)
  | true : Assents (.bool true)

/-- The answers that keep it where it is. -/
inductive Value.Declines : Value → Prop where
  | remain : Declines (.guard .remain)
  | false : Declines (.bool false)

/-- An answer lets data go or keeps it, or else it is no verdict. -/
theorem Value.coerce_cases (value : Value) :
    (value.Assents ∧ ¬ value.Declines) ∧ Guard.coerce value = .ok .transit ∨
    (¬ value.Assents ∧ value.Declines) ∧ Guard.coerce value = .ok .remain ∨
    (¬ value.Assents ∧ ¬ value.Declines) ∧ Guard.coerce value = .error (.noVerdict value) := by
  cases value with
  | guard verdict =>
    cases verdict with
    | remain => exact .inr (.inl ⟨⟨nofun, .remain⟩, rfl⟩)
    | transit => exact .inl ⟨⟨.transit, nofun⟩, rfl⟩
  | bool transit =>
    cases transit with
    | false => exact .inr (.inl ⟨⟨nofun, .false⟩, rfl⟩)
    | true => exact .inl ⟨⟨.true, nofun⟩, rfl⟩
  | _ => exact .inr (.inr ⟨⟨nofun, nofun⟩, rfl⟩)

/-- The answers of a guard behind which no other is asked, and what comes of them. -/
inductive Concludes (transition : Transition) : Answer → Except Failure (Option Transition) → Prop
    where
  | goes {value : Value} (assents : value.Assents) :
      Concludes transition (.ok value) (.ok (some transition))
  | raises {exception : Value} :
      Concludes transition (.error exception) (.error (.raised exception))
  | noVerdict {value : Value} (neither : ¬ value.Assents ∧ ¬ value.Declines) :
      Concludes transition (.ok value) (.error (.error (.noVerdict value)))

theorem concludes_ok_iff {transition : Transition} {value : Value}
    {outcome : Except Failure (Option Transition)} : Concludes transition (.ok value) outcome ↔
      value.Assents ∧ outcome = .ok (some transition) ∨
      (¬ value.Assents ∧ ¬ value.Declines) ∧ outcome = .error (.error (.noVerdict value)) := by
  constructor
  · rintro (assents | - | neither)
    · exact .inl ⟨assents, rfl⟩
    · exact .inr ⟨neither, rfl⟩
  · rintro (⟨assents, rfl⟩ | ⟨neither, rfl⟩)
    · exact .goes assents
    · exact .noVerdict neither

/-- How the guards of some transitions decide. They are asked in turn, and either all decline, or
    the first that does not is the last. -/
inductive Decides (transitions : List Transition) (data : Value) :
    Course → Except Failure (Option Transition) → Prop where
  | stays {course : Course}
      (declined : course.Yields (transitions.map (Request.guard · data)) Value.Declines) :
      Decides transitions data course (.ok none)
  | ends {earlier later : List Transition} {transition : Transition} {course : Course}
      {answer : Answer} {outcome : Except Failure (Option Transition)}
      (split : transitions = earlier ++ transition :: later)
      (declined : course.Yields (earlier.map (Request.guard · data)) Value.Declines)
      (concludes : Concludes transition answer outcome) :
      Decides transitions data (course ++ [(.guard transition data, answer)]) outcome

section

variable {transition : Transition} {rest : List Transition} {data : Value} {course : Course}
  {outcome : Except Failure (Option Transition)}

theorem decides_nil_iff : Decides [] data course outcome ↔ Returns none course outcome := by
  constructor
  · rintro (declined | ⟨split, -, -⟩)
    · exact ⟨Course.yields_nil_iff.mp declined, rfl⟩
    · simp at split
  · rintro ⟨rfl, rfl⟩
    exact .stays (Course.yields_nil_iff.mpr rfl)

/-- It is the first guard that ends it, or the first declines and the others decide. -/
theorem decides_cons_iff : Decides (transition :: rest) data course outcome ↔
    (∃ answer, course = [(.guard transition data, answer)] ∧
      Concludes transition answer outcome) ∨
    ∃ value after, course = (.guard transition data, .ok value) :: after ∧
      value.Declines ∧ Decides rest data after outcome := by
  constructor
  · intro decides
    cases decides with
    | stays declined =>
      obtain ⟨value, after, rfl, declines, others⟩ := Course.yields_cons_iff.mp declined
      exact .inr ⟨value, after, rfl, declines, .stays others⟩
    | @ends earlier _ _ _ answer _ split declined concludes =>
      cases earlier with
      | nil =>
        cases split
        rw [Course.yields_nil_iff.mp declined]
        exact .inl ⟨answer, rfl, concludes⟩
      | cons first earlier =>
        cases split
        obtain ⟨value, after, rfl, declines, others⟩ := Course.yields_cons_iff.mp declined
        exact .inr ⟨value, _, rfl, declines, .ends rfl others concludes⟩
  · rintro (⟨answer, rfl, concludes⟩ | ⟨value, after, rfl, declines, decides⟩)
    · exact .ends (List.nil_append _).symm (Course.yields_nil_iff.mpr rfl) concludes
    · have declined {earlier : List Transition} {course : Course}
          (others : course.Yields (earlier.map (Request.guard · data)) Value.Declines) :
          Course.Yields ((.guard transition data, .ok value) :: course)
            ((transition :: earlier).map (Request.guard · data)) Value.Declines :=
        Course.yields_cons_iff.mpr ⟨value, course, rfl, declines, others⟩
      cases decides with
      | stays others => exact .stays (declined others)
      | ends split others concludes =>
        exact .ends (congrArg (transition :: ·) split) (declined others) concludes

end

namespace Table

open Operation Dialogue

/-- The guards decide, and no other request is made. -/
theorem choose_recites {data : Value} {transitions : List Transition} :
    (choose data transitions).Recites (Decides transitions data) := by
  induction transitions with
  | nil => exact Recites.pure.congr fun _ _ => decides_nil_iff
  | cons transition rest ih =>
    refine (Recites.demand_bind (fun value course outcome =>
      course = [] ∧ Concludes transition (.ok value) outcome ∨
        value.Declines ∧ Decides rest data course outcome) fun value => ?_).congr
          fun course outcome => ?_
    · rcases value.coerce_cases with ⟨is, same⟩ | ⟨is, same⟩ | ⟨is, same⟩ <;> rw [same]
      · exact Recites.pure.congr fun _ _ => by simp [concludes_ok_iff, is, Returns]
      · exact ih.congr fun _ _ => by simp [concludes_ok_iff, is]
      · exact Recites.refuse.congr fun _ _ => by simp [concludes_ok_iff, is]
    rw [decides_cons_iff]
    constructor
    · rintro (⟨_ | value, rfl, concludes⟩ | ⟨value, after, rfl, decides⟩)
      · cases concludes
        exact .inl ⟨_, rfl, rfl⟩
      · exact .inr ⟨value, [], rfl, .inl ⟨rfl, concludes⟩⟩
      · exact .inr ⟨value, after, rfl, .inr decides⟩
    · rintro (⟨exception, rfl, rfl⟩ | ⟨value, after, rfl, ⟨rfl, concludes⟩ | decides⟩)
      · exact .inl ⟨_, rfl, .raises⟩
      · exact .inl ⟨_, rfl, concludes⟩
      · exact .inr ⟨value, after, rfl, decides⟩

/-! ## 5. Steps -/

/-- What is asked before any guard: the data is executed. -/
def opening (table : Table) (block : Block) (data : Value) : List Request :=
  [.report table.flags.steps (traceLine table.name "Execute" block.state.text),
    .hook .execute block.tag (block.hooks.at .execute) data]

/-- What is asked when data leaves a state: its exit and the actions of all transitions of the state,
    in declared order, with that of the transition that is taken in its place among them. -/
def departure (table : Table) (block : Block) (transition : Transition) (data : Value) :
    List Request :=
  (.hook .exit block.tag (block.hooks.at .exit) data ::
      block.transitions.map (Request.action · data)) ++
    [.report table.flags.life (traceLine table.name "Exit" block.state.text),
      .report table.flags.life (traceLine table.name "Transit"
        ("From " ++ transition.source.text ++ " to " ++ transition.destination.text))]

/-- What is asked when data enters a state. -/
def arrival (table : Table) (block : Block) (data : Value) : List Request :=
  [.hook .entry block.tag (block.hooks.at .entry) data,
    .report table.flags.life (traceLine table.name "Enter" block.state.text)]

/-- What becomes of data that was left: it is made into something, and that is entered if it has the
    type that it should have. -/
inductive Converts (table : Table) (transition : Transition) (target : Block) (data : Value) :
    Course → Except Failure Entry → Prop where
  | raises {exception : Value} :
      Converts table transition target data [(.convert transition data, .error exception)]
        (.error (.raised exception))
  | misfit {made : Value} (checked : table.checkTypes = true)
      (misfit : made.isA target.kind = false) :
      Converts table transition target data [(.convert transition data, .ok made)]
        (.error (.error (.wrongConversion table.name target.state.text made.kind.name
          target.kind.name)))
  | arrives {made : Value} {course : Course} {outcome : Except Failure Entry}
      (fits : table.checkTypes = true → made.isA target.kind = true)
      (enters : Behind (table.arrival target made) (Returns ⟨target.tag, made⟩) course outcome) :
      Converts table transition target data ((.convert transition data, .ok made) :: course) outcome

/-- What follows upon the decision of the guards: the data stays where it is, and nothing is asked;
    or it leaves by the transition. -/
inductive Ensues (table : Table) (block : Block) (data : Value) :
    Option Transition → Course → Except Failure Entry → Prop where
  | stays : Ensues table block data none [] (.ok ⟨block.tag, data⟩)
  | leaves {transition : Transition} {target : Block} {course : Course}
      {outcome : Except Failure Entry}
      (known : table.block? transition.destination.tag = some target)
      (leaves : Behind (table.departure block transition data)
        (table.Converts transition target data) course outcome) :
      Ensues table block data (some transition) course outcome

/-- What becomes of data that was executed. -/
inductive Proceeds (table : Table) (block : Block) (data : Value) :
    Course → Except Failure Entry → Prop where
  | undecided {course : Course} {failure : Failure}
      (decides : Decides block.transitions data course (.error failure)) :
      Proceeds table block data course (.error failure)
  | decided {first second : Course} {decision : Option Transition}
      {outcome : Except Failure Entry}
      (decides : Decides block.transitions data first (.ok decision))
      (follows : table.Ensues block data decision second outcome) :
      Proceeds table block data (first ++ second) outcome

/-- The courses of a step of data of a state, and what it comes to. -/
def Pace (table : Table) (block : Block) (data : Value) : Course → Except Failure Entry → Prop :=
  Behind (table.opening block data) (table.Proceeds block data)

section

variable {table : Table} {block target : Block} {transition : Transition} {data : Value}

theorem decides_mem {course : Course} (decides : Decides block.transitions data course
    (.ok (some transition))) : transition ∈ block.transitions := by
  cases decides with
  | ends split declined concludes =>
    cases concludes
    rw [split]
    exact List.mem_append_right _ (List.mem_cons_self ..)

variable (plain : table.failure = none)
include plain

theorem call_recites {request : Request} :
    (table.call block data request).Recites (Behind [request] (Returns none)) := by
  unfold Table.call
  rw [plain]
  exact .tell

theorem enter_recites : (table.enter target data true).Recites
    (Behind (table.arrival target data) (Returns ⟨target.tag, data⟩)) := by
  refine (call_recites plain).behind (.tell_bind ?_)
  exact Recites.pure.congr fun _ _ => behind_nil_iff

theorem runActions_recites {transitions : List Transition} :
    (table.runActions block data transitions).Recites
      (Behind (transitions.map (Request.action · data)) (Returns none)) := by
  induction transitions with
  | nil => exact Recites.pure.congr fun _ _ => behind_nil_iff
  | cons transition rest ih => exact (call_recites plain).behind ih

theorem leave_recites : (table.leave block data).Recites
    (Behind (.hook .exit block.tag (block.hooks.at .exit) data ::
      block.transitions.map (Request.action · data)) (Returns none)) :=
  (call_recites plain).behind (runActions_recites plain)

/-- What was left is converted and entered. -/
theorem converts_recites : (do
    let converted ← demand (.convert transition data)
    if table.checkTypes && !converted.isA target.kind then
      refuse (.wrongConversion table.name target.state.text converted.kind.name target.kind.name)
    else table.enter target converted true : Operation Entry).Recites
      (table.Converts transition target data) := by
  refine (Recites.demand_bind (fun made course => table.Converts transition target data
    ((.convert transition data, .ok made) :: course)) fun made => ?_).congr fun course outcome => ?_
  · split
    · rename_i misfit
      obtain ⟨checked, misfit⟩ : table.checkTypes = true ∧ made.isA target.kind = false := by
        simpa using misfit
      refine Recites.refuse.congr fun course outcome => ⟨?_, ?_⟩
      · rintro (_ | _ | fits)
        · exact ⟨rfl, rfl⟩
        · exact absurd (fits checked) (by simp [misfit])
      · rintro ⟨rfl, rfl⟩
        exact .misfit checked misfit
    · rename_i fits
      have fits : table.checkTypes = true → made.isA target.kind = true := by simpa using fits
      refine (enter_recites plain).congr fun course outcome => ⟨?_, .arrives fits⟩
      rintro (_ | ⟨checked, misfit⟩ | ⟨-, enters⟩)
      · exact absurd (fits checked) (by simp [misfit])
      · exact enters
  · constructor
    · intro converts
      cases converts with
      | raises => exact .inl ⟨_, rfl, rfl⟩
      | misfit checked misfit => exact .inr ⟨_, _, rfl, .misfit checked misfit⟩
      | arrives fits enters => exact .inr ⟨_, _, rfl, .arrives fits enters⟩
    · rintro (⟨exception, rfl, rfl⟩ | ⟨value, after, rfl, converts⟩)
      · exact .raises
      · exact converts

theorem take_recites (known : table.block? transition.destination.tag = some target) :
    (table.take block transition data).Recites
      (Behind (table.departure block transition data) (table.Converts transition target data)) := by
  refine (leave_recites plain).behind (.tell_bind (.tell_bind ?_))
  unfold Table.block
  rw [known]
  exact (converts_recites plain).congr fun _ _ => behind_nil_iff

/-- The guards decide, and then the data stays or leaves. -/
theorem proceeds_recites (sound : table.Sound) (mem : block ∈ table.blocks) : (do
    match ← choose data block.transitions with
    | some transition => table.take block transition data
    | none => return ⟨block.tag, data⟩ : Operation Entry).Recites (table.Proceeds block data) := by
  refine .bind (table.Ensues block data) choose_recites (fun decision first decides => ?_) ?_
  · cases decision with
    | none =>
      refine Recites.pure.congr fun course outcome => ⟨?_, ?_⟩
      · rintro ⟨⟩
        exact ⟨rfl, rfl⟩
      · rintro ⟨rfl, rfl⟩
        exact .stays
    | some transition =>
      obtain ⟨target, known⟩ := sound.block?_of_transition mem (decides_mem decides)
      refine (take_recites plain known).congr fun course outcome => ⟨?_, .leaves known⟩
      rintro ⟨⟩
      rename_i known' leaves
      cases known.symm.trans known'
      exact leaves
  · intro course outcome
    constructor
    · rintro (decides | ⟨decides, follows⟩)
      · exact .inr ⟨_, decides, rfl⟩
      · exact .inl ⟨_, _, _, decides, follows, rfl⟩
    · rintro (⟨_, _, _, decides, follows, rfl⟩ | ⟨_, decides, rfl⟩)
      · exact .decided decides follows
      · exact .undecided decides

/-- A step has these courses. -/
theorem run_recites (sound : table.Sound) (mem : block ∈ table.blocks) :
    (table.run block data).Recites (table.Pace block data) := by
  refine .tell_bind ((call_recites plain).behind ?_)
  exact (proceeds_recites plain sound mem).congr fun _ _ => behind_nil_iff

end

/-! ## 6. Main theorem -/

/-- What a step does to a machine that holds data of a state. -/
structure Paced (table : Table) (entry : Entry) (block : Block) : Prop where
  /-- The transitions of the state are the declared ones, in declared order. -/
  order : block.transitions.map Transition.tags =
    (table.machine.edges.filter (·.source.tag == entry.tag)).map Edge.tags
  /-- No two of them are the same, so that a guard is asked once at most, and an action run. -/
  apart : (block.transitions.map Transition.tags).Nodup
  /-- If no other call is made, these are its courses, and the slot holds the result; a failure
      leaves it empty. -/
  alone : ∀ course outcome final, Plays (table.step (.holding entry)) course outcome final ↔
    ∃ result, table.Pace block entry.data course result ∧
      outcome = result.map (fun _ => ()) ∧ final = .landing entry.tag result
  /-- Whatever callbacks do to the slot, there are no other courses, and the result is put into the
      slot. -/
  amid : ∀ course outcome final, Goes (table.step (.holding entry)) course outcome final →
    ∃ result, table.Pace block entry.data course result ∧
      outcome = result.map (fun _ => ()) ∧
      ∀ left, result = .ok left → final.tag = left.tag ∧ final.data = left.data
  /-- What is no verdict is of the wrong type. -/
  typeError : ∀ value, (Error.noVerdict value).kind = .typeError

/-- A step of a plain machine has exactly the courses that `Pace` describes for the answers of its
    guards, with their outcomes and slots. -/
theorem step_paced_by_guards {table : Table} (compiled : table.Compiled)
    (plain : table.failure = none)
    {entry : Entry} {block : Block} (known : table.block? entry.tag = some block)
    (full : entry.data.isNull = false) : table.Paced entry block := by
  have sound := compiled.sound
  have mem := mem_of_block? known
  have recites : (table.run block entry.data).Recites (table.Pace block entry.data) :=
    run_recites plain sound mem
  have order := tag_of_block? known ▸ sound.tags_eq mem
  have apart : (block.transitions.map Transition.tags).Nodup :=
    order ▸ sound.closed.once.sublist (List.filter_sublist.map Edge.tags)
  have amid {course : Course} {outcome : Except Failure Unit} {final : Slot}
      (goes : Goes (table.step (.holding entry)) course outcome final) :
      ∃ result, table.Pace block entry.data course result ∧
        outcome = result.map (fun _ => ()) ∧
        ∀ left, result = .ok left → final.tag = left.tag ∧ final.data = left.data := by
    rw [step_holding known full] at goes
    rcases goes_andThen goes with
      ⟨left, _, first, second, runs, settles, rfl⟩ | ⟨failure, runs, rfl⟩
    · obtain ⟨rfl, rfl, rfl⟩ := goes_done settles
      rw [List.append_nil]
      refine ⟨.ok left, recites.only runs, rfl, ?_⟩
      rintro _ ⟨⟩
      exact ⟨rfl, rfl⟩
    · exact ⟨.error failure, recites.only runs, rfl, nofun⟩
  have alone {course : Course} {result : Except Failure Entry}
      (pace : table.Pace block entry.data course result) :
      Plays (table.step (.holding entry)) course (result.map fun _ => ())
        (.landing entry.tag result) := by
    rw [step_holding known full]
    have runs : Plays (table.run block entry.data (.halted entry.tag)) course result
        (.halted entry.tag) := recites.all pace
    refine plays_bind_iff.mpr ?_
    cases result with
    | ok left => exact .inl ⟨left, _, course, [], runs, .done _ _, (List.append_nil _).symm⟩
    | error failure => exact .inr ⟨failure, runs, rfl⟩
  refine ⟨order, apart, fun course outcome final => ⟨fun plays => ?_, ?_⟩, fun _ _ _ => amid,
    fun _ => rfl⟩
  · obtain ⟨result, pace, same, -⟩ := amid plays.goes
    exact ⟨result, pace, same, (plays_unique plays (alone pace)).2⟩
  · rintro ⟨result, pace, rfl, rfl⟩
    exact alone pace

/-- A lamp whose guard says one instead of true. -/
def misspoken : Course :=
  [(.report false (traceLine "Lamp" "Execute" "Off"), .ok .null),
    (.hook .execute Lamp.offBlock.tag true (.object 0 Lamp.off), .ok .null),
    (.guard Lamp.switch (.object 0 Lamp.off), .ok (.int 1))]

/-- A guard answers with a number: the step ends there, and the machine is halted. -/
theorem step_paced_by_guards_lamp :
    Lamp.plain.Paced ⟨Lamp.offBlock.tag, .object 0 Lamp.off⟩ Lamp.offBlock ∧
    Plays (Lamp.plain.step (.holding ⟨Lamp.offBlock.tag, .object 0 Lamp.off⟩)) misspoken
      (.error (.error (.noVerdict (.int 1)))) (.halted Lamp.offBlock.tag) := by
  have paced : Lamp.plain.Paced ⟨Lamp.offBlock.tag, .object 0 Lamp.off⟩ Lamp.offBlock :=
    step_paced_by_guards Lamp.plain_compiled rfl rfl rfl
  have opens : Course.Completes (misspoken.take 2)
      (Lamp.plain.opening Lamp.offBlock (.object 0 Lamp.off)) :=
    Course.completes_cons_iff.mpr ⟨.null, _, rfl,
      Course.completes_cons_iff.mpr ⟨.null, _, rfl, .nil⟩⟩
  have decides : Decides [Lamp.switch] (.object 0 Lamp.off) (misspoken.drop 2)
      (.error (.error (.noVerdict (.int 1)))) :=
    .ends (List.nil_append _).symm (Course.yields_nil_iff.mpr rfl) (.noVerdict ⟨nofun, nofun⟩)
  have pace : Lamp.plain.Pace Lamp.offBlock (.object 0 Lamp.off) misspoken
      (.error (.error (.noVerdict (.int 1)))) := .onward opens (.undecided decides)
  exact ⟨paced, (paced.alone _ _ _).mpr ⟨_, pace, rfl, rfl⟩⟩

end Table

end MachineSpec
