/-
MachineSpec.Proofs.Narration — the trace against the active state.

The active state can be followed in the trace: `Start` and `Enter` name the state that
becomes active, `Enter error state` stands for the error state, and `Stop` for none.
`replay` computes this from the lines, and `active` from the slot.

`Table.trace_tells_active_state` relates the two for every run of starts, steps and stops
that succeed. A step reports its transition after it was made, so they agree after a step. A
stop reports `Stop` before it leaves the state: if that fails, the last line is `Enter error
state` although the machine is stopped. A start reports `Start` after the entry: if the
entry failed, that line names the wrong state. These two cases are in
`Table.trace_tells_other_state`.

There is one lemma for each part of the engine, which gives its lines (`Recounts`) and its
effect on the state, and one for each call (`Accounts`). Calls that succeed come one after
the other (`MachineSpec.Proofs.Succession`), so these are enough.
-/
import MachineSpec.Proofs.Seeding
import MachineSpec.Proofs.Succession

namespace MachineSpec

/-! ## 1. Lines and what they say -/

/-- What a line of the trace says of the state of a machine. -/
inductive Saying where
  | enters (state : String)
  | fails
  | stops
  | nothing
deriving DecidableEq, Repr

/-- What a line with this action and detail says. -/
def Saying.of (action detail : String) : Saying :=
  if action = "Start" ∨ action = "Enter" then .enters detail
  else if action = "Enter error state" then .fails
  else if action = "Stop" then .stops
  else .nothing

/-- The letters before the first dash between blanks, and those behind it. -/
def atDash : List Char → List Char × List Char
  | ' ' :: '-' :: ' ' :: rest => ([], rest)
  | letter :: rest => (letter :: (atDash rest).1, (atDash rest).2)
  | [] => ([], [])

/-- What a line says to a reader of the machine. Lines of other machines say nothing. -/
def Table.saying (table : Table) (line : String) : Saying :=
  let heading := (table.name ++ ": ").toList
  if heading.isPrefixOf line.toList then
    let (action, detail) := atDash (line.toList.drop heading.length)
    .of (.ofList action) (.ofList detail)
  else .nothing

theorem atDash_append {action detail : List Char} (plain : '-' ∉ action) :
    atDash (action ++ ' ' :: '-' :: ' ' :: detail) = (action, detail) := by
  induction action with
  | nil => rfl
  | cons letter rest ih =>
    obtain ⟨-, later⟩ := not_or.mp (List.mem_cons.not.mp plain)
    rw [List.cons_append, atDash, ih later]
    -- a dash behind the first letter would have to be one of the action
    rintro more rfl same
    cases rest with
    | nil => cases same
    | cons next rest =>
      obtain ⟨rfl, -⟩ := List.cons.inj same
      exact later (List.mem_cons_self ..)

theorem atDash_of_plain {action : List Char} (plain : '-' ∉ action) :
    atDash action = (action, []) := by
  induction action with
  | nil => rfl
  | cons letter rest ih =>
    obtain ⟨-, later⟩ := not_or.mp (List.mem_cons.not.mp plain)
    rw [atDash, ih later]
    rintro more rfl rfl
    exact later (List.mem_cons_self ..)

namespace Table

open Operation Dialogue

variable {table : Table} {action detail : String}

/-- A line can be read as it was written. -/
theorem saying_traceLine (plain : '-' ∉ action.toList) :
    table.saying (traceLine table.name action detail) = .of action detail := by
  have written : (traceLine table.name action detail).toList =
      (table.name ++ ": ").toList ++ (action.toList ++
        if detail = "" then [] else ' ' :: '-' :: ' ' :: detail.toList) := by
    unfold traceLine
    split <;> simp [String.toList_append]
  have read : atDash (action.toList ++
      if detail = "" then [] else ' ' :: '-' :: ' ' :: detail.toList) =
        (action.toList, detail.toList) := by
    split
    · rename_i empty
      rw [empty, List.append_nil, atDash_of_plain plain]
      rfl
    · exact atDash_append plain
  unfold saying
  dsimp only
  rw [written, List.drop_left, read]
  simp

/-! ## 2. Tales -/

/-- What is told in a course, without the lines that say nothing. -/
def tale (table : Table) (course : Course) : List Saying :=
  (course.lines.map table.saying).filter (· ≠ .nothing)

/-- The type name of the error state, if there is one. -/
def errorText (table : Table) : Option String := table.failure.map (·.errorBlock.state.text)

/-- The state that the trace names after one more line. -/
def retell (table : Table) (now : Option String) : Saying → Option String
  | .enters state => some state
  | .fails => table.errorText
  | .stops => none
  | .nothing => now

/-- The state that the trace names. -/
def replay (table : Table) (lines : List String) : Option String :=
  (lines.map table.saying).foldl table.retell none

/-- The type name of the active state: a machine that does not run has none, nor has one with an entry
    still to come. -/
def active (table : Table) (slot : Slot) : Option String :=
  if slot.running && !slot.pending then (table.block? slot.tag).map (·.state.text) else none

@[simp] theorem tale_nil : table.tale [] = [] := rfl

@[simp] theorem tale_append {first second : Course} :
    table.tale (first ++ second) = table.tale first ++ table.tale second := by
  simp [tale, Course.lines]

/-- Only what is told moves the reader. -/
theorem foldl_retell {sayings : List Saying} {now : Option String} :
    sayings.foldl table.retell now = (sayings.filter (· ≠ .nothing)).foldl table.retell now := by
  induction sayings generalizing now with
  | nil => rfl
  | cons saying rest ih =>
    cases saying with
    | nothing => exact ih
    | _ => exact ih

theorem replay_append {lines : List String} {course : Course} :
    table.replay (lines ++ course.lines) =
      (table.tale course).foldl table.retell (table.replay lines) := by
  unfold replay
  rw [List.map_append, List.foldl_append, foldl_retell]
  rfl

end Table

/-- Wherever the operation ends with a result, what was told meanwhile goes with that. -/
def Operation.Recounts {α : Type} (table : Table) (operation : Operation α)
    (goes : α → List Saying → Prop) : Prop :=
  ∀ slot course a final, Dialogue.Plays (operation slot) course (.ok a) final →
    goes a (table.tale course)

/-- A request that is no report. -/
def Request.silent : Request → Bool
  | .report .. => false
  | _ => true

namespace Operation.Recounts

open Operation Dialogue

variable {α β : Type} {table : Table} {operation : Operation α} {next : α → Operation β}
  {goes : α → List Saying → Prop} {ends : β → List Saying → Prop} {request : Request}

theorem pure {a : α} (h : goes a []) : (Pure.pure a : Operation α).Recounts table goes := by
  intro slot course b final plays
  obtain ⟨rfl, same, -⟩ := plays_done_iff.mp plays
  cases same
  exact h

theorem fail {failure : Failure} : (Operation.fail failure : Operation α).Recounts table goes := by
  intro slot course a final plays
  obtain ⟨-, same, -⟩ := plays_done_iff.mp plays
  cases same

theorem refuse {error : Error} : (Operation.refuse error : Operation α).Recounts table goes := fail

theorem ofExcept {result : Except Error α} :
    (Operation.ofExcept result).Recounts table fun _ tale => tale = [] := by
  cases result with
  | ok a => exact pure rfl
  | error error => exact refuse

theorem bind (h : operation.Recounts table goes)
    (hn : ∀ a before, goes a before → (next a).Recounts table fun b after => ends b (before ++ after)) :
    (operation >>= next).Recounts table ends := by
  intro slot course b final plays
  rcases plays_bind_iff.mp plays with
    ⟨a, middle, first, second, played, rest, rfl⟩ | ⟨failure, -, same⟩
  · rw [Table.tale_append]
    exact hn a _ (h slot first a middle played) middle second b final rest
  · cases same

theorem weaken (h : operation.Recounts table goes) {worse : α → List Saying → Prop}
    (hw : ∀ a tale, goes a tale → worse a tale) : operation.Recounts table worse :=
  fun slot course a final plays => hw a _ (h slot course a final plays)

/-- Behind a part that tells nothing, the tale begins. -/
theorem mute (h : operation.Recounts table fun _ tale => tale = [])
    (hn : ∀ a, (next a).Recounts table ends) : (operation >>= next).Recounts table ends :=
  h.bind fun a before nothing => by
    subst nothing
    exact hn a

theorem attempt (silent : request.silent = true) :
    (Operation.attempt request).Recounts table fun _ tale => tale = [] := by
  intro slot course a final plays
  obtain ⟨answer, rfl, -, -⟩ := plays_attempt_iff.mp plays
  cases request with
  | report => cases silent
  | _ => rfl

theorem demand (silent : request.silent = true) :
    (Operation.demand request).Recounts table fun _ tale => tale = [] :=
  (attempt silent).mute fun answer => by
    cases answer with
    | ok value => exact pure rfl
    | error exception => exact fail

theorem report {enabled : Bool} {line : String} :
    (do let _ ← Operation.demand (.report enabled line) : Operation Unit).Recounts table
      fun _ tale => tale = table.tale [(.report enabled line, .ok .null)] := by
  intro slot course a final plays
  obtain ⟨_, played, same⟩ := plays_map_iff.mp plays
  obtain ⟨answer, rfl, -, -⟩ := plays_demand_iff.mp played
  rfl

end Operation.Recounts

namespace Table

open Operation Dialogue

variable {table : Table} {route : FailureRoute} {block : Block} {data : Value} {request : Request}

/-! ## 3. What the engine tells -/

/-- A step reports that it takes place, and that says nothing. -/
theorem reportStep_recounts {detail : String} :
    (table.reportStep "Execute" detail).Recounts table fun _ tale => tale = [] := by
  intro slot course a final plays
  rw [Recounts.report slot course a final plays]
  cases table.flags.steps with
  | false => rfl
  | true =>
    have said : table.saying (traceLine table.name "Execute" detail) = .nothing :=
      saying_traceLine (by decide)
    simp [tale, Course.lines, said]

/-- The entry was diverted into the error state, and the reader is told so. -/
structure Diverts (table : Table) (entry : Entry) (tale : List Saying) : Prop where
  told : tale = [.fails]
  there : ∃ route, table.failure = some route ∧ entry.tag = route.errorBlock.tag

/-- Either nothing happened and nothing is told, or the data was diverted. -/
def Spares (table : Table) (result : Option Entry) (tale : List Saying) : Prop :=
  match result with
  | none => tale = []
  | some entry => table.Diverts entry tale

/-- A part that spares the data is gone on with; one that diverts it is the end of the whole. -/
theorem recounts_spared {α : Type} {operation : Operation (Option Entry)}
    {next : Option Entry → Operation α} {ends : α → List Saying → Prop}
    (h : operation.Recounts table table.Spares)
    (diverted : ∀ entry tale, table.Diverts entry tale → ∃ a, next (some entry) = pure a ∧ ends a tale)
    (spared : (next none).Recounts table ends) : (operation >>= next).Recounts table ends :=
  h.bind fun result told spares => by
    cases result with
    | some entry =>
      obtain ⟨a, same, ended⟩ := diverted entry told spares
      rw [same]
      refine .pure ?_
      rw [List.append_nil]
      exact ended
    | none =>
      have nothing : told = [] := spares
      subst nothing
      exact spared

/-- The lines of an entry: the name of the state, or a failure. -/
inductive Announces (table : Table) (entry : Entry) : List Saying → Prop where
  | entered {block : Block} (known : table.block? entry.tag = some block) :
      Announces table entry [.enters block.state.text]
  | diverted {tale : List Saying} (diverts : table.Diverts entry tale) : Announces table entry tale

theorem callErrorState_recounts (silent : request.silent = true) :
    (callErrorState route request).Recounts table fun _ tale => tale = [] :=
  (Recounts.attempt silent).mute fun answer => by
    cases answer with
    | ok value => exact .pure rfl
    | error exception =>
      dsimp only
      split
      · exact .refuse
      · exact .fail

section

variable (traced : table.flags.life = true)
include traced

/-- A report on the life of the machine says what its action says. -/
theorem reportLife_recounts {action detail : String} (plain : '-' ∉ action.toList) :
    (table.reportLife action detail).Recounts table fun _ tale =>
      tale = [Saying.of action detail].filter (· ≠ .nothing) := by
  intro slot course a final plays
  rw [Recounts.report slot course a final plays, traced, ← saying_traceLine plain]
  rfl

theorem redirect_recounts (fallible : table.failure = some route) {exception : Value} :
    (table.redirect route block data exception).Recounts table table.Diverts := by
  refine (reportLife_recounts traced (by decide)).bind fun _ told htold => ?_
  have failed : told = [.fails] := htold
  split
  · exact .refuse
  · refine (Recounts.demand rfl).mute fun made => ?_
    dsimp only
    split
    · exact .refuse
    · refine (Recounts.demand rfl).mute fun _ => (callErrorState_recounts rfl).mute fun _ => .pure ?_
      exact ⟨by rw [failed]; rfl, route, fallible, rfl⟩

theorem call_recounts (silent : request.silent = true) :
    (table.call block data request).Recounts table table.Spares := by
  unfold Table.call
  split
  · exact (Recounts.demand silent).mute fun _ => .pure rfl
  · rename_i route fallible
    split
    · exact (callErrorState_recounts silent).mute fun _ => .pure rfl
    · refine (Recounts.attempt silent).mute fun answer => ?_
      cases answer with
      | ok value => exact .pure rfl
      | error exception =>
        dsimp only
        split
        · refine (redirect_recounts traced fallible).bind fun entry told diverts => .pure ?_
          rw [List.append_nil]
          exact diverts
        · exact .fail

theorem callHook_recounts {stage : Stage} :
    (table.callHook block stage data).Recounts table table.Spares :=
  call_recounts traced rfl

/-- Data that enters without being diverted is in the state of the block. -/
theorem enter_recounts {reported : Bool} :
    (table.enter block data reported).Recounts table fun entry tale =>
      (entry.tag = block.tag ∧ tale = if reported then [.enters block.state.text] else []) ∨
        table.Diverts entry tale := by
  refine recounts_spared (callHook_recounts traced)
    (fun entry tale diverts => ⟨entry, rfl, .inr diverts⟩) ?_
  cases reported with
  | false => exact .pure (.inl ⟨rfl, rfl⟩)
  | true =>
    refine (reportLife_recounts traced (by decide)).bind fun _ told entered => ?_
    exact .pure (.inl ⟨rfl, by rw [entered]; rfl⟩)

theorem runActions_recounts {transitions : List Transition} :
    (table.runActions block data transitions).Recounts table table.Spares := by
  induction transitions with
  | nil => exact .pure rfl
  | cons transition rest ih =>
    exact recounts_spared (call_recounts traced rfl)
      (fun entry _ diverts => ⟨some entry, rfl, diverts⟩) ih

theorem leave_recounts : (table.leave block data).Recounts table table.Spares :=
  recounts_spared (callHook_recounts traced)
    (fun entry _ diverts => ⟨some entry, rfl, diverts⟩) (runActions_recounts traced)

theorem retire_recounts : (table.retire block data).Recounts table fun entry tale =>
    (entry.tag = block.tag ∧ tale = []) ∨ table.Diverts entry tale :=
  recounts_spared (leave_recounts traced) (fun entry tale diverts => ⟨entry, rfl, .inr diverts⟩) <|
    (reportLife_recounts traced (by decide)).mute fun _ => .pure (.inl ⟨rfl, rfl⟩)

omit traced in
theorem block_recounts {tag : String} : (table.block tag).Recounts table fun block tale =>
    table.block? tag = some block ∧ tale = [] := by
  unfold Table.block
  split
  · rename_i block known
    exact .pure ⟨known, rfl⟩
  · exact .refuse

theorem take_recounts {transition : Transition} :
    (table.take block transition data).Recounts table table.Announces := by
  refine recounts_spared (leave_recounts traced)
    (fun entry tale diverts => ⟨entry, rfl, .diverted diverts⟩) ?_
  refine (reportLife_recounts traced (by decide)).mute fun _ =>
    (reportLife_recounts traced (by decide)).mute fun _ => ?_
  refine block_recounts.bind fun target told found => ?_
  obtain ⟨known, rfl⟩ := found
  refine (Recounts.demand rfl).mute fun converted => ?_
  split
  · exact .refuse
  · refine (enter_recounts traced).weaken fun entry tale reached => ?_
    rcases reached with ⟨here, rfl⟩ | diverts
    · rw [tag_of_block? known] at here
      exact .entered (here ▸ known)
    · exact .diverted diverts

omit traced in
theorem choose_recounts {transitions : List Transition} :
    (choose data transitions).Recounts table fun _ tale => tale = [] := by
  induction transitions with
  | nil => exact .pure rfl
  | cons transition rest ih =>
    refine (Recounts.demand rfl).mute fun answer => Recounts.ofExcept.mute fun verdict => ?_
    cases verdict with
    | transit => exact .pure rfl
    | remain => exact ih

theorem run_recounts : (table.run block data).Recounts table fun entry tale =>
    (entry.tag = block.tag ∧ tale = []) ∨ table.Announces entry tale := by
  refine reportStep_recounts.mute fun _ => recounts_spared (callHook_recounts traced)
    (fun entry tale diverts => ⟨entry, rfl, .inr (.diverted diverts)⟩) ?_
  refine choose_recounts.mute fun chosen => ?_
  cases chosen with
  | some transition => exact (take_recounts traced).weaken fun _ _ announces => .inr announces
  | none => exact .pure (.inl ⟨rfl, rfl⟩)

end

end Table

/-! ## 4. What a call tells -/

namespace Call

/-- Whether data failed at a time when its line was the wrong one: in a start, or in a stop that was
    reported already. -/
def strays (tale : List Saying) : Call → Bool
  | .start _ => tale.contains .fails
  | .stop => (tale.dropWhile (· != .stops)).contains .fails
  | _ => false

end Call

namespace Table

/-- What can be relied on in what a call tells, given the slots before and after it. -/
structure Accounts (table : Table) (slot : Slot) (call : Call) (tale : List Saying)
    (final : Slot) : Prop where
  /-- If nothing is told, then nothing has changed. -/
  mute : tale = [] → table.active final = table.active slot
  /-- What is told is right, unless data strayed. -/
  right : tale ≠ [] → call.strays tale = false →
    ∀ now, tale.foldl table.retell now = table.active final
  /-- If data failed while it was left, the last line is that of the error state. -/
  stray : call = .stop → call.strays tale = true →
    (∀ now, tale.foldl table.retell now = table.errorText) ∧ table.active final = none

open Operation Dialogue

variable {table : Table} {given : Value} {channels : Option Channels} {slot final : Slot}
  {entry : Entry} {tale : List Saying} {call : Call} {course : Course}
  {outcome : Except Failure Reply}

@[simp] theorem active_fresh : table.active (.fresh table) = none := rfl

@[simp] theorem active_holding :
    table.active (.holding entry) = (table.block? entry.tag).map (·.state.text) := rfl

section

variable (sound : table.Sound)
include sound

theorem Diverts.active (diverts : table.Diverts entry tale) :
    table.active (.holding entry) = table.errorText := by
  obtain ⟨-, route, fallible, there⟩ := diverts
  rw [active_holding, there, sound.errorBlock route fallible, errorText, fallible]
  rfl

/-- Whatever was believed before, after an entry that was told the reader is right. -/
theorem Announces.retell (announces : table.Announces entry tale) (now : Option String) :
    tale.foldl table.retell now = table.active (.holding entry) := by
  cases announces with
  | entered known => rw [active_holding, known]; rfl
  | diverted diverts => rw [diverts.active sound, diverts.told]; rfl

omit sound in
theorem Announces.ne_nil (announces : table.Announces entry tale) : tale ≠ [] := by
  cases announces with
  | entered => exact nofun
  | diverted diverts => rw [diverts.told]; exact nofun

omit sound in
/-- Data that goes astray in a stop does so behind the entry. -/
theorem Announces.strays (announces : table.Announces entry tale)
    (other : ∀ data, call ≠ .start data) {rest : List Saying} : call.strays (tale ++ rest) = call.strays rest := by
  cases call with
  | start data => exact absurd rfl (other data)
  | stop =>
    cases announces with
    | entered => rfl
    | diverted diverts => rw [diverts.told]; rfl
  | _ => rfl

/-- A step does not stray. -/
theorem Announces.accounts (announces : table.Announces entry tale) :
    table.Accounts slot .step tale (.holding entry) :=
  ⟨fun nothing => absurd nothing announces.ne_nil, fun _ _ => announces.retell sound, nofun⟩

variable (traced : table.flags.life = true)
include traced

omit sound in
/-- A line on the life of the machine, as it stands in a course. -/
theorem tale_line {action detail : String} (plain : '-' ∉ action.toList) {answer : Answer}
    {rest : Course} :
    table.tale ((.report table.flags.life (traceLine table.name action detail), answer) :: rest) =
      [Saying.of action detail].filter (· ≠ .nothing) ++ table.tale rest := by
  rw [← saying_traceLine plain, traced, ← List.singleton_append, tale_append]
  rfl

/-- A start tells of the initial state, behind the failure if the entry was diverted. -/
theorem started_accounts {data : Value} {block : Block} {first : Course} {answer : Answer}
    (initial : table.block? table.machine.initial.tag = some block)
    (enters : Plays (table.enter block data false (.halted table.machine.initial.tag)) first
      (.ok entry) (.halted table.machine.initial.tag)) :
    table.Accounts slot (.start data) (table.tale (first ++ [(table.startLine, answer)]))
      (.holding entry) := by
  have line : table.tale [(table.startLine, answer)] = [.enters table.machine.initial.text] :=
    tale_line traced (by decide)
  rw [tale_append, line]
  rcases enter_recounts traced _ _ _ _ enters with ⟨here, nothing⟩ | diverts
  · have active : table.active (.holding entry) = some table.machine.initial.text := by
      rw [active_holding, here, tag_of_block? initial, initial, ← sound.initial_state initial]
      rfl
    rw [nothing]
    exact ⟨nofun, fun _ _ _ => active.symm, nofun⟩
  · rw [diverts.told]
    exact ⟨nofun, nofun, nofun⟩

omit sound in
/-- A stop tells that the machine has stopped, and behind that of a failure if data was diverted. -/
theorem stopped_accounts {block : Block} {left : Entry} {value : Value} {rest : Course} {tag : String}
    (retires : Plays (table.retire block entry.data (.halted tag)) rest (.ok left) (.halted tag)) :
    table.Accounts slot .stop (table.tale ((table.stopLine, .ok value) :: rest)) (.fresh table) := by
  have line : table.tale ((table.stopLine, .ok value) :: rest) = [.stops] ++ table.tale rest :=
    tale_line traced (by decide)
  rw [line]
  rcases retire_recounts traced _ _ _ _ retires with ⟨-, nothing⟩ | diverts
  · rw [nothing]
    exact ⟨nofun, fun _ _ _ => rfl, nofun⟩
  · rw [diverts.told]
    exact ⟨nofun, nofun, fun _ _ => ⟨fun _ => rfl, rfl⟩⟩

/-- A step that leaves the data where it is tells nothing. -/
theorem stepped_accounts {block : Block} {result : Entry}
    (known : table.block? entry.tag = some block)
    (runs : Plays (table.run block entry.data (.halted entry.tag)) course (.ok result)
      (.halted entry.tag)) :
    table.Accounts (.holding entry) .step (table.tale course) (.holding result) := by
  rcases run_recounts traced _ _ _ _ runs with ⟨here, nothing⟩ | announces
  · have same : table.active (.holding result) = table.active (.holding entry) := by
      rw [active_holding, active_holding, here, tag_of_block? known]
    exact ⟨fun _ => same, fun told => absurd nothing told, nofun⟩
  · exact announces.accounts sound

omit sound in
theorem entered_announces {data : Value} {block : Block}
    (initial : table.block? table.machine.initial.tag = some block)
    (enters : Plays (table.enter block data true (.halted table.machine.initial.tag)) course
      (.ok entry) (.halted table.machine.initial.tag)) : table.Announces entry (table.tale course) := by
  rcases enter_recounts traced _ _ _ _ enters with ⟨here, told⟩ | diverts
  · rw [told]
    exact .entered (by rw [here, tag_of_block? initial, initial])
  · exact .diverted diverts

omit traced in
/-- The lines of a deferred entry come first. -/
theorem Accounts.resume {first : List Saying} (announces : table.Announces entry first)
    (other : ∀ data, call ≠ .start data) (rest : table.Accounts (.holding entry) call tale final) :
    table.Accounts slot call (first ++ tale) final := by
  refine ⟨fun nothing => absurd (List.append_eq_nil_iff.mp nothing).1 announces.ne_nil, ?_, ?_⟩
  · intro _ fits now
    rw [announces.strays other] at fits
    rw [List.foldl_append, announces.retell sound]
    by_cases nothing : tale = []
    · rw [nothing, rest.mute nothing]
      rfl
    · exact rest.right nothing fits _
  · intro stop strays
    rw [announces.strays other] at strays
    obtain ⟨told, active⟩ := rest.stray stop strays
    exact ⟨fun now => by rw [List.foldl_append, told], active⟩

theorem Passage.accounts (passage : table.Passage channels given slot call course outcome final)
    (moves : call.Moves) (succeeds : ∃ reply, outcome = .ok reply) :
    table.Accounts slot call (table.tale course) final := by
  obtain ⟨reply, succeeds⟩ := succeeds
  induction passage with
  | refused | stopHalted | startFailed | stopUnreported | stopFailed | entryFailed => cases succeeds
  | quiet looks => cases moves <;> cases looks
  | reset => cases moves
  | started answer initial enters => exact started_accounts sound traced initial enters
  | @stepped _ _ _ result known _ runs =>
    cases result with
    | ok entry => exact stepped_accounts sound traced known runs
    | error failure => cases succeeds
  | stopped value known _ retires => exact stopped_accounts traced retires
  | stepRedirected initial enters => exact (entered_announces traced initial enters).accounts sound
  | resumed makesUp initial enters _ _ _ ih =>
    rw [tale_append]
    refine .resume sound (entered_announces traced initial enters) ?_ (ih moves succeeds)
    rintro data rfl
    cases makesUp

end

/-! ## 5. Main theorem -/

/-- The last event with a line of the lifecycle. -/
def lastHeard (table : Table) (events : List Event) : Option Event :=
  (events.filter fun event => table.tale event.course ≠ []).getLast?

/-- How the lines relate to the active state after these events. -/
structure Narrates (table : Table) (lines : List String) (events : List Event) (slot : Slot) :
    Prop where
  /-- The trace names the active state, unless data failed as described in the last event that has a
      line. -/
  right : (∀ last ∈ table.lastHeard events, last.call.strays (table.tale last.course) = false) →
    table.replay lines = table.active slot
  /-- If it failed in a stop, the trace names the error state, and the machine is stopped. -/
  stray : ∀ last ∈ table.lastHeard events, last.call = .stop →
    last.call.strays (table.tale last.course) = true →
    table.replay lines = table.errorText ∧ table.active slot = none

theorem lastHeard_snoc {events : List Event} {event : Event} :
    table.lastHeard (events ++ [event]) =
      if table.tale event.course = [] then table.lastHeard events else some event := by
  unfold lastHeard
  split <;> simp_all

/-- One more call keeps the relation. -/
theorem Accounts.snoc {lines : List String} {events : List Event} {event : Event}
    (accounts : table.Accounts slot event.call (table.tale event.course) final)
    (before : table.Narrates lines events slot) :
    table.Narrates (lines ++ event.course.lines) (events ++ [event]) final := by
  by_cases nothing : table.tale event.course = []
  · have heard : table.lastHeard (events ++ [event]) = table.lastHeard events := by
      rw [lastHeard_snoc, if_pos nothing]
    have told : table.replay (lines ++ event.course.lines) = table.replay lines := by
      rw [replay_append, nothing]
      rfl
    exact ⟨by rw [heard, told, accounts.mute nothing]; exact before.right,
      by rw [heard, told, accounts.mute nothing]; exact before.stray⟩
  · have heard : table.lastHeard (events ++ [event]) = some event := by
      rw [lastHeard_snoc, if_neg nothing]
    refine ⟨fun right => ?_, fun last hlast stop strays => ?_⟩
    · rw [replay_append, accounts.right nothing (right event heard)]
    · cases heard.symm.trans hlast
      obtain ⟨told, active⟩ := accounts.stray stop strays
      exact ⟨by rw [replay_append, told], active⟩

/-- A machine that was just created has sent no line, and no state of it is active. -/
theorem create_narrates {initial : Slot} (created : table.create given = .ok initial) :
    table.Narrates [] [] initial := by
  have inactive : table.active initial = none := by
    rcases create_cases created with rfl | ⟨rfl, -⟩ <;> rfl
  exact ⟨fun _ => inactive.symm, by simp [lastHeard]⟩

theorem history_narrates (sound : table.Sound) (traced : table.flags.life = true) {initial : Slot}
    {events : List Event} (created : table.create given = .ok initial)
    (history : table.History initial events slot)
    (succeed : ∀ event ∈ events, event.call.Moves ∧ ∃ reply, event.outcome = .ok reply) :
    table.Narrates (events.flatMap fun event => event.course.lines) events slot := by
  induction history with
  | nil => exact create_narrates created
  | @snoc events event slot final before occurs ih =>
    have condition := before.condition sound created
    obtain ⟨moves, succeeds⟩ := succeed event (by simp)
    rw [List.flatMap_append, List.flatMap_singleton]
    exact ((passage sound condition occurs).accounts sound traced moves succeeds).snoc
      (ih fun other hother => succeed other (by simp [hother]))

/-- After creation, and after every start, step or stop of a run in which no such call fails, the
    trace gives the active state, except after a start whose entry failed; and after a stop in which
    data failed it gives the error state. -/
theorem trace_tells_active_state (compiled : table.Compiled) (traced : table.flags.life = true) :
    (∀ given initial, table.create given = .ok initial → table.Narrates [] [] initial) ∧
    ∀ calls lines moment reply slot, table.Chronicle calls lines moment →
      moment.doing = .done (.ok reply) slot →
      ∃ events, table.Serial calls lines events slot ∧ table.Narrates lines events slot := by
  refine ⟨fun given initial => create_narrates, ?_⟩
  intro calls lines moment reply slot chronicle ended
  obtain ⟨events, serial⟩ := chronicle_serial compiled.sound chronicle ended
  obtain ⟨given, initial, created, history⟩ := serial.history
  have narrates := history_narrates compiled.sound traced created history serial.succeed
  rw [serial.lines] at narrates
  exact ⟨events, serial, narrates⟩

theorem mem_of_lastHeard {events : List Event} {last : Event}
    (heard : last ∈ table.lastHeard events) : last ∈ events :=
  List.mem_of_mem_filter (List.mem_of_getLast? heard)

theorem fails_of_strays (strays : call.strays tale = true) : .fails ∈ tale := by
  cases call with
  | start => exact List.contains_iff_mem.mp strays
  | stop => exact (List.dropWhile_sublist _).mem (List.contains_iff_mem.mp strays)
  | _ => cases strays

/-- As long as no failure is reported, the trace is right. -/
theorem Narrates.unfailing {calls : List Call} {lines : List String} {events : List Event}
    (narrates : table.Narrates lines events slot) (serial : table.Serial calls lines events slot)
    (unfailing : .fails ∉ lines.map table.saying) : table.replay lines = table.active slot := by
  refine narrates.right fun last heard => Bool.eq_false_iff.mpr fun strays => unfailing ?_
  obtain ⟨line, sent, said⟩ := List.mem_map.mp (List.mem_of_mem_filter (fails_of_strays strays))
  rw [← serial.lines]
  exact List.mem_map.mpr ⟨line, List.mem_flatMap.mpr ⟨last, mem_of_lastHeard heard, sent⟩, said⟩

/-! A lamp that tells of its life, and whose data can fail both when it enters and when it is left. -/

def frail : Class :=
  Class.object.extend ⟨106, "Frail", "Frail", [("try_entry", .method 0), ("try_exit", .method 1)]⟩

def herald : Table :=
  ⟨Lamp.fallible.machine, ⟨true, false, false⟩,
    [⟨Lamp.offBlock.state, frail, ⟨true, false, true⟩, [Lamp.switch]⟩, Lamp.onBlock,
      Lamp.brokenBlock], some Lamp.route, true⟩

theorem herald_compiled : herald.Compiled :=
  ⟨Lamp.decl (some ⟨Lamp.state "Fault", Lamp.state "Broken"⟩), herald.machine,
    { Lamp.bindings with
      namespaceEntries := [("Off", .cls frail), ("On", .cls Lamp.on), ("Broken", .cls Lamp.broken),
        ("Fault", .cls Lamp.fault)] },
    herald.flags, true, rfl, rfl⟩

/-- The trace sink calls `step` on the line of the start: the state is `On` before the start has
    returned, and so it is in the trace. -/
theorem trace_tells_active_state_lamp :
    ∃ lines moment, herald.Chronicle [.start (.object 0 frail), .step] lines moment ∧
      moment.doing = .done (.ok .nothing) (.holding ⟨"OnState", .object 1 Lamp.on⟩) ∧
      moment.waiting.map Frame.call = [.start (.object 0 frail)] ∧
      herald.replay lines = some "On" := by
  have created : herald.create .null = .ok (.fresh herald) := rfl
  have plays : Plays (Call.step.operation herald none (.holding ⟨"OffState", .object 0 frail⟩))
      [(.report false "Lamp: Execute - Off", .ok .null),
        (.hook .execute "OffState" false (.object 0 frail), .ok .null),
        (.guard Lamp.switch (.object 0 frail), .ok (.bool true)),
        (.hook .exit "OffState" true (.object 0 frail), .ok .null),
        (.action Lamp.switch (.object 0 frail), .ok .null),
        (.report true "Lamp: Exit - Off", .ok .null),
        (.report true "Lamp: Transit - From Off to On", .ok .null),
        (.convert Lamp.switch (.object 0 frail), .ok (.object 1 Lamp.on)),
        (.hook .entry "OnState" true (.object 1 Lamp.on), .ok .null),
        (.report true "Lamp: Enter - On", .ok .null)] (.ok .nothing)
      (.holding ⟨"OnState", .object 1 Lamp.on⟩) :=
    .ask (.ask (.ask (.ask (.ask (.ask (.ask (.ask (.ask (.ask (.done _ _))))))))))
  have started : herald.Chronicle _ _ _ :=
    .answered (.ok .null) (.begun (.start (.object 0 frail)) none .start created)
  have chronicle := (Chronicle.nested .step none .step started).plays plays
  obtain ⟨events, serial, narrates⟩ :=
    (trace_tells_active_state herald_compiled rfl).2 _ _ _ _ _ chronicle rfl
  exact ⟨_, _, chronicle, rfl, rfl, narrates.unfailing serial (by decide +kernel)⟩

/-- How data that failed becomes data of the broken lamp. -/
def shatter : Course :=
  [(.report true "Lamp: Enter error state", .ok .null),
    (.convertFailed "OffState" Lamp.breaking (.object 0 frail), .ok (.object 1 Lamp.broken)),
    (.consume (.object 1 Lamp.broken) (.object 2 Lamp.fault), .ok .null),
    (.hook .entry "BrokenState" true (.object 1 Lamp.broken), .ok .null)]

/-- A stop in which data fails is traced as the error state, while the machine is stopped; a start
    whose entry fails is traced as the initial state, while the error state is active. -/
theorem trace_tells_other_state :
    herald.Compiled ∧ herald.flags.life = true ∧
    (∃ moment, herald.Chronicle [.start (.object 0 frail), .stop]
        ["Lamp: Start - Off", "Lamp: Stop", "Lamp: Enter error state"] moment ∧
      (∃ reply, moment.doing = .done (.ok reply) (.fresh herald)) ∧
      herald.replay ["Lamp: Start - Off", "Lamp: Stop", "Lamp: Enter error state"] =
        some "Broken" ∧
      herald.active (.fresh herald) = none) ∧
    ∃ moment, herald.Chronicle [.start (.object 0 frail)]
        ["Lamp: Enter error state", "Lamp: Start - Off"] moment ∧
      (∃ reply, moment.doing =
        .done (.ok reply) (.holding ⟨"BrokenState", .object 1 Lamp.broken⟩)) ∧
      herald.replay ["Lamp: Enter error state", "Lamp: Start - Off"] = some "Off" ∧
      herald.active (.holding ⟨"BrokenState", .object 1 Lamp.broken⟩) = some "Broken" := by
  have created : herald.create .null = .ok (.fresh herald) := rfl
  have starts : Plays ((Call.start (.object 0 frail)).operation herald none (.fresh herald))
      [(.hook .entry "OffState" true (.object 0 frail), .ok .null),
        (.report true "Lamp: Start - Off", .ok .null)] (.ok .nothing)
      (.holding ⟨"OffState", .object 0 frail⟩) := .ask (.ask (.done _ _))
  have stops : Plays (Call.stop.operation herald none (.holding ⟨"OffState", .object 0 frail⟩))
      ((.report true "Lamp: Stop", .ok .null) ::
        (.hook .exit "OffState" true (.object 0 frail), .error (.object 2 Lamp.fault)) :: shatter)
      (.ok (.snapshot ⟨"BrokenState", Lamp.broken, .object 1 Lamp.broken⟩)) (.fresh herald) :=
    .ask (.ask (.ask (.ask (.ask (.ask (.done _ _))))))
  have breaks : Plays ((Call.start (.object 0 frail)).operation herald none (.fresh herald))
      ((.hook .entry "OffState" true (.object 0 frail), .error (.object 2 Lamp.fault)) ::
        (shatter ++ [(.report true "Lamp: Start - Off", .ok .null)])) (.ok .nothing)
      (.holding ⟨"BrokenState", .object 1 Lamp.broken⟩) :=
    .ask (.ask (.ask (.ask (.ask (.ask (.done _ _))))))
  have begun : herald.Chronicle [.start (.object 0 frail)] ([] ++ Dialogue.sending _) _ :=
    .begun (.start (.object 0 frail)) none .start created
  have started := begun.plays starts
  exact ⟨herald_compiled, rfl,
    ⟨_, (Chronicle.called .stop none .stop started).plays stops, ⟨_, rfl⟩, by decide +kernel, rfl⟩,
    ⟨_, begun.plays breaks, ⟨_, rfl⟩, by decide +kernel, rfl⟩⟩

end Table

end MachineSpec
