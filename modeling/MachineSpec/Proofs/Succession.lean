/-
MachineSpec.Proofs.Succession — starts, steps and stops that succeed are sequential.

Callbacks may call the machine, so calls can be nested. While data is dealt with the slot is
empty, and a nested start, step or stop fails. If no call fails there is one place left: the
last line of a start is sent with the data in the slot, and nothing follows it (`Guards`). A
call made at that moment could have been made after the start.

A chronicle is a run of such calls, with the lines of the trace in the order in which they
were sent. `chronicle_serial` proves that the same calls, one after the other, send the same
lines.
-/
import MachineSpec.Proofs.Reentry

namespace MachineSpec

namespace Call

/-- The calls that move a machine from state to state. -/
inductive Moves : Call → Prop where
  | start {data : Value} : Moves (.start data)
  | step : Moves .step
  | stop : Moves .stop

end Call

/-! ## 1. Chronicles -/

/-- The lines that were sent in a course. -/
def Course.lines (course : Course) : List String :=
  course.filterMap fun (request, _) =>
    match request with
    | .report true line => some line
    | _ => none

/-- The line that is being sent, if there is one. -/
def Dialogue.sending {α : Type} : Dialogue α → List String
  | .ask (.report true line) _ _ => [line]
  | _ => []

/-- A run of starts, steps and stops of which none has failed, up to a moment: the calls in the
    order in which they were made, and the lines in the order in which they were sent. Every
    callback may call the machine. -/
inductive Table.Chronicle (table : Table) : List Call → List String → Moment → Prop where
  | begun {given : Value} {slot : Slot} (call : Call) (channels : Option Channels)
      (moves : call.Moves) (created : table.create given = .ok slot) :
      Chronicle table [call] (call.operation table channels slot).sending
        ⟨call, call.operation table channels slot, []⟩
  | called {calls : List Call} {lines : List String} {call : Call} {reply : Reply} {slot : Slot}
      (next : Call) (channels : Option Channels) (moves : next.Moves)
      (past : Chronicle table calls lines ⟨call, .done (.ok reply) slot, []⟩) :
      Chronicle table (calls ++ [next])
        (lines ++ (next.operation table channels slot).sending)
        ⟨next, next.operation table channels slot, []⟩
  | answered {calls : List Call} {lines : List String} {call : Call} {request : Request}
      {slot : Slot} {resume : Answer → Slot → Dialogue Reply} {waiting : List Frame}
      (answer : Answer)
      (past : Chronicle table calls lines ⟨call, .ask request slot resume, waiting⟩) :
      Chronicle table calls (lines ++ (resume answer slot).sending)
        ⟨call, resume answer slot, waiting⟩
  | nested {calls : List Call} {lines : List String} {call : Call} {request : Request} {slot : Slot}
      {resume : Answer → Slot → Dialogue Reply} {waiting : List Frame} (next : Call)
      (channels : Option Channels) (moves : next.Moves)
      (past : Chronicle table calls lines ⟨call, .ask request slot resume, waiting⟩) :
      Chronicle table (calls ++ [next])
        (lines ++ (next.operation table channels slot).sending)
        ⟨next, next.operation table channels slot, ⟨call, request, resume⟩ :: waiting⟩
  | returned {calls : List Call} {lines : List String} {call : Call} {reply : Reply} {slot : Slot}
      {frame : Frame} {waiting : List Frame}
      (past : Chronicle table calls lines ⟨call, .done (.ok reply) slot, frame :: waiting⟩) :
      Chronicle table calls lines ⟨frame.call, .ask frame.request slot frame.resume, waiting⟩

namespace Course

@[simp] theorem lines_nil : lines [] = [] := rfl

@[simp] theorem lines_append {first second : Course} :
    lines (first ++ second) = lines first ++ lines second :=
  List.filterMap_append

/-- What is being sent is in the course once it is answered. -/
theorem lines_asked {α : Type} {request : Request} {answer : Answer} {slot : Slot}
    {resume : Answer → Slot → Dialogue α} :
    lines [(request, answer)] = (Dialogue.ask request slot resume).sending := by
  cases request with
  | report enabled line => cases enabled <;> rfl
  | _ => rfl

theorem lines_cons {request : Request} {answer : Answer} {rest : Course} :
    lines ((request, answer) :: rest) = lines [(request, answer)] ++ lines rest := by
  rw [← lines_append, List.singleton_append]

end Course

/-- If no other call is made, the running call comes to its end. -/
theorem Table.Chronicle.plays {table : Table} {calls : List Call} {lines : List String} {call : Call}
    {dialogue : Dialogue Reply} {waiting : List Frame} {course : Course}
    {outcome : Except Failure Reply} {final : Slot}
    (past : table.Chronicle calls (lines ++ dialogue.sending) ⟨call, dialogue, waiting⟩)
    (plays : Dialogue.Plays dialogue course outcome final) :
    table.Chronicle calls (lines ++ course.lines) ⟨call, .done outcome final, waiting⟩ := by
  induction plays generalizing lines with
  | done => exact past
  | @ask _ _ _ answer _ _ _ rest ih =>
    rw [Course.lines_cons, Course.lines_asked, ← List.append_assoc]
    exact ih (.answered answer past)

/-! ## 2. Guarded dialogues -/

namespace Dialogue

variable {α β : Type}

/-- Behind the answer there is nothing to be done, and if it is no exception the dialogue succeeds. -/
def Concludes (resume : Answer → Slot → Dialogue α) : Prop :=
  ∀ answer slot, ∃ outcome, resume answer slot = .done outcome slot ∧
    ∀ value, answer = .ok value → ∃ a, outcome = .ok a

/-- Whoever is asked finds the slot empty, but for one who is the last to be asked. -/
def Guards : Dialogue α → Prop
  | .done _ _ => True
  | .ask _ slot resume => slot.Halted ∧ (∀ answer, Guards (resume answer slot)) ∨ Concludes resume

theorem Concludes.map {resume : Answer → Slot → Dialogue α} (h : Concludes resume) {f : α → β} :
    Concludes fun answer slot => (resume answer slot).andThen fun a => pure (f a) := by
  intro answer slot
  obtain ⟨outcome, same, fine⟩ := h answer slot
  dsimp only
  rw [same]
  cases outcome with
  | ok a => exact ⟨.ok (f a), rfl, fun _ _ => ⟨f a, rfl⟩⟩
  | error failure =>
    refine ⟨.error failure, rfl, fun value answered => ?_⟩
    obtain ⟨a, contrary⟩ := fine value answered
    cases contrary

theorem Guards.map {dialogue : Dialogue α} (h : dialogue.Guards) {f : α → β} :
    (dialogue.andThen fun a => pure (f a)).Guards := by
  induction dialogue with
  | done outcome slot => cases outcome <;> trivial
  | ask request slot resume ih =>
    rcases h with ⟨halted, rest⟩ | concludes
    · exact .inl ⟨halted, fun answer => ih answer slot (rest answer)⟩
    · exact .inr concludes.map

/-- Data is withheld, and it is guarded what follows. -/
theorem Withholds.guards {dialogue : Dialogue α} {next : α → Operation β} (h : dialogue.Withholds)
    (hn : ∀ a slot, slot.Halted → (next a slot).Guards) : (dialogue.andThen next).Guards := by
  induction dialogue with
  | done outcome slot =>
    cases outcome with
    | ok a => exact hn a slot h
    | error failure => trivial
  | ask request slot resume ih =>
    obtain ⟨halted, -, rest⟩ := h
    exact .inl ⟨halted, fun answer => ih answer slot (rest answer)⟩

end Dialogue

namespace Table

open Operation Dialogue

variable {table : Table} {given : Value} {slot : Slot} {β : Type}

theorem tell_guards {request : Request} :
    ((do let _ ← demand request : Operation Unit) slot).Guards := by
  refine .inr fun answer final => ?_
  cases answer with
  | ok value => exact ⟨.ok (), rfl, fun _ _ => ⟨(), rfl⟩⟩
  | error exception => exact ⟨.error (.raised exception), rfl, nofun⟩

theorem block_guards {tag : String} {next : Block → Operation β}
    (hn : ∀ block, (next block slot).Guards) : ((table.block tag >>= next) slot).Guards := by
  unfold Table.block
  split
  · exact hn _
  · trivial

theorem takeData_guards {next : Value → Operation β}
    (hn : slot.running = true → (next slot.data { slot with data := .null }).Guards) :
    ((table.takeData >>= next) slot).Guards := by
  rw [bind_apply]
  rcases takeData_cases table slot with ⟨⟨running, -⟩, taken⟩ | ⟨-, empty⟩
  · rw [taken]
    exact hn running
  · rw [empty]
    trivial

theorem enterPending_guards {next : Bool → Operation β}
    (hn : ∀ elsewhere slot, slot.pending = false → (next elsewhere slot).Guards) :
    ((table.enterPending >>= next) slot).Guards := by
  cases pending : slot.pending with
  | false =>
    rw [enterPending_bind pending]
    exact hn _ _ pending
  | true =>
    rw [bind_apply, enterPending_owed pending, ← bind_apply]
    simp only [bind_assoc, pure_bind]
    refine block_guards fun block => takeData_guards fun running => ?_
    have halted : Slot.Halted { slot with data := .null, pending := false } := ⟨running, rfl, rfl⟩
    exact (enter_withholds halted).guards fun entry now halted => hn _ _ halted.2.2

theorem stepped_guards (settled : slot.pending = false) : (table.stepped slot).Guards := by
  unfold stepped
  refine takeData_guards fun running => ?_
  have halted : Slot.Halted { slot with data := .null } := ⟨running, rfl, settled⟩
  rw [bind_apply, slot_apply, andThen_ok]
  exact block_guards fun block => (run_withholds halted).guards fun _ _ _ => trivial

theorem stopped_guards (settled : slot.pending = false) : (table.stopped slot).Guards := by
  unfold stopped
  rw [bind_apply, slot_apply, andThen_ok]
  split
  · trivial
  · refine takeData_guards fun running => ?_
    have halted : Slot.Halted { slot with data := .null } := ⟨running, rfl, settled⟩
    refine (Withholds.tell rfl halted).guards fun _ now halted => ?_
    rw [bind_apply, slot_apply, andThen_ok]
    refine block_guards fun block => (retire_withholds halted).guards fun entry now _ => ?_
    rw [bind_apply, reset, change_apply, andThen_ok]
    exact block_guards fun _ => trivial

theorem start_guards (tidy : slot.Tidy) {data : Value} : (table.start data slot).Guards := by
  cases running : slot.running with
  | true =>
    rw [start_running running]
    trivial
  | false =>
    cases check : table.checkInitial data with
    | error error =>
      have refused : table.start data slot = .done (.error (.error error)) slot := by
        simp [start, running, check]
      rw [refused]
      trivial
    | ok _ =>
      obtain ⟨block, initial, -⟩ := classed_of_checkInitial check
      rw [start_enters running check initial]
      refine Withholds.guards (enter_withholds ?_) fun _ _ _ => tell_guards
      exact ⟨rfl, tidy running, rfl⟩

/-- Starts, steps and stops are guarded. -/
theorem moves_guards (tidy : slot.Tidy) {call : Call} (moves : call.Moves)
    {channels : Option Channels} : (call.operation table channels slot).Guards := by
  cases moves with
  | start => exact (start_guards tidy).map
  | step =>
    refine Guards.map ?_
    rw [step_eq]
    refine enterPending_guards fun elsewhere now settled => ?_
    split
    · trivial
    · exact stepped_guards settled
  | stop =>
    refine Guards.map ?_
    rw [stop_eq]
    exact enterPending_guards fun _ now settled => stopped_guards settled

/-- And they fail where the slot is empty. -/
theorem moves_fails (halted : slot.Halted) {call : Call} (moves : call.Moves)
    {channels : Option Channels} : (call.operation table channels slot).Failed := by
  rw [halted.eq_halted]
  cases moves with
  | start => rw [Call.operation, map_apply, start_running rfl]; trivial
  | step => rw [Call.operation, map_apply, step_halted]; trivial
  | stop => rw [Call.operation, map_apply, stop_halted]; trivial

end Table

/-! ## 3. One after the other -/

/-- What is left of a dialogue once a course of answers was given, with the slot left alone. -/
inductive Dialogue.Leads {α : Type} (dialogue : Dialogue α) : Course → Dialogue α → Prop where
  | start : Leads dialogue [] dialogue
  | answered {past : Course} {request : Request} {slot : Slot}
      {resume : Answer → Slot → Dialogue α} (answer : Answer)
      (leads : Leads dialogue past (.ask request slot resume)) :
      Leads dialogue (past ++ [(request, answer)]) (resume answer slot)

theorem Dialogue.Leads.plays {α : Type} {dialogue left : Dialogue α} {past course : Course}
    {outcome : Except Failure α} {final : Slot} (leads : dialogue.Leads past left)
    (plays : Plays left course outcome final) : Plays dialogue (past ++ course) outcome final := by
  induction leads generalizing course with
  | start => exact plays
  | answered answer _ ih =>
    rw [List.append_assoc]
    exact ih (.ask plays)

/-- Behind what the call waits for, there is nothing to be done. -/
def Frame.Concludes (frame : Frame) : Prop := Dialogue.Concludes frame.resume

namespace Table

open Operation Dialogue

/-- The calls, one after the other, with what they come to: none of them fails, and together they send
    the lines. -/
structure Serial (table : Table) (calls : List Call) (lines : List String) (events : List Event)
    (slot : Slot) : Prop where
  history : ∃ given initial, table.create given = .ok initial ∧ table.History initial events slot
  succeed : ∀ event ∈ events, event.call.Moves ∧ ∃ reply, event.outcome = .ok reply
  calls : events.map Event.call = calls
  lines : events.flatMap (fun event => event.course.lines) = lines

variable {table : Table} {slot final : Slot} {calls : List Call} {lines : List String}
  {events : List Event} {call : Call} {channels : Option Channels} {past : Course}
  {moment : Moment} {waiting : List Frame}

theorem Serial.snoc (serial : table.Serial calls lines events slot) (moves : call.Moves)
    {reply : Reply} (plays : Plays (call.operation table channels slot) past (.ok reply) final) :
    table.Serial (calls ++ [call]) (lines ++ past.lines)
      (events ++ [⟨call, channels, past, .ok reply⟩]) final := by
  obtain ⟨given, initial, created, history⟩ := serial.history
  refine ⟨⟨given, initial, created, .snoc history plays⟩, fun event mem => ?_, ?_, ?_⟩
  · rcases List.mem_append.mp mem with before | last
    · exact serial.succeed event before
    · rw [List.mem_singleton.mp last]
      exact ⟨moves, reply, rfl⟩
  · rw [List.map_append, serial.calls]
    rfl
  · rw [List.flatMap_append, serial.lines, List.flatMap_singleton]

theorem Serial.tidy (sound : table.Sound) (serial : table.Serial calls lines events slot) :
    slot.Tidy := by
  obtain ⟨given, initial, created, history⟩ := serial.history
  intro stopped
  rw [((history.condition sound created).coherent sound).idle stopped]
  rfl

/-- How a moment of a chronicle is one of a sequence of calls. -/
inductive Joins (table : Table) (calls : List Call) (lines : List String) (moment : Moment) :
    Prop where
  /-- The running call was made when all others had ended. -/
  | working {before : List Call} {sent : List String} {events : List Event} {slot : Slot}
      {channels : Option Channels} {past : Course}
      (serial : table.Serial before sent events slot) (moves : moment.call.Moves)
      (leads : (moment.call.operation table channels slot).Leads past moment.doing)
      (guards : moment.doing.Guards) (allCalls : calls = before ++ [moment.call])
      (allLines : lines = sent ++ past.lines ++ moment.doing.sending)
  /-- The running call has nothing left to do, and counts as ended. -/
  | finished {events : List Event} {slot : Slot} (serial : table.Serial calls lines events slot)
      (concludes : (∃ reply, moment.doing = .done (.ok reply) slot) ∨
        ∃ request resume, moment.doing = .ask request slot resume ∧ Concludes resume)

/-- A call that has ended is one of those that are over. -/
theorem Joins.ended {reply : Reply}
    (joins : table.Joins calls lines ⟨call, .done (.ok reply) slot, waiting⟩) :
    ∃ events, table.Serial calls lines events slot := by
  cases joins with
  | working serial moves leads _ allCalls allLines =>
    have plays := leads.plays (.done _ _)
    rw [List.append_nil] at plays
    have sequel := serial.snoc moves plays
    rw [← allCalls, ← List.append_nil (_ ++ _)] at sequel
    exact ⟨_, allLines ▸ sequel⟩
  | finished serial concludes =>
    rcases concludes with ⟨_, same⟩ | ⟨_, _, contrary, -⟩
    · cases same
      exact ⟨_, serial⟩
    · cases contrary

theorem Serial.joins (sound : table.Sound) (serial : table.Serial calls lines events slot)
    (moves : call.Moves) : table.Joins (calls ++ [call])
      (lines ++ (call.operation table channels slot).sending)
      ⟨call, call.operation table channels slot, waiting⟩ := by
  refine .working serial moves .start (moves_guards (serial.tidy sound) moves) rfl ?_
  rw [Course.lines_nil, List.append_nil]

/-- If another call can be made in the meantime without failing, the running one has nothing left to
    do. -/
theorem Joins.resting {request : Request} {resume : Answer → Slot → Dialogue Reply}
    (joins : table.Joins calls lines ⟨call, .ask request slot resume, waiting⟩) :
    slot.Halted ∨ Concludes resume ∧ ∃ events, table.Serial calls lines events slot := by
  cases joins with
  | working serial moves leads guards allCalls allLines =>
    rcases guards with ⟨halted, -⟩ | concludes
    · exact .inl halted
    · obtain ⟨outcome, same, fine⟩ := concludes (.ok .null) slot
      obtain ⟨reply, rfl⟩ := fine .null rfl
      have ends : Plays (resume (.ok .null) slot) [] (.ok reply) slot := same ▸ .done _ _
      have sequel := serial.snoc moves (leads.plays (.ask ends))
      rw [Course.lines_append, Course.lines_asked, ← List.append_assoc, ← allCalls, ← allLines]
        at sequel
      exact .inr ⟨concludes, _, sequel⟩
  | finished serial concludes =>
    rcases concludes with ⟨_, contrary⟩ | ⟨_, _, same, concludes⟩
    · cases contrary
    · cases same
      exact .inr ⟨concludes, _, serial⟩

theorem Joins.answered {request : Request} {resume : Answer → Slot → Dialogue Reply}
    (joins : table.Joins calls lines ⟨call, .ask request slot resume, waiting⟩) (answer : Answer) :
    (resume answer slot).Failed ∨
      table.Joins calls (lines ++ (resume answer slot).sending)
        ⟨call, resume answer slot, waiting⟩ := by
  cases joins with
  | working serial moves leads guards allCalls allLines =>
    refine .inr (.working serial moves (leads.answered answer) ?_ allCalls ?_)
    · rcases guards with ⟨-, rest⟩ | concludes
      · exact rest answer
      · obtain ⟨outcome, same, -⟩ := concludes answer slot
        dsimp only
        rw [same]
        trivial
    · rw [allLines, Course.lines_append, Course.lines_asked, ← List.append_assoc]
  | finished serial state =>
    rcases state with ⟨_, contrary⟩ | ⟨_, _, same, concludes⟩
    · cases contrary
    · cases same
      obtain ⟨outcome, same, -⟩ := concludes answer slot
      rw [same]
      cases outcome with
      | ok reply => exact .inr (.finished ((List.append_nil lines).symm ▸ serial) (.inl ⟨reply, rfl⟩))
      | error failure => exact .inl trivial

/-- At every moment of a chronicle the running call has failed, or it joins those before it, and the
    waiting calls have nothing left to do. -/
theorem Chronicle.joins (sound : table.Sound) (chronicle : table.Chronicle calls lines moment) :
    moment.doing.Failed ∨ table.Joins calls lines moment ∧
      ∀ frame ∈ moment.waiting, frame.Concludes := by
  induction chronicle with
  | begun call channels moves created =>
    have serial : table.Serial [] [] [] _ :=
      ⟨⟨_, _, created, .nil⟩, List.forall_mem_nil _, rfl, rfl⟩
    exact .inr ⟨serial.joins sound moves, List.forall_mem_nil _⟩
  | called next channels moves _ ih =>
    obtain ⟨joins, -⟩ := ih.resolve_left id
    obtain ⟨events, serial⟩ := joins.ended
    exact .inr ⟨serial.joins sound moves, List.forall_mem_nil _⟩
  | answered answer _ ih =>
    obtain ⟨joins, others⟩ := ih.resolve_left id
    exact (joins.answered answer).imp id fun joins => ⟨joins, others⟩
  | nested next channels moves _ ih =>
    obtain ⟨joins, others⟩ := ih.resolve_left id
    rcases joins.resting with halted | ⟨concludes, events, serial⟩
    · exact .inl (moves_fails halted moves)
    · exact .inr ⟨serial.joins sound moves, List.forall_mem_cons.mpr ⟨concludes, others⟩⟩
  | returned _ ih =>
    obtain ⟨joins, others⟩ := ih.resolve_left id
    obtain ⟨events, serial⟩ := joins.ended
    obtain ⟨concludes, others⟩ := List.forall_mem_cons.mp others
    exact .inr ⟨.finished serial (.inr ⟨_, _, rfl, concludes⟩), others⟩

/-- Whenever a call has succeeded, the calls so far might have been made one after the other: none of
    them fails then either, they send the same lines and they leave the same slot. -/
theorem chronicle_serial (sound : table.Sound) (chronicle : table.Chronicle calls lines moment)
    {reply : Reply} (ended : moment.doing = .done (.ok reply) slot) :
    ∃ events, table.Serial calls lines events slot := by
  obtain ⟨call, doing, waiting⟩ := moment
  cases ended
  obtain ⟨joins, -⟩ := (chronicle.joins sound).resolve_left id
  exact joins.ended

end Table

end MachineSpec
