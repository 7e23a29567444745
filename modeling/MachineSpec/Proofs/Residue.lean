/-
MachineSpec.Proofs.Residue — what a failed compilation leaves behind.

A machine or messages that fail to compile leave the compiler unchanged, but for its log. A
document is read and validated before its first machine is made, but then machines are made
and registered one by one, and channels likewise. `Residue` describes what stays registered:
everything before the declaration that fails.

* `Workshop.failed_work_leaves_residue`: single declarations are compiled as a whole or not
  at all; so is a document that is rejected, or whose first machine fails. In every other
  case the first machine stays registered, and the same text never compiles again with this
  compiler, whatever is bound later.
* `Workshop.failed_document_remembered`: a document whose second machine lacks a guard.
-/
import MachineSpec.Proofs.Workshop

namespace MachineSpec

open Work

namespace Workshop

variable {w w' : Workshop} {bindings : Bindings} {home source : String} {error : Error}

theorem settle_error {α : Type} {result : Except Error (α × Workshop)}
    (failed : w.settle result = (.error error, w')) : result = .error error ∧ w' = w.unlogged := by
  cases result with
  | error other =>
    cases failed
    exact ⟨rfl, rfl⟩
  | ok done => cases failed

/-! ## 1. What stays -/

/-- What is left behind by a document that cannot be compiled. -/
inductive Residue (w : Workshop) (bindings : Bindings) (home source : String) :
    Error → Workshop → Prop where
  /-- The text is refused: nothing. -/
  | refused {document : Document} {why : Rejection}
      (read : Document.read source = (document, some why)) :
      Residue w bindings home source (.rejected why) w.unlogged
  /-- A machine cannot be made: those before it. -/
  | unbuilt {document : Document} {before after : List Machine} {machine : Machine}
      {made : List (String × Class)} {w' : Workshop} {error : Error}
      (read : Document.read source = (document, none))
      (split : document.machines = before ++ machine :: after)
      (built : w.buildAll bindings home before = (.ok made, w'))
      (failed : w'.build bindings home machine = .error error) :
      Residue w bindings home source error w'.unlogged
  /-- Messages cannot be attached: all machines, and the messages before them. -/
  | unequipped {document : Document} {before after : List Messages} {messages : Messages}
      {made : List (String × Class)} {kinds : List Class} {w' w'' : Workshop} {error : Error}
      (read : Document.read source = (document, none))
      (split : document.messages = before ++ messages :: after)
      (built : w.buildAll bindings home document.machines = (.ok made, w'))
      (equipped : w'.equipAll bindings made before = (.ok kinds, w''))
      (failed : w''.equip bindings made messages = .error error) :
      Residue w bindings home source error w''.unlogged

theorem named_error {machine : Machine} (failed : w.named bindings home machine = .error error) :
    w.build bindings home machine = .error error := by
  unfold named at failed
  cases built : w.build bindings home machine with
  | error other =>
    rw [built] at failed
    cases failed
    rfl
  | ok made =>
    rw [built] at failed
    cases failed

/-- A document that fails leaves behind what it has come to. -/
theorem residue_of_outcome
    (failed : outcome (compileDocument bindings home source) w = (.error error, w')) :
    w.Residue bindings home source error w' := by
  rcases read : Document.read source with ⟨document, _ | why⟩
  · rw [outcome_compileDocument read, compile] at failed
    rcases built : w.buildAll bindings home document.machines with ⟨other | made, t⟩
    · rw [built] at failed
      cases failed
      obtain ⟨before, machine, after, made, split, sofar, fails⟩ := advance_error built
      exact .unbuilt read split sofar (named_error fails)
    · rw [built] at failed
      dsimp only at failed
      rcases equipped : t.equipAll bindings made document.messages with ⟨other | kinds, u⟩
      · rw [equipped] at failed
        cases failed
        obtain ⟨before, messages, after, kinds, split, sofar, fails⟩ := advance_error equipped
        exact .unequipped read split built sofar fails
      · rw [equipped] at failed
        cases failed
  · rw [outcome_refused read] at failed
    cases failed
    exact .refused read

/-! ## 2. What stays for good -/

/-- The compiler remembers a machine of the name. -/
def Remembers (w : Workshop) (name : String) : Prop := ∃ kind, w.compiler.made.lookup name = some kind

theorem remembers_of_mem {name : String} (mem : name ∈ w.compiler.made.map Prod.fst) :
    w.Remembers name := by
  obtain ⟨entry, found, rfl⟩ := List.mem_map.mp mem
  cases known : w.compiler.made.lookup entry.1 with
  | some kind => exact ⟨kind, known⟩
  | none =>
    have other := List.lookup_eq_none_iff.mp known entry found
    simp at other

/-- A document is not compiled if its first machine was compiled before. -/
theorem outcome_remembered {document : Document} {first : Machine} {rest : List Machine}
    (read : Document.read source = (document, none)) (begins : document.machines = first :: rest)
    (remembers : w.Remembers first.name) :
    outcome (compileDocument bindings home source) w =
      (.error (.alreadyCompiled first.name), w.unlogged) := by
  obtain ⟨kind, known⟩ := remembers
  have failed : w.named bindings home first = .error (.alreadyCompiled first.name) := by
    rw [named, build, if_pos (by simp [known])]
    rfl
  have built : w.buildAll bindings home document.machines =
      (.error (.alreadyCompiled first.name), w) := by
    rw [begins]
    exact advance_failed failed
  rw [outcome_compileDocument read, compile, built]

/-- If any machines of a document were made, then so was its first one. -/
theorem first_stays {document : Document} {machines : List Machine} {made : List (String × Class)}
    (starts : machines <+: document.machines)
    (built : w.buildAll bindings home machines = (.ok made, w')) (some : machines ≠ []) :
    ∃ first rest, document.machines = first :: rest ∧ w'.Remembers first.name := by
  obtain ⟨first, others, rfl⟩ := List.exists_cons_of_ne_nil some
  obtain ⟨after, begins⟩ := starts
  have stocked := stocked_of_buildAll built
  have named : first.name ∈ made.map Prod.fst := by
    rw [stocked.names]
    exact List.mem_cons_self ..
  refine ⟨first, others ++ after, begins.symm, remembers_of_mem ?_⟩
  rw [stocked.made, List.map_append, List.map_reverse]
  exact List.mem_append_left _ (List.mem_reverse.mpr named)

/-- Nothing stays, or the first machine does and every later attempt fails because of it. -/
theorem Residue.stays (residue : w.Residue bindings home source error w') :
    w' = w.unlogged ∨ ∃ name, w'.Remembers name ∧
      ∀ later bindings' home', Workshop.Remembers later name →
        outcome (compileDocument bindings' home' source) later =
          (.error (.alreadyCompiled name), later.unlogged) := by
  cases residue with
  | refused read => exact .inl rfl
  | @unbuilt _ before _ _ _ t _ read split built failed =>
    by_cases none : before = []
    · subst none
      obtain ⟨-, rfl⟩ := advance_nil_iff.mp built
      exact .inl rfl
    · obtain ⟨first, rest, begins, remembers⟩ := first_stays ⟨_, split.symm⟩ built none
      exact .inr ⟨first.name, remembers, fun _ _ _ => outcome_remembered read begins⟩
  | @unequipped document before _ _ made _ t u _ read split built equipped failed =>
    by_cases none : document.machines = []
    · -- then there is nothing that messages could be attached to
      rw [none] at built
      obtain ⟨rfl, rfl⟩ := advance_nil_iff.mp built
      cases before with
      | nil =>
        obtain ⟨-, rfl⟩ := advance_nil_iff.mp equipped
        exact .inl rfl
      | cons first rest =>
        obtain ⟨_, _, _, done, -⟩ := advance_cons_iff.mp equipped
        obtain ⟨_, _, known, -⟩ := equip_ok_iff.mp done
        cases known
    · obtain ⟨first, rest, begins, kind, known⟩ := first_stays List.prefix_rfl built none
      rw [← (leaves_of_equipAll equipped).compiler] at known
      exact .inr ⟨first.name, ⟨kind, known⟩, fun _ _ _ => outcome_remembered read begins⟩

/-! ## 3. Main theorem -/

/-- A single declaration that fails to compile changes the compiler in its log only. A document that
    fails leaves what was made before the declaration at fault; if that is anything, then the same
    text is rejected by the compiler ever after. -/
theorem failed_work_leaves_residue (w : Workshop) (bindings : Bindings) :
    (∀ fallible home source error w',
      outcome (compileMachine bindings fallible home source) w = (.error error, w') →
        w' = w.unlogged) ∧
    (∀ source error w', outcome (compileMessages bindings source) w = (.error error, w') →
      w' = w.unlogged) ∧
    ∀ home source error w',
      outcome (compileDocument bindings home source) w = (.error error, w') →
        w.Residue bindings home source error w' ∧
        (w' = w.unlogged ∨ ∃ name, w'.Remembers name ∧
          ∀ later bindings' home', Workshop.Remembers later name →
            outcome (compileDocument bindings' home' source) later =
              (.error (.alreadyCompiled name), later.unlogged)) := by
  refine ⟨fun fallible home source error w' failed => ?_, fun source error w' failed => ?_,
    fun home source error w' failed => ?_⟩
  · rw [outcome_compileMachine] at failed
    exact (settle_error failed).2
  · rw [outcome_compileMessages ""] at failed
    exact (settle_error failed).2
  · have residue := residue_of_outcome failed
    exact ⟨residue, residue.stays⟩

/-! ## 4. Two machines, and a guard that is missing -/

/-- The one state of both machines. -/
def idle : Class := Class.object.plain 100 "X"

/-- The state is bound, and the way from it to itself, perhaps with a guard. -/
def idleBindings (guards : List (EdgeKey × Callback)) : Bindings :=
  { Bindings.empty [("X", .cls idle)] with
    guards := guards
    conversions := [(("XState", "XState"), .construct idle)] }

/-- The guard that the bindings may lack. -/
def idleGuard : List (EdgeKey × Callback) := [(("XState", "XState"), .fixed .remain)]

/-- The compiler has made nothing yet. -/
def start : Workshop := ⟨.fresh .default, .empty⟩

def pairText : String := "machine(A, X, [X], []) machine(B, X, [X], [X => X])"

/-- The state as it stands in the text. -/
def stateAt (offset : Nat) : Reference := ⟨⟨"X", []⟩, ⟨⟨offset, 1, offset + 1⟩, 1⟩⟩

def firstMachine : Machine := ⟨"A", ⟨stateAt 15, []⟩, [⟨stateAt 15, []⟩], [], none⟩

def secondMachine : Machine :=
  ⟨"B", ⟨stateAt 38, [stateAt 48]⟩, [⟨stateAt 38, [stateAt 48]⟩],
    [⟨stateAt 43, stateAt 48, (stateAt 43).span⟩], none⟩

theorem pairText_read :
    Document.read pairText = (⟨[firstMachine, secondMachine], []⟩, none) := by
  decide +kernel

/-- The workshop with the first machine. -/
def left : Workshop :=
  start.defined "m" ⟨firstMachine, ⟨false, false, false⟩,
    [⟨firstMachine.initial, idle, ⟨false, false, false⟩, []⟩], none, true⟩

theorem pair_failed : outcome (compileDocument (idleBindings []) "m" pairText) start =
    (.error (.noGuard "B" "X" "X"), left) := by
  rw [outcome_compileDocument pairText_read]
  rfl

/-- The first machine of the document stays registered. -/
theorem failed_work_leaves_residue_pair :
    outcome (compileDocument (idleBindings []) "m" pairText) start =
      (.error (.noGuard "B" "X" "X"), left) ∧
    start.Residue (idleBindings []) "m" pairText (.noGuard "B" "X" "X") left :=
  ⟨pair_failed, ((failed_work_leaves_residue start (idleBindings [])).2.2 _ _ _ _ pair_failed).1⟩

/-- The document fails for want of a guard. With the guard a new compiler compiles it, and the
    compiler that failed does not. -/
theorem failed_document_remembered :
    outcome (compileDocument (idleBindings []) "m" pairText) start =
      (.error (.noGuard "B" "X" "X"), left) ∧
    ¬ start.Remembers "A" ∧ left.Remembers "A" ∧
    (∃ made w', outcome (compileDocument (idleBindings idleGuard) "m" pairText) start =
      (.ok made, w')) ∧
    outcome (compileDocument (idleBindings idleGuard) "m" pairText) left =
      (.error (.alreadyCompiled "A"), left) := by
  have remembers : left.Remembers "A" := ⟨_, rfl⟩
  have unknown : ¬ start.Remembers "A" := by rintro ⟨_, ⟨⟩⟩
  obtain ⟨made, w', done⟩ : ∃ made w',
      start.compile (idleBindings idleGuard) "m" ⟨[firstMachine, secondMachine], []⟩ =
        (.ok made, w') := ⟨_, _, rfl⟩
  refine ⟨pair_failed, unknown, remembers, ⟨made, w'.unlogged, ?_⟩,
    outcome_remembered pairText_read rfl remembers⟩
  rw [outcome_compileDocument pairText_read, done]

end Workshop

end MachineSpec
