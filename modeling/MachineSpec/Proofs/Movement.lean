/-
MachineSpec.Proofs.Movement — places are moved with the text.

`MachineSpec.Proofs.Placement` removes all places. Here they are changed by a map of spans:
`moved` is defined for everything that is read and made, and changes the places in it and
nothing else.

Phrases are preserved (`Document.Phrase.moved`, one lemma for each production), because only
the kind of a token decides whether it fits. Validation is preserved because states are
distinguished by their tags (`Machine.moved_ofDecl`, `Messages.moved_ofDecl`).
-/
import MachineSpec.Proofs.Coherence

namespace MachineSpec

open Grammar

open Placed (unplaced)

/-! ## 1. Moved things -/

/-- Things with places that can be changed. -/
class Movable (α : Type) where
  /-- The same thing, with all its places changed. -/
  moved : (Span → Span) → α → α

open Movable (moved)

variable {α β : Type} {move : Span → Span}

instance : Movable Span := ⟨id⟩

instance : Movable String := ⟨fun _ => id⟩

instance [Movable α] : Movable (Option α) := ⟨fun move => Option.map (moved move)⟩

instance [Movable α] : Movable (List α) := ⟨fun move => List.map (moved move)⟩

instance : Movable Token := ⟨fun move token => { token with span := moved move token.span }⟩

instance : Movable Reference :=
  ⟨fun move reference => { reference with span := moved move reference.span }⟩

instance : Movable Edge := ⟨fun move edge =>
  ⟨moved move edge.source, moved move edge.destination, moved move edge.span⟩⟩

instance : Movable Message := ⟨fun move message =>
  ⟨moved move message.payload, message.direction, moved move message.target,
    moved move message.span⟩⟩

instance : Movable FailureDecl := ⟨fun move failing =>
  ⟨moved move failing.errorType, moved move failing.errorState⟩⟩

instance : Movable MachineDecl := ⟨fun move decl =>
  ⟨decl.name, moved move decl.initial, moved move decl.states, moved move decl.edges,
    moved move decl.failure, moved move decl.span⟩⟩

instance : Movable MessagesDecl := ⟨fun move decl =>
  ⟨decl.name, moved move decl.messages, moved move decl.span⟩⟩

instance : Movable Declaration where
  moved move
  | .machine body => .machine (moved move body)
  | .messages body => .messages (moved move body)

instance : Movable State := ⟨fun move state =>
  ⟨moved move state.reference, moved move state.transits⟩⟩

instance : Movable FailurePolicy := ⟨fun move policy =>
  ⟨moved move policy.errorType, moved move policy.errorState⟩⟩

instance : Movable Machine := ⟨fun move machine =>
  ⟨machine.name, moved move machine.initial, moved move machine.states,
    moved move machine.edges, moved move machine.failure⟩⟩

instance : Movable Messages := ⟨fun move channels =>
  { channels with messages := moved move channels.messages }⟩

instance : Movable Document := ⟨fun move document =>
  ⟨moved move document.machines, moved move document.messages⟩⟩

theorem moved_nil [Movable α] : moved move ([] : List α) = [] := rfl

theorem moved_cons [Movable α] {a : α} {as : List α} :
    moved move (a :: as) = moved move a :: moved move as := rfl

theorem moved_append [Movable α] {first second : List α} :
    moved move (first ++ second) = moved move first ++ moved move second := List.map_append

theorem moved_texts {texts : List String} : moved move texts = texts := List.map_id _

/-! ## 2. Phrases -/

namespace Grammar

variable [Movable α] {item item' : Phrases α} {phrase : List Token}

/-- What the phrases of one kind mean, moved, the moved phrases of another kind mean. -/
def Moves (move : Span → Span) (item item' : Phrases α) : Prop :=
  ∀ ⦃phrase a⦄, item phrase a → item' (moved move phrase) (moved move a)

theorem Moves.series (items : Moves move item item') : Moves move (Series item) (Series item') := by
  intro phrase as series
  induction series with
  | last first => exact .last (items first)
  | closed first separates =>
    rw [moved_append]
    exact .closed (items first) separates
  | more first separates rest ih =>
    rw [moved_append]
    exact .more (items first) separates ih

theorem Moves.listed (items : Moves move item item') : Moves move (Listed item) (Listed item') := by
  intro phrase as listed
  cases listed with
  | intro opens inner closes =>
    simp only [moved_cons, moved_append, moved_nil]
    refine .intro opens ?_ closes
    cases inner with
    | none => exact .none
    | some series => exact .some (items.series series)

theorem Moves.applied {argument argument' : Phrases String}
    (arguments : Moves move argument argument') {name : Token} {given : List String}
    (applied : Applied argument phrase name given) :
    Applied argument' (moved move phrase) (moved move name) given := by
  cases applied with
  | bare named => exact .bare named
  | generic named opens series closes =>
    have inner := arguments.series series
    rw [moved_texts] at inner
    simp only [moved_cons, moved_append, moved_nil]
    exact .generic named opens inner closes

theorem moves_argument : Moves move Argument Argument := by
  intro phrase text argument
  refine Argument.induct (motive := fun phrase text => Argument (moved move phrase) text)
    ?_ ?_ ?_ ?_ ?_ argument
  · intro phrase name given type
    have same : Moves move (fun phrase text => Argument (moved move phrase) text) Argument :=
      fun _ _ argument => argument
    exact @Argument.applied _ (moved move name) given (same.applied type)
  · exact fun borrows unnamed target => .borrowed borrows unnamed target
  · exact fun borrows lives target => .borrowedFor borrows lives target
  · exact fun lives => .lifetime lives
  · intro opening closing phrase text opens element closes
    simp only [moved_cons, moved_append, moved_nil]
    exact .slice opens element closes

theorem moves_reference :
    Moves move (fun phrase reference => Reference.Phrase phrase reference) Reference.Phrase := by
  intro phrase reference fits
  cases fits with
  | intro type => exact .intro (moves_argument.applied type)

theorem moves_edge : Moves move Edge.Phrase Edge.Phrase := by
  intro phrase edge fits
  cases fits with
  | intro leaves leads enters =>
    rw [moved_append]
    exact .intro (moves_reference leaves) leads (moves_reference enters)

theorem moves_message : Moves move Message.Phrase Message.Phrase := by
  intro phrase message fits
  cases fits with
  | intro travels way reaches =>
    rw [moved_append]
    exact .intro (moves_reference travels) way (moves_reference reaches)

theorem moved_trailing (ends : Trailing phrase) : Trailing (moved move phrase) := by
  cases ends with
  | none => exact .none
  | some separates => exact .some separates

theorem moves_failing {fallible : Bool} : Moves move (Failing fallible) (Failing fallible) := by
  intro phrase failure fails
  cases fails with
  | never => exact .never
  | into before type between state =>
    simp only [moved_cons, moved_append]
    exact .into before (moves_reference type) between (moves_reference state)

theorem moves_machine {fallible : Bool} :
    Moves move (MachineDecl.Phrase fallible) (MachineDecl.Phrase fallible) := by
  intro phrase decl fits
  cases fits with
  | intro name named comma₁ starts comma₂ lists comma₃ joins fails ends =>
    simp only [moved_cons, moved_append]
    exact .intro (moved move name) named comma₁ (moves_reference starts) comma₂
      (moves_reference.listed lists) comma₃ (moves_edge.listed joins) (moves_failing fails)
      (moved_trailing ends)

theorem moves_messages : Moves move MessagesDecl.Phrase MessagesDecl.Phrase := by
  intro phrase decl fits
  cases fits with
  | intro name named separates lists ends =>
    simp only [moved_cons, moved_append]
    exact .intro (moved move name) named separates (moves_message.listed lists)
      (moved_trailing ends)

theorem moves_keyword {keyword : Keyword} : Moves move keyword.Phrase keyword.Phrase := by
  intro phrase declared fits
  cases fits with
  | machine body => exact .machine (moves_machine body)
  | fallibleMachine body => exact .fallibleMachine (moves_machine body)
  | messages body => exact .messages (moves_messages body)

theorem moved_ending (ends : Ending phrase) : Ending (moved move phrase) := by
  cases ends with
  | none => exact .none
  | some semicolon => exact .some semicolon

theorem moves_declaration : Moves move Declaration.Phrase Declaration.Phrase := by
  intro phrase declared fits
  cases fits with
  | intro named means opens body closes ends =>
    simp only [moved_cons, moved_append]
    exact .intro named means opens (moves_keyword body) closes (moved_ending ends)

theorem moves_document : Moves move Document.Phrase Document.Phrase := by
  intro phrase declarations fits
  induction fits with
  | nil => exact .nil
  | cons declares more ih =>
    rw [moved_append]
    exact .cons (moves_declaration declares) ih

end Grammar

/-! ## 3. Checks -/

theorem moved_tags {references : List Reference} :
    (moved move references).map Reference.tag = references.map Reference.tag := List.map_map ..

theorem moved_find? {test : α → Bool} [Movable α] {as : List α}
    (same : ∀ a, test (moved move a) = test a) :
    (moved move as).find? test = moved move (as.find? test) := by
  show (as.map (moved move)).find? test = _
  rw [List.find?_map]
  exact congrArg (Option.map (moved move)) (congrArg (List.find? · as) (funext same))

theorem moved_checkTags {machine : String} {states : List Reference}
    (distinct : checkTags machine [] states = .ok ()) :
    checkTags machine [] (moved move states) = .ok () := by
  have nodup := nodup_of_checkTags distinct List.nodup_nil
  refine checkTags_of_nodup ?_
  rw [List.nil_append, moved_tags]
  exact nodup

theorem moved_checkEdges {machine : String} {states : List Reference} {edges : List Edge}
    (joins : checkEdges machine (states.map Reference.tag) [] edges = .ok ()) :
    checkEdges machine ((moved move states).map Reference.tag) [] (moved move edges) = .ok () := by
  obtain ⟨declared, once⟩ := closed_of_checkEdges joins
  have tags : (moved move edges).map Edge.tags = edges.map Edge.tags := List.map_map ..
  rw [moved_tags]
  refine checkEdges_of_nodup (fun edge mem => ?_) (by simp) (tags ▸ once)
  obtain ⟨edge, inside, rfl⟩ := List.mem_map.mp mem
  exact ⟨(declared edge inside).1, (declared edge inside).2.1⟩

theorem moved_ofReference {edges : List Edge} {reference : Reference} :
    State.ofReference (moved move edges) (moved move reference) =
      moved move (State.ofReference edges reference) := by
  show (⟨_, ((edges.map (moved move)).filter _).map _⟩ : State) =
    ⟨_, (List.map _ _).map (moved move)⟩
  rw [List.filter_map, List.map_map, List.map_map]
  rfl

theorem moved_ofReferences {edges : List Edge} {references : List Reference} :
    (moved move references).map (State.ofReference (moved move edges)) =
      moved move (references.map (State.ofReference edges)) := by
  show (references.map (moved move)).map _ = (references.map _).map (moved move)
  rw [List.map_map, List.map_map]
  exact List.map_congr_left fun reference _ => moved_ofReference

theorem moved_findRole {machine : String} {role : Role} {states : List State}
    {reference : Reference} {state : State}
    (found : findRole machine role states reference = .ok state) :
    findRole machine role (moved move states) (moved move reference) = .ok (moved move state) := by
  have search : (moved move states).find? (·.tag == (moved move reference).tag) =
      moved move (states.find? (·.tag == reference.tag)) := moved_find? fun _ => rfl
  unfold findRole at found ⊢
  rw [search]
  cases same : states.find? (·.tag == reference.tag) with
  | none =>
    rw [same] at found
    cases found
  | some other =>
    rw [same] at found
    cases found
    rfl

theorem Machine.moved_ofDecl {decl : MachineDecl} {machine : Machine}
    (made : Machine.ofDecl decl = .ok machine) :
    Machine.ofDecl (moved move decl) = .ok (moved move machine) := by
  obtain ⟨name, initial, states, edges, failure, span⟩ := decl
  have role {role : Role} {reference : Reference} {state : State}
      (found : findRole name role (states.map (State.ofReference edges)) reference = .ok state) :
      findRole name role ((moved move states).map (State.ofReference (moved move edges)))
        (moved move reference) = .ok (moved move state) := by
    rw [moved_ofReferences]
    exact moved_findRole found
  have whole (start : State) (policy : Option FailurePolicy) :
      (⟨name, moved move start, (moved move states).map (State.ofReference (moved move edges)),
        moved move edges, moved move policy⟩ : Machine) =
        moved move ⟨name, start, states.map (State.ofReference edges), edges, policy⟩ := by
    rw [moved_ofReferences]
    rfl
  simp only [Machine.ofDecl, Except.bind_eq_ok_iff] at made ⊢
  obtain ⟨_, tags, _, joins, start, starts, made⟩ := made
  refine ⟨(), moved_checkTags tags, (), moved_checkEdges joins, moved move start, role starts, ?_⟩
  cases failure with
  | none =>
    cases made
    exact congrArg Except.ok (whole start none)
  | some failing =>
    simp only [Except.bind_eq_ok_iff] at made
    obtain ⟨errorState, found, _, ⟨⟩, ⟨⟩⟩ := made
    exact Except.bind_eq_ok_iff.mpr ⟨moved move errorState, role found,
      congrArg Except.ok (whole start (some ⟨failing.errorType, errorState⟩))⟩

theorem Messages.moved_ofDecl {machine : Machine} {decl : MessagesDecl} {messages : Messages}
    (made : Messages.ofDecl machine decl = .ok messages) :
    Messages.ofDecl (moved move machine) (moved move decl) = .ok (moved move messages) := by
  obtain ⟨named, declared, once⟩ := Messages.ofDecl_ok_iff.mp ⟨messages, made⟩
  obtain ⟨-, rfl⟩ := Messages.suits_of_ofDecl made
  have keys : (moved move decl.messages).map Message.key = decl.messages.map Message.key :=
    List.map_map ..
  have fits : (moved move decl).Fits (moved move machine) := by
    refine ⟨named, fun message mem => ?_, keys ▸ once⟩
    obtain ⟨message, inside, rfl⟩ := List.mem_map.mp mem
    obtain ⟨reference, listed, same⟩ := declared message inside
    obtain ⟨state, mem, rfl⟩ := List.mem_map.mp listed
    exact ⟨moved move state.reference, List.mem_map_of_mem (List.mem_map_of_mem mem), same⟩
  obtain ⟨others, made'⟩ := Messages.ofDecl_ok_iff.mpr fits
  obtain ⟨-, rfl⟩ := Messages.suits_of_ofDecl made'
  exact made'

/-! ## 4. Remarks -/

theorem unplaced_moved_all [Placed α] [Movable α] {as : List α}
    (same : ∀ a : α, unplaced (moved move a) = unplaced a) :
    unplaced (moved move as) = unplaced as := by
  show (as.map (moved move)).map unplaced = as.map unplaced
  rw [List.map_map]
  exact List.map_congr_left fun a _ => same a

theorem State.unplaced_moved {state : State} : unplaced (moved move state) = unplaced state := by
  show (⟨unplaced state.reference, unplaced (moved move state.transits)⟩ : State) = _
  rw [unplaced_moved_all fun _ => rfl]
  rfl

/-- A moved machine is the same but for places. -/
theorem Machine.unplaced_moved {machine : Machine} :
    unplaced (moved move machine) = unplaced machine := by
  obtain ⟨name, initial, states, edges, failure⟩ := machine
  have policy : unplaced (moved move failure) = unplaced failure := by
    cases failure with
    | none => rfl
    | some policy =>
      show some (⟨unplaced policy.errorType, unplaced (moved move policy.errorState)⟩ :
        FailurePolicy) = _
      rw [State.unplaced_moved]
      rfl
  show (⟨name, unplaced (moved move initial), unplaced (moved move states),
    unplaced (moved move edges), unplaced (moved move failure)⟩ : Machine) = _
  rw [State.unplaced_moved, unplaced_moved_all fun _ => State.unplaced_moved,
    unplaced_moved_all fun _ => rfl, policy]
  rfl

theorem Machine.moved_unreachableRemark {machine : Machine} :
    (moved move machine).unreachableRemark = machine.unreachableRemark := by
  rw [← Machine.unplaced_unreachableRemark, Machine.unplaced_moved,
    Machine.unplaced_unreachableRemark]

theorem Document.moved_remarks {document : Document} :
    (moved move document).remarks = document.remarks := by
  show (document.machines.map (moved move)).filterMap Machine.unreachableRemark = _
  rw [List.filterMap_map]
  exact congrArg (List.filterMap · document.machines)
    (funext fun _ => Machine.moved_unreachableRemark)

end MachineSpec
