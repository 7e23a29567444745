/-
MachineSpec.Proofs.Placement — reading and validation do not depend on places.

`unplaced` removes the places from everything that is read, made or reported, so "equal up
to places" is an equation.

Readers commute with it: on a stream without places a reader ends as on the stream itself,
without places, whether it succeeds or fails (`Alike`, one rule for each way of building a
reader). So does validation. Two texts with the same lexemes (`SameTokens`) are therefore
read alike, including the remarks on unreachable states.
-/
import MachineSpec.Graph.Reading
import MachineSpec.Proofs.Reader
import MachineSpec.Proofs.Scanning

namespace MachineSpec

/-! ## 1. Without places -/

/-- Things that may know where they stand in a text. -/
class Placed (α : Type) where
  /-- The same thing, standing nowhere. -/
  unplaced : α → α

open Placed (unplaced)

variable {α β ε : Type}

instance : Placed Unit := ⟨id⟩

instance : Placed Bool := ⟨id⟩

instance : Placed String := ⟨id⟩

instance : Placed Direction := ⟨id⟩

instance : Placed Position := ⟨fun _ => .start⟩

instance : Placed Span := ⟨fun _ => Position.start.span 0⟩

instance [Placed α] : Placed (Option α) := ⟨Option.map unplaced⟩

instance [Placed α] : Placed (List α) := ⟨List.map unplaced⟩

instance [Placed α] [Placed β] : Placed (α × β) := ⟨Prod.map unplaced unplaced⟩

instance [Placed ε] [Placed α] : Placed (Except ε α) where
  unplaced
  | .error error => .error (unplaced error)
  | .ok a => .ok (unplaced a)

instance : Placed Token := ⟨fun token => { token with span := unplaced token.span }⟩

instance : Placed TokenStream := ⟨fun stream =>
  { stream with upcoming := unplaced stream.upcoming, finish := unplaced stream.finish }⟩

instance : Placed ParseError := ⟨fun error => { error with span := unplaced error.span }⟩

instance : Placed Reference := ⟨fun reference => { reference with span := unplaced reference.span }⟩

instance : Placed Edge := ⟨fun edge =>
  ⟨unplaced edge.source, unplaced edge.destination, unplaced edge.span⟩⟩

instance : Placed Message := ⟨fun message =>
  ⟨unplaced message.payload, message.direction, unplaced message.target, unplaced message.span⟩⟩

instance : Placed FailureDecl := ⟨fun failing =>
  ⟨unplaced failing.errorType, unplaced failing.errorState⟩⟩

instance : Placed MachineDecl := ⟨fun decl =>
  ⟨decl.name, unplaced decl.initial, unplaced decl.states, unplaced decl.edges,
    unplaced decl.failure, unplaced decl.span⟩⟩

instance : Placed MessagesDecl := ⟨fun decl =>
  ⟨decl.name, unplaced decl.messages, unplaced decl.span⟩⟩

instance : Placed Declaration where
  unplaced
  | .machine body => .machine (unplaced body)
  | .messages body => .messages (unplaced body)

instance : Placed State := ⟨fun state => ⟨unplaced state.reference, unplaced state.transits⟩⟩

instance : Placed FailurePolicy := ⟨fun policy =>
  ⟨unplaced policy.errorType, unplaced policy.errorState⟩⟩

instance : Placed Machine := ⟨fun machine =>
  ⟨machine.name, unplaced machine.initial, unplaced machine.states, unplaced machine.edges,
    unplaced machine.failure⟩⟩

instance : Placed Messages := ⟨fun channels =>
  { channels with messages := unplaced channels.messages }⟩

instance : Placed Document := ⟨fun document =>
  ⟨unplaced document.machines, unplaced document.messages⟩⟩

instance : Placed Invalid where
  unplaced
  | .ambiguousTag machine first second => .ambiguousTag machine (unplaced first) (unplaced second)
  | .undeclaredEndpoint machine state edge =>
    .undeclaredEndpoint machine (unplaced state) (unplaced edge)
  | .repeatedEdge machine edge => .repeatedEdge machine (unplaced edge)
  | .undeclaredRole machine role state => .undeclaredRole machine role (unplaced state)
  | .otherMachine declared machine => .otherMachine declared machine
  | .foreignTarget machine message => .foreignTarget machine (unplaced message)
  | .repeatedMessage machine message => .repeatedMessage machine (unplaced message)
  | .repeatedMachine name => .repeatedMachine name
  | .unknownMachine name => .unknownMachine name

instance : Placed Rejection where
  unplaced
  | .malformed error => .malformed (unplaced error)
  | .invalid offence => .invalid (unplaced offence)

/-- Texts stand nowhere anyway. -/
theorem unplaced_texts {texts : List String} : unplaced texts = texts := List.map_id _

/-! ## 2. Streams -/

namespace TokenStream

variable {s : TokenStream}

theorem unplaced_ahead {offset : Nat} : (unplaced s).ahead offset = unplaced (s.ahead offset) := by
  show ((s.upcoming.map unplaced)[offset]?).getD _ = _
  rw [List.getElem?_map, ahead]
  cases s.upcoming[offset]? <;> rfl

theorem unplaced_current : (unplaced s).current = unplaced s.current := unplaced_ahead

theorem unplaced_tail : (unplaced s).tail = unplaced s.tail := by
  obtain ⟨taken, upcoming, finish⟩ := s
  cases upcoming <;> rfl

end TokenStream

/-! ## 3. Readers -/

namespace Parse

variable [Placed α] [Placed β]

/-- On a stream without places the second reader ends as the first one does on the stream itself,
    without places. -/
def Alike (p q : Parse α) : Prop := ∀ s, outcome q (unplaced s) = unplaced (outcome p s)

namespace Alike

variable {p p' q q' : Parse α} {next next' : α → Parse β} {kind : TokenKind}

theorem pure {a b : α} (same : unplaced a = b) : Alike (pure a) (pure b) := by
  intro s
  subst same
  rfl

theorem bind (first : Alike p q) (rest : ∀ a, Alike (next a) (next' (unplaced a))) :
    Alike (p >>= next) (q >>= next') := by
  intro s
  rw [outcome_bind, outcome_bind, first s]
  rcases outcome p s with ⟨error | a, t⟩
  · rfl
  · exact rest a t

theorem map {make make' : α → β} (alike : Alike p q)
    (same : ∀ a, unplaced (make a) = make' (unplaced a)) : Alike (make <$> p) (make' <$> q) := by
  rw [map_eq_pure_bind, map_eq_pure_bind]
  exact bind alike fun a => pure (same a)

theorem ite {condition : Bool} (holds : Alike p p') (fails : Alike q q') :
    Alike (if condition then p else q) (if condition then p' else q') := by
  cases condition with
  | false => exact fails
  | true => exact holds

theorem current : Alike Parse.current Parse.current := by
  intro s
  rw [outcome_current, outcome_current, TokenStream.unplaced_current]
  rfl

theorem peek : Alike (Parse.peek kind 0) (Parse.peek kind 0) := by
  intro s
  rw [outcome_peek, outcome_peek, TokenStream.unplaced_current]
  rfl

theorem advance : Alike Parse.advance Parse.advance := by
  intro s
  rw [outcome_advance, outcome_advance, TokenStream.unplaced_current, TokenStream.unplaced_tail]
  rfl

theorem throw {error error' : ParseError} (same : unplaced error = error') :
    Alike (throw error : Parse α) (throw error') := by
  intro s
  subst same
  rfl

theorem refuse {wanted : String} : Alike (Parse.refuse wanted : Parse α) (Parse.refuse wanted) :=
  bind current fun _ => throw rfl

theorem accept : Alike (Parse.accept kind) (Parse.accept kind) :=
  bind peek fun _ => ite (bind advance fun _ => pure rfl) (pure rfl)

theorem expect {what : String} : Alike (Parse.expect kind what) (Parse.expect kind what) :=
  bind peek fun _ => ite advance refuse

theorem expectEnd : Alike (Parse.expectEnd kind) (Parse.expectEnd kind) :=
  bind peek fun _ => ite (pure rfl) refuse

theorem separatedWithin {close : TokenKind} {item : Parse α} (alike : Alike item item)
    {bound : Nat} :
    Alike (separatedWithin close item bound) (separatedWithin close item bound) := by
  induction bound with
  | zero => exact pure rfl
  | succ bound ih =>
    exact bind peek fun _ => ite (pure rfl) (bind alike fun _ => bind accept fun _ =>
      ite (bind ih fun _ => pure rfl) (pure rfl))

theorem separated {close : TokenKind} {item : Parse α} (alike : Alike item item) :
    Alike (separated close item) (separated close item) := by
  intro s
  have same : (unplaced s).upcoming.length = s.upcoming.length := List.length_map ..
  simp only [Parse.separated, outcome_bind, outcome_get, same]
  exact separatedWithin alike s

theorem bracketed {item : Parse α} (alike : Alike item item) :
    Alike (bracketed item) (bracketed item) :=
  bind expect fun _ => bind (separated alike) fun _ => bind expect fun _ => pure rfl

theorem angled {argument : Parse String} (alike : Alike argument argument) :
    Alike (angled argument) (angled argument) :=
  bind expect fun _ => bind (separated alike) fun arguments => by
    rw [unplaced_texts]
    refine ite (bind refuse fun _ => ?_) ?_
    all_goals exact bind expect fun _ => pure unplaced_texts

theorem typeArgWithin {depth : Nat} : Alike (typeArgWithin depth) (typeArgWithin depth) := by
  induction depth with
  | zero => exact refuse
  | succ depth ih =>
    refine bind accept fun _ => ite (bind peek fun _ => ite ?_ ?_) (bind peek fun _ =>
      ite (bind advance fun _ => pure rfl) (bind accept fun _ => ite ?_ ?_))
    · exact bind advance fun _ => bind (pure rfl) fun _ => bind ih fun _ => pure rfl
    · exact bind (pure rfl) fun _ => bind ih fun _ => pure rfl
    · exact bind ih fun _ => bind expect fun _ => pure rfl
    · refine bind expect fun _ => bind peek fun _ =>
        ite (bind (angled ih) fun _ => ?_) (bind (pure rfl) fun _ => ?_)
      all_goals exact pure (by rw [unplaced_texts]; rfl)

theorem typeArg : Alike typeArg typeArg := by
  intro s
  have same : (unplaced s).upcoming.length = s.upcoming.length := List.length_map ..
  simp only [Parse.typeArg, outcome_bind, outcome_get, same]
  exact typeArgWithin s

theorem reference {what : String} : Alike (Parse.reference what) (Parse.reference what) := by
  refine bind expect fun _ => bind peek fun _ =>
    ite (bind (angled typeArg) fun _ => ?_) (bind (pure rfl) fun _ => ?_)
  all_goals exact pure (by rw [unplaced_texts]; rfl)

theorem state : Alike state state := reference

theorem edge : Alike edge edge :=
  bind current fun _ => bind state fun _ => bind expect fun _ => bind state fun _ => pure rfl

theorem direction : Alike direction direction :=
  bind accept fun _ => ite (pure rfl) (bind accept fun _ => ite (pure rfl) refuse)

theorem message : Alike message message :=
  bind current fun _ => bind reference fun _ => bind direction fun _ => bind state fun _ => pure rfl

theorem failure : Alike failure failure :=
  bind expect fun _ => bind reference fun _ => bind expect fun _ => bind state fun _ => pure rfl

theorem machine {fallible : Bool} {close : TokenKind} :
    Alike (machine fallible close) (machine fallible close) := by
  refine bind expect fun _ => bind expect fun _ => bind state fun _ => bind expect fun _ =>
    bind (bracketed state) fun _ => bind expect fun _ => bind (bracketed edge) fun _ =>
    ite (bind (map failure fun _ => rfl) fun _ => ?_) (bind (pure rfl) fun _ => ?_)
  all_goals exact bind accept fun _ => bind expectEnd fun _ => pure rfl

theorem messages {close : TokenKind} : Alike (messages close) (messages close) :=
  bind expect fun _ => bind expect fun _ => bind (bracketed message) fun _ => bind accept fun _ =>
    bind expectEnd fun _ => pure rfl

theorem wholeReference {close : TokenKind} :
    Alike (do
      let reference ← Parse.state
      Parse.expectEnd close
      return reference) (do
      let reference ← Parse.state
      Parse.expectEnd close
      return reference) :=
  bind state fun _ => bind expectEnd fun _ => pure rfl

theorem body {keyword : Token} : Alike (body keyword) (body (unplaced keyword)) := by
  have text : (unplaced keyword).text = keyword.text := rfl
  unfold Parse.body
  rw [text]
  split
  · exact map machine fun _ => rfl
  · split
    · exact map machine fun _ => rfl
    · split
      · exact map messages fun _ => rfl
      · exact throw rfl

theorem declaration : Alike declaration declaration :=
  bind expect fun _ => bind expect fun _ => bind body fun _ => bind expect fun _ =>
    bind accept fun _ => pure rfl

/-- A reader that finishes does so on every stream with the same tokens at other places. -/
theorem reads {p : Parse α} (alike : Alike p p) {s t s' : TokenStream} {a : α}
    (streams : unplaced s = unplaced t) (reads : Reads p s a s') :
    ∃ b t', Reads p t b t' ∧ unplaced b = unplaced a ∧ unplaced t' = unplaced s' := by
  have ended : unplaced (outcome p t) = unplaced (.ok a, s') := by
    rw [← alike, ← streams, alike, reads]
  rcases finished : outcome p t with ⟨error | b, t'⟩
  · rw [finished] at ended
    cases congrArg Prod.fst ended
  · rw [finished] at ended
    exact ⟨b, t', finished, Except.ok.inj (congrArg Prod.fst ended), congrArg Prod.snd ended⟩

end Alike

theorem declarationsWithin_succ {bound : Nat} {s : TokenStream} :
    declarationsWithin (bound + 1) s =
      if s.current.kind = .finish then ([], none)
      else
        match outcome declaration s with
        | (.error error, _) => ([], some error)
        | (.ok first, rest) =>
          (first :: (declarationsWithin bound rest).1, (declarationsWithin bound rest).2) := rfl

theorem unplaced_declarationsWithin {bound : Nat} {s : TokenStream} :
    declarationsWithin bound (unplaced s) = unplaced (declarationsWithin bound s) := by
  induction bound generalizing s with
  | zero => rfl
  | succ bound ih =>
    have here : (unplaced s).current.kind = s.current.kind := by
      rw [TokenStream.unplaced_current]
      rfl
    rw [declarationsWithin_succ, declarationsWithin_succ, here, Alike.declaration s]
    split
    · rfl
    · rcases outcome declaration s with ⟨error | a, t⟩
      · rfl
      · show (unplaced a :: (declarationsWithin bound (unplaced t)).1, _) = _
        rw [ih]
        rfl

theorem unplaced_declarations {s : TokenStream} :
    declarations (unplaced s) = unplaced (declarations s) := by
  have same : (unplaced s).upcoming.length = s.upcoming.length := List.length_map ..
  rw [declarations, declarations, same, unplaced_declarationsWithin]

end Parse

/-! ## 4. Checks -/

theorem unplaced_bind [Placed α] [Placed β] [Placed ε] {x y : Except ε α}
    {next next' : α → Except ε β} (first : y = unplaced x)
    (rest : ∀ a, next' (unplaced a) = unplaced (next a)) : y >>= next' = unplaced (x >>= next) := by
  subst first
  cases x with
  | error => rfl
  | ok a => exact rest a

theorem unplaced_concat [Placed α] {as : List α} {a : α} :
    unplaced (as ++ [a]) = unplaced as ++ [unplaced a] :=
  show (as ++ [a]).map unplaced = _ from List.map_append ..

theorem unplaced_find? {test : α → Bool} [Placed α] {as : List α}
    (same : ∀ a, test (unplaced a) = test a) :
    (unplaced as).find? test = unplaced (as.find? test) := by
  show (as.map unplaced).find? test = _
  rw [List.find?_map]
  exact congrArg (Option.map unplaced) (congrArg (List.find? · as) (funext same))

theorem unplaced_checkTags {machine : String} {before states : List Reference} :
    checkTags machine (unplaced before) (unplaced states) =
      unplaced (checkTags machine before states) := by
  induction states generalizing before with
  | nil => rfl
  | cons state rest ih =>
    show checkTags machine (unplaced before) (unplaced state :: unplaced rest) = _
    have found : (unplaced before).find? (·.tag == (unplaced state).tag) =
        unplaced (before.find? (·.tag == state.tag)) := unplaced_find? fun _ => rfl
    rw [checkTags, checkTags, found]
    cases before.find? (·.tag == state.tag) with
    | some other => rfl
    | none =>
      show checkTags machine (unplaced before ++ [unplaced state]) (unplaced rest) = _
      rw [← unplaced_concat, ih]

theorem unplaced_tags {references : List Reference} :
    (unplaced references).map Reference.tag = references.map Reference.tag :=
  List.map_map ..

theorem unplaced_checkEndpoint {machine : String} {declared : List String} {edge : Edge}
    {state : Reference} : checkEndpoint machine declared (unplaced edge) (unplaced state) =
      unplaced (checkEndpoint machine declared edge state) := by
  have tag : (unplaced state).tag = state.tag := rfl
  unfold checkEndpoint
  rw [tag]
  split <;> rfl

theorem unplaced_checkEdges {machine : String} {declared : List String}
    {before : List (String × String)} {edges : List Edge} :
    checkEdges machine declared before (unplaced edges) =
      unplaced (checkEdges machine declared before edges) := by
  induction edges generalizing before with
  | nil => rfl
  | cons edge rest ih =>
    refine unplaced_bind unplaced_checkEndpoint fun _ =>
      unplaced_bind unplaced_checkEndpoint fun _ => ?_
    have tags : (unplaced edge).tags = edge.tags := rfl
    rw [tags]
    split
    · rfl
    · exact ih

theorem unplaced_ofReference {edges : List Edge} {reference : Reference} :
    State.ofReference (unplaced edges) (unplaced reference) =
      unplaced (State.ofReference edges reference) := by
  show (⟨_, ((edges.map unplaced).filter _).map _⟩ : State) = ⟨_, (List.map _ _).map unplaced⟩
  rw [List.filter_map, List.map_map, List.map_map]
  rfl

theorem unplaced_findRole {machine : String} {role : Role} {states : List State}
    {reference : Reference} : findRole machine role (unplaced states) (unplaced reference) =
      unplaced (findRole machine role states reference) := by
  have found : (unplaced states).find? (·.tag == (unplaced reference).tag) =
      unplaced (states.find? (·.tag == reference.tag)) := unplaced_find? fun _ => rfl
  unfold findRole
  rw [found]
  cases states.find? (·.tag == reference.tag) <;> rfl

theorem unplaced_ofReferences {edges : List Edge} {references : List Reference} :
    (unplaced references).map (State.ofReference (unplaced edges)) =
      unplaced (references.map (State.ofReference edges)) := by
  show (references.map unplaced).map _ = (references.map _).map unplaced
  rw [List.map_map, List.map_map]
  exact List.map_congr_left fun reference _ => unplaced_ofReference

theorem Machine.unplaced_ofDecl {decl : MachineDecl} :
    Machine.ofDecl (unplaced decl) = unplaced (Machine.ofDecl decl) := by
  obtain ⟨name, initial, states, edges, failure, span⟩ := decl
  have tags : checkEdges name ((unplaced states).map Reference.tag) [] (unplaced edges) =
      unplaced (checkEdges name (states.map Reference.tag) [] edges) := by
    rw [unplaced_tags, unplaced_checkEdges]
  have found {role : Role} {reference : Reference} :
      findRole name role ((unplaced states).map (State.ofReference (unplaced edges)))
          (unplaced reference) =
        unplaced (findRole name role (states.map (State.ofReference edges)) reference) := by
    rw [unplaced_ofReferences, unplaced_findRole]
  have made (initial : State) (failure : Option FailurePolicy) :
      (Except.ok ⟨name, unplaced initial,
          (unplaced states).map (State.ofReference (unplaced edges)), unplaced edges,
          unplaced failure⟩ : Except Invalid Machine) =
        unplaced (.ok ⟨name, initial, states.map (State.ofReference edges), edges, failure⟩) := by
    rw [unplaced_ofReferences]
    rfl
  have distinct : checkTags name [] (unplaced states) = unplaced (checkTags name [] states) :=
    @unplaced_checkTags name [] states
  refine unplaced_bind distinct fun _ => unplaced_bind tags fun _ =>
    unplaced_bind found fun start => ?_
  cases failure with
  | none => exact made start none
  | some failing =>
    exact unplaced_bind found fun errorState => made start (some ⟨failing.errorType, errorState⟩)

theorem unplaced_checkMessages {machine : Machine} {before : List (String × String × Direction)}
    {messages : List Message} : checkMessages (unplaced machine) before (unplaced messages) =
      unplaced (checkMessages machine before messages) := by
  induction messages generalizing before with
  | nil => rfl
  | cons message rest ih =>
    have target : (unplaced machine).hasState (unplaced message).target.tag =
        machine.hasState message.target.tag := by
      show (machine.states.map unplaced).any _ = _
      rw [List.any_map]
      rfl
    have key : (unplaced message).key = message.key := rfl
    show checkMessages (unplaced machine) before (unplaced message :: unplaced rest) = _
    rw [checkMessages, checkMessages, target, key]
    split
    · rfl
    · split
      · rfl
      · exact ih

theorem Messages.unplaced_ofDecl {machine : Machine} {decl : MessagesDecl} :
    Messages.ofDecl (unplaced machine) (unplaced decl) =
      unplaced (Messages.ofDecl machine decl) := by
  have declared : (unplaced decl).name = decl.name := rfl
  have meant : (unplaced machine).name = machine.name := rfl
  unfold Messages.ofDecl
  rw [declared, meant]
  split
  · rfl
  · exact unplaced_bind unplaced_checkMessages fun _ => rfl

theorem Document.unplaced_machine? {document : Document} {name : String} :
    (unplaced document).machine? name = unplaced (document.machine? name) :=
  unplaced_find? fun _ => rfl

theorem Document.unplaced_declare {document : Document} {declaration : Declaration} :
    (unplaced document).declare (unplaced declaration) =
      unplaced (document.declare declaration) := by
  cases declaration with
  | machine decl =>
    have known : ((unplaced document).machine? decl.name).isSome =
        (document.machine? decl.name).isSome := by
      rw [unplaced_machine?]
      exact Option.isSome_map
    have grown (machine : Machine) :
        (Except.ok ⟨unplaced document.machines ++ [unplaced machine],
          unplaced document.messages⟩ : Except Invalid Document) =
          unplaced (.ok { document with machines := document.machines ++ [machine] }) := by
      rw [← unplaced_concat]
      rfl
    show Document.declare (unplaced document) (.machine (unplaced decl)) = _
    have name : (unplaced decl).name = decl.name := rfl
    rw [declare, declare, name, known]
    split
    · rfl
    · exact unplaced_bind Machine.unplaced_ofDecl grown
  | messages decl =>
    have grown (channels : Messages) :
        (Except.ok ⟨unplaced document.machines,
          unplaced document.messages ++ [unplaced channels]⟩ : Except Invalid Document) =
          unplaced (.ok { document with messages := document.messages ++ [channels] }) := by
      rw [← unplaced_concat]
      rfl
    show Document.declare (unplaced document) (.messages (unplaced decl)) = _
    have name : (unplaced decl).name = decl.name := rfl
    rw [declare, declare, name, unplaced_machine?]
    cases document.machine? decl.name with
    | none => rfl
    | some machine => exact unplaced_bind Messages.unplaced_ofDecl grown

theorem Document.unplaced_declareAll {document : Document} {declarations : List Declaration} :
    (unplaced document).declareAll (unplaced declarations) =
      unplaced (document.declareAll declarations) := by
  induction declarations generalizing document with
  | nil => rfl
  | cons first rest ih =>
    show (unplaced document).declareAll (unplaced first :: unplaced rest) = _
    rw [declareAll, declareAll, unplaced_declare]
    cases document.declare first with
    | error offence => rfl
    | ok extended => exact ih

/-! ## 5. Reachable states -/

namespace Machine

variable {machine : Machine}

theorem unplaced_destinations : (unplaced machine).destinations = machine.destinations := by
  funext tag
  have found : (unplaced machine).state? tag = unplaced (machine.state? tag) :=
    unplaced_find? fun _ => rfl
  unfold destinations
  rw [found]
  cases machine.state? tag with
  | none => rfl
  | some state => exact unplaced_tags

theorem unplaced_spread {rounds : Nat} {frontier seen : List String} :
    (unplaced machine).spread rounds frontier seen = machine.spread rounds frontier seen := by
  induction rounds generalizing frontier seen with
  | zero => rfl
  | succ rounds ih => rw [spread, spread, unplaced_destinations, ih]

theorem unplaced_reachable : (unplaced machine).reachable = machine.reachable := by
  have origins : (unplaced machine).origins = machine.origins := by
    obtain ⟨name, initial, states, edges, failure⟩ := machine
    cases failure <;> rfl
  have length : (unplaced machine).states.length = machine.states.length := List.length_map ..
  rw [reachable, reachable, unplaced_spread, origins, length]

theorem unplaced_unreachable : (unplaced machine).unreachable = unplaced machine.unreachable := by
  unfold unreachable
  rw [unplaced_reachable]
  exact List.filter_map ..

theorem unplaced_unreachableRemark :
    (unplaced machine).unreachableRemark = machine.unreachableRemark := by
  unfold unreachableRemark
  rw [unplaced_unreachable]
  cases machine.unreachable with
  | nil => rfl
  | cons state rest =>
    have texts : (unplaced (state :: rest)).map State.text = (state :: rest).map State.text :=
      List.map_map ..
    show some (_ ++ Text.quotedList ((unplaced (state :: rest)).map State.text) ++ _ ++ _) = _
    rw [texts]
    rfl

end Machine

theorem Document.unplaced_remarks {document : Document} :
    (unplaced document).remarks = document.remarks := by
  show (document.machines.map unplaced).filterMap Machine.unreachableRemark = _
  rw [List.filterMap_map]
  exact congrArg (List.filterMap · document.machines)
    (funext fun _ => Machine.unplaced_unreachableRemark)

/-! ## 6. Texts -/

/-- Both texts have tokens, and the same ones but for their places. -/
def SameTokens (source source' : String) : Prop :=
  ∃ tokens tokens', tokenize source = .ok tokens ∧ tokenize source' = .ok tokens' ∧
    tokens.items.map Token.lexeme = tokens'.items.map Token.lexeme

theorem unplaced_tokens {items : List Token} :
    unplaced items = (items.map Token.lexeme).map fun lexeme =>
      ⟨lexeme.kind, lexeme.text, Position.start.span 0⟩ := by
  rw [List.map_map]
  rfl

theorem unplaced_ofTokens {tokens tokens' : Tokens}
    (same : tokens.items.map Token.lexeme = tokens'.items.map Token.lexeme) :
    unplaced (TokenStream.ofTokens tokens) = unplaced (TokenStream.ofTokens tokens') := by
  show (⟨0, unplaced tokens.items, .start⟩ : TokenStream) = ⟨0, unplaced tokens'.items, .start⟩
  rw [unplaced_tokens, unplaced_tokens, same]

theorem unplaced_eq_ok [Placed α] [Placed ε] {x : Except ε α} {a : α}
    (same : unplaced x = .ok a) : ∃ a', x = .ok a' ∧ unplaced a' = a := by
  cases x with
  | error => cases same
  | ok a' => exact ⟨a', rfl, Except.ok.inj same⟩

theorem exists_ok {x : Except ε α} (fine : x.isOk = true) : ∃ a, x = .ok a := by
  cases x with
  | error error => cases fine
  | ok a => exact ⟨a, rfl⟩

theorem unplaced_mapError [Placed α] {x : Except Invalid α} :
    unplaced (x.mapError Rejection.invalid) = (unplaced x).mapError Rejection.invalid := by
  cases x <;> rfl

namespace SameTokens

variable {source source' : String} (same : SameTokens source source')

include same

theorem text [Placed α] {p : Parse α} (alike : Parse.Alike p p) :
    unplaced (Parse.text p source) = unplaced (Parse.text p source') := by
  obtain ⟨tokens, tokens', scanned, scanned', lexemes⟩ := same
  have ends {tokens : Tokens} {source : String} (scanned : tokenize source = .ok tokens) :
      unplaced (Parse.text p source) =
        (Parse.outcome p (unplaced (TokenStream.ofTokens tokens))).1 := by
    rw [alike, Parse.text_eq_outcome scanned]
    rfl
  rw [ends scanned, ends scanned', unplaced_ofTokens lexemes]

theorem reference : unplaced (Reference.ofText source) = unplaced (Reference.ofText source') :=
  same.text .wholeReference

theorem machineDecl {fallible : Bool} :
    unplaced (MachineDecl.ofText fallible source) =
      unplaced (MachineDecl.ofText fallible source') :=
  same.text .machine

theorem messagesDecl :
    unplaced (MessagesDecl.ofText source) = unplaced (MessagesDecl.ofText source') :=
  same.text .messages

theorem machine {fallible : Bool} :
    unplaced (Machine.ofText fallible source) = unplaced (Machine.ofText fallible source') := by
  have checked (source : String) : unplaced (Machine.ofText fallible source) =
      ((unplaced (MachineDecl.ofText fallible source)).mapError Rejection.malformed).bind
        fun decl => (Machine.ofDecl decl).mapError Rejection.invalid := by
    unfold Machine.ofText
    cases MachineDecl.ofText fallible source with
    | error error => rfl
    | ok decl =>
      show unplaced ((Machine.ofDecl decl).mapError Rejection.invalid) =
        (Machine.ofDecl (unplaced decl)).mapError Rejection.invalid
      rw [Machine.unplaced_ofDecl, unplaced_mapError]
  rw [checked, checked, same.machineDecl]

theorem messages {machine : Machine} :
    unplaced (Messages.ofText machine source) = unplaced (Messages.ofText machine source') := by
  have checked (source : String) : unplaced (Messages.ofText machine source) =
      ((unplaced (MessagesDecl.ofText source)).mapError Rejection.malformed).bind
        fun decl => (Messages.ofDecl (unplaced machine) decl).mapError Rejection.invalid := by
    unfold Messages.ofText
    cases MessagesDecl.ofText source with
    | error error => rfl
    | ok decl =>
      show unplaced ((Messages.ofDecl machine decl).mapError Rejection.invalid) =
        (Messages.ofDecl (unplaced machine) (unplaced decl)).mapError Rejection.invalid
      rw [Messages.unplaced_ofDecl, unplaced_mapError]
  rw [checked, checked, same.messagesDecl]

theorem document : unplaced (Document.read source) = unplaced (Document.read source') := by
  obtain ⟨tokens, tokens', scanned, scanned', lexemes⟩ := same
  have checked {tokens : Tokens} {source : String} (scanned : tokenize source = .ok tokens) :
      unplaced (Document.read source) =
        let read := Parse.declarations (unplaced (TokenStream.ofTokens tokens))
        let declared := Document.empty.declareAll read.1
        (declared.1, declared.2.map Rejection.invalid <|> read.2.map Rejection.malformed) := by
    rw [Parse.unplaced_declarations, Document.read, scanned]
    dsimp only
    rcases Parse.declarations (.ofTokens tokens) with ⟨declared, error⟩
    have agreed : Document.empty.declareAll (unplaced declared) =
        unplaced (Document.empty.declareAll declared) :=
      @Document.unplaced_declareAll .empty declared
    show _ = (((Document.empty.declareAll (unplaced declared)).1,
      (Document.empty.declareAll (unplaced declared)).2.map Rejection.invalid <|>
        (unplaced error).map Rejection.malformed) : Document × Option Rejection)
    rw [agreed]
    rcases Document.empty.declareAll declared with ⟨document, _ | offence⟩
    · cases error <;> rfl
    · rfl
  rw [checked scanned, checked scanned', unplaced_ofTokens lexemes]

theorem document_ofText :
    unplaced (Document.ofText source) = unplaced (Document.ofText source') := by
  have decided (source : String) : unplaced (Document.ofText source) =
      (unplaced (Document.read source)).2.elim (.ok (unplaced (Document.read source)).1)
        .error := by
    unfold Document.ofText
    rcases Document.read source with ⟨document, _ | rejection⟩ <;> rfl
  rw [decided, decided, same.document]

/-- The remarks on unreachable states are the same, too. -/
theorem machine_remark {fallible : Bool} :
    (Machine.ofText fallible source).toOption.bind Machine.unreachableRemark =
      (Machine.ofText fallible source').toOption.bind Machine.unreachableRemark := by
  have kept (source : String) :
      (Machine.ofText fallible source).toOption.bind Machine.unreachableRemark =
        (unplaced (Machine.ofText fallible source)).toOption.bind Machine.unreachableRemark := by
    cases Machine.ofText fallible source with
    | error => rfl
    | ok machine => exact Machine.unplaced_unreachableRemark.symm
  rw [kept, kept, same.machine]

theorem document_remarks :
    (Document.read source).1.remarks = (Document.read source').1.remarks := by
  have kept (source : String) :
      (Document.read source).1.remarks = (unplaced (Document.read source)).1.remarks :=
    Document.unplaced_remarks.symm
  rw [kept, kept, same.document]

end SameTokens

end MachineSpec
