/-
MachineSpec.Proofs.Progress — readers advance, and their bounds are never reached.

`MachineSpec.Proofs.Recognition` is about readers that succeed. This module is about all
runs of readers, with one rule for each way of building one (`Onward`):

* a reader leaves the stream where it was or further on, and never behind the end;
* an error has the place of a token at which some reader stood;
* loops and nested arguments do not end because of their bounds. Any bound above the number
  of tokens left gives the same result (`Parse.unbounded`), since every round of a loop and
  every level of nesting stands behind a token already taken.
-/
import MachineSpec.Proofs.Sequence

namespace MachineSpec

/-! ## 1. Streams -/

namespace TokenStream

variable {s t u : TokenStream}

/-- Between the two streams lie some tokens, or none. -/
def Leads (s t : TokenStream) : Prop := ∃ phrase, s.Advances phrase t

theorem Leads.refl : s.Leads s := ⟨[], .refl⟩

theorem Leads.trans (first : s.Leads t) (second : t.Leads u) : s.Leads u := by
  obtain ⟨phrase, advances⟩ := first
  obtain ⟨others, onward⟩ := second
  exact ⟨phrase ++ others, advances.trans onward⟩

theorem Leads.length_le (leads : s.Leads t) : t.upcoming.length ≤ s.upcoming.length := by
  obtain ⟨phrase, advances⟩ := leads
  exact advances.length_le

/-- Nothing is taken at the end, and one token anywhere else. -/
theorem leads_tail : s.Leads s.tail := by
  obtain ⟨taken, upcoming, finish⟩ := s
  cases upcoming with
  | nil => exact .refl
  | cons first rest => exact ⟨[first], ⟨rfl, rfl, rfl⟩⟩

theorem tail_shorter (going : s.current.kind ≠ .finish) :
    s.tail.upcoming.length < s.upcoming.length :=
  (advances_tail going).shorter

/-- The stream stands at one of the tokens of a text, that for the end included: what is looked at
    from there is one of them, and taking it moves on unless it is the last. -/
structure Indexes (stream : TokenStream) (tokens : Tokens) : Prop where
  ahead : ∀ offset, tokens.all[min (stream.taken + offset) tokens.items.length]? =
    some (stream.ahead offset)
  tail : stream.tail.taken =
    if stream.current.kind = .finish then stream.taken else stream.taken + 1

theorem Leads.indexes {source : String} {tokens : Tokens} (scanned : tokenize source = .ok tokens)
    (leads : (ofTokens tokens).Leads s) : s.Indexes tokens := by
  obtain ⟨phrase, advances⟩ := leads
  obtain ⟨taken, upcoming, finish⟩ := s
  have items : tokens.items = phrase ++ upcoming := advances.upcoming
  have passed : taken = phrase.length := advances.taken.trans (Nat.zero_add _)
  obtain rfl : finish = tokens.finish := advances.finish
  refine ⟨fun offset => ?_, ?_⟩
  · have length : tokens.items.length = phrase.length + upcoming.length := by
      rw [items, List.length_append]
    by_cases within : offset < upcoming.length
    · have index : min (taken + offset) tokens.items.length = phrase.length + offset := by omega
      have inside : phrase.length + offset < tokens.items.length := by omega
      rw [index, Tokens.all, List.getElem?_append_left inside, items,
        List.getElem?_append_right (Nat.le_add_right ..), Nat.add_sub_cancel_left, ahead,
        List.getElem?_eq_getElem within]
      rfl
    · have index : min (taken + offset) tokens.items.length = tokens.items.length := by omega
      rw [index, Tokens.all, List.getElem?_concat_length, ahead,
        List.getElem?_eq_none (Nat.le_of_not_lt within)]
      rfl
  · cases upcoming with
    | nil => rfl
    | cons first rest =>
      have mem : first ∈ tokens.items := items ▸ List.mem_append_right _ (List.mem_cons_self ..)
      have word : first.kind ≠ .finish := (spelled_of_tokenize scanned first mem).ne_finish
      exact (if_neg word).symm

/-- The next token is one of the text's. -/
theorem Indexes.current_mem {tokens : Tokens} (indexes : s.Indexes tokens) :
    s.current ∈ tokens.all :=
  List.mem_of_getElem? (indexes.ahead 0)

end TokenStream

/-! ## 2. Readers -/

namespace Parse

open TokenStream

variable {α β : Type} {o s : TokenStream}

theorem outcome_separated {close : TokenKind} {item : Parse α} :
    outcome (separated close item) s =
      outcome (separatedWithin close item (s.upcoming.length + 1)) s := by
  simp only [separated, outcome_bind, outcome_get]

theorem outcome_typeArg :
    outcome typeArg s = outcome (typeArgWithin (s.upcoming.length + 1)) s := by
  simp only [typeArg, outcome_bind, outcome_get]

/-- From a place that `o` leads to the reader goes on, and if it fails then at such a place. -/
def Onward (o : TokenStream) (p : Parse α) : Prop :=
  ∀ s, o.Leads s → s.Leads (outcome p s).2 ∧
    ∀ error, (outcome p s).1 = .error error → ∃ t, o.Leads t ∧ t.current.span = error.span

namespace Onward

variable {p q : Parse α} {next : α → Parse β} {kind : TokenKind}

theorem pure {a : α} : Onward o (pure a : Parse α) := fun _ _ => ⟨.refl, nofun⟩

theorem bind (first : Onward o p) (rest : ∀ a, Onward o (next a)) : Onward o (p >>= next) := by
  intro s leads
  obtain ⟨onward, faults⟩ := first s leads
  rw [outcome_bind]
  generalize outcome p s = ended at onward faults ⊢
  obtain ⟨error | a, t⟩ := ended
  · refine ⟨onward, ?_⟩
    rintro _ ⟨⟩
    exact faults error rfl
  · obtain ⟨further, faults⟩ := rest a t (leads.trans onward)
    exact ⟨onward.trans further, faults⟩

theorem map {make : α → β} (onward : Onward o p) : Onward o (make <$> p) := by
  rw [map_eq_pure_bind]
  exact bind onward fun _ => pure

theorem ite {condition : Bool} (holds : Onward o p) (fails : Onward o q) :
    Onward o (if condition then p else q) := by
  cases condition with
  | false => exact fails
  | true => exact holds

theorem current : Onward o Parse.current := fun _ _ => ⟨.refl, nofun⟩

theorem peek : Onward o (Parse.peek kind 0) := fun _ _ => ⟨.refl, nofun⟩

theorem advance : Onward o Parse.advance := fun _ _ => ⟨leads_tail, nofun⟩

/-- A fault can be thrown later than it was found. -/
theorem throw {error : ParseError} {t : TokenStream} (met : o.Leads t)
    (place : t.current.span = error.span) : Onward o (throw error : Parse α) := by
  intro s _
  refine ⟨.refl, ?_⟩
  rintro _ ⟨⟩
  exact ⟨t, met, place⟩

theorem refuse {wanted : String} : Onward o (Parse.refuse wanted : Parse α) := by
  intro s leads
  refine ⟨.refl, ?_⟩
  rintro _ ⟨⟩
  exact ⟨s, leads, rfl⟩

theorem accept : Onward o (Parse.accept kind) :=
  bind peek fun _ => ite (bind advance fun _ => pure) pure

theorem expect {what : String} : Onward o (Parse.expect kind what) :=
  bind peek fun _ => ite advance refuse

theorem expectEnd : Onward o (Parse.expectEnd kind) := bind peek fun _ => ite pure refuse

/-- What is read as a token of a kind stood there. -/
theorem expect_bind {what : String} {next : Token → Parse β}
    (rest : ∀ t, o.Leads t → Onward o (next t.current)) :
    Onward o (Parse.expect kind what >>= next) := by
  intro s leads
  unfold Parse.expect
  simp only [outcome_bind, outcome_peek]
  cases s.current.kind == kind with
  | false =>
    refine ⟨.refl, ?_⟩
    rintro _ ⟨⟩
    exact ⟨s, leads, rfl⟩
  | true =>
    obtain ⟨onward, faults⟩ := rest s leads s.tail (leads.trans leads_tail)
    exact ⟨leads_tail.trans onward, faults⟩

theorem separatedWithin {close : TokenKind} {item : Parse α} (onward : Onward o item) {bound : Nat} :
    Onward o (separatedWithin close item bound) := by
  induction bound with
  | zero => exact pure
  | succ bound ih =>
    exact bind peek fun _ => ite pure (bind onward fun _ => bind accept fun _ =>
      ite (bind ih fun _ => pure) (bind pure fun _ => pure))

theorem separated {close : TokenKind} {item : Parse α} (onward : Onward o item) :
    Onward o (separated close item) := by
  intro s leads
  rw [outcome_separated]
  exact separatedWithin onward s leads

theorem bracketed {item : Parse α} (onward : Onward o item) : Onward o (bracketed item) :=
  bind expect fun _ => bind (separated onward) fun _ => bind expect fun _ => pure

theorem angled {argument : Parse String} (onward : Onward o argument) :
    Onward o (angled argument) :=
  bind expect fun _ => bind (separated onward) fun _ =>
    ite (bind refuse fun _ => bind expect fun _ => pure) (bind expect fun _ => pure)

theorem typeArgWithin {depth : Nat} : Onward o (typeArgWithin depth) := by
  induction depth with
  | zero => exact refuse
  | succ depth ih =>
    refine bind accept fun _ => ite (bind peek fun _ => ite ?_ ?_) (bind peek fun _ =>
      ite (bind advance fun _ => pure) (bind accept fun _ => ite ?_ ?_))
    · exact bind advance fun _ => bind pure fun _ => bind ih fun _ => pure
    · exact bind pure fun _ => bind ih fun _ => pure
    · exact bind ih fun _ => bind expect fun _ => pure
    · exact bind expect fun _ => bind peek fun _ =>
        ite (bind (angled ih) fun _ => pure) (bind pure fun _ => pure)

theorem typeArg : Onward o typeArg := by
  intro s leads
  rw [outcome_typeArg]
  exact typeArgWithin s leads

theorem reference {what : String} : Onward o (reference what) :=
  bind expect fun _ => bind peek fun _ =>
    ite (bind (angled typeArg) fun _ => pure) (bind pure fun _ => pure)

theorem state : Onward o state := reference

theorem edge : Onward o edge :=
  bind current fun _ => bind state fun _ => bind expect fun _ => bind state fun _ => pure

theorem direction : Onward o direction :=
  bind accept fun _ => ite pure (bind accept fun _ => ite pure refuse)

theorem message : Onward o message :=
  bind current fun _ => bind reference fun _ => bind direction fun _ => bind state fun _ => pure

theorem failure : Onward o failure :=
  bind expect fun _ => bind reference fun _ => bind expect fun _ => bind state fun _ => pure

theorem machine {fallible : Bool} {close : TokenKind} : Onward o (machine fallible close) := by
  refine bind expect fun _ => bind expect fun _ => bind state fun _ => bind expect fun _ =>
    bind (bracketed state) fun _ => bind expect fun _ => bind (bracketed edge) fun _ =>
    ite (bind (map failure) fun _ => ?_) (bind pure fun _ => ?_)
  all_goals exact bind accept fun _ => bind expectEnd fun _ => pure

theorem messages {close : TokenKind} : Onward o (messages close) :=
  bind expect fun _ => bind expect fun _ => bind (bracketed message) fun _ => bind accept fun _ =>
    bind expectEnd fun _ => pure

/-- A word that introduces nothing is refused behind the parenthesis, but it is the fault. -/
theorem body {t : TokenStream} (met : o.Leads t) : Onward o (body t.current) := by
  unfold Parse.body
  split
  · exact map machine
  · split
    · exact map machine
    · split
      · exact map messages
      · exact throw met rfl

theorem declaration : Onward o declaration :=
  expect_bind fun _ met => bind expect fun _ => bind (body met) fun _ => bind expect fun _ =>
    bind accept fun _ => pure

end Onward

/-- Where fewer than `n` tokens are left the two readers end alike. -/
def Agree (n : Nat) (p q : Parse α) : Prop := ∀ s, s.upcoming.length < n → outcome p s = outcome q s

namespace Agree

variable {n : Nat} {p p' q q' : Parse α} {next next' : α → Parse β} {kind : TokenKind}

theorem refl : Agree n p p := fun _ _ => rfl

theorem bind (first : Agree n p p') (onward : ∀ o, Onward o p)
    (rest : ∀ a, Agree n (next a) (next' a)) : Agree n (p >>= next) (p' >>= next') := by
  intro s short
  have further := ((onward s) s .refl).1.length_le
  rw [outcome_bind, outcome_bind, ← first s short]
  generalize outcome p s = ended at further ⊢
  obtain ⟨error | a, t⟩ := ended
  · rfl
  · exact rest a t (Nat.lt_of_le_of_lt further short)

theorem ite {condition : Bool} (holds : Agree n p p') (fails : Agree n q q') :
    Agree n (if condition then p else q) (if condition then p' else q') := by
  cases condition with
  | false => exact fails
  | true => exact holds

/-- A token that is taken makes room for one more level. -/
theorem accept_bind (within : kind ≠ .finish) {next next' : Bool → Parse β}
    (taken : Agree n (next true) (next' true))
    (left : Agree (n + 1) (next false) (next' false)) :
    Agree (n + 1) (accept kind >>= next) (accept kind >>= next') := by
  intro s short
  unfold accept
  simp only [outcome_bind, outcome_peek]
  by_cases fits : s.current.kind = kind
  · simp only [fits, beq_self_eq_true, if_true, outcome_bind, outcome_advance, outcome_pure]
    have shorter := tail_shorter (fits ▸ within)
    exact taken s.tail (by omega)
  · simp only [beq_eq_false_iff_ne.mpr fits, Bool.false_eq_true, if_false, outcome_pure]
    exact left s short

theorem expect_bind (within : kind ≠ .finish) {what : String} {next next' : Token → Parse β}
    (rest : ∀ token, Agree n (next token) (next' token)) :
    Agree (n + 1) (expect kind what >>= next) (expect kind what >>= next') := by
  intro s short
  unfold expect
  simp only [outcome_bind, outcome_peek]
  by_cases fits : s.current.kind = kind
  · simp only [fits, beq_self_eq_true, if_true, outcome_advance]
    have shorter := tail_shorter (fits ▸ within)
    exact rest s.current s.tail (by omega)
  · simp only [beq_eq_false_iff_ne.mpr fits, Bool.false_eq_true, if_false]
    rfl

theorem separatedWithin {close : TokenKind} {item item' : Parse α} (alike : Agree n item item')
    (onward : ∀ o, Onward o item) {bound : Nat} :
    Agree n (separatedWithin close item bound) (separatedWithin close item' bound) := by
  induction bound with
  | zero => exact refl
  | succ bound ih =>
    exact bind refl (fun _ => .peek) fun _ => ite refl (bind alike onward fun _ =>
      bind refl (fun _ => .accept) fun _ =>
        ite (bind ih (fun _ => .separatedWithin (onward _)) fun _ => refl) refl)

theorem angled {argument argument' : Parse String} (alike : Agree n argument argument')
    (onward : ∀ o, Onward o argument) : Agree n (angled argument) (angled argument') := by
  have listed : Agree n (separated .greater argument) (separated .greater argument') :=
    fun s => separatedWithin alike onward s
  exact bind refl (fun _ => .expect) fun _ =>
    bind listed (fun _ => .separated (onward _)) fun _ => refl

/-- Arguments are read alike at one level more. -/
theorem typeArgWithin_succ {depth depth' : Nat}
    (alike : Agree n (typeArgWithin depth) (typeArgWithin depth')) :
    Agree (n + 1) (typeArgWithin (depth + 1)) (typeArgWithin (depth' + 1)) := by
  refine accept_bind (by decide) ?_ (bind refl (fun _ => .peek) fun _ => ite refl
    (accept_bind (by decide) ?_ (expect_bind (by decide) fun _ => ?_)))
  · have target (lifetime : String) := bind alike (fun _ => .typeArgWithin) fun text =>
      @refl _ n (pure ("&" ++ lifetime ++ text))
    exact bind refl (fun _ => .peek) fun _ =>
      ite (bind refl (fun _ => .advance) fun _ => bind refl (fun _ => .pure) fun _ => target _)
        (bind refl (fun _ => .pure) fun _ => target _)
  · exact bind alike (fun _ => .typeArgWithin) fun _ => refl
  · exact bind refl (fun _ => .peek) fun _ =>
      ite (bind (angled alike fun _ => .typeArgWithin) (fun _ => .angled .typeArgWithin)
        fun _ => refl) refl

theorem typeArgWithin {depth depth' : Nat} (enough : n ≤ depth) (enough' : n ≤ depth') :
    Agree n (typeArgWithin depth) (typeArgWithin depth') := by
  induction n generalizing depth depth' with
  | zero => exact fun s short => absurd short (Nat.not_lt_zero _)
  | succ n ih =>
    obtain _ | depth := depth
    · omega
    obtain _ | depth' := depth'
    · omega
    exact typeArgWithin_succ (ih (by omega) (by omega))

end Agree

/-- Behind every item but the last a comma is taken. -/
theorem separatedWithin_enough {close : TokenKind} {item : Parse α} (onward : ∀ o, Onward o item)
    {n bound bound' : Nat} (enough : n ≤ bound) (enough' : n ≤ bound') :
    Agree n (separatedWithin close item bound) (separatedWithin close item bound') := by
  induction n generalizing bound bound' with
  | zero => exact fun s short => absurd short (Nat.not_lt_zero _)
  | succ n ih =>
    obtain _ | bound := bound
    · omega
    obtain _ | bound' := bound'
    · omega
    exact .bind .refl (fun _ => .peek) fun _ => .ite .refl (.bind .refl onward fun _ =>
      .accept_bind (by decide)
        (.bind (ih (by omega) (by omega)) (fun _ => .separatedWithin (onward _)) fun _ => .refl)
        .refl)

theorem declarationsWithin_ended {bound : Nat} (nothing : s.upcoming.length = 0) :
    declarationsWithin bound s = ([], none) := by
  have none : s.upcoming = [] := List.length_eq_zero_iff.mp nothing
  have ends : s.current.kind = .finish := by simp [TokenStream.current, ahead, none]
  cases bound with
  | zero => rfl
  | succ bound => rw [declarationsWithin_succ, if_pos ends]

/-- A declaration takes a token at least. -/
theorem declarationsWithin_enough {bound bound' : Nat} (enough : s.upcoming.length ≤ bound)
    (enough' : s.upcoming.length ≤ bound') :
    declarationsWithin bound s = declarationsWithin bound' s := by
  induction bound generalizing bound' s with
  | zero =>
    have nothing := Nat.le_zero.mp enough
    rw [declarationsWithin_ended nothing, declarationsWithin_ended nothing]
  | succ bound ih =>
    obtain _ | bound' := bound'
    · have nothing := Nat.le_zero.mp enough'
      rw [declarationsWithin_ended nothing, declarationsWithin_ended nothing]
    rw [declarationsWithin_succ, declarationsWithin_succ]
    split
    · rfl
    rcases reads : outcome declaration s with ⟨error | first, t⟩
    · rfl
    obtain ⟨phrase, declares, advances⟩ := phrase_of_reads reads
    obtain ⟨_, _, rfl⟩ := List.exists_cons_of_ne_nil declares.ne_nil
    have shorter := advances.shorter
    dsimp only
    rw [@ih t bound' (by omega) (by omega)]

/-- The list ends where its closing token stands or a comma is missing, and not because its bound is
    used up: no greater bound makes a difference. -/
def Endless (close : TokenKind) (item : Parse α) : Prop :=
  ∀ s bound, s.upcoming.length < bound →
    outcome (separatedWithin close item bound) s = outcome (separated close item) s

theorem endless {close : TokenKind} {item : Parse α} (onward : ∀ o, Onward o item) :
    Endless close item := by
  intro s bound enough
  rw [outcome_separated]
  exact separatedWithin_enough onward enough (Nat.le_refl _) s (Nat.lt_succ_self _)

/-- No bound that a reader of documents carries is what ends it. -/
structure Unbounded : Prop where
  declarations : ∀ s bound, s.upcoming.length ≤ bound → declarationsWithin bound s = declarations s
  states : Endless .rightBracket state
  edges : Endless .rightBracket edge
  messages : Endless .rightBracket message
  arguments : Endless .greater typeArg
  nested : ∀ depth, Endless .greater (typeArgWithin depth)
  depth : ∀ s depth, s.upcoming.length < depth → outcome (typeArgWithin depth) s = outcome typeArg s

theorem unbounded : Unbounded where
  declarations _ _ enough := declarationsWithin_enough enough (Nat.le_refl _)
  states := endless fun _ => .state
  edges := endless fun _ => .edge
  messages := endless fun _ => .message
  arguments := endless fun _ => .typeArg
  nested _ := endless fun _ => .typeArgWithin
  depth s _ enough := by
    rw [outcome_typeArg]
    exact Agree.typeArgWithin enough (Nat.le_refl _) s (Nat.lt_succ_self _)

end Parse

end MachineSpec
