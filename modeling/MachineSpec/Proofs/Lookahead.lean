/-
MachineSpec.Proofs.Lookahead — readers depend on the kinds of tokens up to where they stop.

Let two texts have the same kinds of tokens up to some place. A reader that stops there on
one of them takes as many tokens of the other, and fails on it if it failed on the first.
The reason is that readers decide by the kind of the next token alone and never go back.

`Abreast` compares two streams up to a number of tokens, and `Steady` two readers on such
streams, with one rule for each way of building a reader. Results need not be equal, since
texts and places differ. What a reader decides by is a `view` of them: the answer of a
question in full, of a list only whether it is empty, and nothing of anything else.

* `Steady.refuses`: a text is rejected if it has the kinds of a rejected one up to the token
  at fault.
-/
import MachineSpec.Proofs.Progress

namespace MachineSpec

/-! ## 1. Streams -/

namespace TokenStream

variable {upto : Nat} {s t : TokenStream}

theorem Leads.taken_le (leads : s.Leads t) : s.taken ≤ t.taken := by
  obtain ⟨phrase, advances⟩ := leads
  rw [advances.taken]
  exact Nat.le_add_right ..

/-- Nobody takes more tokens than there are. -/
theorem Leads.taken_le_length {tokens : Tokens} (leads : (ofTokens tokens).Leads s) :
    s.taken ≤ tokens.items.length := by
  obtain ⟨phrase, advances⟩ := leads
  have items : tokens.items = phrase ++ s.upcoming := advances.upcoming
  have passed : s.taken = phrase.length := advances.taken.trans (Nat.zero_add _)
  rw [passed, items, List.length_append]
  exact Nat.le_add_right ..

theorem kind_ahead {tokens : Tokens} {offset : Nat} : ((ofTokens tokens).ahead offset).kind =
    (tokens.all.map Token.kind)[offset]?.getD .finish := by
  show (tokens.items[offset]?.getD ⟨.finish, "", tokens.finish.span 0⟩).kind = _
  rw [Tokens.all, List.map_append, List.getElem?_append, List.length_map, List.getElem?_map]
  split
  · rename_i inside
    rw [List.getElem?_eq_getElem inside]
    rfl
  · rename_i beyond
    rw [List.getElem?_eq_none (Nat.le_of_not_lt beyond)]
    cases offset - tokens.items.length <;> rfl

/-- As many tokens were taken of both streams, and up to this number their tokens are of the same
    kinds. -/
structure Abreast (upto : Nat) (s t : TokenStream) : Prop where
  taken : s.taken = t.taken
  kinds : ∀ offset, s.taken + offset ≤ upto → (s.ahead offset).kind = (t.ahead offset).kind
  /-- Only the end is of the kind of the end. -/
  going : ∀ token ∈ s.upcoming ++ t.upcoming, token.kind ≠ .finish

theorem Abreast.current (abreast : Abreast upto s t) (within : s.taken ≤ upto) :
    s.current.kind = t.current.kind :=
  abreast.kinds 0 within

/-- So it is behind the next tokens. -/
theorem Abreast.tail (abreast : Abreast upto s t) (within : s.tail.taken ≤ upto) :
    Abreast upto s.tail t.tail := by
  have here := abreast.current (Nat.le_trans (@leads_tail s).taken_le within)
  obtain ⟨taken, upcoming, finish⟩ := s
  obtain ⟨taken', upcoming', finish'⟩ := t
  obtain ⟨same, kinds, going⟩ := abreast
  obtain rfl : taken = taken' := same
  cases upcoming with
  | nil =>
    cases upcoming' with
    | nil => exact ⟨rfl, kinds, going⟩
    | cons first rest => exact absurd here.symm (going first (by simp))
  | cons first rest =>
    cases upcoming' with
    | nil => exact absurd here (going first (by simp))
    | cons first' rest' =>
      refine ⟨rfl, fun offset inside => ?_, fun token mem => going token ?_⟩
      · have inside : taken + 1 + offset ≤ upto := inside
        exact kinds (offset + 1) (show taken + (offset + 1) ≤ upto by omega)
      · simp only [TokenStream.tail, List.mem_append] at mem
        rcases mem with mem | mem <;> simp [mem]

end TokenStream

/-! ## 2. Readers -/

namespace Parse

open TokenStream

variable {α β γ δ : Type}

/-- The second reader stays abreast of the first one, and both finish with results of the same view,
    or both fail. -/
structure Steady (view : α → γ) (p q : Parse α) : Prop where
  onward : ∀ s, s.taken ≤ (outcome p s).2.taken
  abreast : ∀ {upto s t}, Abreast upto s t → (outcome p s).2.taken ≤ upto →
    Abreast upto (outcome p s).2 (outcome q t).2 ∧
      (outcome p s).1.toOption.map view = (outcome q t).1.toOption.map view

/-- The view of a result that nothing is decided by. -/
def nothing : α → Unit := fun _ => ()

namespace Steady

variable {view : α → γ} {view' : β → δ} {p p' q q' : Parse α} {next next' : α → Parse β}
  {kind : TokenKind}

theorem pure {a b : α} (same : view a = view b) : Steady view (pure a) (pure b) where
  onward _ := Nat.le_refl _
  abreast together _ := ⟨together, congrArg some same⟩

theorem bind (first : Steady view p q)
    (rest : ∀ a b, view a = view b → Steady view' (next a) (next' b)) :
    Steady view' (p >>= next) (q >>= next') where
  onward s := by
    have further := first.onward s
    rw [outcome_bind]
    generalize outcome p s = ended at further ⊢
    obtain ⟨error | a, u⟩ := ended
    · exact further
    · exact Nat.le_trans further ((rest a a rfl).onward u)
  abreast {upto s t} together within := by
    have start := @first.abreast upto s t together
    rw [outcome_bind] at within ⊢
    rw [outcome_bind]
    generalize outcome p s = ended at start within ⊢
    generalize outcome q t = ended' at start ⊢
    obtain ⟨error | a, u⟩ := ended
    · obtain ⟨behind, alike⟩ := start within
      obtain ⟨error' | b, u'⟩ := ended'
      · exact ⟨behind, rfl⟩
      · cases alike
    · obtain ⟨behind, alike⟩ := start (Nat.le_trans ((rest a a rfl).onward u) within)
      obtain ⟨error' | b, u'⟩ := ended'
      · cases alike
      · exact (rest a b (Option.some.inj alike)).abreast behind within

/-- What follows an answer is compared for the same answer. -/
theorem ask (first : Steady id p q) (rest : ∀ a, Steady view' (next a) (next' a)) :
    Steady view' (p >>= next) (q >>= next') :=
  bind first fun a b same => by
    obtain rfl : a = b := same
    exact rest a

theorem seq (first : Steady nothing p q) (rest : ∀ a b, Steady view' (next a) (next' b)) :
    Steady view' (p >>= next) (q >>= next') :=
  bind first fun a b _ => rest a b

theorem map {make : α → β} (steady : Steady nothing p q) :
    Steady nothing (make <$> p) (make <$> q) := by
  rw [map_eq_pure_bind, map_eq_pure_bind]
  exact seq steady fun _ _ => pure rfl

theorem ite {condition : Bool} (holds : Steady view p p') (fails : Steady view q q') :
    Steady view (if condition then p else q) (if condition then p' else q') := by
  cases condition with
  | false => exact fails
  | true => exact holds

theorem current : Steady nothing Parse.current Parse.current where
  onward _ := Nat.le_refl _
  abreast together _ := ⟨together, rfl⟩

theorem peek : Steady id (Parse.peek kind 0) (Parse.peek kind 0) where
  onward _ := Nat.le_refl _
  abreast together within := ⟨together, by rw [outcome_peek, outcome_peek, together.current within]⟩

theorem advance : Steady nothing Parse.advance Parse.advance where
  onward _ := leads_tail.taken_le
  abreast together within := ⟨together.tail within, rfl⟩

theorem refuse {wanted : String} : Steady view (Parse.refuse wanted) (Parse.refuse wanted) where
  onward _ := Nat.le_refl _
  abreast together _ := ⟨together, rfl⟩

theorem accept : Steady id (Parse.accept kind) (Parse.accept kind) :=
  ask peek fun _ => ite (seq advance fun _ _ => pure rfl) (pure rfl)

theorem expect {what : String} : Steady nothing (Parse.expect kind what) (Parse.expect kind what) :=
  ask peek fun _ => ite advance refuse

theorem expectEnd : Steady nothing (Parse.expectEnd kind) (Parse.expectEnd kind) :=
  ask peek fun _ => ite (pure rfl) refuse

theorem separatedWithin {close : TokenKind} {item : Parse α} (steady : Steady nothing item item)
    {bound : Nat} :
    Steady List.isEmpty (separatedWithin close item bound) (separatedWithin close item bound) := by
  induction bound with
  | zero => exact pure rfl
  | succ bound ih =>
    exact ask peek fun _ => ite (pure rfl) (seq steady fun _ _ => ask accept fun _ =>
      ite (bind ih fun _ _ _ => pure rfl) (ask (pure rfl) fun _ => pure rfl))

/-- The bounds that lists carry differ with what is left of the streams, but none of them is
    felt. -/
theorem separated {close : TokenKind} {item : Parse α} (steady : Steady nothing item item)
    (onward : ∀ o, Onward o item) :
    Steady List.isEmpty (separated close item) (separated close item) where
  onward s := by
    rw [outcome_separated]
    exact (separatedWithin steady).onward s
  abreast {upto s t} := by
    have endless := @endless _ close item onward
    rw [← endless s (s.upcoming.length + t.upcoming.length + 1) (by omega),
      ← endless t (s.upcoming.length + t.upcoming.length + 1) (by omega)]
    exact (separatedWithin steady).abreast

theorem bracketed {item : Parse α} (steady : Steady nothing item item)
    (onward : ∀ o, Onward o item) : Steady nothing (bracketed item) (bracketed item) :=
  seq expect fun _ _ => bind (separated steady onward) fun _ _ _ => seq expect fun _ _ => pure rfl

theorem angled {argument : Parse String} (steady : Steady nothing argument argument)
    (onward : ∀ o, Onward o argument) : Steady nothing (angled argument) (angled argument) :=
  seq expect fun _ _ => bind (separated steady onward) fun _ _ empty => by
    rw [empty]
    exact ite (seq refuse fun _ _ => seq expect fun _ _ => pure rfl)
      (seq expect fun _ _ => pure rfl)

theorem typeArgWithin {depth : Nat} :
    Steady nothing (typeArgWithin depth) (typeArgWithin depth) := by
  induction depth with
  | zero => exact refuse
  | succ depth ih =>
    have target {lifetime lifetime' : String} := seq ih fun text text' =>
      @pure _ _ nothing ("&" ++ lifetime ++ text) ("&" ++ lifetime' ++ text') rfl
    refine ask accept fun _ => ite (ask peek fun _ => ite ?_ ?_) (ask peek fun _ =>
      ite (seq advance fun _ _ => pure rfl) (ask accept fun _ => ite ?_ ?_))
    · exact seq advance fun _ _ => seq (pure rfl) fun _ _ => target
    · exact seq (pure rfl) fun _ _ => target
    · exact seq ih fun _ _ => seq expect fun _ _ => pure rfl
    · exact seq expect fun _ _ => ask peek fun _ =>
        ite (seq (angled ih fun _ => .typeArgWithin) fun _ _ => pure rfl)
          (seq (pure rfl) fun _ _ => pure rfl)

theorem typeArg : Steady nothing typeArg typeArg where
  onward s := by
    rw [outcome_typeArg]
    exact typeArgWithin.onward s
  abreast {upto s t} := by
    rw [← unbounded.depth s (s.upcoming.length + t.upcoming.length + 1) (by omega),
      ← unbounded.depth t (s.upcoming.length + t.upcoming.length + 1) (by omega)]
    exact typeArgWithin.abreast

theorem reference {what : String} :
    Steady nothing (Parse.reference what) (Parse.reference what) :=
  seq expect fun _ _ => ask peek fun _ =>
    ite (seq (angled typeArg fun _ => .typeArg) fun _ _ => pure rfl)
      (seq (pure rfl) fun _ _ => pure rfl)

theorem state : Steady nothing state state := reference

theorem edge : Steady nothing edge edge :=
  seq current fun _ _ => seq state fun _ _ => seq expect fun _ _ => seq state fun _ _ => pure rfl

theorem direction : Steady nothing direction direction :=
  ask accept fun _ => ite (pure rfl) (ask accept fun _ => ite (pure rfl) refuse)

theorem message : Steady nothing message message :=
  seq current fun _ _ => seq reference fun _ _ => seq direction fun _ _ => seq state fun _ _ =>
    pure rfl

theorem failure : Steady nothing failure failure :=
  seq expect fun _ _ => seq reference fun _ _ => seq expect fun _ _ => seq state fun _ _ => pure rfl

theorem machine {fallible : Bool} {close : TokenKind} :
    Steady nothing (machine fallible close) (machine fallible close) := by
  refine seq expect fun _ _ => seq expect fun _ _ => seq state fun _ _ => seq expect fun _ _ =>
    seq (bracketed state fun _ => .state) fun _ _ => seq expect fun _ _ =>
    seq (bracketed edge fun _ => .edge) fun _ _ =>
    ite (seq (map failure) fun _ _ => ?_) (seq (pure rfl) fun _ _ => ?_)
  all_goals exact ask accept fun _ => seq expectEnd fun _ _ => pure rfl

theorem messages {close : TokenKind} : Steady nothing (messages close) (messages close) :=
  seq expect fun _ _ => seq expect fun _ _ => seq (bracketed message fun _ => .message) fun _ _ =>
    ask accept fun _ => seq expectEnd fun _ _ => pure rfl

/-! ## 3. Whole texts -/

/-- A text that has the same kinds of tokens as a refused one, up to the token where reading
    stopped, is refused, too. -/
theorem refuses (steady : Steady view p p) (onward : ∀ o, Onward o p) {source source' : String}
    {tokens tokens' : Tokens} {error : ParseError} (scanned : tokenize source = .ok tokens)
    (scanned' : tokenize source' = .ok tokens')
    (refused : (outcome p (.ofTokens tokens)).1 = .error error)
    (same : (tokens.all.map Token.kind).take ((outcome p (.ofTokens tokens)).2.taken + 1) <+:
      tokens'.all.map Token.kind) :
    ∃ error', (outcome p (.ofTokens tokens')).1 = .error error' := by
  have leads := (onward _ _ .refl : (TokenStream.ofTokens tokens).Leads _ ∧ _).1
  have inside := leads.taken_le_length
  generalize stops : (outcome p (.ofTokens tokens)).2.taken = stop at same inside
  have together : Abreast stop (.ofTokens tokens) (.ofTokens tokens') := by
    refine ⟨rfl, fun offset within => ?_, fun token mem => ?_⟩
    · have within : 0 + offset ≤ stop := within
      have shown : offset < ((tokens.all.map Token.kind).take (stop + 1)).length := by
        simp only [List.length_take, List.length_map, Tokens.all, List.length_append,
          List.length_singleton]
        omega
      have first := List.prefix_iff_getElem?.mp (List.take_prefix (stop + 1) _) offset shown
      have second := List.prefix_iff_getElem?.mp same offset shown
      rw [kind_ahead, kind_ahead, first, second]
    · rcases List.mem_append.mp mem with mem | mem
      · exact (spelled_of_tokenize scanned token mem).ne_finish
      · exact (spelled_of_tokenize scanned' token mem).ne_finish
  obtain ⟨-, alike⟩ := steady.abreast together (Nat.le_of_eq stops)
  rw [refused] at alike
  generalize (outcome p (.ofTokens tokens')).1 = ended at alike
  cases ended with
  | error error' => exact ⟨error', rfl⟩
  | ok a => cases alike

end Steady

end Parse

end MachineSpec
