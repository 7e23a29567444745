/-
MachineSpec.Proofs.Reader — what a reader does, rule by rule.

`Reads p s a s'` says that the reader `p` finishes on the stream `s` with the result `a`
and leaves `s'`. There is one equivalence for each way of building a reader, so a
production is opened by rewriting, and what was taken is always told in the same way:
`Advances s phrase s'`, between the two streams lie exactly the tokens of `phrase`.

`outcome` tells the same of readers that fail, and its lemmas serve where errors matter.
-/
import MachineSpec.Declaration.Reading

namespace MachineSpec

/-! ## 1. Streams -/

namespace TokenStream

variable {s t u : TokenStream} {phrase others : List Token} {token : Token}

/-- Between two streams lie exactly these tokens. -/
structure Advances (s : TokenStream) (phrase : List Token) (s' : TokenStream) : Prop where
  upcoming : s.upcoming = phrase ++ s'.upcoming
  taken : s'.taken = s.taken + phrase.length
  finish : s'.finish = s.finish

theorem Advances.refl : s.Advances [] s := ⟨rfl, rfl, rfl⟩

theorem advances_nil_iff : s.Advances [] t ↔ s = t := by
  constructor
  · rintro ⟨upcoming, taken, finish⟩
    cases s; cases t; simp_all
  · rintro rfl
    exact .refl

theorem Advances.trans (first : s.Advances phrase t) (second : t.Advances others u) :
    s.Advances (phrase ++ others) u where
  upcoming := by rw [first.upcoming, second.upcoming, List.append_assoc]
  taken := by rw [second.taken, first.taken, List.length_append, Nat.add_assoc]
  finish := second.finish.trans first.finish

/-- The place between two parts of what was taken. -/
theorem Advances.split (h : s.Advances (phrase ++ others) u) :
    ∃ t, s.Advances phrase t ∧ t.Advances others u :=
  ⟨⟨s.taken + phrase.length, others ++ u.upcoming, s.finish⟩,
    ⟨by simp [h.upcoming], rfl, rfl⟩,
    ⟨rfl, by simp [h.taken, Nat.add_assoc], h.finish⟩⟩

/-- The place behind the first token of what was taken. -/
theorem Advances.uncons (h : s.Advances (token :: phrase) u) :
    ∃ t, s.Advances [token] t ∧ t.Advances phrase u :=
  (show s.Advances ([token] ++ phrase) u from h).split

theorem Advances.length_le (h : s.Advances phrase t) :
    t.upcoming.length ≤ s.upcoming.length := by
  rw [h.upcoming, List.length_append]
  omega

/-- What was taken is gone. -/
theorem Advances.shorter (h : s.Advances (token :: phrase) t) :
    t.upcoming.length < s.upcoming.length := by
  rw [h.upcoming, List.length_append, List.length_cons]
  omega

theorem Advances.current (h : s.Advances (token :: phrase) t) : s.current = token := by
  simp [TokenStream.current, ahead, h.upcoming]

theorem advances_singleton_iff : s.Advances [token] t ↔
    s.upcoming ≠ [] ∧ s.current = token ∧ s.tail = t := by
  obtain ⟨taken, upcoming, finish⟩ := s
  cases upcoming with
  | nil =>
    refine iff_of_false (fun h => ?_) (by simp)
    simpa using h.upcoming
  | cons first rest =>
    constructor
    · rintro ⟨upcoming, taken, finish⟩
      cases t
      simp_all [TokenStream.current, ahead, tail]
    · rintro ⟨-, rfl, rfl⟩
      exact ⟨rfl, rfl, rfl⟩

/-- A stream whose next token does not stand for the end has one. -/
theorem upcoming_ne_nil (h : s.current.kind ≠ .finish) : s.upcoming ≠ [] := by
  intro none
  simp [TokenStream.current, ahead, none] at h

theorem current_mem (h : s.upcoming ≠ []) : s.current ∈ s.upcoming := by
  obtain ⟨first, rest, same⟩ := List.exists_cons_of_ne_nil h
  simp [TokenStream.current, ahead, same]

theorem advances_tail (h : s.current.kind ≠ .finish) : s.Advances [s.current] s.tail :=
  advances_singleton_iff.mpr ⟨upcoming_ne_nil h, rfl, rfl⟩

/-- All tokens of a text, and what is left of them. -/
theorem advances_all {tokens : Tokens} : (ofTokens tokens).Advances tokens.items
    ⟨tokens.items.length, [], tokens.finish⟩ :=
  ⟨(List.append_nil _).symm, (Nat.zero_add _).symm, rfl⟩

theorem advances_kind_iff {kind : TokenKind} (within : kind ≠ .finish) :
    (∃ token : Token, token.kind = kind ∧ s.Advances [token] t) ↔
      s.current.kind = kind ∧ s.tail = t := by
  constructor
  · rintro ⟨token, fits, advances⟩
    obtain ⟨-, rfl, rfl⟩ := advances_singleton_iff.mp advances
    exact ⟨fits, rfl⟩
  · rintro ⟨fits, rfl⟩
    exact ⟨_, fits, advances_tail (fits ▸ within)⟩

end TokenStream

open TokenStream

namespace Parse

variable {α β : Type} {s s' : TokenStream} {a b : α} {kind : TokenKind} {token : Token}

/-! ## 2. Runs -/

/-- How a reader ends on a stream, and what it leaves. -/
def outcome (p : Parse α) (s : TokenStream) : Except ParseError α × TokenStream := p.run s

theorem outcome_pure : outcome (pure a) s = (.ok a, s) := rfl

theorem outcome_bind {p : Parse α} {next : α → Parse β} :
    outcome (p >>= next) s =
      match outcome p s with
      | (.ok a, t) => outcome (next a) t
      | (.error error, t) => (.error error, t) := by
  show (ExceptT.run (p >>= next)) s = _
  simp only [outcome, ExceptT.run_bind]
  simp only [bind, StateT.bind]
  rcases p.run s with ⟨a | error, t⟩ <;> rfl

theorem outcome_get : outcome get s = (.ok s, s) := rfl

theorem outcome_current : outcome current s = (.ok s.current, s) := rfl

theorem outcome_peek : outcome (peek kind 0) s = (.ok (s.current.kind == kind), s) := rfl

theorem outcome_advance : outcome advance s = (.ok s.current, s.tail) := rfl

theorem outcome_throw {error : ParseError} :
    outcome (throw error : Parse α) s = (.error error, s) := rfl

theorem text_eq_outcome {p : Parse α} {source : String} {tokens : Tokens}
    (scanned : tokenize source = .ok tokens) :
    text p source = (outcome p (.ofTokens tokens)).1 := by
  rw [text, scanned]
  rfl

/-! ## 3. Readers that finish -/

/-- The reader finishes with this result, and leaves this of the stream. -/
def Reads (p : Parse α) (s : TokenStream) (a : α) (s' : TokenStream) : Prop :=
  outcome p s = (.ok a, s')

theorem reads_pure_iff : Reads (pure a : Parse α) s b s' ↔ a = b ∧ s = s' := by
  simp [Reads, outcome_pure]

theorem reads_bind_iff {p : Parse α} {next : α → Parse β} {b : β} :
    Reads (p >>= next) s b s' ↔ ∃ a t, Reads p s a t ∧ Reads (next a) t b s' := by
  unfold Reads
  rw [outcome_bind]
  rcases outcome p s with ⟨error | a, t⟩
  · simp
  · constructor
    · exact fun reads => ⟨a, t, rfl, reads⟩
    · rintro ⟨_, _, same, reads⟩
      cases same
      exact reads

/-- A reader whose result is only made into something else. -/
theorem reads_bind_pure_iff {p : Parse α} {make : α → β} {b : β} :
    Reads (p >>= fun a => pure (make a)) s b s' ↔ ∃ a, Reads p s a s' ∧ make a = b := by
  rw [reads_bind_iff]
  simp only [reads_pure_iff]
  constructor
  · rintro ⟨a, t, reads, rfl, rfl⟩
    exact ⟨a, reads, rfl⟩
  · rintro ⟨a, reads, rfl⟩
    exact ⟨a, s', reads, rfl, rfl⟩

theorem reads_get_bind_iff {next : TokenStream → Parse β} {b : β} :
    Reads (get >>= next) s b s' ↔ Reads (next s) s b s' := by
  simp only [Reads, outcome_bind, outcome_get]

theorem reads_current_bind_iff {next : Token → Parse β} {b : β} :
    Reads (current >>= next) s b s' ↔ Reads (next s.current) s b s' := by
  simp only [Reads, outcome_bind, outcome_current]

/-- Looking at the next token does not take it. -/
theorem reads_peek_bind_iff {next : Bool → Parse β} {b : β} :
    Reads (peek kind 0 >>= next) s b s' ↔ Reads (next (s.current.kind == kind)) s b s' := by
  simp only [Reads, outcome_bind, outcome_peek]

theorem reads_advance_bind_iff {next : Token → Parse β} {b : β} :
    Reads (advance >>= next) s b s' ↔ Reads (next s.current) s.tail b s' := by
  simp only [Reads, outcome_bind, outcome_advance]

theorem not_reads_refuse {wanted : String} : ¬ Reads (refuse wanted) s a s' := by
  intro reads
  unfold refuse at reads
  rw [reads_current_bind_iff] at reads
  simp [Reads, outcome_throw] at reads

/-- A token that is taken only if it is of the given kind. -/
theorem reads_accept_bind_iff {next : Bool → Parse β} {b : β} :
    Reads (accept kind >>= next) s b s' ↔
      if s.current.kind = kind then Reads (next true) s.tail b s'
      else Reads (next false) s b s' := by
  unfold accept
  rw [bind_assoc, reads_peek_bind_iff]
  by_cases fits : s.current.kind = kind
  · simp only [fits, beq_self_eq_true, if_true, bind_assoc, reads_advance_bind_iff, pure_bind]
  · simp only [fits, beq_eq_false_iff_ne.mpr fits, if_false, Bool.false_eq_true, pure_bind]

theorem reads_peek_iff {fits : Bool} :
    Reads (peek kind 0) s fits s' ↔ (s.current.kind == kind) = fits ∧ s = s' := by
  simp [Reads, outcome_peek]

theorem reads_advance_iff : Reads advance s token s' ↔ s.current = token ∧ s.tail = s' := by
  simp [Reads, outcome_advance]

theorem reads_accept_iff {taken : Bool} : Reads (accept kind) s taken s' ↔
    if s.current.kind = kind then true = taken ∧ s.tail = s' else false = taken ∧ s = s' := by
  rw [← bind_pure (accept kind), reads_accept_bind_iff]
  simp only [reads_pure_iff]

/-- A token that has to be of the given kind. -/
theorem reads_expect_iff {what : String} (within : kind ≠ .finish) :
    Reads (expect kind what) s token s' ↔ token.kind = kind ∧ s.Advances [token] s' := by
  unfold expect
  rw [reads_peek_bind_iff, advances_singleton_iff]
  by_cases fits : s.current.kind = kind
  · have some := upcoming_ne_nil (fits ▸ within)
    simp only [fits, beq_self_eq_true, if_true, Reads, outcome_advance, Prod.mk.injEq,
      Except.ok.injEq]
    constructor
    · rintro ⟨rfl, rfl⟩
      exact ⟨fits, some, rfl, rfl⟩
    · rintro ⟨-, -, rfl, rfl⟩
      exact ⟨rfl, rfl⟩
  · simp only [beq_eq_false_iff_ne.mpr fits, Bool.false_eq_true, if_false]
    refine iff_of_false not_reads_refuse ?_
    rintro ⟨here, -, rfl, -⟩
    exact fits here

theorem reads_expect_bind_iff {what : String} (within : kind ≠ .finish) {next : Token → Parse α} :
    Reads (expect kind what >>= next) s a s' ↔
      ∃ token t, (token.kind = kind ∧ s.Advances [token] t) ∧ Reads (next token) t a s' := by
  simp only [reads_bind_iff, reads_expect_iff within]

theorem reads_expectEnd_iff {done : Unit} :
    Reads (expectEnd kind) s done s' ↔ s.current.kind = kind ∧ s = s' := by
  unfold expectEnd
  rw [reads_peek_bind_iff]
  by_cases fits : s.current.kind = kind
  · simp [fits, reads_pure_iff]
  · simp only [beq_eq_false_iff_ne.mpr fits, Bool.false_eq_true, if_false]
    exact iff_of_false not_reads_refuse fun h => fits h.1

end Parse

end MachineSpec
