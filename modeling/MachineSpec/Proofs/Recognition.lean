/-
MachineSpec.Proofs.Recognition — the readers accept exactly the grammar.

For each production there is one equivalence: the reader returns a result if and only if the
tokens that it took are a phrase with this meaning. A reference without arguments could go
on with `<`, so the equivalences have a hypothesis about the token that follows; where
productions stand in declarations it is a comma, an arrow, a closing token or the end.

The readers carry bounds for the length of lists and the depth of arguments. `Recognises` is
about streams shorter than these bounds. A recursive call stands behind a token already
taken, so the bounds are never reached.

* `ofText_ok_iff_phrase`: a text is accepted if and only if its tokens are a phrase; the
  body of a declaration in a document, if and only if a phrase stands before the closing
  parenthesis.
-/
import MachineSpec.Proofs.Grammar
import MachineSpec.Proofs.Reader
import MachineSpec.Proofs.Scanning

namespace MachineSpec.Parse

open TokenStream Grammar

variable {α : Type} {s s' : TokenStream} {item : Parse α} {phrases : Phrases α} {size bound : Nat}
  {close : TokenKind}

/-- On short streams the reader takes exactly the phrases, if no `<` follows that could still belong
    to what it read. -/
def Recognises (p : Parse α) (phrases : Phrases α) (size : Nat) : Prop :=
  ∀ {s a s'}, s.upcoming.length < size → s'.current.kind ≠ .less →
    (Reads p s a s' ↔ ∃ phrase, phrases phrase a ∧ s.Advances phrase s')

/-! ## 1. Lists -/

theorem reads_separatedWithin_succ_iff {as : List α} :
    Reads (separatedWithin close item (bound + 1)) s as s' ↔
      if s.current.kind = close then [] = as ∧ s = s'
      else ∃ a t, Reads item s a t ∧
        if t.current.kind = .comma then
          ∃ rest, Reads (separatedWithin close item bound) t.tail rest s' ∧ a :: rest = as
        else [a] = as ∧ t = s' := by
  rw [separatedWithin, reads_peek_bind_iff]
  by_cases here : s.current.kind = close
  · simp [here, reads_pure_iff]
  · simp only [here, beq_eq_false_iff_ne.mpr here, Bool.false_eq_true, if_false]
    rw [reads_bind_iff]
    refine exists_congr fun a => exists_congr fun t => and_congr_right fun _ => ?_
    rw [reads_accept_bind_iff]
    by_cases comma : t.current.kind = .comma
    · simp only [comma, if_true, reads_bind_iff, reads_pure_iff]
      constructor
      · rintro ⟨rest, u, reads, same, rfl⟩
        exact ⟨rest, reads, same⟩
      · rintro ⟨rest, reads, same⟩
        exact ⟨rest, s', reads, same, rfl⟩
    · simp [comma, reads_pure_iff]

/-- A list that was read up to the token that closes it is a series, or nothing. -/
theorem items_of_reads (notLess : close ≠ .less) (recognises : Recognises item phrases size)
    (small : s.upcoming.length < size) (enough : s.upcoming.length < bound) {as : List α}
    (closes : s'.current.kind = close) (reads : Reads (separatedWithin close item bound) s as s') :
    ∃ phrase, Items phrases phrase as ∧ s.Advances phrase s' := by
  induction bound generalizing s as with
  | zero => omega
  | succ bound ih =>
    rw [reads_separatedWithin_succ_iff] at reads
    split at reads
    case isTrue here =>
      obtain ⟨rfl, rfl⟩ := reads
      exact ⟨[], .none, .refl⟩
    case isFalse here =>
      obtain ⟨a, t, readsFirst, after⟩ := reads
      split at after
      case isTrue comma =>
        obtain ⟨rest, readsRest, rfl⟩ := after
        obtain ⟨start, first, before⟩ := (recognises small (by simp [comma])).mp readsFirst
        have step := t.advances_tail (by simp [comma])
        have shorter := Nat.lt_of_lt_of_le step.shorter before.length_le
        obtain ⟨others, items, behind⟩ := ih (by omega) (by omega) readsRest
        exact ⟨_, .some (series_iff.mpr ⟨start, a, first, .inr
          ⟨_, others, rest, comma, items, rfl, rfl⟩⟩), before.trans (step.trans behind)⟩
      case isFalse =>
        obtain ⟨rfl, rfl⟩ := after
        obtain ⟨phrase, first, advances⟩ := (recognises small (by rwa [closes])).mp readsFirst
        exact ⟨phrase, .some (.last first), advances⟩

/-- A series in front of the token that closes it is read to its end. -/
theorem reads_of_items (notComma : close ≠ .comma) (notLess : close ≠ .less)
    (recognises : Recognises item phrases size) (avoids : Avoids close phrases)
    (small : s.upcoming.length < size) (enough : s.upcoming.length < bound)
    {phrase : List Token} {as : List α} (closes : s'.current.kind = close)
    (items : Items phrases phrase as) (advances : s.Advances phrase s') :
    Reads (separatedWithin close item bound) s as s' := by
  induction bound generalizing s phrase as with
  | zero => omega
  | succ bound ih =>
    rw [reads_separatedWithin_succ_iff]
    cases items with
    | none =>
      obtain rfl := advances_nil_iff.mp advances
      rw [if_pos closes]
      exact ⟨rfl, rfl⟩
    | some series =>
      obtain ⟨first, others, starts, other⟩ := avoids.series series
      rw [if_neg ((starts ▸ advances).current ▸ other)]
      obtain ⟨start, a, first, ⟨rfl, rfl⟩ | ⟨comma, others, rest, separates, items, rfl, rfl⟩⟩ :=
        series_iff.mp series
      · refine ⟨a, s', (recognises small (by rwa [closes])).mpr ⟨_, first, advances⟩, ?_⟩
        rw [if_neg (by rwa [closes])]
        exact ⟨rfl, rfl⟩
      · obtain ⟨t, before, after⟩ := advances.split
        obtain ⟨u, step, behind⟩ := after.uncons
        obtain ⟨-, rfl, rfl⟩ := advances_singleton_iff.mp step
        have shorter := Nat.lt_of_lt_of_le step.shorter before.length_le
        refine ⟨a, t, (recognises small (by simp [separates])).mpr ⟨_, first, before⟩, ?_⟩
        rw [if_pos separates]
        exact ⟨rest, ih (by omega) (by omega) items behind, rfl⟩

/-- Up to the token that closes it, a list is read as a series or as nothing. -/
theorem reads_separated_iff (notComma : close ≠ .comma) (notLess : close ≠ .less)
    (recognises : Recognises item phrases size) (avoids : Avoids close phrases)
    (small : s.upcoming.length < size) (closes : s'.current.kind = close) {as : List α} :
    Reads (separated close item) s as s' ↔
      ∃ phrase, Items phrases phrase as ∧ s.Advances phrase s' := by
  rw [separated, reads_get_bind_iff]
  constructor
  · exact items_of_reads notLess recognises small (by omega) closes
  · rintro ⟨phrase, items, advances⟩
    exact reads_of_items notComma notLess recognises avoids small (by omega) closes items advances

theorem reads_bracketed_iff (recognises : Recognises item phrases size)
    (avoids : Avoids .rightBracket phrases) (small : s.upcoming.length ≤ size) {as : List α} :
    Reads (bracketed item) s as s' ↔
      ∃ phrase, Listed phrases phrase as ∧ s.Advances phrase s' := by
  have reads_items {t u : TokenStream} {as : List α} (shorter : t.upcoming.length < size)
      (closes : u.current.kind = .rightBracket) :
      Reads (separated .rightBracket item) t as u ↔
        ∃ phrase, Items phrases phrase as ∧ t.Advances phrase u :=
    reads_separated_iff (by decide) (by decide) recognises avoids shorter closes
  simp only [bracketed, reads_bind_iff, reads_expect_iff, reads_pure_iff, ne_eq, reduceCtorEq,
    not_false_iff]
  constructor
  · rintro ⟨opening, t, ⟨opens, first⟩, as, u, reads, closing, _, ⟨closes, last⟩, rfl, rfl⟩
    have shorter := first.shorter
    obtain ⟨phrase, items, middle⟩ := (reads_items (by omega) (last.current ▸ closes)).mp reads
    exact ⟨_, .intro opens items closes, first.trans (middle.trans last)⟩
  · rintro ⟨_, ⟨opens, items, closes⟩, advances⟩
    obtain ⟨t, first, after⟩ := advances.uncons
    obtain ⟨u, middle, last⟩ := after.split
    have shorter := first.shorter
    exact ⟨_, t, ⟨opens, first⟩, as, u,
      (reads_items (by omega) (last.current ▸ closes)).mpr ⟨_, items, middle⟩,
      _, s', ⟨closes, last⟩, rfl, rfl⟩

/-! ## 2. Type names -/

/-- Arguments in angle brackets. They are at least one. -/
theorem reads_angled_iff {argument : Parse String} {phrases : Phrases String}
    (recognises : Recognises argument phrases size) (avoids : Avoids .greater phrases)
    (small : s.upcoming.length ≤ size) {arguments : List String} :
    Reads (angled argument) s arguments s' ↔
      ∃ opening phrase closing, opening.kind = .less ∧ Series phrases phrase arguments ∧
        closing.kind = .greater ∧ s.Advances (opening :: (phrase ++ [closing])) s' := by
  have reads_items {t u : TokenStream} {arguments : List String}
      (shorter : t.upcoming.length < size) (closes : u.current.kind = .greater) :
      Reads (separated .greater argument) t arguments u ↔
        ∃ phrase, Items phrases phrase arguments ∧ t.Advances phrase u :=
    reads_separated_iff (by decide) (by decide) recognises avoids shorter closes
  simp only [angled, reads_bind_iff, reads_expect_iff, ne_eq, reduceCtorEq, not_false_iff]
  constructor
  · rintro ⟨opening, t, ⟨opens, first⟩, arguments, u, reads, after⟩
    have shorter := first.shorter
    split at after
    case isTrue =>
      obtain ⟨_, _, refused, -⟩ := reads_bind_iff.mp after
      exact absurd refused not_reads_refuse
    case isFalse filled =>
      simp only [reads_bind_iff, reads_expect_iff, reads_pure_iff, ne_eq, reduceCtorEq,
        not_false_iff] at after
      obtain ⟨closing, _, ⟨closes, last⟩, rfl, rfl⟩ := after
      obtain ⟨phrase, items, middle⟩ := (reads_items (by omega) (last.current ▸ closes)).mp reads
      cases items with
      | none => simp at filled
      | some series =>
        exact ⟨opening, phrase, closing, opens, series, closes, first.trans (middle.trans last)⟩
  · rintro ⟨opening, phrase, closing, opens, series, closes, advances⟩
    obtain ⟨t, first, after⟩ := advances.uncons
    obtain ⟨u, middle, last⟩ := after.split
    have shorter := first.shorter
    have filled : ¬ arguments.isEmpty = true := by
      obtain ⟨_, _, _, ⟨-, rfl⟩ | ⟨_, _, _, -, -, -, rfl⟩⟩ := series_iff.mp series <;> simp
    refine ⟨opening, t, ⟨opens, first⟩, arguments, u,
      (reads_items (by omega) (last.current ▸ closes)).mpr ⟨_, .some series, middle⟩, ?_⟩
    rw [if_neg filled]
    exact reads_bind_iff.mpr ⟨closing, s', (reads_expect_iff (by decide)).mpr ⟨closes, last⟩,
      reads_pure_iff.mpr ⟨rfl, rfl⟩⟩

/-- A name, and arguments if it is followed by `<`. -/
theorem reads_applied_iff {argument : Parse String} {phrases : Phrases String}
    (recognises : Recognises argument phrases size) (avoids : Avoids .greater phrases)
    (small : s.upcoming.length ≤ size) (follow : s'.current.kind ≠ .less) {what : String}
    {make : Token → List String → α} {a : α} :
    Reads (do
      let name ← expect .name what
      let arguments ← if ← peek .less 0 then angled argument else pure []
      return make name arguments) s a s' ↔
      ∃ phrase name arguments, Applied phrases phrase name arguments ∧ make name arguments = a ∧
        s.Advances phrase s' := by
  rw [reads_bind_iff]
  simp only [reads_expect_iff, reads_peek_bind_iff, beq_iff_eq, pure_bind, ne_eq, reduceCtorEq,
    not_false_iff]
  constructor
  · rintro ⟨name, t, ⟨named, first⟩, after⟩
    have shorter := first.shorter
    split at after
    case isTrue =>
      simp only [reads_bind_iff, reads_pure_iff] at after
      obtain ⟨arguments, _, reads, rfl, rfl⟩ := after
      obtain ⟨opening, phrase, closing, opens, series, closes, rest⟩ :=
        (reads_angled_iff recognises avoids (by omega)).mp reads
      exact ⟨_, name, arguments, .generic named opens series closes, rfl, first.trans rest⟩
    case isFalse =>
      obtain ⟨rfl, rfl⟩ := reads_pure_iff.mp after
      exact ⟨_, name, [], .bare named, rfl, first⟩
  · rintro ⟨phrase, name, arguments, applied, rfl, advances⟩
    cases applied with
    | bare named =>
      refine ⟨name, s', ⟨named, advances⟩, ?_⟩
      rw [if_neg follow]
      exact reads_pure_iff.mpr ⟨rfl, rfl⟩
    | generic named opens series closes =>
      obtain ⟨t, first, rest⟩ := advances.uncons
      have shorter := first.shorter
      refine ⟨name, t, ⟨named, first⟩, ?_⟩
      rw [if_pos (rest.current ▸ opens)]
      simp only [reads_bind_iff, reads_pure_iff]
      exact ⟨arguments, s', (reads_angled_iff recognises avoids (by omega)).mpr
        ⟨_, _, _, opens, series, closes, rest⟩, rfl, rfl⟩

theorem reads_typeArgWithin_succ_iff {depth : Nat} {text : String} :
    Reads (typeArgWithin (depth + 1)) s text s' ↔
      if s.current.kind = .ampersand then
        if s.tail.current.kind = .lifetime then
          ∃ inner, Reads (typeArgWithin depth) s.tail.tail inner s' ∧
            "&" ++ (s.tail.current.text ++ " ") ++ inner = text
        else ∃ inner, Reads (typeArgWithin depth) s.tail inner s' ∧ "&" ++ inner = text
      else if s.current.kind = .lifetime then s.current.text = text ∧ s.tail = s'
      else if s.current.kind = .leftBracket then
        ∃ inner t, Reads (typeArgWithin depth) s.tail inner t ∧
          ∃ closing, closing.kind = .rightBracket ∧ t.Advances [closing] s' ∧
            "[" ++ inner ++ "]" = text
      else Reads (do
        let name ← expect .name "a type name"
        let arguments ← if ← peek .less 0 then angled (typeArgWithin depth) else pure []
        return TypeName.text ⟨name.text, arguments⟩) s text s' := by
  rw [typeArgWithin, reads_accept_bind_iff]
  by_cases borrows : s.current.kind = .ampersand
  · simp only [if_pos borrows, if_true, reads_peek_bind_iff, beq_iff_eq]
    by_cases lives : s.tail.current.kind = .lifetime
    · simp only [if_pos lives, pure_bind, reads_advance_bind_iff, reads_bind_pure_iff]
    · simp only [if_neg lives, pure_bind, reads_bind_pure_iff, String.append_empty]
  · simp only [if_neg borrows, reads_peek_bind_iff, beq_iff_eq, Bool.false_eq_true, if_false]
    by_cases lives : s.current.kind = .lifetime
    · simp only [if_pos lives, reads_advance_bind_iff, reads_pure_iff]
    · rw [if_neg lives, if_neg lives, reads_accept_bind_iff]
      by_cases opens : s.current.kind = .leftBracket
      · simp only [if_pos opens, if_true]
        rw [reads_bind_iff]
        simp only [reads_bind_pure_iff, reads_expect_iff, ne_eq, reduceCtorEq, not_false_iff,
          and_assoc]
      · simp only [if_neg opens, Bool.false_eq_true, if_false]

/-- An argument that was read is a phrase: each branch of the reader is an alternative. -/
theorem argument_of_reads {depth : Nat} (ih : Recognises (typeArgWithin depth) Argument depth)
    (small : s.upcoming.length < depth + 1) (follow : s'.current.kind ≠ .less) {text : String}
    (reads : Reads (typeArgWithin (depth + 1)) s text s') :
    ∃ phrase, Argument phrase text ∧ s.Advances phrase s' := by
  rw [reads_typeArgWithin_succ_iff] at reads
  split at reads
  case isTrue borrows =>
    have first := s.advances_tail (by simp [borrows])
    have shorter := first.shorter
    split at reads
    case isTrue lives =>
      obtain ⟨inner, readsInner, rfl⟩ := reads
      have second := s.tail.advances_tail (by simp [lives])
      have shorter := Nat.lt_trans second.shorter shorter
      obtain ⟨phrase, target, rest⟩ := (ih (by omega) follow).mp readsInner
      exact ⟨_, .borrowedFor borrows lives target, first.trans (second.trans rest)⟩
    case isFalse unnamed =>
      obtain ⟨inner, readsInner, rfl⟩ := reads
      obtain ⟨phrase, target, rest⟩ := (ih (by omega) follow).mp readsInner
      obtain ⟨token, others, rfl, -⟩ := Argument.avoids_greater target
      exact ⟨_, .borrowed borrows (rest.current ▸ unnamed) target, first.trans rest⟩
  case isFalse =>
    split at reads
    case isTrue lives =>
      obtain ⟨rfl, rfl⟩ := reads
      exact ⟨_, .lifetime lives, s.advances_tail (by simp [lives])⟩
    case isFalse =>
      split at reads
      case isTrue opens =>
        obtain ⟨inner, t, readsInner, closing, closes, last, rfl⟩ := reads
        have first := s.advances_tail (by simp [opens])
        have shorter := first.shorter
        obtain ⟨phrase, element, middle⟩ :=
          (ih (by omega) (by simp [last.current, closes])).mp readsInner
        exact ⟨_, .slice opens element closes, first.trans (middle.trans last)⟩
      case isFalse =>
        obtain ⟨phrase, name, arguments, applied, rfl, advances⟩ :=
          (reads_applied_iff ih Argument.avoids_greater (by omega) follow).mp reads
        exact ⟨phrase, .applied applied, advances⟩

/-- An argument is read to its end, unless a `<` follows that could still belong to it. -/
theorem reads_of_argument {depth : Nat} (ih : Recognises (typeArgWithin depth) Argument depth)
    (small : s.upcoming.length < depth + 1) (follow : s'.current.kind ≠ .less) {text : String}
    {phrase : List Token} (argument : Argument phrase text) (advances : s.Advances phrase s') :
    Reads (typeArgWithin (depth + 1)) s text s' := by
  rw [reads_typeArgWithin_succ_iff]
  cases argument with
  | applied type =>
    obtain ⟨rest, rfl, named⟩ := type.starts
    have here : s.current.kind = .name := advances.current ▸ named
    simp only [here, reduceCtorEq, if_false]
    exact (reads_applied_iff ih Argument.avoids_greater (by omega) follow).mpr
      ⟨_, _, _, type, rfl, advances⟩
  | borrowed borrows unnamed target =>
    obtain ⟨t, first, rest⟩ := advances.uncons
    obtain ⟨-, here, rfl⟩ := advances_singleton_iff.mp first
    have shorter := first.shorter
    rw [if_pos (here ▸ borrows), if_neg (rest.current ▸ unnamed)]
    exact ⟨_, (ih (by omega) follow).mpr ⟨_, target, rest⟩, rfl⟩
  | borrowedFor borrows lives target =>
    obtain ⟨t, first, others⟩ := advances.uncons
    obtain ⟨-, here, rfl⟩ := advances_singleton_iff.mp first
    obtain ⟨u, second, rest⟩ := others.uncons
    obtain ⟨-, next, rfl⟩ := advances_singleton_iff.mp second
    have shorter := Nat.lt_trans second.shorter first.shorter
    rw [if_pos (here ▸ borrows), if_pos (next ▸ lives)]
    exact ⟨_, (ih (by omega) follow).mpr ⟨_, target, rest⟩, by rw [next]⟩
  | lifetime lives =>
    obtain ⟨-, rfl, rfl⟩ := advances_singleton_iff.mp advances
    simp [lives]
  | slice opens element closes =>
    obtain ⟨t, first, others⟩ := advances.uncons
    obtain ⟨-, rfl, rfl⟩ := advances_singleton_iff.mp first
    obtain ⟨u, middle, last⟩ := others.split
    have shorter := first.shorter
    simp only [opens, reduceCtorEq, if_false, if_true]
    exact ⟨_, u, (ih (by omega) (by simp [last.current, closes])).mpr ⟨_, element, middle⟩,
      _, closes, last, rfl⟩

/-- Each call below another stands behind a token already taken, so the depth is never used up. -/
theorem recognises_typeArgWithin {depth : Nat} :
    Recognises (typeArgWithin depth) Argument depth := by
  induction depth with
  | zero =>
    intro s a s' small
    omega
  | succ depth ih =>
    intro s text s' small follow
    constructor
    · exact argument_of_reads ih small follow
    · rintro ⟨phrase, argument, advances⟩
      exact reads_of_argument ih small follow argument advances

theorem recognises_typeArg : Recognises typeArg Argument size := by
  intro s text s' _ follow
  rw [typeArg, reads_get_bind_iff]
  exact recognises_typeArgWithin (by omega) follow

/-- A type name is read to its end, unless a `<` follows that could still belong to it. -/
theorem reads_reference_iff {what : String} {reference : Reference}
    (follow : s'.current.kind ≠ .less) :
    Reads (Parse.reference what) s reference s' ↔
      ∃ phrase, reference.Phrase phrase ∧ s.Advances phrase s' := by
  have recognises : Recognises typeArg Argument s.upcoming.length := recognises_typeArg
  refine (reads_applied_iff recognises Argument.avoids_greater (Nat.le_refl _) follow).trans ?_
  constructor
  · rintro ⟨phrase, name, arguments, applied, rfl, advances⟩
    exact ⟨phrase, .intro applied, advances⟩
  · rintro ⟨phrase, ⟨applied⟩, advances⟩
    exact ⟨phrase, _, _, applied, rfl, advances⟩

theorem reads_state_iff {reference : Reference} (follow : s'.current.kind ≠ .less) :
    Reads state s reference s' ↔ ∃ phrase, reference.Phrase phrase ∧ s.Advances phrase s' :=
  reads_reference_iff follow

/-! ## 3. Transitions and messages -/

/-- Two type names with an arrow between them, in front of which the first one ends. The whole stands
    where its first name does. -/
theorem reads_joined_iff {β : Type} {arrow : Parse β} {writes : Token → β → Prop}
    (make : Span → Reference → β → Reference → α) {what : String} {a : α}
    (reads_arrow : ∀ {t b u}, Reads arrow t b u ↔ ∃ token, writes token b ∧ t.Advances [token] u)
    (notLess : ∀ {token b}, writes token b → token.kind ≠ .less)
    (follow : s'.current.kind ≠ .less) :
    Reads (do
      let first ← current
      let left ← Parse.reference what
      let between ← arrow
      let right ← state
      return make first.span left between right) s a s' ↔
      ∃ left token right source between target, Reference.Phrase left source ∧
        writes token between ∧ Reference.Phrase right target ∧
        make source.span source between target = a ∧ s.Advances (left ++ token :: right) s' := by
  rw [reads_current_bind_iff]
  simp only [reads_bind_iff, reads_arrow, reads_pure_iff]
  constructor
  · rintro ⟨source, t, readsSource, between, u, ⟨token, written, step⟩, target, _, readsTarget,
      rfl, rfl⟩
    obtain ⟨left, leaves, first⟩ :=
      (reads_reference_iff (step.current ▸ notLess written)).mp readsSource
    obtain ⟨right, enters, last⟩ := (reads_state_iff follow).mp readsTarget
    obtain ⟨name, rest, rfl, -, place⟩ := leaves.begins
    rw [first.current, place]
    exact ⟨_, token, right, source, between, target, leaves, written, enters, rfl,
      first.trans (step.trans last)⟩
  · rintro ⟨left, token, right, source, between, target, leaves, written, enters, rfl, advances⟩
    obtain ⟨t, first, others⟩ := advances.split
    obtain ⟨u, step, last⟩ := others.uncons
    obtain ⟨name, rest, rfl, -, place⟩ := leaves.begins
    refine ⟨source, t, (reads_reference_iff (step.current ▸ notLess written)).mpr
      ⟨_, leaves, first⟩, between, u, ⟨token, written, step⟩, target, s',
      (reads_state_iff follow).mpr ⟨right, enters, last⟩, ?_, rfl⟩
    rw [first.current, place]

theorem recognises_edge : Recognises edge Edge.Phrase size := by
  intro s joined s' _ follow
  have reads_arrow {t : TokenStream} {b : Token} {u : TokenStream} :
      Reads (expect .transitionArrow "'=>'") t b u ↔
        ∃ token : Token, (token.kind = .transitionArrow ∧ token = b) ∧ t.Advances [token] u := by
    rw [reads_expect_iff (by decide)]
    constructor
    · rintro ⟨leads, step⟩
      exact ⟨b, ⟨leads, rfl⟩, step⟩
    · rintro ⟨_, ⟨leads, rfl⟩, step⟩
      exact ⟨leads, step⟩
  rw [edge]
  refine (reads_joined_iff (fun place source _ destination => Edge.mk source destination place)
    reads_arrow (fun leads => by simp [leads.1]) follow).trans ?_
  constructor
  · rintro ⟨_, _, _, _, _, _, leaves, ⟨leads, -⟩, enters, rfl, advances⟩
    exact ⟨_, .intro leaves leads enters, advances⟩
  · rintro ⟨_, ⟨leaves, leads, enters⟩, advances⟩
    exact ⟨_, _, _, _, _, _, leaves, ⟨leads, rfl⟩, enters, rfl, advances⟩

theorem reads_direction_iff {way : Direction} :
    Reads direction s way s' ↔ ∃ arrow : Token, arrow.kind = way.kind ∧ s.Advances [arrow] s' := by
  rw [advances_kind_iff (by cases way <;> decide), direction, reads_accept_bind_iff]
  by_cases pushes : s.current.kind = .pushArrow
  · cases way <;> simp [pushes, reads_pure_iff, Direction.kind]
  · simp only [if_neg pushes, reads_accept_bind_iff, Bool.false_eq_true, if_false, if_true]
    by_cases polls : s.current.kind = .pollArrow
    · cases way <;> simp [polls, reads_pure_iff, Direction.kind]
    · rw [if_neg polls]
      refine iff_of_false not_reads_refuse ?_
      cases way <;> simp [Direction.kind, pushes, polls]

theorem recognises_message : Recognises message Message.Phrase size := by
  intro s channel s' _ follow
  rw [message]
  refine (reads_joined_iff (fun place payload way target => Message.mk payload way target place)
    reads_direction_iff (fun {_ way} points => by cases way <;> simp [points, Direction.kind])
    follow).trans ?_
  constructor
  · rintro ⟨_, _, _, _, _, _, travels, points, reaches, rfl, advances⟩
    exact ⟨_, .intro travels points reaches, advances⟩
  · rintro ⟨_, ⟨travels, points, reaches⟩, advances⟩
    exact ⟨_, _, _, _, _, _, travels, points, reaches, rfl, advances⟩

/-! ## 4. Declarations -/

theorem reads_states_iff {states : List Reference} :
    Reads (bracketed state) s states s' ↔
      ∃ phrase, Listed Reference.Phrase phrase states ∧ s.Advances phrase s' :=
  reads_bracketed_iff (fun _ => reads_state_iff)
    (avoids_rightBracket fun _ _ => Reference.Phrase.begins) (Nat.le_refl _)

theorem reads_edges_iff {edges : List Edge} :
    Reads (bracketed edge) s edges s' ↔
      ∃ phrase, Listed Edge.Phrase phrase edges ∧ s.Advances phrase s' :=
  reads_bracketed_iff recognises_edge (avoids_rightBracket fun _ _ => Edge.Phrase.begins)
    (Nat.le_refl _)

theorem reads_channels_iff {channels : List Message} :
    Reads (bracketed message) s channels s' ↔
      ∃ phrase, Listed Message.Phrase phrase channels ∧ s.Advances phrase s' :=
  reads_bracketed_iff recognises_message (avoids_rightBracket fun _ _ => Message.Phrase.begins)
    (Nat.le_refl _)

theorem reads_failure_iff {failing : FailureDecl} (follow : s'.current.kind ≠ .less) :
    Reads failure s failing s' ↔
      ∃ phrase, Failing true phrase (some failing) ∧ s.Advances phrase s' := by
  simp only [failure, reads_bind_iff, reads_expect_iff, reads_pure_iff, ne_eq, reduceCtorEq,
    not_false_iff]
  constructor
  · rintro ⟨_, t, ⟨before, first⟩, errorType, u, readsType, _, v, ⟨between, second⟩, errorState, _,
      readsState, rfl, rfl⟩
    obtain ⟨left, type, left_advances⟩ :=
      (reads_reference_iff (by simp [second.current, between])).mp readsType
    obtain ⟨right, state, right_advances⟩ := (reads_state_iff follow).mp readsState
    exact ⟨_, .into before type between state,
      first.trans (left_advances.trans (second.trans right_advances))⟩
  · rintro ⟨_, fails, advances⟩
    cases fails with
    | into before type between state =>
      obtain ⟨t, first, after⟩ := advances.uncons
      obtain ⟨u, left, after⟩ := after.split
      obtain ⟨v, second, right⟩ := after.uncons
      exact ⟨_, t, ⟨before, first⟩, _, u,
        (reads_reference_iff (by simp [second.current, between])).mpr ⟨_, type, left⟩, _, v,
        ⟨between, second⟩, _, s', (reads_state_iff follow).mpr ⟨_, state, right⟩, rfl, rfl⟩

/-- A comma that may be missing, and the end of the declaration behind it. -/
theorem reads_ending_iff (notComma : close ≠ .comma) {a b : α} :
    Reads (do
      let _ ← accept .comma
      expectEnd close
      return a) s b s' ↔
      a = b ∧ s'.current.kind = close ∧ ∃ phrase, Trailing phrase ∧ s.Advances phrase s' := by
  have reads_end {t : TokenStream} :
      Reads (do
        expectEnd close
        return a) t b s' ↔ a = b ∧ s'.current.kind = close ∧ t = s' := by
    simp only [reads_bind_pure_iff, reads_expectEnd_iff]
    constructor
    · rintro ⟨_, ⟨here, rfl⟩, same⟩
      exact ⟨same, here, rfl⟩
    · rintro ⟨same, here, rfl⟩
      exact ⟨(), ⟨here, rfl⟩, same⟩
  rw [reads_accept_bind_iff]
  constructor
  · intro reads
    split at reads
    case isTrue comma =>
      obtain ⟨same, here, rfl⟩ := reads_end.mp reads
      exact ⟨same, here, _, .some comma, s.advances_tail (by simp [comma])⟩
    case isFalse =>
      obtain ⟨same, here, rfl⟩ := reads_end.mp reads
      exact ⟨same, here, _, .none, .refl⟩
  · rintro ⟨same, here, _, trailing, advances⟩
    cases trailing with
    | none =>
      obtain rfl := advances_nil_iff.mp advances
      rw [if_neg (by rwa [here])]
      exact reads_end.mpr ⟨same, here, rfl⟩
    | some comma =>
      obtain ⟨-, rfl, rfl⟩ := advances_singleton_iff.mp advances
      rw [if_pos comma]
      exact reads_end.mpr ⟨same, here, rfl⟩

/-- Where a comma may stand no `<` does. -/
theorem follow_of_trailing (notLess : close ≠ .less) (closes : s'.current.kind = close)
    {phrase : List Token} (ends : Trailing phrase) (advances : s.Advances phrase s') :
    s.current.kind ≠ .less := by
  cases ends with
  | none => rwa [advances_nil_iff.mp advances, closes]
  | some comma => simp [advances.current, comma]

/-- What stands behind the transitions of a machine. -/
theorem reads_failing_iff (notComma : close ≠ .comma) (notLess : close ≠ .less) {fallible : Bool}
    {make : Option FailureDecl → α} {a : α} :
    Reads (do
      let failing ← if fallible then some <$> failure else pure none
      let _ ← accept .comma
      expectEnd close
      return make failing) s a s' ↔
      s'.current.kind = close ∧ ∃ failing trailing failure, Failing fallible failing failure ∧
        Trailing trailing ∧ make failure = a ∧ s.Advances (failing ++ trailing) s' := by
  cases fallible with
  | false =>
    simp only [Bool.false_eq_true, if_false, pure_bind, reads_ending_iff notComma]
    constructor
    · rintro ⟨same, here, trailing, ends, advances⟩
      exact ⟨here, [], trailing, none, .never, ends, same, advances⟩
    · rintro ⟨here, failing, trailing, _, fails, ends, same, advances⟩
      cases fails
      exact ⟨same, here, trailing, ends, advances⟩
  | true =>
    simp only [if_true, map_eq_pure_bind, bind_assoc, pure_bind]
    rw [reads_bind_iff]
    simp only [reads_ending_iff notComma]
    constructor
    · rintro ⟨failure, t, reads, same, here, trailing, ends, after⟩
      obtain ⟨failing, fails, before⟩ :=
        (reads_failure_iff (follow_of_trailing notLess here ends after)).mp reads
      exact ⟨here, failing, trailing, _, fails, ends, same, before.trans after⟩
    · rintro ⟨here, failing, trailing, failure, fails, ends, same, advances⟩
      obtain ⟨t, before, after⟩ := advances.split
      cases fails with
      | into comma₁ type comma₂ state =>
        exact ⟨_, t, (reads_failure_iff (follow_of_trailing notLess here ends after)).mpr
          ⟨_, .into comma₁ type comma₂ state, before⟩, same, here, trailing, ends, after⟩

theorem reads_machine_iff (notComma : close ≠ .comma) (notLess : close ≠ .less) {fallible : Bool}
    {decl : MachineDecl} :
    Reads (machine fallible close) s decl s' ↔
      s'.current.kind = close ∧ ∃ phrase, decl.Phrase fallible phrase ∧ s.Advances phrase s' := by
  simp only [machine, reads_bind_iff, reads_expect_iff, ne_eq, reduceCtorEq, not_false_iff,
    reads_states_iff, reads_edges_iff]
  simp only [reads_failing_iff notComma notLess]
  constructor
  · rintro ⟨name, t₁, ⟨named, step₁⟩, _, t₂, ⟨comma₁, step₂⟩, initial, t₃, readsInitial, _, t₄,
      ⟨comma₂, step₃⟩, states, t₅, ⟨_, lists, step₄⟩, _, t₆, ⟨comma₃, step₅⟩, edges, t₇,
      ⟨_, joins, step₆⟩, here, _, _, failure, fails, ends, rfl, step₇⟩
    obtain ⟨_, starts, step⟩ := (reads_state_iff (by simp [step₃.current, comma₂])).mp readsInitial
    exact ⟨here, _, .intro name named comma₁ starts comma₂ lists comma₃ joins fails ends,
      step₁.trans (step₂.trans (step.trans (step₃.trans (step₄.trans (step₅.trans
        (step₆.trans step₇))))))⟩
  · rintro ⟨here, _, ⟨name, named, comma₁, starts, comma₂, lists, comma₃, joins, fails, ends⟩,
      advances⟩
    obtain ⟨t₁, step₁, rest⟩ := advances.uncons
    obtain ⟨t₂, step₂, rest⟩ := rest.uncons
    obtain ⟨t₃, step, rest⟩ := rest.split
    obtain ⟨t₄, step₃, rest⟩ := rest.uncons
    obtain ⟨t₅, step₄, rest⟩ := rest.split
    obtain ⟨t₆, step₅, rest⟩ := rest.uncons
    obtain ⟨t₇, step₆, step₇⟩ := rest.split
    exact ⟨_, t₁, ⟨named, step₁⟩, _, t₂, ⟨comma₁, step₂⟩, _, t₃,
      (reads_state_iff (by simp [step₃.current, comma₂])).mpr ⟨_, starts, step⟩, _, t₄,
      ⟨comma₂, step₃⟩, _, t₅, ⟨_, lists, step₄⟩, _, t₆, ⟨comma₃, step₅⟩, _, t₇,
      ⟨_, joins, step₆⟩, here, _, _, _, fails, ends, rfl, step₇⟩

theorem reads_messages_iff (notComma : close ≠ .comma) {decl : MessagesDecl} :
    Reads (messages close) s decl s' ↔
      s'.current.kind = close ∧ ∃ phrase, decl.Phrase phrase ∧ s.Advances phrase s' := by
  have reads_listed {t : TokenStream} := @reads_bind_iff _ MessagesDecl t s' (bracketed message)
  rw [messages, reads_bind_iff]
  simp only [reads_expect_iff, reads_expect_bind_iff, reads_listed, reads_channels_iff,
    reads_ending_iff notComma, ne_eq, reduceCtorEq, not_false_iff]
  constructor
  · rintro ⟨name, t₁, ⟨named, step₁⟩, _, t₂, ⟨comma, step₂⟩, channels, t₃, ⟨_, lists, step₃⟩, rfl,
      here, _, ends, step₄⟩
    exact ⟨here, _, .intro name named comma lists ends,
      step₁.trans (step₂.trans (step₃.trans step₄))⟩
  · rintro ⟨here, _, ⟨name, named, comma, lists, ends⟩, advances⟩
    obtain ⟨t₁, step₁, rest⟩ := advances.uncons
    obtain ⟨t₂, step₂, rest⟩ := rest.uncons
    obtain ⟨t₃, step₃, step₄⟩ := rest.split
    exact ⟨_, t₁, ⟨named, step₁⟩, _, t₂, ⟨comma, step₂⟩, _, t₃, ⟨_, lists, step₃⟩, rfl, here, _,
      ends, step₄⟩

/-! ## 5. Whole texts -/

/-- A reader of a whole text takes all its tokens. -/
theorem text_eq_ok_iff {p : Parse α} {phrases : Phrases α}
    (reads : ∀ {s a s'}, Reads p s a s' ↔
      s'.current.kind = .finish ∧ ∃ phrase, phrases phrase a ∧ s.Advances phrase s')
    {source : String} {a : α} :
    text p source = .ok a ↔ ∃ tokens, tokenize source = .ok tokens ∧ phrases tokens.items a := by
  have text_reads {tokens : Tokens} (scanned : tokenize source = .ok tokens) :
      text p source = .ok a ↔ ∃ s', Reads p (.ofTokens tokens) a s' := by
    rw [text_eq_outcome scanned]
    constructor
    · intro read
      exact ⟨(outcome p (.ofTokens tokens)).2, Prod.ext read rfl⟩
    · rintro ⟨s', read⟩
      exact congrArg Prod.fst read
  constructor
  · intro read
    cases scanned : tokenize source with
    | error error => simp [text, scanned] at read
    | ok tokens =>
      obtain ⟨s', finished⟩ := (text_reads scanned).mp read
      obtain ⟨here, phrase, fits, advances⟩ := reads.mp finished
      have upcoming : tokens.items = phrase ++ s'.upcoming := advances.upcoming
      -- nothing that the scan delivers stands for the end
      have nothing : s'.upcoming = [] := by
        refine Decidable.byContradiction fun some => ?_
        refine (spelled_of_tokenize scanned s'.current ?_).ne_finish here
        rw [upcoming]
        exact List.mem_append_right _ (current_mem some)
      rw [nothing, List.append_nil] at upcoming
      exact ⟨tokens, rfl, upcoming ▸ fits⟩
  · rintro ⟨tokens, scanned, fits⟩
    exact (text_reads scanned).mpr ⟨_, reads.mpr ⟨rfl, tokens.items, fits, advances_all⟩⟩

end MachineSpec.Parse

namespace MachineSpec

open Parse

theorem reads_whole_reference_iff {s s' : TokenStream} {reference : Reference} :
    Reads (do
      let reference ← state
      expectEnd .finish
      return reference) s reference s' ↔
      s'.current.kind = .finish ∧ ∃ phrase, reference.Phrase phrase ∧ s.Advances phrase s' := by
  simp only [reads_bind_iff, reads_expectEnd_iff, reads_pure_iff]
  constructor
  · rintro ⟨_, t, readsState, _, _, ⟨here, rfl⟩, rfl, rfl⟩
    exact ⟨here, (reads_state_iff (by simp [here])).mp readsState⟩
  · rintro ⟨here, phrase, fits, advances⟩
    exact ⟨_, s', (reads_state_iff (by simp [here])).mpr ⟨phrase, fits, advances⟩, (), s',
      ⟨here, rfl⟩, rfl, rfl⟩

theorem Reference.ofText_eq_ok_iff {source : String} {reference : Reference} :
    Reference.ofText source = .ok reference ↔
      ∃ tokens, tokenize source = .ok tokens ∧ reference.Phrase tokens.items :=
  text_eq_ok_iff reads_whole_reference_iff

theorem MachineDecl.ofText_eq_ok_iff {fallible : Bool} {source : String} {decl : MachineDecl} :
    MachineDecl.ofText fallible source = .ok decl ↔
      ∃ tokens, tokenize source = .ok tokens ∧ decl.Phrase fallible tokens.items :=
  text_eq_ok_iff (reads_machine_iff (by decide) (by decide))

theorem MessagesDecl.ofText_eq_ok_iff {source : String} {decl : MessagesDecl} :
    MessagesDecl.ofText source = .ok decl ↔
      ∃ tokens, tokenize source = .ok tokens ∧ decl.Phrase tokens.items :=
  text_eq_ok_iff (reads_messages_iff (by decide))

/-- A text is read as a type name, as a plain or fallible machine or as message channels if and only
    if its tokens are a phrase of that kind, and the result is the meaning of the phrase. Within a
    document the body of a declaration is read if and only if a phrase stands before a closing
    parenthesis, and exactly this phrase is taken. -/
theorem ofText_ok_iff_phrase :
    (∀ source reference, Reference.ofText source = .ok reference ↔
      ∃ tokens, tokenize source = .ok tokens ∧ reference.Phrase tokens.items) ∧
    (∀ fallible source decl, MachineDecl.ofText fallible source = .ok decl ↔
      ∃ tokens, tokenize source = .ok tokens ∧ decl.Phrase fallible tokens.items) ∧
    (∀ source decl, MessagesDecl.ofText source = .ok decl ↔
      ∃ tokens, tokenize source = .ok tokens ∧ decl.Phrase tokens.items) ∧
    (∀ fallible stream decl rest, Reads (machine fallible .rightParen) stream decl rest ↔
      rest.current.kind = .rightParen ∧
        ∃ phrase, decl.Phrase fallible phrase ∧ stream.Advances phrase rest) ∧
    (∀ stream decl rest, Reads (messages .rightParen) stream decl rest ↔
      rest.current.kind = .rightParen ∧
        ∃ phrase, decl.Phrase phrase ∧ stream.Advances phrase rest) :=
  ⟨fun _ _ => Reference.ofText_eq_ok_iff, fun _ _ _ => MachineDecl.ofText_eq_ok_iff,
    fun _ _ => MessagesDecl.ofText_eq_ok_iff,
    fun _ _ _ _ => reads_machine_iff (by decide) (by decide),
    fun _ _ _ => reads_messages_iff (by decide)⟩

end MachineSpec
