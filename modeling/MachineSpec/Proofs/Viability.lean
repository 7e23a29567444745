/-
MachineSpec.Proofs.Viability — a parse error is at the first offending token.

When a reader stops with an error, the tokens before that place can still be completed to an
accepted text, and with the token at that place they cannot.

For the first half, `Begun` tokens are those that have such a completion, by tokens that can
be spelled. `Tracks` says of a reader that what it took is a phrase if it succeeds, and
begun otherwise. There is one rule for each way of building a reader, and behind tokens
already taken a reader tracks the rest of the phrase (`Behind`). The second half is
`MachineSpec.Proofs.Lookahead`: a text with the same kinds of tokens up to that place is
rejected as well.

* `error_at_first_offending_token`: both halves for machines and message channels.
-/
import MachineSpec.Proofs.Lookahead
import MachineSpec.Proofs.Printing
import MachineSpec.Proofs.Spacing

namespace MachineSpec

open Grammar TokenStream
open Placed (unplaced)

/-! ## 1. Phrases that have begun -/

theorem exists_spelled {kind : TokenKind} (within : kind ≠ .finish) :
    ∃ token : Token, token.kind = kind ∧ token.Spelled := by
  cases kind with
  | name => exact ⟨mark .name "T", rfl, .name rfl rfl⟩
  | lifetime =>
    have parts : ∀ c ∈ ['a'], isNamePart c = true := List.forall_mem_singleton.mpr rfl
    exact ⟨mark .lifetime "'a", rfl, .lifetime parts (List.cons_ne_nil _ _)⟩
  | comma => exact ⟨mark .comma ",", rfl, .punctuation rfl⟩
  | semicolon => exact ⟨mark .semicolon ";", rfl, .punctuation rfl⟩
  | leftBracket => exact ⟨mark .leftBracket "[", rfl, .punctuation rfl⟩
  | rightBracket => exact ⟨mark .rightBracket "]", rfl, .punctuation rfl⟩
  | leftParen => exact ⟨mark .leftParen "(", rfl, .punctuation rfl⟩
  | rightParen => exact ⟨mark .rightParen ")", rfl, .punctuation rfl⟩
  | less => exact ⟨mark .less "<", rfl, .punctuation rfl⟩
  | greater => exact ⟨mark .greater ">", rfl, .punctuation rfl⟩
  | ampersand => exact ⟨mark .ampersand "&", rfl, .punctuation rfl⟩
  | transitionArrow => exact ⟨mark .transitionArrow "=>", rfl, .arrow rfl⟩
  | pushArrow => exact ⟨mark .pushArrow "->", rfl, .arrow rfl⟩
  | pollArrow => exact ⟨mark .pollArrow "<-", rfl, .arrow rfl⟩
  | finish => exact absurd rfl within

namespace Grammar

variable {α β : Type} {phrases : Phrases α} {left right : List Token} {a : α}

/-- What can stand behind these tokens. -/
def Behind (phrases : Phrases α) (left : List Token) : Phrases α :=
  fun right a => phrases (left ++ right) a

/-- Some tokens complete these to a phrase. -/
def Begun (phrases : Phrases α) (taken : List Token) : Prop :=
  ∃ rest a, (∀ token ∈ rest, token.Spelled) ∧ phrases (taken ++ rest) a

theorem Begun.of_phrase (fits : phrases left a) : Begun phrases left :=
  ⟨[], a, nofun, by rwa [List.append_nil]⟩

theorem Begun.behind (begun : Begun (Behind phrases left) right) :
    Begun phrases (left ++ right) := by
  obtain ⟨rest, a, spelled, fits⟩ := begun
  exact ⟨rest, a, spelled, by rwa [List.append_assoc]⟩

theorem Begun.imp {phrases' : Phrases β} (begun : Begun phrases left)
    (imp : ∀ rest a, phrases (left ++ rest) a → ∃ b, phrases' (left ++ rest) b) :
    Begun phrases' left := by
  obtain ⟨rest, a, spelled, fits⟩ := begun
  obtain ⟨b, fits⟩ := imp rest a fits
  exact ⟨rest, b, spelled, fits⟩

/-- One part of a phrase is completed first, and then what stands behind it. -/
theorem Begun.append {phrases' : Phrases β} (begun : Begun phrases left)
    (rest : ∀ whole a, phrases whole a → Begun (Behind phrases' whole) []) :
    Begun phrases' left := by
  obtain ⟨more, a, spelled, fits⟩ := begun
  obtain ⟨last, b, spelled', fits'⟩ := rest _ a fits
  refine ⟨more ++ last, b, List.forall_mem_append.mpr ⟨spelled, spelled'⟩, ?_⟩
  rw [← List.append_assoc]
  exact fits'

end Grammar

/-! ## 2. Readers -/

namespace Parse

variable {α β : Type}

/-- A reader that ended like this took a phrase, or the beginning of one up to the token that it
    reports. -/
inductive Tracked (phrases : Phrases α) (s : TokenStream) :
    Except ParseError α × TokenStream → Prop where
  | done {phrase : List Token} {a : α} {t : TokenStream} (advances : s.Advances phrase t)
      (fits : phrases phrase a) : Tracked phrases s (.ok a, t)
  | broken {phrase : List Token} {error : ParseError} {t : TokenStream}
      (advances : s.Advances phrase t) (begun : Begun phrases phrase)
      (place : error.span = t.current.span) : Tracked phrases s (.error error, t)

/-- The reader takes phrases, of which there are some, or their beginnings. -/
structure Tracks (phrases : Phrases α) (p : Parse α) : Prop where
  possible : Begun phrases []
  tracked : ∀ s, Tracked phrases s (outcome p s)

namespace Tracked

variable {phrases : Phrases α} {phrases' : Phrases β} {p : Parse α} {next : α → Parse β}
  {s : TokenStream} {kind : TokenKind}

theorem imp {phrases' : Phrases α} {ended : Except ParseError α × TokenStream}
    (tracked : Tracked phrases s ended)
    (fits : ∀ phrase a t, s.Advances phrase t → phrases phrase a → phrases' phrase a)
    (begun : ∀ phrase t, s.Advances phrase t → Begun phrases phrase → Begun phrases' phrase) :
    Tracked phrases' s ended := by
  cases tracked with
  | done advances whole => exact .done advances (fits _ _ _ advances whole)
  | broken advances part place => exact .broken advances (begun _ _ advances part) place

theorem bind (first : Tracked phrases s (outcome p s))
    (rest : ∀ left a, phrases left a → Tracks (Behind phrases' left) (next a)) :
    Tracked phrases' s (outcome (p >>= next) s) := by
  rw [outcome_bind]
  generalize outcome p s = ended at first ⊢
  cases first with
  | done advances fits =>
    rename_i left a t
    have second := (rest left a fits).tracked t
    dsimp only
    generalize outcome (next a) t = ended at second ⊢
    cases second with
    | done advances' fits' => exact .done (advances.trans advances') fits'
    | broken advances' begun place => exact .broken (advances.trans advances') begun.behind place
  | broken advances begun place =>
    exact .broken advances (begun.append fun whole a fits => (rest whole a fits).possible) place

/-- Looking at the next token does not take it. -/
theorem peek_bind {next : Bool → Parse β}
    (holds : s.current.kind = kind → Tracked phrases' s (outcome (next true) s))
    (fails : s.current.kind ≠ kind → Tracked phrases' s (outcome (next false) s)) :
    Tracked phrases' s (outcome (peek kind 0 >>= next) s) := by
  rw [outcome_bind, outcome_peek]
  by_cases here : s.current.kind = kind
  · rw [beq_iff_eq.mpr here]
    exact holds here
  · rw [beq_eq_false_iff_ne.mpr here]
    exact fails here

/-- Behind a token that is taken the reader goes on with what is left. -/
theorem advance_bind {next : Token → Parse β} (within : s.current.kind ≠ .finish)
    (rest : Tracks (Behind phrases' [s.current]) (next s.current)) :
    Tracked phrases' s (outcome (advance >>= next) s) := by
  have taken : Tracked (fun phrase a => phrase = [s.current] ∧ a = s.current) s
      (outcome advance s) := .done (advances_tail within) ⟨rfl, rfl⟩
  refine bind taken ?_
  rintro _ _ ⟨rfl, rfl⟩
  exact rest

theorem refuse {wanted : String} (begun : Begun phrases []) :
    Tracked phrases s (outcome (Parse.refuse wanted) s) :=
  .broken .refl begun rfl

end Tracked

namespace Tracks

variable {phrases : Phrases α} {phrases' : Phrases β} {p : Parse α} {next : α → Parse β}
  {kind : TokenKind}

theorem pure {a : α} (fits : phrases [] a) : Tracks phrases (pure a) :=
  ⟨.of_phrase fits, fun _ => .done .refl fits⟩

theorem bind (first : Tracks phrases p)
    (rest : ∀ left a, phrases left a → Tracks (Behind phrases' left) (next a)) :
    Tracks phrases' (p >>= next) where
  possible := first.possible.append fun left a fits => (rest left a fits).possible
  tracked s := (first.tracked s).bind rest

/-- What is only made into something else is not split. -/
theorem make {make : α → β} (first : Tracks phrases p)
    (fits : ∀ phrase a, phrases phrase a → phrases' phrase (make a)) :
    Tracks phrases' (p >>= fun a => Pure.pure (make a)) :=
  bind first fun left a whole => pure (by
    show phrases' (left ++ []) (make a)
    rw [List.append_nil]
    exact fits left a whole)

theorem map {make : α → β} (first : Tracks phrases p)
    (fits : ∀ phrase a, phrases phrase a → phrases' phrase (make a)) :
    Tracks phrases' (make <$> p) := by
  rw [map_eq_pure_bind]
  exact first.make fits

/-- What stands behind a choice goes on from either side of it. -/
theorem ite_bind {p q : Parse α} : (do if ← peek kind 0 then p else q) >>= next =
    peek kind 0 >>= fun here => if here then p >>= next else q >>= next := by
  rw [bind_assoc]
  congr
  funext here
  cases here <;> rfl

theorem refuse_bind {wanted : String} (begun : Begun phrases' []) :
    Tracks phrases' ((Parse.refuse wanted : Parse α) >>= next) where
  possible := begun
  tracked _ := .broken .refl begun rfl

theorem peek_bind {next : Bool → Parse β} (holds : Tracks phrases' (next true))
    (fails : Tracks phrases' (next false)) : Tracks phrases' (peek kind 0 >>= next) :=
  ⟨holds.possible, fun s => .peek_bind (fun _ => holds.tracked s) (fun _ => fails.tracked s)⟩

/-- A token that the phrase goes on with if it stands there. -/
theorem take_bind {next : Token → Parse β} {other : Parse β} (within : kind ≠ .finish)
    (taken : ∀ token : Token, token.kind = kind → Tracks (Behind phrases' [token]) (next token))
    (left : Begun phrases' [] → ∀ s, s.current.kind ≠ kind →
      Tracked phrases' s (outcome other s)) :
    Tracks phrases' (peek kind 0 >>= fun here => if here then advance >>= next else other) := by
  have possible : Begun phrases' [] := by
    obtain ⟨token, here, spelled⟩ := exists_spelled within
    obtain ⟨rest, a, spelled', fits⟩ := (taken token here).possible
    exact ⟨token :: rest, a, List.forall_mem_cons.mpr ⟨spelled, spelled'⟩, fits⟩
  exact ⟨possible, fun s => .peek_bind (fun here => .advance_bind (here ▸ within) (taken _ here))
    (left possible s)⟩

theorem accept_bind {next : Bool → Parse β} (within : kind ≠ .finish)
    (taken : ∀ token : Token, token.kind = kind → Tracks (Behind phrases' [token]) (next true))
    (left : Begun phrases' [] → ∀ s, s.current.kind ≠ kind →
      Tracked phrases' s (outcome (next false) s)) :
    Tracks phrases' (accept kind >>= next) := by
  rw [accept, ite_bind]
  simp only [bind_assoc, pure_bind]
  exact take_bind within taken left

theorem expect_bind {what : String} {next : Token → Parse β} (within : kind ≠ .finish)
    (rest : ∀ token : Token, token.kind = kind → Tracks (Behind phrases' [token]) (next token)) :
    Tracks phrases' (expect kind what >>= next) := by
  rw [expect, ite_bind]
  exact take_bind within rest fun begun s _ => (refuse_bind begun).tracked s

/-- The end is asked for, but not taken. -/
theorem expectEnd_bind {next : Unit → Parse β} (rest : Tracks phrases' (next ())) :
    Tracks phrases' (expectEnd kind >>= next) := by
  rw [expectEnd, ite_bind, pure_bind]
  exact peek_bind rest (refuse_bind rest.possible)

theorem separatedWithin {close : TokenKind} {item : Parse α} (tracks : Tracks phrases item)
    {bound : Nat} : Tracks (Items phrases) (separatedWithin close item bound) := by
  induction bound with
  | zero => exact pure .none
  | succ bound ih =>
    refine peek_bind (pure .none) (bind tracks fun left a first => accept_bind (by decide)
      (fun comma separates => make ih fun others as items => ?_) (fun _ s _ => ?_))
    · exact .some (series_iff.mpr ⟨left, a, first, .inr ⟨comma, others, as, separates, items,
        rfl, rfl⟩⟩)
    · refine .done .refl (show Items phrases (left ++ []) [a] from ?_)
      rw [List.append_nil]
      exact .some (.last first)

theorem separated {close : TokenKind} {item : Parse α} (tracks : Tracks phrases item) :
    Tracks (Items phrases) (separated close item) where
  possible := .of_phrase .none
  tracked s := by
    rw [outcome_separated]
    exact (separatedWithin tracks).tracked s

theorem bracketed {item : Parse α} (tracks : Tracks phrases item) :
    Tracks (Listed phrases) (bracketed item) :=
  expect_bind (by decide) fun _ opens => bind (separated tracks) fun _ _ items =>
    expect_bind (by decide) fun _ closes => pure (.intro opens items closes)

/-- Arguments in angle brackets. Where there are none the bracket cannot be closed yet. -/
theorem angled {argument : Parse String} {phrases : Phrases String}
    {phrases' : Phrases (List String)} (tracks : Tracks phrases argument)
    (fits : ∀ {opening phrase closing arguments}, opening.kind = .less →
      Series phrases phrase arguments → closing.kind = .greater →
      phrases' (opening :: (phrase ++ [closing])) arguments) :
    Tracks phrases' (angled argument) := by
  refine expect_bind (by decide) fun opening opens => bind (separated tracks)
    fun phrase arguments items => ?_
  cases items with
  | none =>
    obtain ⟨first, text, spelled, argument⟩ := tracks.possible
    obtain ⟨closing, closes, spelled'⟩ := @exists_spelled .greater (by decide)
    exact refuse_bind ⟨first ++ [closing], [text], List.forall_mem_append.mpr
      ⟨spelled, List.forall_mem_singleton.mpr spelled'⟩, fits opens (.last argument) closes⟩
  | some series =>
    obtain ⟨_, _, rfl⟩ := List.exists_cons_of_ne_nil series.parts.1
    exact expect_bind (by decide) fun _ closes => pure (fits opens series closes)

theorem applied {argument : Parse String} {phrases : Phrases String} {what : String}
    {meaning : Token → List String → β} (tracks : Tracks phrases argument)
    (fits : ∀ {phrase name arguments}, Applied phrases phrase name arguments →
      phrases' phrase (meaning name arguments)) :
    Tracks phrases' (do
      let name ← expect .name what
      let arguments ← if ← peek .less 0 then Parse.angled argument else Pure.pure []
      return meaning name arguments) := by
  refine expect_bind (by decide) fun name named => peek_bind ?_ ?_
  · have list : Tracks (fun phrase arguments => Applied phrases (name :: phrase) name arguments)
        (Parse.angled argument) :=
      angled tracks fun opens series closes => .generic named opens series closes
    exact make list fun _ _ => fits
  · exact pure (fits (.bare named))

end Tracks

/-- What was begun behind `&` without a lifetime can be completed without one. -/
theorem begun_borrowed {ampersand : Token} {phrase : List Token}
    (borrows : ampersand.kind = .ampersand) (begun : Begun Argument phrase)
    (unnamed : ∀ first ∈ phrase.head?, first.kind ≠ .lifetime) :
    Begun (fun phrase text => Argument (ampersand :: phrase) ("&" ++ text)) phrase := by
  cases phrase with
  | nil =>
    obtain ⟨name, named, spelled⟩ := @exists_spelled .name (by decide)
    exact ⟨[name], _, List.forall_mem_singleton.mpr spelled,
      .borrowed borrows (by simp [named]) (.applied (.bare named))⟩
  | cons first others =>
    obtain ⟨rest, text, spelled, target⟩ := begun
    exact ⟨rest, text, spelled, .borrowed borrows (unnamed first rfl) target⟩

/-- So it is with what a reader takes where no lifetime stands. -/
theorem Tracked.borrowed {p : Parse String} {ampersand : Token} {s : TokenStream}
    (borrows : ampersand.kind = .ampersand) (unnamed : s.current.kind ≠ .lifetime)
    (tracked : Tracked Argument s (outcome p s)) :
    Tracked (fun phrase text => Argument (ampersand :: phrase) ("&" ++ text)) s
      (outcome p s) := by
  refine tracked.imp (fun phrase text t advances target => ?_)
    fun phrase t advances begun => begun_borrowed borrows begun fun first starts => ?_
  · obtain ⟨first, rest, rfl, -⟩ := Argument.avoids_greater target
    exact .borrowed borrows (advances.current ▸ unnamed) target
  · obtain ⟨rest, rfl⟩ := List.head?_eq_some_iff.mp starts
    exact advances.current ▸ unnamed

theorem tracks_typeArgWithin {depth : Nat} : Tracks Argument (typeArgWithin depth) := by
  induction depth with
  | zero =>
    obtain ⟨name, named, spelled⟩ := @exists_spelled .name (by decide)
    have begun : Begun Argument [] := ⟨[name], _, List.forall_mem_singleton.mpr spelled,
      .applied (.bare named)⟩
    exact ⟨begun, fun _ => .refuse begun⟩
  | succ depth ih =>
    refine .accept_bind (by decide) (fun ampersand borrows => .take_bind (by decide)
        (fun lifetime lives => ?borrowedFor) fun _ s unnamed => ?borrowed)
      fun _ s _ => (Tracks.take_bind (by decide) (fun lifetime lives => ?lifetime)
        fun _ s _ => (Tracks.accept_bind (by decide) (fun opening opens => ?slice)
          fun _ s _ => ?applied).tracked s).tracked s
    case borrowedFor => exact ih.make fun phrase text target => .borrowedFor borrows lives target
    case borrowed =>
      have target := (ih.tracked s).borrowed borrows unnamed
      exact target.bind fun phrase text target => .pure (by
        show Argument (ampersand :: (phrase ++ [])) ("&" ++ "" ++ text)
        rwa [List.append_nil, String.append_empty])
    case lifetime => exact .pure (.lifetime lives)
    case slice =>
      exact ih.bind fun phrase text element => .expect_bind (by decide) fun closing closes =>
        .pure (.slice opens element closes)
    case applied => exact (Tracks.applied ih fun type => .applied type).tracked s

theorem tracks_typeArg : Tracks Argument typeArg where
  possible := (@tracks_typeArgWithin 0).possible
  tracked s := by
    rw [outcome_typeArg]
    exact tracks_typeArgWithin.tracked s

theorem tracks_reference {what : String} : Tracks Reference.Phrase (Parse.reference what) :=
  .applied tracks_typeArg fun type => .intro type

theorem tracks_state : Tracks Reference.Phrase state := tracks_reference

/-- A token of one kind. -/
theorem tracks_expect {kind : TokenKind} {what : String} (within : kind ≠ .finish) :
    Tracks (fun phrase token => phrase = [token] ∧ token.kind = kind) (expect kind what) := by
  rw [← bind_pure (expect kind what)]
  exact .expect_bind within fun token here => .pure ⟨rfl, here⟩

/-- Two type names with something between them. The whole stands where its first name does. -/
theorem tracks_joined {phrases : Phrases α} {writes : Phrases β} {arrow : Parse β} {what : String}
    (tracks : Tracks writes arrow) {meaning : Span → Reference → β → Reference → α}
    (fits : ∀ {left middle right source between target}, source.Phrase left →
      writes middle between → target.Phrase right →
      phrases (left ++ (middle ++ right)) (meaning source.span source between target)) :
    Tracks phrases (do
      let first ← current
      let left ← Parse.reference what
      let between ← arrow
      let right ← state
      return meaning first.span left between right) := by
  have stands (place : Span) : Tracks (fun phrase a => ∃ source between target,
      Begins phrase source.span ∧ phrases phrase (meaning source.span source between target) ∧
        a = meaning place source between target) (do
      let left ← Parse.reference what
      let between ← arrow
      let right ← state
      return meaning place left between right) :=
    .bind tracks_reference fun left source leaves => .bind tracks fun middle between written =>
      .make tracks_state fun right target enters =>
        ⟨source, between, target, leaves.begins.append, fits leaves written enters, rfl⟩
  have begun {place : Span} {phrase : List Token} : Begun (fun phrase a => ∃ source between target,
      Begins phrase source.span ∧ phrases phrase (meaning source.span source between target) ∧
        a = meaning place source between target) phrase → Begun phrases phrase := by
    refine fun begun => begun.imp ?_
    rintro rest a ⟨source, between, target, -, whole, -⟩
    exact ⟨_, whole⟩
  refine ⟨begun (stands (Position.start.span 0)).possible, fun s => ?_⟩
  rw [outcome_bind, outcome_current]
  refine ((stands s.current.span).tracked s).imp ?_ fun _ _ _ => begun
  rintro phrase a t advances ⟨source, between, target, ⟨name, rest, rfl, -, place⟩, whole, rfl⟩
  rw [advances.current, place]
  exact whole

theorem tracks_edge : Tracks Edge.Phrase edge :=
  @tracks_joined _ _ _ _ _ _ (tracks_expect (by decide))
    (fun place source _ destination => Edge.mk source destination place)
    fun leaves leads enters => by
      obtain ⟨rfl, leads⟩ := leads
      exact .intro leaves leads enters

theorem tracks_direction :
    Tracks (fun phrase way => ∃ arrow : Token, phrase = [arrow] ∧ arrow.kind = Direction.kind way)
      direction := by
  refine .accept_bind (by decide) (fun arrow pushes => .pure ⟨arrow, rfl, pushes⟩)
    fun begun s _ => Tracks.tracked ?_ s
  exact .accept_bind (by decide) (fun arrow polls => .pure ⟨arrow, rfl, polls⟩)
    fun _ _ _ => .refuse begun

theorem tracks_message : Tracks Message.Phrase message :=
  @tracks_joined _ _ _ _ _ _ tracks_direction
    (fun place payload way target => Message.mk payload way target place)
    fun travels way reaches => by
      obtain ⟨arrow, rfl, points⟩ := way
      exact .intro travels points reaches

theorem tracks_failure :
    Tracks (fun phrase failing => Failing true phrase (some failing)) failure :=
  .expect_bind (by decide) fun _ before => .bind tracks_reference fun _ _ type =>
    .expect_bind (by decide) fun _ between => .make tracks_state fun _ _ state =>
      .into before type between state

/-- What ends a declaration. -/
theorem tracks_ending {phrases : Phrases α} {close : TokenKind} {a : α}
    (fits : ∀ {trailing}, Trailing trailing → phrases trailing a) :
    Tracks phrases (do
      let _ ← accept .comma
      expectEnd close
      return a) := by
  refine .accept_bind (by decide)
    (fun _ separates => .expectEnd_bind (.pure (fits (.some separates))))
    fun _ s _ => Tracks.tracked ?_ s
  exact .expectEnd_bind (.pure (fits .none))

theorem tracks_machine {fallible : Bool} {close : TokenKind} :
    Tracks (MachineDecl.Phrase fallible) (machine fallible close) := by
  refine .expect_bind (by decide) fun name named => .expect_bind (by decide) fun first comma₁ =>
    .bind tracks_state fun start initial starts => .expect_bind (by decide) fun second comma₂ =>
    .bind (.bracketed tracks_state) fun listed states lists =>
    .expect_bind (by decide) fun third comma₃ =>
    .bind (.bracketed tracks_edge) fun joined edges joins => ?_
  have whole {failing trailing : List Token} {failure : Option FailureDecl}
      (fails : Failing fallible failing failure) (ends : Trailing trailing) :
      MachineDecl.Phrase fallible
        (name :: first ::
          (start ++ second :: (listed ++ third :: (joined ++ (failing ++ trailing)))))
        ⟨name.text, initial, states, edges, failure, name.span⟩ :=
    .intro name named comma₁ starts comma₂ lists comma₃ joins fails ends
  cases fallible with
  | false => exact tracks_ending fun ends => whole .never ends
  | true =>
    have failing : Tracks (Failing true) (some <$> failure) := .map tracks_failure fun _ _ => id
    exact .bind failing fun _ _ fails => tracks_ending fun ends => whole fails ends

theorem tracks_messages {close : TokenKind} : Tracks MessagesDecl.Phrase (messages close) := by
  refine .expect_bind (by decide) fun name named => .expect_bind (by decide) fun comma separates =>
    .bind (.bracketed tracks_message) fun listed channels lists =>
    tracks_ending fun {trailing} ends => ?_
  have whole : MessagesDecl.Phrase (name :: comma :: (listed ++ trailing))
      ⟨name.text, channels, name.span⟩ := .intro name named separates lists ends
  exact whole

end Parse

/-! ## 3. Texts -/

/-- Some text that is accepted has tokens that begin with these kinds, the end being one of them. -/
def Viable {α : Type} (read : String → Except ParseError α) (kinds : List TokenKind) : Prop :=
  ∃ source tokens a, tokenize source = .ok tokens ∧ read source = .ok a ∧
    kinds <+: tokens.all.map Token.kind

/-- The error is at the first token that no accepted text can have there: the tokens before it begin
    an accepted text, and together with it they do not. -/
def ParseError.Offends {α : Type} (error : ParseError) (read : String → Except ParseError α)
    (tokens : Tokens) : Prop :=
  ∃ number token, tokens.all[number]? = some token ∧ error.span = token.span ∧
    Viable read ((tokens.all.map Token.kind).take number) ∧
    ¬ Viable read ((tokens.all.map Token.kind).take (number + 1))

/-- Tokens that can be spelled are those of a text. -/
theorem exists_text {items : List Token} (spelled : ∀ token ∈ items, token.Spelled) :
    ∃ source tokens, tokenize source = .ok tokens ∧
      tokens.items.map Token.lexeme = items.map Token.lexeme := by
  let pieces := items.map fun token => (token.text, " ")
  have gaps : ∀ piece ∈ pieces, piece.2 = " " := List.forall_mem_map.mpr fun _ _ => rfl
  have blank : Trivia " ".toList := .blank (by decide : Text.isBlank ' ' = true) .nil
  have written : Written (items.map Token.lexeme) (spaced pieces).toList := by
    refine written_spaced (List.forall_mem_map.mpr spelled) ?_ (fun piece mem => ?_)
      fun piece mem => ?_
    · rw [List.map_map, List.map_map]
      rfl
    · rw [gaps piece mem]
      exact blank
    · rw [gaps piece (List.dropLast_subset _ mem)]
      decide
  exact ⟨_, written.tokenize⟩

section

variable {α : Type} [Placed α] {p : Parse α} {phrases : Phrases α}
  (reads : ∀ {s a s'}, Parse.Reads p s a s' ↔
    s'.current.kind = .finish ∧ ∃ phrase, phrases phrase a ∧ s.Advances phrase s')
  (alike : Parse.Alike p p)

include reads alike

/-- What begins a phrase begins the tokens of an accepted text. -/
theorem viable_of_begun {taken : List Token} (spelled : ∀ token ∈ taken, token.Spelled)
    (begun : Begun phrases taken) : Viable (Parse.text p) (taken.map Token.kind) := by
  obtain ⟨rest, a, spelled', fits⟩ := begun
  obtain ⟨source, tokens, scanned, same⟩ :=
    exists_text (List.forall_mem_append.mpr ⟨spelled, spelled'⟩)
  have finished := reads.mpr ⟨rfl, _, fits, @TokenStream.advances_all ⟨taken ++ rest, .start⟩⟩
  obtain ⟨a', _, read, -⟩ := alike.reads (unplaced_ofTokens same).symm finished
  have accepted : Parse.text p source = .ok a' := by rw [Parse.text_eq_outcome scanned, read]
  refine ⟨source, tokens, a', scanned, accepted, ?_⟩
  have kinds : tokens.items.map Token.kind = (taken ++ rest).map Token.kind := by
    have := congrArg (List.map Lexeme.kind) same
    rwa [List.map_map, List.map_map] at this
  rw [Tokens.all, List.map_append, kinds, List.map_append, List.append_assoc]
  exact List.prefix_append ..

theorem offends_of_refused (onward : ∀ o, Parse.Onward o p)
    (steady : Parse.Steady Parse.nothing p p) (tracks : Parse.Tracks phrases p)
    {source : String} {tokens : Tokens} {error : ParseError}
    (scanned : tokenize source = .ok tokens) (refused : Parse.text p source = .error error) :
    error.Offends (Parse.text p) tokens := by
  rw [Parse.text_eq_outcome scanned] at refused
  have refuses {source' tokens'} (scanned' : tokenize source' = .ok tokens') :=
    steady.refuses onward scanned scanned' refused
  have tracked := tracks.tracked (.ofTokens tokens)
  generalize Parse.outcome p (.ofTokens tokens) = ended at tracked refused refuses
  cases tracked with
  | done => cases refused
  | broken advances begun place =>
    rename_i phrase error' stream
    cases refused
    have leads : (TokenStream.ofTokens tokens).Leads stream := ⟨phrase, advances⟩
    have here := (leads.indexes scanned).ahead 0
    rw [Nat.add_zero, Nat.min_eq_left leads.taken_le_length] at here
    refine ⟨stream.taken, stream.current, here, place, ?_, ?_⟩
    · have items : tokens.items = phrase ++ stream.upcoming := advances.upcoming
      have taken : stream.taken = phrase.length := advances.taken.trans (Nat.zero_add _)
      have passed : (tokens.all.map Token.kind).take stream.taken = phrase.map Token.kind := by
        rw [taken, Tokens.all, items, List.append_assoc, ← List.map_take, List.take_left]
      rw [passed]
      exact viable_of_begun reads alike (fun token mem =>
        spelled_of_tokenize scanned token (items ▸ List.mem_append_left _ mem)) begun
    · rintro ⟨source', tokens', a, scanned', accepted, same⟩
      obtain ⟨_, refused'⟩ := refuses scanned' same
      rw [Parse.text_eq_outcome scanned', refused'] at accepted
      cases accepted

end

/-- A text that has tokens and is rejected as a machine, plain or fallible, or as message channels,
    is rejected at one of its tokens. The kinds of the tokens before it begin some accepted text;
    together with its own kind they begin none. -/
theorem error_at_first_offending_token :
    (∀ fallible source tokens error, tokenize source = .ok tokens →
      MachineDecl.ofText fallible source = .error error →
      error.Offends (MachineDecl.ofText fallible) tokens) ∧
    ∀ source tokens error, tokenize source = .ok tokens →
      MessagesDecl.ofText source = .error error → error.Offends MessagesDecl.ofText tokens :=
  ⟨fun _ _ _ _ scanned refused =>
      offends_of_refused (Parse.reads_machine_iff (by decide) (by decide)) .machine
        (fun _ => .machine) .machine Parse.tracks_machine scanned refused,
    fun _ _ _ scanned refused =>
      offends_of_refused (Parse.reads_messages_iff (by decide)) .messages
        (fun _ => .messages) .messages Parse.tracks_messages scanned refused⟩

/-- The fault of a transition with the arrow of a message. -/
def wrongArrow : ParseError :=
  ⟨.unexpected "Expected '=>'" (some "->"), ⟨⟨17, 1, 18⟩, 2⟩⟩

/-- The fault of a message that breaks off in front of its arrow. -/
def noArrow : ParseError :=
  ⟨.unexpected "A direction must be specified with either '->' or '<-'" none, ⟨⟨5, 1, 6⟩, 0⟩⟩

/-- What went wrong, if anything did. -/
def fault? {ε α : Type} : Except ε α → Option ε
  | .error error => some error
  | .ok _ => none

theorem eq_error_of_fault {ε α : Type} {x : Except ε α} {error : ε}
    (same : fault? x = some error) : x = .error error := by
  cases x with
  | error => exact congrArg Except.error (Option.some.inj same)
  | ok => cases same

/-- One text with an arrow of the wrong kind, and one that ends too early. -/
theorem error_at_first_offending_token_arrows :
    (∃ tokens, tokenize "M, A, [A, B], [A -> B]" = .ok tokens ∧
      wrongArrow.Offends (MachineDecl.ofText false) tokens) ∧
    ∃ tokens, tokenize "M, [A" = .ok tokens ∧ noArrow.Offends MessagesDecl.ofText tokens := by
  obtain ⟨tokens, scanned⟩ : ∃ tokens, tokenize "M, A, [A, B], [A -> B]" = .ok tokens :=
    exists_ok (by decide +kernel)
  obtain ⟨tokens', scanned'⟩ : ∃ tokens, tokenize "M, [A" = .ok tokens :=
    exists_ok (by decide +kernel)
  have refused : MachineDecl.ofText false "M, A, [A, B], [A -> B]" = .error wrongArrow :=
    eq_error_of_fault (by decide +kernel)
  have refused' : MessagesDecl.ofText "M, [A" = .error noArrow :=
    eq_error_of_fault (by decide +kernel)
  exact ⟨⟨tokens, scanned, error_at_first_offending_token.1 false _ _ _ scanned refused⟩,
    tokens', scanned', error_at_first_offending_token.2 _ _ _ scanned' refused'⟩

end MachineSpec
