/-
MachineSpec.Proofs.Locality — a production depends on its own tokens only.

A parser can be asked for one production after another, and each may fail. It then stands at
a token of the text, and what it reads next does not depend on the tokens before. A
production that succeeds has taken some tokens, and reads them with the same result when
they stand alone.

The token behind them matters in one case: a name without arguments could go on with `<`. A
declaration requires the token that ends it, so the same kind of token has to follow. All
other productions end with a bracket of their own.

The proof uses the grammar: what was taken is a phrase (`Tracks`), and a phrase is read
(`Recognises`). This does not apply to declarations whose end token is a comma or `<`, since
then the phrase is not the longest one. For them `Rereads` has one rule for each way of
building a reader.

* `Parse.productions_own_tokens`: the position after any demands, and what a production
  takes there.
-/
import MachineSpec.Proofs.Viability

namespace MachineSpec

open Grammar TokenStream
open Placed (unplaced)

/-! ## 1. Readers that can be repeated -/

namespace TokenStream

variable {s t u : TokenStream} {phrase others : List Token}

/-- How many tokens were taken tells which ones. -/
theorem Advances.unique (first : s.Advances phrase t) (second : s.Advances others u)
    (level : t.taken = u.taken) : phrase = others ∧ t = u := by
  have lengths : phrase.length = others.length := by
    have := first.taken
    have := second.taken
    omega
  obtain ⟨same, rest⟩ := List.append_inj (first.upcoming.symm.trans second.upcoming) lengths
  refine ⟨same, ?_⟩
  have finish := first.finish.trans second.finish.symm
  cases t
  cases u
  simp_all

end TokenStream

/-- Type arguments in angle brackets. -/
inductive Grammar.Arguments : Phrases (List String) where
  | intro {opening closing : Token} {phrase : List Token} {arguments : List String}
      (opens : opening.kind = .less) (series : Series Argument phrase arguments)
      (closes : closing.kind = .greater) :
      Arguments (opening :: (phrase ++ [closing])) arguments

namespace Parse

variable {α β : Type} {s s' : TokenStream} {a : α}

theorem reads_typeArgs_iff {arguments : List String} : Reads typeArgs s arguments s' ↔
    ∃ phrase, Arguments phrase arguments ∧ s.Advances phrase s' := by
  refine (reads_angled_iff (@recognises_typeArg s.upcoming.length) Argument.avoids_greater
    (Nat.le_refl _)).trans ?_
  constructor
  · rintro ⟨opening, phrase, closing, opens, series, closes, advances⟩
    exact ⟨_, .intro opens series closes, advances⟩
  · rintro ⟨_, ⟨opens, series, closes⟩, advances⟩
    exact ⟨_, _, _, opens, series, closes, advances⟩

theorem tracks_typeArgs : Tracks Arguments typeArgs := .angled tracks_typeArg .intro

/-- What the reader took it takes again wherever these tokens stand, if a token of the same kind
    follows them there. -/
def Rereads (p : Parse α) : Prop :=
  ∀ s a s', Reads p s a s' → ∃ phrase, s.Advances phrase s' ∧
    ∀ {t t'}, t.Advances phrase t' → t'.current.kind = s'.current.kind → Reads p t a t'

namespace Rereads

variable {p q : Parse α} {next : α → Parse β} {kind : TokenKind}

theorem of_iff {phrases : Phrases α}
    (reads : ∀ {s a s'}, Reads p s a s' ↔ ∃ phrase, phrases phrase a ∧ s.Advances phrase s') :
    Rereads p := by
  intro s a s' read
  obtain ⟨phrase, fits, advances⟩ := reads.mp read
  exact ⟨phrase, advances, fun elsewhere _ => reads.mpr ⟨phrase, fits, elsewhere⟩⟩

theorem pure {a : α} : Rereads (pure a) := by
  intro s b s' read
  obtain ⟨rfl, rfl⟩ := reads_pure_iff.mp read
  refine ⟨[], .refl, fun elsewhere _ => ?_⟩
  rw [advances_nil_iff.mp elsewhere]
  exact reads_pure_iff.mpr ⟨rfl, rfl⟩

theorem refuse {wanted : String} : Rereads (Parse.refuse wanted : Parse α) :=
  fun _ _ _ read => absurd read not_reads_refuse

/-- Between two parts stands the first token of the second one, or what follows it all. -/
theorem bind (first : Rereads p) (rest : ∀ a, Rereads (next a)) : Rereads (p >>= next) := by
  intro s b s' read
  obtain ⟨a, u, before, after⟩ := reads_bind_iff.mp read
  obtain ⟨left, advances, again⟩ := first _ _ _ before
  obtain ⟨right, further, onward⟩ := rest a _ _ _ after
  refine ⟨left ++ right, advances.trans further, fun elsewhere follow => ?_⟩
  obtain ⟨v, start, stop⟩ := elsewhere.split
  refine reads_bind_iff.mpr ⟨a, v, again start ?_, onward stop follow⟩
  cases right with
  | nil => rwa [advances_nil_iff.mp stop, advances_nil_iff.mp further]
  | cons token others => rw [stop.current, further.current]

theorem map {make : α → β} (rereads : Rereads p) : Rereads (make <$> p) := by
  rw [map_eq_pure_bind]
  exact bind rereads fun _ => pure

theorem ite {condition : Bool} (holds : Rereads p) (fails : Rereads q) :
    Rereads (if condition then p else q) := by
  cases condition with
  | false => exact fails
  | true => exact holds

theorem peek : Rereads (Parse.peek kind 0) := by
  rintro s b s' ⟨⟩
  refine ⟨[], .refl, fun elsewhere follow => ?_⟩
  obtain rfl := advances_nil_iff.mp elsewhere
  rw [Reads, outcome_peek, follow]
  rfl

theorem expect {what : String} (within : kind ≠ .finish) : Rereads (Parse.expect kind what) := by
  intro s token s' read
  obtain ⟨here, advances⟩ := (reads_expect_iff within).mp read
  exact ⟨[token], advances, fun elsewhere _ => (reads_expect_iff within).mpr ⟨here, elsewhere⟩⟩

theorem accept (within : kind ≠ .finish) : Rereads (Parse.accept kind) := by
  intro s taken s' read
  by_cases here : s.current.kind = kind
  · rw [reads_accept_iff, if_pos here] at read
    obtain ⟨rfl, rfl⟩ := read
    refine ⟨_, advances_tail (here ▸ within), fun elsewhere _ => ?_⟩
    obtain ⟨-, same, rfl⟩ := advances_singleton_iff.mp elsewhere
    rw [reads_accept_iff, if_pos (same ▸ here)]
    exact ⟨rfl, rfl⟩
  · rw [reads_accept_iff, if_neg here] at read
    obtain ⟨rfl, rfl⟩ := read
    refine ⟨[], .refl, fun elsewhere follow => ?_⟩
    obtain rfl := advances_nil_iff.mp elsewhere
    rw [reads_accept_iff, if_neg (follow ▸ here)]
    exact ⟨rfl, rfl⟩

theorem expectEnd : Rereads (Parse.expectEnd kind) := bind peek fun _ => ite pure refuse

theorem typeArgs : Rereads typeArgs := of_iff reads_typeArgs_iff

theorem reference {what : String} : Rereads (Parse.reference what) :=
  bind (expect (by decide)) fun _ => bind peek fun _ =>
    ite (bind typeArgs fun _ => pure) (bind pure fun _ => pure)

theorem state : Rereads state := reference

theorem failure : Rereads failure :=
  bind (expect (by decide)) fun _ => bind reference fun _ => bind (expect (by decide)) fun _ =>
    bind state fun _ => pure

theorem machine {fallible : Bool} {close : TokenKind} : Rereads (machine fallible close) := by
  refine bind (expect (by decide)) fun _ => bind (expect (by decide)) fun _ => bind state fun _ =>
    bind (expect (by decide)) fun _ => bind (of_iff reads_states_iff) fun _ =>
    bind (expect (by decide)) fun _ => bind (of_iff reads_edges_iff) fun _ =>
    ite (bind (map failure) fun _ => ?_) (bind pure fun _ => ?_)
  all_goals exact bind (accept (by decide)) fun _ => bind expectEnd fun _ => pure

theorem messages {close : TokenKind} : Rereads (messages close) :=
  bind (expect (by decide)) fun _ => bind (expect (by decide)) fun _ =>
    bind (of_iff reads_channels_iff) fun _ => bind (accept (by decide)) fun _ =>
    bind expectEnd fun _ => pure

end Rereads

/-- The reader stops in front of a token of this kind. -/
def Stops (kind : TokenKind) (p : Parse α) : Prop :=
  ∀ s a s', Reads p s a s' → s'.current.kind = kind

namespace Stops

variable {p : Parse α} {next : α → Parse β} {kind : TokenKind}

theorem bind (rest : ∀ a, Stops kind (next a)) : Stops kind (p >>= next) := by
  intro s b s' read
  obtain ⟨a, t, -, after⟩ := reads_bind_iff.mp read
  exact rest a _ _ _ after

theorem ending {a : α} : Stops kind (do
    let _ ← accept .comma
    expectEnd kind
    return a) := by
  refine bind fun _ => ?_
  intro s b s' read
  obtain ⟨_, t, ends, finished⟩ := reads_bind_iff.mp read
  obtain ⟨here, rfl⟩ := reads_expectEnd_iff.mp ends
  obtain ⟨-, rfl⟩ := reads_pure_iff.mp finished
  exact here

theorem machine {fallible : Bool} : Stops kind (machine fallible kind) := by
  refine bind fun _ => bind fun _ => bind fun _ => bind fun _ => bind fun _ => bind fun _ =>
    bind fun _ => ?_
  cases fallible with
  | false => exact bind fun _ => ending
  | true => exact bind fun _ => ending

theorem messages : Stops kind (messages kind) :=
  bind fun _ => bind fun _ => bind fun _ => ending

end Stops

/-- What the reader took are some tokens, and it takes them again wherever they stand, if it suits
    what follows them there. -/
def Takes (suits : TokenKind → Prop) (p : Parse α) : Prop :=
  ∀ s a s', Reads p s a s' → ∃ phrase ≠ [], s.Advances phrase s' ∧
    ∀ {t t'}, t.Advances phrase t' → suits t'.current.kind → Reads p t a t'

theorem Tracks.phrase_of_reads {p : Parse α} {phrases : Phrases α} (tracks : Tracks phrases p)
    (reads : Reads p s a s') : ∃ phrase, phrases phrase a ∧ s.Advances phrase s' := by
  have tracked := tracks.tracked s
  rw [reads] at tracked
  cases tracked with
  | done advances fits => exact ⟨_, fits, advances⟩

namespace Takes

variable {p : Parse α} {phrases : Phrases α} {suits : TokenKind → Prop} {close : TokenKind}

/-- The reader takes phrases, and reads them wherever it suits what follows. -/
theorem of_tracks (tracks : Tracks phrases p) (some : ∀ {phrase a}, phrases phrase a → phrase ≠ [])
    (reads : ∀ {phrase a t t'}, phrases phrase a → t.Advances phrase t' →
      suits t'.current.kind → Reads p t a t') : Takes suits p := by
  intro s a s' read
  obtain ⟨phrase, fits, advances⟩ := tracks.phrase_of_reads read
  exact ⟨phrase, some fits, advances, reads fits⟩

/-- The reader takes the same tokens wherever it stops in front of the same kind of token. -/
theorem of_rereads (tracks : Tracks phrases p)
    (some : ∀ {phrase a}, phrases phrase a → phrase ≠ []) (rereads : Rereads p)
    (stops : Stops close p) : Takes (· = close) p := by
  intro s a s' read
  obtain ⟨phrase, fits, advances⟩ := tracks.phrase_of_reads read
  obtain ⟨_, further, again⟩ := rereads _ _ _ read
  obtain ⟨rfl, -⟩ := advances.unique further rfl
  exact ⟨phrase, some fits, advances, fun elsewhere here =>
    again elsewhere (here.trans (stops _ _ _ read).symm)⟩

end Takes

/-- At other places the same tokens give the same result but for places. -/
theorem Reads.respelt [Placed α] {p : Parse α} (onward : ∀ o, Onward o p) (alike : Alike p p)
    {phrase respelt : List Token} {t t' : TokenStream} (same : unplaced respelt = unplaced phrase)
    (advances : t.Advances respelt t')
    (reads : Reads p ⟨t.taken, phrase ++ t'.upcoming, t.finish⟩ a t') :
    ∃ b, Reads p t b t' ∧ unplaced b = unplaced a := by
  have streams : unplaced (⟨t.taken, phrase ++ t'.upcoming, t.finish⟩ : TokenStream) =
      unplaced t := by
    show (⟨t.taken, unplaced (phrase ++ t'.upcoming), _⟩ : TokenStream) =
      ⟨t.taken, unplaced t.upcoming, _⟩
    rw [advances.upcoming]
    show (⟨t.taken, (phrase ++ t'.upcoming).map unplaced, _⟩ : TokenStream) =
      ⟨t.taken, (respelt ++ t'.upcoming).map unplaced, _⟩
    rw [List.map_append, List.map_append]
    exact congrArg (fun tokens => (⟨t.taken, tokens ++ t'.upcoming.map unplaced, _⟩ : TokenStream))
      same.symm
  obtain ⟨b, v, again, results, ends⟩ := alike.reads streams reads
  obtain ⟨taken, further⟩ : t.Leads v := by
    have leads := (onward t t .refl).1
    rwa [again] at leads
  have level : (unplaced v).taken = (unplaced t').taken := congrArg TokenStream.taken ends
  obtain ⟨-, rfl⟩ := further.unique advances level
  exact ⟨b, again, results⟩

/-! ## 2. Productions -/

/-- What lists consist of. -/
inductive Item where
  | typeArg
  | state
  | edge
  | message
deriving DecidableEq, Repr

namespace Item

/-- What reading an item gives. -/
def Result : Item → Type
  | typeArg => String
  | state => Reference
  | edge => Edge
  | message => Message

instance : (item : Item) → Placed item.Result
  | typeArg => inferInstanceAs (Placed String)
  | state => inferInstanceAs (Placed Reference)
  | edge => inferInstanceAs (Placed Edge)
  | message => inferInstanceAs (Placed Message)

/-- How an item is read. -/
def reader : (item : Item) → Parse item.Result
  | typeArg => Parse.typeArg
  | state => Parse.state
  | edge => Parse.edge
  | message => Parse.message

/-- What is written for an item. -/
def Phrase : (item : Item) → Phrases item.Result
  | typeArg => Argument
  | state => Reference.Phrase
  | edge => Edge.Phrase
  | message => Message.Phrase

variable {item : Item}

theorem tracks : Tracks item.Phrase item.reader := by
  cases item with
  | typeArg => exact tracks_typeArg
  | state => exact tracks_state
  | edge => exact tracks_edge
  | message => exact tracks_message

theorem recognises {size : Nat} : Recognises item.reader item.Phrase size := by
  cases item with
  | typeArg => exact recognises_typeArg
  | state => exact fun _ => reads_state_iff
  | edge => exact recognises_edge
  | message => exact recognises_message

theorem avoids : Avoids .rightBracket item.Phrase := by
  cases item with
  | typeArg => exact Argument.avoids (by decide)
  | state => exact avoids_rightBracket fun _ _ => Reference.Phrase.begins
  | edge => exact avoids_rightBracket fun _ _ => Edge.Phrase.begins
  | message => exact avoids_rightBracket fun _ _ => Message.Phrase.begins

theorem onward {o : TokenStream} : Onward o item.reader := by
  cases item with
  | typeArg => exact .typeArg
  | state => exact .state
  | edge => exact .edge
  | message => exact .message

theorem alike : Alike item.reader item.reader := by
  cases item with
  | typeArg => exact .typeArg
  | state => exact .state
  | edge => exact .edge
  | message => exact .message

end Item

/-- What a parser can be asked to read. -/
inductive Production where
  | single (item : Item)
  | reference (what : String)
  | typeArgs
  | list (item : Item)
  | machine (fallible : Bool) (close : TokenKind)
  | messages (close : TokenKind)
deriving DecidableEq, Repr

namespace Production

/-- What reading a production gives. -/
def Result : Production → Type
  | single item => item.Result
  | reference _ => Reference
  | typeArgs => List String
  | list item => List item.Result
  | machine _ _ => MachineDecl
  | messages _ => MessagesDecl

instance : (p : Production) → Placed p.Result
  | single item => inferInstanceAs (Placed item.Result)
  | reference _ => inferInstanceAs (Placed Reference)
  | typeArgs => inferInstanceAs (Placed (List String))
  | list item => inferInstanceAs (Placed (List item.Result))
  | machine _ _ => inferInstanceAs (Placed MachineDecl)
  | messages _ => inferInstanceAs (Placed MessagesDecl)

/-- How a production is read. -/
def reader : (p : Production) → Parse p.Result
  | single item => item.reader
  | reference what => Parse.reference what
  | typeArgs => Parse.typeArgs
  | list item => bracketed item.reader
  | machine fallible close => Parse.machine fallible close
  | messages close => Parse.messages close

/-- The kinds of what stands behind a production that stands alone. The end of the text always does,
    and for a declaration that ends elsewhere the token that ends it. -/
def ending : Production → List TokenKind
  | machine _ close | messages close => if close = .finish then [] else [close]
  | _ => []

/-- In front of tokens of these kinds the production ends. -/
def Follows : Production → TokenKind → Prop
  | single _, next | reference _, next => next ≠ .less
  | typeArgs, _ | list _, _ => True
  | machine _ close, next | messages close, next => next = close

variable {p : Production}

theorem onward {o : TokenStream} : Onward o p.reader := by
  cases p with
  | single item => exact item.onward
  | reference what => exact .reference
  | typeArgs => exact .angled .typeArg
  | list item => exact .bracketed item.onward
  | machine fallible close => exact .machine
  | messages close => exact .messages

theorem alike : Alike p.reader p.reader := by
  cases p with
  | single item => exact item.alike
  | reference what => exact .reference
  | typeArgs => exact .angled .typeArg
  | list item => exact .bracketed item.alike
  | machine fallible close => exact .machine
  | messages close => exact .messages

/-- What stands behind a production that stands alone ends it. -/
theorem follows_ending {ending : List Token} {taken : Nat} {finish : Position}
    (stands : ending.map Token.kind = p.ending) :
    p.Follows (⟨taken, ending, finish⟩ : TokenStream).current.kind := by
  have closes {close : TokenKind}
      (stands : ending.map Token.kind = if close = .finish then [] else [close]) :
      (⟨taken, ending, finish⟩ : TokenStream).current.kind = close := by
    split at stands
    case isTrue ends =>
      rw [List.map_eq_nil_iff.mp stands, ends]
      rfl
    case isFalse =>
      obtain ⟨token, rfl, here⟩ := List.map_eq_singleton_iff.mp stands
      exact here
  have nothing (stands : ending.map Token.kind = []) :
      (⟨taken, ending, finish⟩ : TokenStream).current.kind ≠ .less := by
    rw [List.map_eq_nil_iff.mp stands]
    exact nofun
  cases p with
  | single item => exact nothing stands
  | reference what => exact nothing stands
  | typeArgs => trivial
  | list item => trivial
  | machine fallible close => exact closes stands
  | messages close => exact closes stands

theorem takes : Takes p.Follows p.reader := by
  cases p with
  | single item =>
    exact Takes.of_tracks item.tracks item.avoids.ne_nil fun fits advances follow =>
      (item.recognises (Nat.lt_succ_self _) follow).mpr ⟨_, fits, advances⟩
  | reference what =>
    exact Takes.of_tracks tracks_reference (@Item.avoids .state).ne_nil
      fun fits advances follow => (reads_reference_iff follow).mpr ⟨_, fits, advances⟩
  | typeArgs =>
    refine Takes.of_tracks tracks_typeArgs (fun fits => ?_) fun fits advances _ =>
      reads_typeArgs_iff.mpr ⟨_, fits, advances⟩
    cases fits
    exact List.cons_ne_nil _ _
  | list item =>
    refine Takes.of_tracks (.bracketed item.tracks) (fun fits => ?_) fun fits advances _ =>
      (reads_bracketed_iff item.recognises item.avoids (Nat.le_refl _)).mpr ⟨_, fits, advances⟩
    cases fits
    exact List.cons_ne_nil _ _
  | machine fallible close =>
    refine Takes.of_rereads tracks_machine (fun fits => ?_) .machine .machine
    cases fits
    exact List.cons_ne_nil _ _
  | messages close =>
    refine Takes.of_rereads tracks_messages (fun fits => ?_) .messages .messages
    cases fits
    exact List.cons_ne_nil _ _

/-- These tokens are all that the production goes by. -/
structure Owns (p : Production) (phrase : List Token) (a : p.Result) : Prop where
  some : phrase ≠ []
  /-- Alone they give this result, and all of them are taken. -/
  alone : ∀ {ending : List Token} {finish}, ending.map Token.kind = p.ending →
    Reads p.reader ⟨0, phrase ++ ending, finish⟩ a ⟨phrase.length, ending, finish⟩
  /-- In any text so do the same tokens at other places, in front of what ends the production. -/
  anywhere : ∀ {respelt t t'}, unplaced respelt = unplaced phrase → t.Advances respelt t' →
    p.Follows t'.current.kind → ∃ b, Reads p.reader t b t' ∧ unplaced b = unplaced a

theorem owns_of_reads {s s' : TokenStream} {a : p.Result} (reads : Reads p.reader s a s') :
    ∃ phrase, s.Advances phrase s' ∧ p.Owns phrase a := by
  obtain ⟨phrase, some, advances, again⟩ := takes _ _ _ reads
  refine ⟨phrase, advances, some, fun stands => ?_, fun same elsewhere follow => ?_⟩
  · exact again ⟨rfl, (Nat.zero_add _).symm, rfl⟩ (follows_ending stands)
  · have lengths := congrArg List.length same
    simp only [unplaced, List.length_map] at lengths
    refine Reads.respelt (fun _ => onward) alike same elsewhere
      (again ⟨rfl, ?_, elsewhere.finish⟩ follow)
    rw [elsewhere.taken, lengths]

end Production

/-! ## 3. Demands -/

/-- What a parser can be asked for. -/
inductive Demand where
  | advance
  | accept (kind : TokenKind)
  | expect (kind : TokenKind) (what : String)
  | expectEnd (kind : TokenKind)
  | parse (p : Production)
deriving DecidableEq, Repr

/-- What is left of the stream then, whether the parser fails or not. -/
def Demand.leaves (s : TokenStream) : Demand → TokenStream
  | advance => (outcome Parse.advance s).2
  | accept kind => (outcome (Parse.accept kind) s).2
  | expect kind what => (outcome (Parse.expect kind what) s).2
  | expectEnd kind => (outcome (Parse.expectEnd kind) s).2
  | parse p => (outcome p.reader s).2

/-- What is left of the stream after one demand upon the other. -/
def leaves (s : TokenStream) (demands : List Demand) : TokenStream := demands.foldl Demand.leaves s

theorem Demand.leads {demand : Demand} : s.Leads (demand.leaves s) := by
  cases demand with
  | advance => exact leads_tail
  | accept kind => exact (Onward.accept s .refl).1
  | expect kind what => exact (Onward.expect s .refl).1
  | expectEnd kind => exact (Onward.expectEnd s .refl).1
  | parse p => exact (p.onward s .refl).1

theorem leads_leaves {demands : List Demand} : s.Leads (leaves s demands) := by
  induction demands generalizing s with
  | nil => exact .refl
  | cons demand demands ih => exact demand.leads.trans ih

/-- After any demands on a parser, successful or not, the number of tokens taken is at most that of
    the text, the current token is a token of the text, and no further demand decreases the index. A
    production that succeeds there has taken a non-empty run of tokens, which alone determine its
    result. -/
theorem productions_own_tokens {source : String} {tokens : Tokens}
    (scanned : tokenize source = .ok tokens)
    (demands : List Demand) (left : leaves (.ofTokens tokens) demands = s) :
    s.taken ≤ tokens.items.length ∧ tokens.all[s.taken]? = some s.current ∧
    (∀ demand : Demand, s.taken ≤ (demand.leaves s).taken) ∧
    ∀ (p : Production) a s', Reads p.reader s a s' →
      ∃ phrase, s.Advances phrase s' ∧ p.Owns phrase a := by
  have leads : (TokenStream.ofTokens tokens).Leads s := left ▸ leads_leaves
  have within := leads.taken_le_length
  have here := (leads.indexes scanned).ahead 0
  rw [Nat.add_zero, Nat.min_eq_left within] at here
  exact ⟨within, here, fun demand => demand.leads.taken_le, fun p _ _ => p.owns_of_reads⟩

/-- A message is asked for, at whose arrow the parser fails, and then this arrow. -/
def pastArrow : List Demand := [.parse (.single .message), .advance]

/-- A state read behind an arrow. -/
theorem productions_own_tokens_arrow : ∃ tokens, tokenize "A => B<C>, D" = .ok tokens ∧
    ∃ reference s', Reads state (leaves (.ofTokens tokens) pastArrow) reference s' ∧
      ∃ phrase, (leaves (.ofTokens tokens) pastArrow).Advances phrase s' ∧
        (Production.single .state).Owns phrase reference := by
  obtain ⟨tokens, scanned⟩ : ∃ tokens, tokenize "A => B<C>, D" = .ok tokens :=
    exists_ok (by decide +kernel)
  have fine : (tokenize "A => B<C>, D").toOption.any (fun tokens =>
      (outcome state (leaves (.ofTokens tokens) pastArrow)).1.isOk) = true := by decide +kernel
  rw [scanned] at fine
  obtain ⟨reference, read⟩ := exists_ok fine
  have reads : Reads state (leaves (.ofTokens tokens) pastArrow) reference _ := Prod.ext read rfl
  exact ⟨tokens, scanned, reference, _, reads,
    (productions_own_tokens scanned pastArrow rfl).2.2.2 (.single .state) reference _ reads⟩

end Parse

end MachineSpec
