/-
MachineSpec.Proofs.Sequence — documents are sequences of declarations.

    Declaration  ::=  Keyword '(' Body ')' ';'?
    Document     ::=  Declaration*

What the body is depends on the keyword, and the bodies are those of
`MachineSpec.Proofs.Grammar`. So what is new is where one of them ends. None contains a
closing parenthesis (`Keyword.Phrase.unclosed`), so it ends at the first, and one body is
read in a document as it is read alone (`Keyword.Phrase.moved`).

* `declarations_eq_iff`: a document is read to its end just if it is such a sequence.
-/
import MachineSpec.Proofs.Placement
import MachineSpec.Proofs.Recognition

namespace MachineSpec

open Grammar

open Placed (unplaced)

variable {α : Type}

/-! ## 1. Phrases -/

/-- The words that declarations begin with. -/
inductive Keyword where
  | machine
  | fallibleMachine
  | messages
deriving DecidableEq, Repr

namespace Keyword

/-- A keyword as it is written. -/
def text : Keyword → String
  | .machine => "machine"
  | .fallibleMachine => "fallible_machine"
  | .messages => "messages"

theorem text_injective {keyword keyword' : Keyword} (same : keyword.text = keyword'.text) :
    keyword = keyword' := by
  cases keyword <;> cases keyword' <;> first | rfl | exact absurd same (by decide)

/-- The body that a keyword introduces. -/
inductive Phrase : Keyword → Phrases Declaration where
  | machine {phrase : List Token} {decl : MachineDecl} (body : decl.Phrase false phrase) :
      Phrase .machine phrase (.machine decl)
  | fallibleMachine {phrase : List Token} {decl : MachineDecl} (body : decl.Phrase true phrase) :
      Phrase .fallibleMachine phrase (.machine decl)
  | messages {phrase : List Token} {decl : MessagesDecl} (body : decl.Phrase phrase) :
      Phrase .messages phrase (.messages decl)

end Keyword

/-- A semicolon that may be missing. -/
inductive Grammar.Ending : List Token → Prop where
  | none : Ending []
  | some {semicolon : Token} (ends : semicolon.kind = .semicolon) : Ending [semicolon]

/-- A declaration of a document. -/
inductive Declaration.Phrase : Phrases Declaration where
  | intro {keyword : Keyword} {word opening closing : Token} {phrase ending : List Token}
      {declared : Declaration} (named : word.kind = .name) (means : word.text = keyword.text)
      (opens : opening.kind = .leftParen) (body : keyword.Phrase phrase declared)
      (closes : closing.kind = .rightParen) (ends : Ending ending) :
      Phrase (word :: opening :: (phrase ++ closing :: ending)) declared

theorem Declaration.Phrase.ne_nil {phrase : List Token} {declared : Declaration}
    (fits : declared.Phrase phrase) : phrase ≠ [] := by
  cases fits with
  | intro => exact List.cons_ne_nil _ _

/-- The declarations of a document. -/
inductive Document.Phrase : Phrases (List Declaration) where
  | nil : Phrase [] []
  | cons {phrase others : List Token} {first : Declaration} {rest : List Declaration}
      (declares : first.Phrase phrase) (more : Phrase others rest) :
      Phrase (phrase ++ others) (first :: rest)

/-- A document is empty, or a declaration with a document behind it. -/
theorem Document.phrase_iff {phrase : List Token} {declarations : List Declaration} :
    Document.Phrase phrase declarations ↔ (phrase = [] ∧ declarations = []) ∨
      ∃ start others first rest, Declaration.Phrase start first ∧ Document.Phrase others rest ∧
        phrase = start ++ others ∧ declarations = first :: rest := by
  constructor
  · intro fits
    cases fits with
    | nil => exact .inl ⟨rfl, rfl⟩
    | cons declares more => exact .inr ⟨_, _, _, _, declares, more, rfl, rfl⟩
  · rintro (⟨rfl, rfl⟩ | ⟨start, others, first, rest, declares, more, rfl, rfl⟩)
    · exact .nil
    · exact .cons declares more

theorem Document.phrase_nil_iff {declarations : List Declaration} :
    Document.Phrase [] declarations ↔ declarations = [] := by
  rw [Document.phrase_iff]
  constructor
  · rintro (⟨-, rfl⟩ | ⟨_, _, _, _, ⟨⟩, -, nothing, -⟩)
    · rfl
    · cases nothing
  · rintro rfl
    exact .inl ⟨rfl, rfl⟩

/-! ## 2. Parentheses -/

/-- No parenthesis is closed. -/
def Unclosed (phrase : List Token) : Prop := ∀ token ∈ phrase, token.kind ≠ .rightParen

namespace Unclosed

variable {phrase others : List Token} {first : Token} {kind : TokenKind}

theorem nil : Unclosed [] := nofun

theorem cons (fits : first.kind = kind) (other : kind ≠ .rightParen) (rest : Unclosed phrase) :
    Unclosed (first :: phrase) :=
  List.forall_mem_cons.mpr ⟨fits ▸ other, rest⟩

theorem single (fits : first.kind = kind) (other : kind ≠ .rightParen) : Unclosed [first] :=
  cons fits other nil

theorem append (before : Unclosed phrase) (after : Unclosed others) : Unclosed (phrase ++ others) :=
  List.forall_mem_append.mpr ⟨before, after⟩

variable {item : Phrases α}

theorem series (items : ∀ {phrase a}, item phrase a → Unclosed phrase) {as : List α}
    (series : Series item phrase as) : Unclosed phrase := by
  induction series with
  | last first => exact items first
  | closed first separates => exact (items first).append (single separates (by decide))
  | more first separates rest ih => exact (items first).append (cons separates (by decide) ih)

theorem listed (items : ∀ {phrase a}, item phrase a → Unclosed phrase) {as : List α}
    (listed : Listed item phrase as) : Unclosed phrase := by
  cases listed with
  | intro opens inner closes =>
    refine cons opens (by decide) (append ?_ (single closes (by decide)))
    cases inner with
    | none => exact nil
    | some filled => exact series items filled

theorem applied {argument : Phrases String}
    (arguments : ∀ {phrase text}, argument phrase text → Unclosed phrase) {name : Token}
    {given : List String} (applied : Applied argument phrase name given) : Unclosed phrase := by
  cases applied with
  | bare named => exact single named (by decide)
  | generic named opens filled closes =>
    exact cons named (by decide) (cons opens (by decide)
      ((series arguments filled).append (single closes (by decide))))

theorem argument {text : String} (argument : Argument phrase text) : Unclosed phrase := by
  refine Argument.induct (motive := fun phrase _ => Unclosed phrase) ?_ ?_ ?_ ?_ ?_ argument
  · exact fun type => applied id type
  · exact fun borrows unnamed target => cons borrows (by decide) target
  · exact fun borrows lives target => cons borrows (by decide) (cons lives (by decide) target)
  · exact fun lives => single lives (by decide)
  · exact fun opens element closes =>
      cons opens (by decide) (element.append (single closes (by decide)))

theorem reference {reference : Reference} (h : reference.Phrase phrase) : Unclosed phrase := by
  cases h with
  | intro type => exact applied argument type

theorem edge {edge : Edge} (h : edge.Phrase phrase) : Unclosed phrase := by
  cases h with
  | intro leaves leads enters =>
    exact (reference leaves).append (cons leads (by decide) (reference enters))

theorem message {message : Message} (h : message.Phrase phrase) : Unclosed phrase := by
  cases h with
  | @intro left right arrow payload target direction travels way reaches =>
    have other : direction.kind ≠ .rightParen := by cases direction <;> decide
    exact (reference travels).append (cons way other (reference reaches))

theorem trailing (ends : Trailing phrase) : Unclosed phrase := by
  cases ends with
  | none => exact nil
  | some separates => exact single separates (by decide)

theorem failing {fallible : Bool} {failure : Option FailureDecl}
    (fails : Failing fallible phrase failure) : Unclosed phrase := by
  cases fails with
  | never => exact nil
  | into before type between state =>
    exact cons before (by decide) ((reference type).append
      (cons between (by decide) (reference state)))

theorem machine {fallible : Bool} {decl : MachineDecl} (h : decl.Phrase fallible phrase) :
    Unclosed phrase := by
  cases h with
  | intro name named comma₁ starts comma₂ lists comma₃ joins fails ends =>
    have edges := (listed edge joins).append ((failing fails).append (trailing ends))
    have states := (listed reference lists).append (cons comma₃ (by decide) edges)
    exact cons named (by decide) (cons comma₁ (by decide)
      ((reference starts).append (cons comma₂ (by decide) states)))

theorem messages {decl : MessagesDecl} (h : decl.Phrase phrase) : Unclosed phrase := by
  cases h with
  | intro name named separates lists ends =>
    exact cons named (by decide) (cons separates (by decide)
      ((listed message lists).append (trailing ends)))

end Unclosed

theorem Keyword.Phrase.unclosed {keyword : Keyword} {phrase : List Token} {declared : Declaration}
    (h : keyword.Phrase phrase declared) : Unclosed phrase := by
  cases h with
  | machine body => exact .machine body
  | fallibleMachine body => exact .machine body
  | messages body => exact .messages body

/-! ## 3. Readers -/

namespace Parse

open TokenStream

variable {s s' : TokenStream} {keyword : Keyword} {declared : Declaration} {close : TokenKind}

/-- The reader of the body that a keyword introduces. -/
def bodyOf (close : TokenKind) : Keyword → Parse Declaration
  | .machine => .machine <$> machine false close
  | .fallibleMachine => .machine <$> machine true close
  | .messages => .messages <$> messages close

theorem Alike.bodyOf : Alike (bodyOf close keyword) (Parse.bodyOf close keyword) := by
  cases keyword with
  | machine => exact map machine fun _ => rfl
  | fallibleMachine => exact map machine fun _ => rfl
  | messages => exact map messages fun _ => rfl

theorem reads_map_iff {β γ : Type} {p : Parse β} {make : β → γ} {c : γ} :
    Reads (make <$> p) s c s' ↔ ∃ b, Reads p s b s' ∧ make b = c := by
  rw [map_eq_pure_bind, reads_bind_pure_iff]

theorem reads_bodyOf_iff (notComma : close ≠ .comma) (notLess : close ≠ .less) :
    Reads (bodyOf close keyword) s declared s' ↔
      s'.current.kind = close ∧ ∃ phrase, keyword.Phrase phrase declared ∧ s.Advances phrase s' := by
  cases keyword with
  | machine =>
    simp only [bodyOf, reads_map_iff, reads_machine_iff notComma notLess]
    constructor
    · rintro ⟨decl, ⟨here, phrase, body, advances⟩, rfl⟩
      exact ⟨here, phrase, .machine body, advances⟩
    · rintro ⟨here, phrase, fits, advances⟩
      cases fits with
      | machine body => exact ⟨_, ⟨here, phrase, body, advances⟩, rfl⟩
  | fallibleMachine =>
    simp only [bodyOf, reads_map_iff, reads_machine_iff notComma notLess]
    constructor
    · rintro ⟨decl, ⟨here, phrase, body, advances⟩, rfl⟩
      exact ⟨here, phrase, .fallibleMachine body, advances⟩
    · rintro ⟨here, phrase, fits, advances⟩
      cases fits with
      | fallibleMachine body => exact ⟨_, ⟨here, phrase, body, advances⟩, rfl⟩
  | messages =>
    simp only [bodyOf, reads_map_iff, reads_messages_iff notComma]
    constructor
    · rintro ⟨decl, ⟨here, phrase, body, advances⟩, rfl⟩
      exact ⟨here, phrase, .messages body, advances⟩
    · rintro ⟨here, phrase, fits, advances⟩
      cases fits with
      | messages body => exact ⟨_, ⟨here, phrase, body, advances⟩, rfl⟩

/-- A word is a keyword, or nothing can follow it. -/
theorem reads_body_iff {word : Token} :
    Reads (body word) s declared s' ↔
      ∃ keyword, word.text = Keyword.text keyword ∧ Reads (bodyOf .rightParen keyword) s declared s' := by
  have known {keyword : Keyword} (means : word.text = keyword.text) :
      body word = bodyOf .rightParen keyword := by
    unfold body
    rw [means]
    cases keyword <;> rfl
  constructor
  · intro reads
    by_cases means : ∃ keyword, word.text = Keyword.text keyword
    · obtain ⟨keyword, means⟩ := means
      exact ⟨keyword, means, known means ▸ reads⟩
    · have machine : word.text ≠ "machine" := fun same => means ⟨.machine, same⟩
      have fallible : word.text ≠ "fallible_machine" := fun same => means ⟨.fallibleMachine, same⟩
      have messages : word.text ≠ "messages" := fun same => means ⟨.messages, same⟩
      rw [body, if_neg machine, if_neg fallible, if_neg messages] at reads
      cases reads
  · rintro ⟨keyword, means, reads⟩
    exact known means ▸ reads

theorem reads_ending {ended : Bool} (reads : Reads (accept .semicolon) s ended s') :
    ∃ ending, Ending ending ∧ s.Advances ending s' := by
  rw [reads_accept_iff] at reads
  split at reads
  case isTrue ends =>
    obtain ⟨-, rfl⟩ := reads
    exact ⟨_, .some ends, s.advances_tail (by simp [ends])⟩
  case isFalse =>
    obtain ⟨-, rfl⟩ := reads
    exact ⟨[], .none, .refl⟩

/-- What is read as a declaration is one. -/
theorem phrase_of_reads (reads : Reads declaration s declared s') :
    ∃ phrase, declared.Phrase phrase ∧ s.Advances phrase s' := by
  simp only [declaration, reads_bind_iff, reads_expect_iff, reads_body_iff, reads_pure_iff,
    reads_bodyOf_iff, ne_eq, reduceCtorEq, not_false_iff] at reads
  obtain ⟨word, t, ⟨named, first⟩, opening, u, ⟨opens, second⟩, declared, v,
    ⟨keyword, means, -, phrase, body, inner⟩, closing, x, ⟨closes, last⟩, ended, _, reads, rfl, rfl⟩ :=
    reads
  obtain ⟨ending, ends, after⟩ := reads_ending reads
  exact ⟨_, .intro named means opens body closes ends,
    first.trans (second.trans (inner.trans (last.trans after)))⟩

/-- A declaration is read to its end, unless it is followed by a semicolon that is not its own. -/
theorem reads_of_phrase {phrase : List Token} (fits : declared.Phrase phrase)
    (advances : s.Advances phrase s') (follow : s'.current.kind ≠ .semicolon) :
    Reads declaration s declared s' := by
  obtain ⟨named, means, opens, body, closes, ends⟩ := fits
  obtain ⟨t, first, advances⟩ := advances.uncons
  obtain ⟨u, second, advances⟩ := advances.uncons
  obtain ⟨v, inner, advances⟩ := advances.split
  obtain ⟨x, last, after⟩ := advances.uncons
  have reads : ∃ ended, Reads (accept .semicolon) x ended s' := by
    simp only [reads_accept_iff]
    cases ends with
    | none =>
      obtain rfl := advances_nil_iff.mp after
      exact ⟨false, by rw [if_neg follow]; exact ⟨rfl, rfl⟩⟩
    | some ends =>
      obtain ⟨-, rfl, rfl⟩ := advances_singleton_iff.mp after
      exact ⟨true, by rw [if_pos ends]; exact ⟨rfl, rfl⟩⟩
  obtain ⟨ended, reads⟩ := reads
  simp only [declaration, reads_bind_iff, reads_expect_iff, reads_body_iff, reads_pure_iff,
    reads_bodyOf_iff, ne_eq, reduceCtorEq, not_false_iff]
  exact ⟨_, t, ⟨named, first⟩, _, u, ⟨opens, second⟩, _, v,
    ⟨_, means, last.current ▸ closes, _, body, inner⟩, _, x, ⟨closes, last⟩, ended, s', reads, rfl, rfl⟩

/-- Behind a declaration of a document there is no semicolon but its own. -/
theorem follow_of_phrase {declarations : List Declaration}
    (fits : Document.Phrase s.upcoming declarations) : s.current.kind ≠ .semicolon := by
  obtain ⟨taken, upcoming, finish⟩ := s
  cases fits with
  | nil => exact nofun
  | cons declares more =>
    obtain ⟨named, -, -, -, -, -⟩ := declares
    show _ ≠ _
    simp [TokenStream.current, ahead, named]

/-- Where a document begins its first declaration is read, and behind it stands the rest. -/
theorem reads_first {declarations : List Declaration} (going : s.current.kind ≠ .finish)
    (fits : Document.Phrase s.upcoming declarations) :
    ∃ first rest t, Reads declaration s first t ∧ Document.Phrase t.upcoming rest ∧
      declarations = first :: rest := by
  obtain ⟨nothing, -⟩ | ⟨start, others, first, rest, declares, more, upcoming, rfl⟩ :=
    Document.phrase_iff.mp fits
  · exact absurd nothing (upcoming_ne_nil going)
  · have advances : s.Advances start ⟨s.taken + start.length, others, s.finish⟩ :=
      ⟨upcoming, rfl, rfl⟩
    exact ⟨first, rest, _, reads_of_phrase declares advances (follow_of_phrase more), more, rfl⟩

/-- Nothing more is read. -/
theorem ended_iff {declarations : List Declaration} (nothing : s.upcoming = []) :
    (([], none) : List Declaration × Option ParseError) = (declarations, none) ↔
      Document.Phrase s.upcoming declarations := by
  rw [nothing, Document.phrase_nil_iff]
  constructor
  · rintro ⟨⟩
    rfl
  · rintro rfl
    rfl

theorem declarationsWithin_eq_iff {bound : Nat} {declarations : List Declaration}
    (enough : s.upcoming.length ≤ bound) (within : ∀ token ∈ s.upcoming, token.kind ≠ .finish) :
    declarationsWithin bound s = (declarations, none) ↔
      Document.Phrase s.upcoming declarations := by
  induction bound generalizing s declarations with
  | zero => exact ended_iff (List.length_eq_zero_iff.mp (Nat.le_zero.mp enough))
  | succ bound ih =>
    rw [declarationsWithin_succ]
    split
    case isTrue ends =>
      exact ended_iff (Decidable.byContradiction fun some => within _ (current_mem some) ends)
    case isFalse going =>
      rcases reads : outcome declaration s with ⟨error | first, t⟩
      · refine iff_of_false (by rintro ⟨⟩) fun fits => ?_
        obtain ⟨_, _, _, reads', -, -⟩ := reads_first going fits
        cases reads.symm.trans reads'
      · obtain ⟨phrase, declares, advances⟩ := phrase_of_reads reads
        obtain ⟨_, _, rfl⟩ := List.exists_cons_of_ne_nil declares.ne_nil
        -- a declaration has a token at least, so the bound suffices for the rest
        have shorter := advances.shorter
        dsimp only
        have others : ∀ token ∈ t.upcoming, token.kind ≠ .finish := fun token mem =>
          within token (advances.upcoming ▸ List.mem_append_right _ mem)
        constructor
        · intro same
          rcases behind : declarationsWithin bound t with ⟨rest, ended⟩
          rw [behind] at same
          cases same
          rw [advances.upcoming]
          exact .cons declares ((ih (by omega) others).mp behind)
        · intro fits
          obtain ⟨_, rest, _, reads', more, rfl⟩ := reads_first going fits
          cases reads.symm.trans reads'
          rw [(ih (by omega) others).mpr more]

/-- A document is read to its end just if its tokens are declarations, one behind the other. -/
theorem declarations_eq_iff {declarations : List Declaration}
    (within : ∀ token ∈ s.upcoming, token.kind ≠ .finish) :
    Parse.declarations s = (declarations, none) ↔ Document.Phrase s.upcoming declarations :=
  declarationsWithin_eq_iff (Nat.le_refl _) within

end Parse

/-! ## 4. Bodies by themselves -/

open Parse

/-- The body of a declaration reads the same wherever it stands. -/
theorem Keyword.Phrase.moved {keyword : Keyword} {phrase phrase' : List Token}
    {declared : Declaration} (fits : keyword.Phrase phrase declared)
    (same : phrase.map Token.lexeme = phrase'.map Token.lexeme) :
    ∃ declared', keyword.Phrase phrase' declared' ∧ unplaced declared = unplaced declared' := by
  have here : Reads (bodyOf .finish keyword) ⟨0, phrase, .start⟩ declared
      ⟨phrase.length, [], .start⟩ :=
    (reads_bodyOf_iff (by decide) (by decide)).mpr
      ⟨rfl, phrase, fits, (List.append_nil _).symm, (Nat.zero_add _).symm, rfl⟩
  have streams : unplaced (⟨0, phrase, .start⟩ : TokenStream) = unplaced ⟨0, phrase', .start⟩ := by
    show (⟨0, unplaced phrase, .start⟩ : TokenStream) = ⟨0, unplaced phrase', .start⟩
    rw [unplaced_tokens, unplaced_tokens, same]
  obtain ⟨declared', t, reads, results, remains⟩ := Alike.reads Alike.bodyOf streams here
  obtain ⟨-, taken, fits', upcoming, -, -⟩ := (reads_bodyOf_iff (by decide) (by decide)).mp reads
  have nothing : unplaced t.upcoming = [] := congrArg TokenStream.upcoming remains
  rw [List.map_eq_nil_iff.mp nothing, List.append_nil] at upcoming
  obtain rfl : phrase' = taken := upcoming
  exact ⟨declared', fits', results.symm⟩

/-- A text is accepted as a document just if its tokens are declarations and all of them are accepted
    in their order. -/
theorem Document.read_iff {source : String} {document : Document} :
    Document.read source = (document, none) ↔ ∃ tokens declarations,
      tokenize source = .ok tokens ∧ Document.Phrase tokens.items declarations ∧
        Document.empty.declareAll declarations = (document, none) := by
  unfold Document.read
  cases scanned : tokenize source with
  | error error =>
    refine iff_of_false (by rintro ⟨⟩) ?_
    rintro ⟨_, _, ⟨⟩, -⟩
  | ok tokens =>
    have within : ∀ token ∈ (TokenStream.ofTokens tokens).upcoming, token.kind ≠ .finish :=
      fun token mem => (spelled_of_tokenize scanned token mem).ne_finish
    have phrase_iff {declarations : List Declaration} :=
      @declarations_eq_iff (.ofTokens tokens) declarations within
    dsimp only
    rcases read : Parse.declarations (.ofTokens tokens) with ⟨declared, fault⟩
    rw [read] at phrase_iff
    dsimp only
    rcases checked : Document.empty.declareAll declared with ⟨extended, offence⟩
    constructor
    · intro accepted
      cases offence with
      | some offence => cases accepted
      | none =>
        cases fault with
        | some fault => cases accepted
        | none =>
          cases accepted
          exact ⟨tokens, declared, rfl, phrase_iff.mp rfl, checked⟩
    · rintro ⟨_, declarations, ⟨⟩, fits, declares⟩
      cases phrase_iff.mpr fits
      cases checked.symm.trans declares
      rfl

end MachineSpec
