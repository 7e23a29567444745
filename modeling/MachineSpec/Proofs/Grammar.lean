/-
MachineSpec.Proofs.Grammar — the phrases of the specification language.

    TypeArg   ::=  Name ('<' TypeArgs '>')?  |  '&' Lifetime? TypeArg
                |  Lifetime  |  '[' TypeArg ']'
    TypeArgs  ::=  TypeArg (',' TypeArg)* ','?
    State     ::=  Name ('<' TypeArgs '>')?
    Edge      ::=  State '=>' State
    Message   ::=  State ('->' | '<-') State
    list(X)   ::=  '[' (X (',' X)* ','?)? ']'
    Machine   ::=  Name ',' State ',' list(State) ',' list(Edge) ','?
    Fallible  ::=  Name ',' State ',' list(State) ',' list(Edge) ',' State ',' State ','?
    Messages  ::=  Name ',' list(Message) ','?

Each production is an inductive predicate on token sequences and what they mean, one
constructor for each alternative, and says nothing about how a phrase is found. Of a
token only the kind decides whether it fits; its text and place are what the meaning
is made of. Behind `&` a lifetime always belongs to the borrow, so the alternative
without one asks that the argument does not begin with a lifetime.
-/
import MachineSpec.Declaration

namespace MachineSpec

/-- Which token sequences are phrases, and what they mean. -/
abbrev Phrases (α : Type) := List Token → α → Prop

namespace Grammar

/-! ## 1. Lists -/

variable {α : Type}

/-- Items with commas between them and perhaps one behind the last: `X (',' X)* ','?`. -/
inductive Series (item : Phrases α) : Phrases (List α) where
  | last {phrase : List Token} {a : α} (first : item phrase a) : Series item phrase [a]
  | closed {phrase : List Token} {a : α} {comma : Token} (first : item phrase a)
      (separates : comma.kind = .comma) : Series item (phrase ++ [comma]) [a]
  | more {phrase others : List Token} {a : α} {as : List α} {comma : Token}
      (first : item phrase a) (separates : comma.kind = .comma) (rest : Series item others as) :
      Series item (phrase ++ comma :: others) (a :: as)

/-- What can stand between brackets: nothing, or a series. -/
inductive Items (item : Phrases α) : Phrases (List α) where
  | none : Items item [] []
  | some {phrase : List Token} {as : List α} (series : Series item phrase as) : Items item phrase as

/-- Items in brackets. -/
inductive Listed (item : Phrases α) : Phrases (List α) where
  | intro {opening closing : Token} {phrase : List Token} {as : List α}
      (opens : opening.kind = .leftBracket) (items : Items item phrase as)
      (closes : closing.kind = .rightBracket) :
      Listed item (opening :: (phrase ++ [closing])) as

/-- A series is its first item, alone or with a comma and what can stand behind it. -/
theorem series_iff {item : Phrases α} {phrase : List Token} {as : List α} :
    Series item phrase as ↔ ∃ start a, item start a ∧
      ((phrase = start ∧ as = [a]) ∨
        ∃ comma others rest, comma.kind = .comma ∧ Items item others rest ∧
          phrase = start ++ comma :: others ∧ as = a :: rest) := by
  constructor
  · intro series
    cases series with
    | last first => exact ⟨_, _, first, .inl ⟨rfl, rfl⟩⟩
    | closed first separates =>
      exact ⟨_, _, first, .inr ⟨_, [], [], separates, .none, rfl, rfl⟩⟩
    | more first separates rest =>
      exact ⟨_, _, first, .inr ⟨_, _, _, separates, .some rest, rfl, rfl⟩⟩
  · rintro ⟨start, a, first, ⟨rfl, rfl⟩ | ⟨comma, others, rest, separates, items, rfl, rfl⟩⟩
    · exact .last first
    · cases items with
      | none => exact .closed first separates
      | some series => exact .more first separates series

/-- A series has items, and each of them is a part of it. -/
theorem Series.parts {item : Phrases α} {phrase : List Token} {as : List α}
    (series : Series item phrase as) :
    as ≠ [] ∧ ∀ a ∈ as, ∃ part, part ⊆ phrase ∧ item part a := by
  induction series with
  | last first => simpa using ⟨_, List.Subset.refl _, first⟩
  | closed first => simpa using ⟨_, List.subset_append_left _ _, first⟩
  | more first separates rest ih =>
    refine ⟨by simp, fun a mem => ?_⟩
    rcases List.mem_cons.mp mem with rfl | mem
    · exact ⟨_, List.subset_append_left _ _, first⟩
    · obtain ⟨part, inside, fits⟩ := ih.2 a mem
      exact ⟨part, fun token mem => List.mem_append_right _
        (List.mem_cons_of_mem _ (inside mem)), fits⟩

theorem Listed.parts {item : Phrases α} {phrase : List Token} {as : List α}
    (listed : Listed item phrase as) : ∀ a ∈ as, ∃ part, part ⊆ phrase ∧ item part a := by
  cases listed with
  | intro opens items closes =>
    cases items with
    | none => simp
    | some series =>
      intro a mem
      obtain ⟨part, inside, fits⟩ := series.parts.2 a mem
      exact ⟨part, fun token mem => List.mem_cons_of_mem _ (List.mem_append_left _ (inside mem)),
        fits⟩

/-- The phrases begin with a token, and never with one of this kind. -/
def Avoids (kind : TokenKind) (item : Phrases α) : Prop :=
  ∀ ⦃phrase a⦄, item phrase a → ∃ first rest, phrase = first :: rest ∧ first.kind ≠ kind

theorem Avoids.ne_nil {kind : TokenKind} {item : Phrases α} (avoids : Avoids kind item)
    {phrase : List Token} {a : α} (fits : item phrase a) : phrase ≠ [] := by
  obtain ⟨first, rest, rfl, -⟩ := avoids fits
  exact List.cons_ne_nil _ _

theorem Avoids.series {kind : TokenKind} {item : Phrases α} (avoids : Avoids kind item) :
    Avoids kind (Series item) := by
  intro phrase as series
  obtain ⟨start, a, item, ⟨rfl, -⟩ | ⟨comma, others, -, -, -, rfl, -⟩⟩ := series_iff.mp series
  · exact avoids item
  · obtain ⟨first, rest, rfl, other⟩ := avoids item
    exact ⟨first, _, rfl, other⟩

/-- The phrase begins with a name that stands at this place. -/
def Begins (phrase : List Token) (place : Span) : Prop :=
  ∃ name rest, phrase = name :: rest ∧ name.kind = .name ∧ name.span = place

theorem Begins.append {phrase rest : List Token} {place : Span} (h : Begins phrase place) :
    Begins (phrase ++ rest) place := by
  obtain ⟨name, others, rfl, named, here⟩ := h
  exact ⟨name, others ++ rest, rfl, named, here⟩

/-- Phrases that begin with a name begin with no bracket. -/
theorem avoids_rightBracket {item : Phrases α} {place : α → Span}
    (begins : ∀ ⦃phrase a⦄, item phrase a → Begins phrase (place a)) :
    Avoids .rightBracket item := by
  intro phrase a h
  obtain ⟨name, rest, rfl, named, -⟩ := begins h
  exact ⟨name, rest, rfl, by simp [named]⟩

/-! ## 2. Type names -/

/-- A name that is perhaps applied to arguments in angle brackets. -/
inductive Applied (argument : Phrases String) : List Token → Token → List String → Prop where
  | bare {name : Token} (named : name.kind = .name) : Applied argument [name] name []
  | generic {name opening closing : Token} {phrase : List Token} {arguments : List String}
      (named : name.kind = .name) (opens : opening.kind = .less)
      (series : Series argument phrase arguments) (closes : closing.kind = .greater) :
      Applied argument (name :: opening :: (phrase ++ [closing])) name arguments

/-- A type argument, and its canonical text. -/
inductive Argument : Phrases String where
  | applied {phrase : List Token} {name : Token} {arguments : List String}
      (type : Applied Argument phrase name arguments) :
      Argument phrase (TypeName.text ⟨name.text, arguments⟩)
  | borrowed {ampersand first : Token} {rest : List Token} {text : String}
      (borrows : ampersand.kind = .ampersand) (unnamed : first.kind ≠ .lifetime)
      (target : Argument (first :: rest) text) : Argument (ampersand :: first :: rest) ("&" ++ text)
  | borrowedFor {ampersand lifetime : Token} {phrase : List Token} {text : String}
      (borrows : ampersand.kind = .ampersand) (lives : lifetime.kind = .lifetime)
      (target : Argument phrase text) :
      Argument (ampersand :: lifetime :: phrase) ("&" ++ (lifetime.text ++ " ") ++ text)
  | lifetime {lifetime : Token} (lives : lifetime.kind = .lifetime) :
      Argument [lifetime] lifetime.text
  | slice {opening closing : Token} {phrase : List Token} {text : String}
      (opens : opening.kind = .leftBracket) (element : Argument phrase text)
      (closes : closing.kind = .rightBracket) :
      Argument (opening :: (phrase ++ [closing])) ("[" ++ text ++ "]")

theorem Applied.starts {argument : Phrases String} {phrase : List Token} {name : Token}
    {arguments : List String} (applied : Applied argument phrase name arguments) :
    ∃ rest, phrase = name :: rest ∧ name.kind = .name := by
  cases applied with
  | bare named => exact ⟨_, rfl, named⟩
  | generic named => exact ⟨_, rfl, named⟩

/-- Induction on arguments. What holds of the arguments of a name may be used for the name. -/
theorem Argument.induct {motive : List Token → String → Prop}
    (applied : ∀ {phrase name arguments}, Applied motive phrase name arguments →
      motive phrase (TypeName.text ⟨name.text, arguments⟩))
    (borrowed : ∀ {ampersand first : Token} {rest text}, ampersand.kind = .ampersand →
      first.kind ≠ .lifetime → motive (first :: rest) text →
      motive (ampersand :: first :: rest) ("&" ++ text))
    (borrowedFor : ∀ {ampersand lifetime : Token} {phrase text}, ampersand.kind = .ampersand →
      lifetime.kind = .lifetime → motive phrase text →
      motive (ampersand :: lifetime :: phrase) ("&" ++ (lifetime.text ++ " ") ++ text))
    (lifetime : ∀ {lifetime : Token}, lifetime.kind = .lifetime → motive [lifetime] lifetime.text)
    (slice : ∀ {opening closing : Token} {phrase text}, opening.kind = .leftBracket →
      motive phrase text → closing.kind = .rightBracket →
      motive (opening :: (phrase ++ [closing])) ("[" ++ text ++ "]"))
    {phrase : List Token} {text : String} (argument : Argument phrase text) : motive phrase text :=
  @Argument.rec (fun phrase text _ => motive phrase text)
    (fun phrase name arguments _ => Applied motive phrase name arguments)
    (fun phrase arguments _ => Series motive phrase arguments)
    (fun _ ih => applied ih) (fun borrows unnamed _ ih => borrowed borrows unnamed ih)
    (fun borrows lives _ ih => borrowedFor borrows lives ih) (fun lives => lifetime lives)
    (fun opens _ closes ih => slice opens ih closes)
    (fun named => .bare named) (fun named opens _ closes ih => .generic named opens ih closes)
    (fun _ ih => .last ih) (fun _ separates ih => .closed ih separates)
    (fun _ separates _ ih rest => .more ih separates rest)
    phrase text argument

/-- An argument begins with a name, `&`, a lifetime or `[`. -/
theorem Argument.avoids {kind : TokenKind}
    (other : kind ∉ [TokenKind.name, .ampersand, .lifetime, .leftBracket]) :
    Avoids kind Argument := by
  simp only [List.mem_cons, List.not_mem_nil, or_false, not_or] at other
  obtain ⟨name, ampersand, lifetime, leftBracket⟩ := other
  intro phrase text argument
  cases argument with
  | applied type =>
    obtain ⟨rest, rfl, named⟩ := type.starts
    exact ⟨_, rest, rfl, named ▸ Ne.symm name⟩
  | borrowed borrows => exact ⟨_, _, rfl, borrows ▸ Ne.symm ampersand⟩
  | borrowedFor borrows => exact ⟨_, _, rfl, borrows ▸ Ne.symm ampersand⟩
  | lifetime lives => exact ⟨_, _, rfl, lives ▸ Ne.symm lifetime⟩
  | slice opens => exact ⟨_, _, rfl, opens ▸ Ne.symm leftBracket⟩

/-- It never begins with the token that closes a list of arguments. -/
theorem Argument.avoids_greater : Avoids .greater Argument := avoids (by decide)

end Grammar

open Grammar

/-- A state, payload or error type. It stands where its name does. -/
inductive Reference.Phrase : Phrases Reference where
  | intro {phrase : List Token} {name : Token} {arguments : List String}
      (type : Applied Argument phrase name arguments) :
      Phrase phrase ⟨⟨name.text, arguments⟩, name.span⟩

/-! ## 3. Transitions and messages -/

/-- A transition. -/
inductive Edge.Phrase : Phrases Edge where
  | intro {left right : List Token} {arrow : Token} {source destination : Reference}
      (leaves : source.Phrase left) (leads : arrow.kind = .transitionArrow)
      (enters : destination.Phrase right) :
      Phrase (left ++ arrow :: right) ⟨source, destination, source.span⟩

/-- The kind of the arrow that writes a direction. -/
def Direction.kind : Direction → TokenKind
  | .push => .pushArrow
  | .poll => .pollArrow

/-- A message channel. -/
inductive Message.Phrase : Phrases Message where
  | intro {left right : List Token} {arrow : Token} {payload target : Reference}
      {direction : Direction} (travels : payload.Phrase left) (way : arrow.kind = direction.kind)
      (reaches : target.Phrase right) :
      Phrase (left ++ arrow :: right) ⟨payload, direction, target, payload.span⟩

theorem Reference.Phrase.begins {phrase : List Token} {reference : Reference}
    (h : reference.Phrase phrase) : Begins phrase reference.span := by
  cases h with
  | intro type =>
    obtain ⟨rest, rfl, named⟩ := type.starts
    exact ⟨_, rest, rfl, named, rfl⟩

theorem Edge.Phrase.begins {phrase : List Token} {edge : Edge} (h : edge.Phrase phrase) :
    Begins phrase edge.span := by
  cases h with
  | intro leaves => exact leaves.begins.append

theorem Message.Phrase.begins {phrase : List Token} {message : Message}
    (h : message.Phrase phrase) : Begins phrase message.span := by
  cases h with
  | intro travels => exact travels.begins.append

/-! ## 4. Declarations -/

namespace Grammar

/-- A comma that may be missing. -/
inductive Trailing : List Token → Prop where
  | none : Trailing []
  | some {comma : Token} (separates : comma.kind = .comma) : Trailing [comma]

/-- What a machine declares about failures, depending on whether it is fallible. -/
inductive Failing : Bool → Phrases (Option FailureDecl) where
  | never : Failing false [] none
  | into {first second : Token} {left right : List Token} {errorType errorState : Reference}
      (before : first.kind = .comma) (type : errorType.Phrase left)
      (between : second.kind = .comma) (state : errorState.Phrase right) :
      Failing true (first :: (left ++ second :: right)) (some ⟨errorType, errorState⟩)

end Grammar

/-- The body of a machine, plain or fallible. -/
inductive MachineDecl.Phrase (fallible : Bool) : Phrases MachineDecl where
  | intro (name : Token) {first second third : Token}
      {start listed joined failing trailing : List Token} {initial : Reference}
      {states : List Reference} {edges : List Edge} {failure : Option FailureDecl}
      (named : name.kind = .name) (comma₁ : first.kind = .comma) (starts : initial.Phrase start)
      (comma₂ : second.kind = .comma) (lists : Listed Reference.Phrase listed states)
      (comma₃ : third.kind = .comma) (joins : Listed Edge.Phrase joined edges)
      (fails : Failing fallible failing failure) (ends : Trailing trailing) :
      Phrase fallible
        (name :: first ::
          (start ++ second :: (listed ++ third :: (joined ++ (failing ++ trailing)))))
        ⟨name.text, initial, states, edges, failure, name.span⟩

/-- The body of the message channels of a machine. -/
inductive MessagesDecl.Phrase : Phrases MessagesDecl where
  | intro (name : Token) {comma : Token} {listed trailing : List Token} {messages : List Message}
      (named : name.kind = .name) (separates : comma.kind = .comma)
      (lists : Listed Message.Phrase listed messages) (ends : Trailing trailing) :
      Phrase (name :: comma :: (listed ++ trailing)) ⟨name.text, messages, name.span⟩

/-! ## 5. Names in declarations -/

/-- All type names that a machine mentions. -/
def MachineDecl.references (decl : MachineDecl) : List Reference :=
  decl.initial :: decl.states ++ decl.edges.flatMap (fun edge => [edge.source, edge.destination]) ++
    decl.failure.toList.flatMap fun failing => [failing.errorType, failing.errorState]

/-- All type names that message channels mention. -/
def MessagesDecl.references (decl : MessagesDecl) : List Reference :=
  decl.messages.flatMap fun message => [message.payload, message.target]

theorem Edge.Phrase.references {phrase : List Token} {edge : Edge} (h : edge.Phrase phrase) :
    ∀ reference ∈ [edge.source, edge.destination],
      ∃ part, part ⊆ phrase ∧ reference.Phrase part := by
  cases h with
  | intro leaves leads enters =>
    simp only [List.forall_mem_cons]
    exact ⟨⟨_, List.subset_append_left _ _, leaves⟩,
      ⟨_, fun token mem => by simp [mem], enters⟩, nofun⟩

theorem Message.Phrase.references {phrase : List Token} {message : Message}
    (h : message.Phrase phrase) : ∀ reference ∈ [message.payload, message.target],
      ∃ part, part ⊆ phrase ∧ reference.Phrase part := by
  cases h with
  | intro travels way reaches =>
    simp only [List.forall_mem_cons]
    exact ⟨⟨_, List.subset_append_left _ _, travels⟩,
      ⟨_, fun token mem => by simp [mem], reaches⟩, nofun⟩

theorem MachineDecl.Phrase.references {fallible : Bool} {phrase : List Token} {decl : MachineDecl}
    (h : decl.Phrase fallible phrase) :
    ∀ reference ∈ decl.references, ∃ part, part ⊆ phrase ∧ reference.Phrase part := by
  cases h with
  | intro name named comma₁ starts comma₂ lists comma₃ joins fails ends =>
    intro reference mem
    simp only [MachineDecl.references, List.cons_append, List.mem_cons, List.mem_append] at mem
    rcases mem with rfl | (listed | joined) | failing
    · exact ⟨_, fun token mem => by simp [mem], starts⟩
    · obtain ⟨part, within, fits⟩ := lists.parts reference listed
      exact ⟨part, fun token mem => by simp [within mem], fits⟩
    · obtain ⟨edge, member, inside⟩ := List.mem_flatMap.mp joined
      obtain ⟨part, within, fits⟩ := joins.parts edge member
      obtain ⟨name, narrower, fits⟩ := fits.references reference inside
      exact ⟨name, fun token mem => by simp [within (narrower mem)], fits⟩
    · cases fails with
      | never => cases failing
      | into before type between state =>
        simp only [Option.toList_some, List.flatMap_cons, List.flatMap_nil, List.append_nil,
          List.mem_cons, List.not_mem_nil, or_false] at failing
        rcases failing with rfl | rfl
        · exact ⟨_, fun token mem => by simp [mem], type⟩
        · exact ⟨_, fun token mem => by simp [mem], state⟩

theorem MessagesDecl.Phrase.references {phrase : List Token} {decl : MessagesDecl}
    (h : decl.Phrase phrase) :
    ∀ reference ∈ decl.references, ∃ part, part ⊆ phrase ∧ reference.Phrase part := by
  cases h with
  | intro name named separates lists ends =>
    intro reference mem
    obtain ⟨message, member, inside⟩ := List.mem_flatMap.mp mem
    obtain ⟨part, within, fits⟩ := lists.parts message member
    obtain ⟨name, narrower, fits⟩ := fits.references reference inside
    exact ⟨name, fun token mem => by simp [within (narrower mem)], fits⟩

end MachineSpec
