/-
MachineSpec.Proofs.Printing — printed declarations are read back.

A printed declaration differs from the text it was read from: optional commas are left out,
and the arguments of a name are texts that were composed by the reader. For every phrase
there is another one with the same meaning whose tokens are those of the printed text.
`Prints` relates a text and a phrase, before any text that does not continue a word; it is
closed under concatenation where the second text begins with a punctuation mark.

The phrase is found by induction on arguments (`reprintable_of_argument`, then `reprints_…`
for each production). Since readers do not depend on places
(`MachineSpec.Proofs.Placement`), the printed text is read with the meaning of the phrase
(`read_back`).

* `ofText_of_printed`: machines and message channels are read back from their texts, and
  type names that were read are determined by theirs.
-/
import MachineSpec.Proofs.Placement
import MachineSpec.Proofs.Recognition

namespace MachineSpec

open Grammar Parse
open Placed (unplaced)

/-! ## 1. Printed phrases -/

/-- The text does not go on with a word. -/
def Ends (next : List Char) : Prop := ∀ c ∈ next.head?, TokenKind.stops .name c = true

theorem Ends.nil : Ends [] := nofun

theorem Ends.mark {text : String} {c : Char} {rest : List Char} (chars : text.toList = c :: rest)
    (stops : TokenKind.stops .name c = true) (next : List Char) : Ends (text.toList ++ next) := by
  rw [chars]
  rintro d ⟨rfl⟩
  exact stops

theorem Ends.text {text text' : String} {c : Char} {rest : List Char}
    (chars : text.toList = c :: rest) (stops : TokenKind.stops .name c = true) :
    ∀ next, Ends ((text ++ text').toList ++ next) :=
  Ends.mark (by rw [String.toList_append, chars]; rfl) stops

/-- In front of anything that does not go on with a word, the text has the tokens of the phrase,
    which stand nowhere yet. -/
structure Prints (text : String) (phrase : List Token) : Prop where
  nowhere : unplaced phrase = phrase
  written : ∀ {lexemes next}, Written lexemes next → Ends next →
    Written (phrase.map Token.lexeme ++ lexemes) (text.toList ++ next)

/-- A token that stands nowhere. -/
def mark (kind : TokenKind) (text : String) : Token := ⟨kind, text, Position.start.span 0⟩

theorem written_mark {kind : TokenKind} {text : String} {lexemes : List Lexeme} {next : List Char}
    (spelled : kind.Spelled text.toList) (stops : ∀ c ∈ next.head?, kind.stops c = true)
    (written : Written lexemes next) :
    Written ((mark kind text).lexeme :: lexemes) (text.toList ++ next) :=
  Written.lexeme spelled stops written

namespace Prints

variable {text text' : String} {phrase phrase' : List Token} {kind : TokenKind}

/-- Texts can be put together where no word goes on. -/
theorem append (first : Prints text phrase) (second : Prints text' phrase')
    (ends : ∀ next, Ends (text'.toList ++ next)) : Prints (text ++ text') (phrase ++ phrase') where
  nowhere := by
    show (phrase ++ phrase').map unplaced = _
    rw [List.map_append]
    exact congr (congrArg _ first.nowhere) second.nowhere
  written next_written next_ends := by
    simpa using first.written (second.written next_written next_ends) (ends _)

/-- A name or a lifetime. -/
theorem word (spelled : kind.Spelled text.toList) (isWord : kind = .name ∨ kind = .lifetime) :
    Prints text [mark kind text] where
  nowhere := rfl
  written next_written next_ends := by
    refine written_mark spelled (fun c mem => ?_) next_written
    rcases isWord with rfl | rfl
    · exact next_ends c mem
    · have := next_ends c mem
      simp_all [TokenKind.stops]

/-- A token in front of a text that it cannot run together with. -/
theorem cons (spelled : kind.Spelled text.toList) (rest : Prints text' phrase)
    (stops : ∀ next, ∀ c ∈ (text'.toList ++ next).head?, kind.stops c = true) :
    Prints (text ++ text') (mark kind text :: phrase) where
  nowhere := congrArg (mark kind text :: ·) rest.nowhere
  written next_written next_ends := by
    simpa using written_mark spelled (stops _) (rest.written next_written next_ends)

/-- A punctuation mark behind a text, which ends where it does, whatever follows. -/
theorem closed {close : String} {c : Char} (first : Prints text phrase) (chars : close.toList = [c])
    (stands : punctuation? c = some kind) (stops : ∀ d, kind.stops d = true)
    (ends : TokenKind.stops .name c = true) :
    Prints (text ++ close) (phrase ++ [mark kind close]) := by
  have last : Prints close [mark kind close] := ⟨rfl, fun next_written _ =>
    written_mark (chars ▸ .punctuation stands) (fun d _ => stops d) next_written⟩
  exact first.append last (Ends.mark chars ends)

/-- A blank means nothing. -/
theorem gap (rest : Prints text phrase) : Prints (" " ++ text) phrase where
  nowhere := rest.nowhere
  written next_written next_ends := by
    simpa using Written.trivia (.blank (by decide : Text.isBlank ' ' = true) .nil)
      (rest.written next_written next_ends)

/-- Two texts with a comma between them. -/
theorem comma (first : Prints text phrase) (second : Prints text' phrase') :
    Prints (text ++ ", " ++ text') (phrase ++ MachineSpec.mark .comma "," :: phrase') := by
  have same : text ++ ", " ++ text' = text ++ ("," ++ (" " ++ text')) := by
    simp only [String.append_assoc]
    rfl
  rw [same]
  exact first.append (.cons (.punctuation rfl) second.gap fun _ _ _ => rfl)
    (Ends.text rfl (by decide))

/-- Two texts with an arrow between them. -/
theorem arrow {c d : Char} (points : arrow? c d = some kind) (kinds : ∀ c, kind.stops c = true)
    (first : Prints text phrase) (second : Prints text' phrase') :
    Prints (text ++ (" " ++ (String.ofList [c, d] ++ (" " ++ text'))))
      (phrase ++ MachineSpec.mark kind (String.ofList [c, d]) :: phrase') := by
  have spelled : kind.Spelled (String.ofList [c, d]).toList := by
    rw [String.toList_ofList]
    exact .arrow points
  exact first.append (gap (.cons spelled second.gap fun _ d _ => kinds d))
    (Ends.text rfl (by decide))

/-- A printed phrase is the text of its tokens. -/
theorem tokenize (prints : Prints text phrase) :
    ∃ tokens, tokenize text = .ok tokens ∧ unplaced tokens.items = phrase := by
  obtain ⟨tokens, scanned, same⟩ :=
    Written.tokenize (by simpa using prints.written .nil .nil : Written _ text.toList)
  refine ⟨tokens, scanned, ?_⟩
  rw [← prints.nowhere, unplaced_tokens, same, unplaced_tokens]

end Prints

/-- Printed, the phrase is read with the result that it means. -/
theorem read_back {α : Type} [Placed α] {p : Parse α} {phrases : Phrases α}
    (reads : ∀ {s a s'}, Reads p s a s' ↔
      s'.current.kind = .finish ∧ ∃ phrase, phrases phrase a ∧ s.Advances phrase s')
    (alike : Alike p p) {text : String} {phrase : List Token} {a : α} (fits : phrases phrase a)
    (prints : Prints text phrase) : ∃ a', Parse.text p text = .ok a' ∧ unplaced a' = a := by
  obtain ⟨tokens, scanned, rfl⟩ := prints.tokenize
  have finished := reads.mpr
    ⟨rfl, _, fits, @TokenStream.advances_all ⟨unplaced tokens.items, .start⟩⟩
  have read : unplaced (outcome p (.ofTokens tokens)) = _ := (alike _).symm.trans finished
  rw [text_eq_outcome scanned]
  exact unplaced_eq_ok (congrArg Prod.fst read)

/-! ## 2. Lists -/

/-- The item, without its place, is what some phrase means that this text prints. -/
def Reprints {α : Type} [Placed α] (phrases : Phrases α) (a : α) (text : String) : Prop :=
  ∃ phrase, phrases phrase (unplaced a) ∧ Prints text phrase

theorem reprints_series {α : Type} [Placed α] {item : Phrases α} {print : α → String} {as : List α}
    (filled : as ≠ []) (each : ∀ a ∈ as, Reprints item a (print a)) :
    Reprints (Series item) as (String.intercalate ", " (as.map print)) := by
  induction as with
  | nil => exact absurd rfl filled
  | cons a as ih =>
    obtain ⟨phrase, fits, prints⟩ := each a (List.mem_cons_self ..)
    cases as with
    | nil => exact ⟨phrase, .last fits, by simpa using prints⟩
    | cons b as =>
      obtain ⟨others, series, behind⟩ :=
        ih (by simp) fun a mem => each a (List.mem_cons_of_mem _ mem)
      refine ⟨phrase ++ mark .comma "," :: others, .more fits rfl series, ?_⟩
      simp only [List.map_cons, String.intercalate_cons_cons]
      exact prints.comma behind

/-- The text of a list in brackets. -/
def bracketedText (texts : List String) : String := "[" ++ String.intercalate ", " texts ++ "]"

theorem reprints_listed {α : Type} [Placed α] {item : Phrases α} {print : α → String}
    (each : ∀ {part a}, item part a → (∀ token ∈ part, token.Spelled) → Reprints item a (print a))
    {phrase : List Token} {as : List α} (listed : Listed item phrase as)
    (spelled : ∀ token ∈ phrase, token.Spelled) :
    Reprints (Listed item) as (bracketedText (as.map print)) := by
  have reprints : ∀ a ∈ as, Reprints item a (print a) := by
    intro a mem
    obtain ⟨part, inside, fits⟩ := listed.parts a mem
    exact each fits fun token mem => spelled token (inside mem)
  have items : Reprints (Items item) as (String.intercalate ", " (as.map print)) := by
    cases as with
    | nil => exact ⟨[], .none, rfl, fun written _ => by simpa using written⟩
    | cons a as =>
      obtain ⟨phrase, series, prints⟩ := reprints_series (List.cons_ne_nil a as) reprints
      exact ⟨phrase, .some series, prints⟩
  obtain ⟨phrase, items, prints⟩ := items
  refine ⟨mark .leftBracket "[" :: (phrase ++ [mark .rightBracket "]"]), .intro rfl items rfl, ?_⟩
  rw [bracketedText, String.append_assoc]
  exact .cons (.punctuation rfl) (prints.closed rfl rfl (fun _ => rfl) (by decide)) fun _ _ _ => rfl

/-! ## 3. Type names -/

/-- The text begins with a character that makes no arrow of `<`. -/
def Plain (text : String) : Prop := ∃ c rest, text.toList = c :: rest ∧ c ≠ '-'

theorem Plain.append {text text' : String} (plain : Plain text) : Plain (text ++ text') := by
  obtain ⟨c, rest, chars, other⟩ := plain
  exact ⟨c, rest ++ text'.toList, by simp [chars], other⟩

theorem Plain.stops {text : String} (plain : Plain text) (next : List Char) :
    ∀ c ∈ (text.toList ++ next).head?, TokenKind.stops .less c = true := by
  obtain ⟨c, rest, chars, other⟩ := plain
  rw [chars]
  rintro d ⟨rfl⟩
  simpa [TokenKind.stops] using other

theorem plain_of_spelled {kind : TokenKind} {text : String} (spelled : kind.Spelled text.toList)
    (other : kind ≠ .pushArrow) : Plain text := by
  obtain ⟨c, rest, chars⟩ := spelled.exists_cons
  exact ⟨c, rest, chars, (chars ▸ spelled).ne_dash other⟩

/-- The text of an argument can be printed by a phrase that begins with the same kind of token. -/
structure Reprintable (phrase : List Token) (text : String) : Prop where
  plain : Plain text
  printed : ∃ canon, Argument canon text ∧ Prints text canon ∧
    canon.head?.map Token.kind = phrase.head?.map Token.kind

/-- The name is printed with its arguments, if these can be printed. -/
theorem reprints_applied {item : Phrases String} {phrase : List Token} {name : Token}
    {arguments : List String} (applied : Applied item phrase name arguments)
    (spelled : ∀ token ∈ phrase, token.Spelled)
    (each : ∀ {part text}, (∀ token ∈ part, token.Spelled) →
      item part text → Reprintable part text) :
    Plain (TypeName.text ⟨name.text, arguments⟩) ∧
      ∃ canon, Applied Argument canon (unplaced name) arguments ∧
        Prints (TypeName.text ⟨name.text, arguments⟩) canon := by
  obtain ⟨rest, starts, named⟩ := applied.starts
  have nameSpelled : TokenKind.Spelled .name name.text.toList := by
    rw [← named]
    exact spelled name (starts ▸ List.mem_cons_self ..)
  have nowhere : unplaced name = mark .name name.text := by
    rw [← named]
    rfl
  have plain := plain_of_spelled nameSpelled (by decide)
  have prints := Prints.word nameSpelled (.inl rfl)
  rw [nowhere]
  cases applied with
  | bare => exact ⟨plain, _, .bare rfl, prints⟩
  | generic _ opens series closes =>
    rename_i opening closing inner
    obtain ⟨filled, parts⟩ := series.parts
    have reprintable : ∀ text ∈ arguments, ∃ part, Reprintable part text := by
      intro text mem
      obtain ⟨part, inside, fits⟩ := parts text mem
      exact ⟨part, each (fun token mem => spelled token (by simp [inside mem])) fits⟩
    have reprints : Reprints (Series Argument) arguments
        (String.intercalate ", " (arguments.map id)) :=
      reprints_series filled fun text mem => by
        obtain ⟨part, -, canon, argument, prints, -⟩ := reprintable text mem
        exact ⟨canon, argument, prints⟩
    obtain ⟨canon, canonSeries, printed⟩ := reprints
    rw [List.map_id] at printed
    rw [unplaced_texts] at canonSeries
    obtain ⟨first, others, rfl⟩ := List.exists_cons_of_ne_nil filled
    have text : TypeName.text ⟨name.text, first :: others⟩ =
        name.text ++ ("<" ++ (String.intercalate ", " (first :: others) ++ ">")) := by
      simp only [TypeName.text, String.append_assoc]
    have argumentsPlain : Plain (String.intercalate ", " (first :: others)) := by
      obtain ⟨part, firstReprintable⟩ := reprintable first (List.mem_cons_self ..)
      cases others with
      | nil => simpa using firstReprintable.plain
      | cons =>
        rw [String.intercalate_cons_cons]
        exact firstReprintable.plain.append.append
    rw [text]
    have closed : Prints (String.intercalate ", " (first :: others) ++ ">")
        (canon ++ [mark .greater ">"]) := printed.closed rfl rfl (fun _ => rfl) (by decide)
    exact ⟨plain.append, mark .name name.text :: mark .less "<" :: (canon ++ [mark .greater ">"]),
      .generic rfl rfl canonSeries rfl,
      prints.append (.cons (.punctuation rfl) closed argumentsPlain.append.stops)
        (Ends.text rfl (by decide))⟩

theorem reprintable_of_argument {phrase : List Token} {text : String}
    (argument : Argument phrase text) :
    (∀ token ∈ phrase, token.Spelled) → Reprintable phrase text := by
  refine Argument.induct (motive := fun phrase text =>
    (∀ token ∈ phrase, token.Spelled) → Reprintable phrase text)
    ?applied ?borrowed ?borrowedFor ?lifetime ?slice argument
  case applied =>
    intro phrase name arguments applied spelled
    obtain ⟨plain, canon, canonApplied, prints⟩ :=
      reprints_applied applied spelled fun spelled ih => ih spelled
    obtain ⟨rest, rfl, named⟩ := applied.starts
    obtain ⟨rest', rfl, named'⟩ := canonApplied.starts
    have canonArgument : Argument (unplaced name :: rest')
        (TypeName.text ⟨(unplaced name).text, arguments⟩) := .applied canonApplied
    exact ⟨plain, _, canonArgument, prints, by simp [named, named']⟩
  case borrowed =>
    intro ampersand first rest text borrows unnamed ih spelled
    obtain ⟨-, canon, target, prints, same⟩ :=
      ih fun token mem => spelled token (List.mem_cons_of_mem _ mem)
    obtain ⟨first', rest', rfl, -⟩ := Argument.avoids_greater target
    have kind : first'.kind = first.kind := by simpa using same
    have plain : Plain "&" := ⟨'&', [], rfl, by decide⟩
    exact ⟨plain.append, mark .ampersand "&" :: first' :: rest',
      .borrowed rfl (kind ▸ unnamed) target, .cons (.punctuation rfl) prints fun _ _ _ => rfl,
      by simp [borrows, mark]⟩
  case borrowedFor =>
    intro ampersand lifetime phrase text borrows lives ih spelled
    obtain ⟨-, canon, target, prints, -⟩ :=
      ih fun token mem => spelled token (by simp [mem])
    have word : Prints lifetime.text [mark .lifetime lifetime.text] :=
      .word (lives ▸ spelled lifetime (by simp)) (.inr rfl)
    have printed : Prints ("&" ++ (lifetime.text ++ (" " ++ text)))
        (mark .ampersand "&" :: mark .lifetime lifetime.text :: canon) :=
      .cons (.punctuation rfl) (word.append prints.gap (Ends.text rfl (by decide)))
        fun _ _ _ => rfl
    have same : "&" ++ (lifetime.text ++ " ") ++ text =
        "&" ++ (lifetime.text ++ (" " ++ text)) := by
      simp only [String.append_assoc]
    have canonArgument : Argument (mark .ampersand "&" :: mark .lifetime lifetime.text :: canon)
        ("&" ++ (lifetime.text ++ " ") ++ text) := .borrowedFor rfl rfl target
    have plain : Plain "&" := ⟨'&', [], rfl, by decide⟩
    exact ⟨plain.append.append, _, canonArgument, same ▸ printed, by simp [borrows, mark]⟩
  case lifetime =>
    intro lifetime lives spelled
    have word : TokenKind.Spelled .lifetime lifetime.text.toList :=
      lives ▸ spelled lifetime (by simp)
    have canonArgument : Argument [mark .lifetime lifetime.text] lifetime.text := .lifetime rfl
    exact ⟨plain_of_spelled word (by decide), _, canonArgument, .word word (.inr rfl),
      by simp [lives, mark]⟩
  case slice =>
    intro opening closing phrase text opens ih closes spelled
    obtain ⟨-, canon, element, prints, -⟩ :=
      ih fun token mem => spelled token (by simp [mem])
    have printed : Prints ("[" ++ (text ++ "]"))
        (mark .leftBracket "[" :: (canon ++ [mark .rightBracket "]"])) :=
      .cons (.punctuation rfl) (prints.closed rfl rfl (fun _ => rfl) (by decide)) fun _ _ _ => rfl
    have plain : Plain "[" := ⟨'[', [], rfl, by decide⟩
    exact ⟨plain.append.append, _, .slice rfl element rfl, String.append_assoc .. ▸ printed,
      by simp [opens, mark]⟩

theorem reprints_reference {phrase : List Token} {reference : Reference}
    (h : reference.Phrase phrase)
    (spelled : ∀ token ∈ phrase, token.Spelled) :
    Reprints Reference.Phrase reference reference.text := by
  cases h with
  | intro type =>
    obtain ⟨-, canon, canonType, prints⟩ := reprints_applied type spelled
      fun spelled argument => reprintable_of_argument argument spelled
    exact ⟨canon, .intro canonType, prints⟩

/-! ## 4. Transitions and messages -/

theorem reprints_edge {phrase : List Token} {edge : Edge} (h : edge.Phrase phrase)
    (spelled : ∀ token ∈ phrase, token.Spelled) :
    Reprints Edge.Phrase edge edge.text := by
  cases h with
  | intro leaves leads enters =>
    rename_i source destination
    obtain ⟨left, leaves, first⟩ := reprints_reference leaves fun token mem =>
      spelled token (by simp [mem])
    obtain ⟨right, enters, second⟩ := reprints_reference enters fun token mem =>
      spelled token (by simp [mem])
    have text : Edge.text ⟨source, destination, source.span⟩ =
        source.text ++ (" " ++ (String.ofList ['=', '>'] ++ (" " ++ destination.text))) := by
      simp only [Edge.text, String.append_assoc]
      rfl
    rw [text]
    exact ⟨_, .intro leaves rfl enters, first.arrow rfl (fun _ => rfl) second⟩

theorem reprints_message {phrase : List Token} {message : Message} (h : message.Phrase phrase)
    (spelled : ∀ token ∈ phrase, token.Spelled) :
    Reprints Message.Phrase message message.text := by
  cases h with
  | intro travels way reaches =>
    rename_i payload target direction
    obtain ⟨left, travels, first⟩ := reprints_reference travels fun token mem =>
      spelled token (by simp [mem])
    obtain ⟨right, reaches, second⟩ := reprints_reference reaches fun token mem =>
      spelled token (by simp [mem])
    have text : Message.text ⟨payload, direction, target, payload.span⟩ =
        payload.text ++ (" " ++ (direction.arrow ++ (" " ++ target.text))) := by
      simp only [Message.text, String.append_assoc]
    rw [text]
    cases direction with
    | push => exact ⟨_, .intro travels rfl reaches, first.arrow rfl (fun _ => rfl) second⟩
    | poll => exact ⟨_, .intro travels rfl reaches, first.arrow rfl (fun _ => rfl) second⟩

/-! ## 5. Declarations -/

/-- The text of a machine as declared. -/
def MachineDecl.text (decl : MachineDecl) : String :=
  String.intercalate ", " ([decl.name, decl.initial.text,
      bracketedText (decl.states.map Reference.text), bracketedText (decl.edges.map Edge.text)] ++
    match decl.failure with
    | none => []
    | some failing => [failing.errorType.text, failing.errorState.text])

/-- The text of message channels as declared. -/
def MessagesDecl.text (decl : MessagesDecl) : String :=
  String.intercalate ", " [decl.name, bracketedText (decl.messages.map Message.text)]

theorem prints_name {name : Token} (named : name.kind = .name) (spelled : name.Spelled) :
    Prints name.text [mark .name name.text] :=
  .word (named ▸ spelled) (.inl rfl)

theorem reprints_machine {fallible : Bool} {phrase : List Token} {decl : MachineDecl}
    (h : decl.Phrase fallible phrase) (spelled : ∀ token ∈ phrase, token.Spelled) :
    Reprints (MachineDecl.Phrase fallible) decl decl.text := by
  cases h with
  | intro name named comma₁ starts comma₂ lists comma₃ joins fails ends =>
    have head := prints_name named (spelled _ (List.mem_cons_self ..))
    obtain ⟨start, starts, printsStart⟩ := reprints_reference starts fun token mem =>
      spelled token (by simp [mem])
    obtain ⟨listed, lists, printsListed⟩ := reprints_listed reprints_reference lists fun token mem =>
      spelled token (by simp [mem])
    obtain ⟨joined, joins, printsJoined⟩ := reprints_listed reprints_edge joins fun token mem =>
      spelled token (by simp [mem])
    cases fails with
    | never =>
      refine ⟨mark .name name.text :: mark .comma "," :: (start ++ mark .comma "," ::
        (listed ++ mark .comma "," :: (joined ++ ([] ++ [])))),
        .intro _ rfl rfl starts rfl lists rfl joins .never .none, ?_⟩
      have printed := head.comma (printsStart.comma (printsListed.comma printsJoined))
      simpa [MachineDecl.text, String.intercalate_cons_cons] using printed
    | into before type between state =>
      obtain ⟨left, type, printsType⟩ := reprints_reference type fun token mem =>
        spelled token (by simp [mem])
      obtain ⟨right, state, printsState⟩ := reprints_reference state fun token mem =>
        spelled token (by simp [mem])
      refine ⟨mark .name name.text :: mark .comma "," :: (start ++ mark .comma "," ::
        (listed ++ mark .comma "," :: (joined ++ (mark .comma "," :: (left ++
          mark .comma "," :: right) ++ [])))),
        .intro _ rfl rfl starts rfl lists rfl joins (.into rfl type rfl state) .none, ?_⟩
      have printed := head.comma (printsStart.comma (printsListed.comma
        (printsJoined.comma (printsType.comma printsState))))
      simpa [MachineDecl.text, String.intercalate_cons_cons] using printed

theorem reprints_messages {phrase : List Token} {decl : MessagesDecl} (h : decl.Phrase phrase)
    (spelled : ∀ token ∈ phrase, token.Spelled) : Reprints MessagesDecl.Phrase decl decl.text := by
  cases h with
  | intro name named separates lists ends =>
    have head := prints_name named (spelled _ (List.mem_cons_self ..))
    obtain ⟨listed, lists, prints⟩ := reprints_listed reprints_message lists fun token mem =>
      spelled token (by simp [mem])
    refine ⟨mark .name name.text :: mark .comma "," :: (listed ++ []),
      .intro _ rfl rfl lists .none, ?_⟩
    have printed := head.comma prints
    simpa [MessagesDecl.text, String.intercalate_cons_cons] using printed

/-! ## 6. Read, printed and read again -/

theorem machine_read_back {fallible : Bool} {source : String} {decl : MachineDecl}
    (read : MachineDecl.ofText fallible source = .ok decl) :
    ∃ again, MachineDecl.ofText fallible decl.text = .ok again ∧
      unplaced again = unplaced decl := by
  obtain ⟨tokens, scanned, fits⟩ := MachineDecl.ofText_eq_ok_iff.mp read
  obtain ⟨phrase, printed, prints⟩ := reprints_machine fits (spelled_of_tokenize scanned)
  exact read_back (reads_machine_iff (by decide) (by decide)) .machine printed prints

theorem messages_read_back {source : String} {decl : MessagesDecl}
    (read : MessagesDecl.ofText source = .ok decl) :
    ∃ again, MessagesDecl.ofText decl.text = .ok again ∧ unplaced again = unplaced decl := by
  obtain ⟨tokens, scanned, fits⟩ := MessagesDecl.ofText_eq_ok_iff.mp read
  obtain ⟨phrase, printed, prints⟩ := reprints_messages fits (spelled_of_tokenize scanned)
  exact read_back (reads_messages_iff (by decide)) .messages printed prints

/-- A type name that was read, alone or in a declaration. -/
inductive Reference.WasRead : Reference → Prop where
  | alone {source : String} {reference : Reference}
      (read : Reference.ofText source = .ok reference) : WasRead reference
  | machine {fallible : Bool} {source : String} {decl : MachineDecl} {reference : Reference}
      (read : MachineDecl.ofText fallible source = .ok decl)
      (mentioned : reference ∈ decl.references) : WasRead reference
  | messages {source : String} {decl : MessagesDecl} {reference : Reference}
      (read : MessagesDecl.ofText source = .ok decl)
      (mentioned : reference ∈ decl.references) : WasRead reference

theorem Reference.WasRead.phrase {reference : Reference} (h : reference.WasRead) :
    ∃ phrase, reference.Phrase phrase ∧ ∀ token ∈ phrase, token.Spelled := by
  cases h with
  | alone read =>
    obtain ⟨tokens, scanned, fits⟩ := Reference.ofText_eq_ok_iff.mp read
    exact ⟨_, fits, spelled_of_tokenize scanned⟩
  | machine read mentioned =>
    obtain ⟨tokens, scanned, fits⟩ := MachineDecl.ofText_eq_ok_iff.mp read
    obtain ⟨part, inside, fits⟩ := fits.references _ mentioned
    exact ⟨part, fits, fun token mem => spelled_of_tokenize scanned token (inside mem)⟩
  | messages read mentioned =>
    obtain ⟨tokens, scanned, fits⟩ := MessagesDecl.ofText_eq_ok_iff.mp read
    obtain ⟨part, inside, fits⟩ := fits.references _ mentioned
    exact ⟨part, fits, fun token mem => spelled_of_tokenize scanned token (inside mem)⟩

/-- What spelled tokens mean can be read from its own text. -/
theorem Reference.Phrase.reads_again {phrase : List Token} {reference : Reference}
    (fits : reference.Phrase phrase) (spelled : ∀ token ∈ phrase, token.Spelled) :
    ∃ again, Reference.ofText reference.text = .ok again ∧ again.type = reference.type := by
  obtain ⟨canon, printed, prints⟩ := reprints_reference fits spelled
  obtain ⟨again, readAgain, back⟩ :=
    read_back reads_whole_reference_iff .wholeReference printed prints
  have type : (unplaced again).type = (unplaced reference).type := by rw [back]
  exact ⟨again, readAgain, type⟩

/-- A type name that was read can be read again from its text. -/
theorem Reference.WasRead.reads_again {reference : Reference} (read : reference.WasRead) :
    ∃ again, Reference.ofText reference.text = .ok again ∧ again.type = reference.type := by
  obtain ⟨phrase, fits, spelled⟩ := read.phrase
  exact fits.reads_again spelled

/-- The text of a type name tells which one it is. -/
theorem Reference.WasRead.type_eq_iff {first second : Reference} (read : first.WasRead)
    (read' : second.WasRead) : first.type = second.type ↔ first.text = second.text := by
  constructor
  · exact congrArg TypeName.text
  · intro same
    obtain ⟨again, readAgain, type⟩ := read.reads_again
    obtain ⟨again', readAgain', type'⟩ := read'.reads_again
    rw [same, readAgain'] at readAgain
    cases readAgain
    rw [← type, ← type']

/-- The printed text of a machine that was read, plain or fallible, is read as the same machine up
    to places, and so for message channels. Type names that were read are equal if and only if their
    texts are. -/
theorem ofText_of_printed :
    (∀ fallible source decl, MachineDecl.ofText fallible source = .ok decl →
      ∃ again, MachineDecl.ofText fallible decl.text = .ok again ∧ unplaced again = unplaced decl) ∧
    (∀ source decl, MessagesDecl.ofText source = .ok decl →
      ∃ again, MessagesDecl.ofText decl.text = .ok again ∧ unplaced again = unplaced decl) ∧
    (∀ first second : Reference, first.WasRead → second.WasRead →
      (first.type = second.type ↔ first.text = second.text)) :=
  ⟨fun _ _ _ => machine_read_back, fun _ _ => messages_read_back,
    fun _ _ read read' => read.type_eq_iff read'⟩

/-- A state of the lamp. -/
def spareOn : Reference := ⟨⟨"On", ["&T"]⟩, ⟨⟨14, 1, 15⟩, 2⟩⟩

/-- What `Lamp,Off,[Off,On<&T,>,],[Off=>On<&T>],Fault,Off,` declares. -/
def spareLamp : MachineDecl where
  name := "Lamp"
  initial := ⟨⟨"Off", []⟩, ⟨⟨5, 1, 6⟩, 3⟩⟩
  states := [⟨⟨"Off", []⟩, ⟨⟨10, 1, 11⟩, 3⟩⟩, spareOn]
  edges := [⟨⟨⟨"Off", []⟩, ⟨⟨25, 1, 26⟩, 3⟩⟩, ⟨⟨"On", ["&T"]⟩, ⟨⟨30, 1, 31⟩, 2⟩⟩, ⟨⟨25, 1, 26⟩, 3⟩⟩]
  failure := some ⟨⟨⟨"Fault", []⟩, ⟨⟨38, 1, 39⟩, 5⟩⟩, ⟨⟨"Off", []⟩, ⟨⟨44, 1, 45⟩, 3⟩⟩⟩
  span := ⟨⟨0, 1, 1⟩, 4⟩

/-- What `Lamp,[Power<-On<[T]>,],` declares. -/
def spareMessages : MessagesDecl where
  name := "Lamp"
  messages := [⟨⟨⟨"Power", []⟩, ⟨⟨6, 1, 7⟩, 5⟩⟩, .poll, ⟨⟨"On", ["[T]"]⟩, ⟨⟨13, 1, 14⟩, 2⟩⟩,
    ⟨⟨6, 1, 7⟩, 5⟩⟩]
  span := ⟨⟨0, 1, 1⟩, 4⟩

theorem eq_ok_of_toOption {ε α : Type} {x : Except ε α} {a : α} (same : x.toOption = some a) :
    x = .ok a := by
  cases x with
  | error => cases same
  | ok => exact congrArg Except.ok (Option.some.inj same)

/-- Texts without blanks and with optional commas, and two states of one machine. -/
theorem ofText_of_printed_lamp :
    (∃ again, MachineDecl.ofText true spareLamp.text = .ok again ∧
      unplaced again = unplaced spareLamp) ∧
    (∃ again, MessagesDecl.ofText spareMessages.text = .ok again ∧
      unplaced again = unplaced spareMessages) ∧
    spareLamp.initial.text ≠ spareOn.text := by
  have machine : MachineDecl.ofText true "Lamp,Off,[Off,On<&T,>,],[Off=>On<&T>],Fault,Off," =
      .ok spareLamp := eq_ok_of_toOption (by decide +kernel)
  have channels : MessagesDecl.ofText "Lamp,[Power<-On<[T]>,]," = .ok spareMessages :=
    eq_ok_of_toOption (by decide +kernel)
  have off : spareLamp.initial.WasRead :=
    .machine machine (by simp [MachineDecl.references])
  have on : spareOn.WasRead := .machine machine (by simp [MachineDecl.references, spareLamp])
  refine ⟨ofText_of_printed.1 _ _ _ machine, ofText_of_printed.2.1 _ _ channels, fun same => ?_⟩
  exact absurd ((ofText_of_printed.2.2 _ _ off on).mpr same) (by decide)

end MachineSpec
