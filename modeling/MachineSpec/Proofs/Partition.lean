/-
MachineSpec.Proofs.Partition — a document cut into its declarations.

A piece is a keyword and the text between its parentheses (`Piece`). `Composed` says that a
text consists of pieces, with trivia wherever they may stand and optional semicolons.

The scanner looks ahead, so the cut needs an argument. It is made at parentheses, which end
every token, and a comment in a body ends at a line end inside the parentheses. So a
document has the tokens of its pieces (`Composed.laid`), and every text that is read as a
document is composed of pieces (`composed_of_tokenize`).
-/
import Mathlib.Data.List.Forall2
import MachineSpec.Proofs.Sequence

namespace MachineSpec

open Text

open Placed (unplaced)

/-! ## 1. Scans -/

/-- Wherever the text stands, these are its lexemes. -/
def Scans (text : List Char) (lexemes : List Lexeme) : Prop :=
  ∀ here, ∃ tokens, scan (.lexeme 0) here text = .ok tokens ∧
    tokens.items.map Token.lexeme = lexemes

/-- What can stand at the end of a text and nowhere else: a comment in a line that does not end. -/
inductive Unended : List Char → Prop where
  | nil : Unended []
  | comment {opener body : List Char} (opens : opener = ['#'] ∨ opener = ['/', '/'])
      (line : '\n' ∉ body) : Unended (opener ++ body)

namespace Scans

variable {text next gap : List Char} {lexemes lexemes' : List Lexeme} {first : Lexeme}

theorem trivia (separates : Trivia gap) (rest : Scans text lexemes) : Scans (gap ++ text) lexemes :=
  fun here => by
    rw [scan_trivia separates]
    exact rest _

theorem cons (spelled : first.kind.Spelled first.text.toList)
    (stops : ∀ c ∈ next.head?, first.kind.stops c = true) (rest : Scans next lexemes) :
    Scans (first.text.toList ++ next) (first :: lexemes) := fun here => by
  obtain ⟨kind, word⟩ := first
  obtain ⟨c, tail, chars⟩ := spelled.exists_cons
  dsimp only at spelled stops chars ⊢
  rw [chars] at spelled ⊢
  obtain ⟨tokens, scanned, same⟩ := rest (here.after (c :: tail))
  refine ⟨_, (scan_token spelled stops).trans (by rw [scanned]), ?_⟩
  simp [Token.lexeme, same, ← chars]

/-- A written text goes on with what stops all tokens. -/
theorem append (written : Written lexemes text)
    (stops : ∀ kind : TokenKind, ∀ c ∈ next.head?, kind.stops c = true) (rest : Scans next lexemes') :
    Scans (text ++ next) (lexemes ++ lexemes') := fun here => by
  obtain ⟨items, same, goes⟩ := @scan_written _ _ written here
  obtain ⟨tokens, scanned, same'⟩ := rest (here.after text)
  refine ⟨_, (goes next stops).trans (congrArg _ scanned), ?_⟩
  simp [Tokens.behind, same, same']

theorem unended (ends : Unended text) : Scans text [] := by
  have still (here : Position) (body : List Char) (line : '\n' ∉ body) :
      ∃ tokens, scan .comment here body = .ok tokens ∧ tokens.items.map Token.lexeme = [] := by
    induction body generalizing here with
    | nil => exact ⟨⟨[], here⟩, rfl, rfl⟩
    | cons c body ih =>
      have other : c ≠ '\n' := fun same => line (same ▸ List.mem_cons_self ..)
      rw [scan, if_neg other]
      exact ih _ fun mem => line (List.mem_cons_of_mem _ mem)
  intro here
  cases ends with
  | nil => exact ⟨⟨[], here⟩, rfl, rfl⟩
  | comment opens line =>
    rename_i opener body
    rcases opens with rfl | rfl
    · rw [List.singleton_append, scan, if_neg (by decide), if_pos (show opensComment '#' body = true from rfl)]
      exact still _ _ line
    · have opens : opensComment '/' ('/' :: body) = true := rfl
      show ∃ tokens, scan (.lexeme 0) here ('/' :: '/' :: body) = .ok tokens ∧ _
      rw [scan, if_neg (by decide), if_pos opens]
      exact still _ ('/' :: body) (by simpa using line)

end Scans

/-! ## 2. Written texts -/

theorem Trivia.append {gap gap' : List Char} (first : Trivia gap) (second : Trivia gap') :
    Trivia (gap ++ gap') := by
  induction first with
  | nil => exact second
  | blank blank more ih => exact .blank blank ih
  | comment opens line more ih =>
    rename_i opener body rest
    have same : opener ++ (body ++ '\n' :: rest) ++ gap' = opener ++ (body ++ '\n' :: (rest ++ gap')) := by
      simp
    rw [same]
    exact .comment opens line ih

namespace Written

variable {text gap : List Char} {lexemes lexemes' : List Lexeme} {first : Lexeme}

/-- Nothing was written but trivia. -/
theorem trivia_of_nil (written : Written [] text) : Trivia text := by
  generalize none : [] = lexemes at written
  induction written with
  | nil => exact .nil
  | trivia separates rest ih => exact separates.append (ih none)
  | lexeme => cases none

/-- Trivia can stand behind what was written. -/
theorem append_trivia (written : Written lexemes text) (separates : Trivia gap) :
    Written lexemes (text ++ gap) := by
  induction written with
  | nil => simpa using Written.trivia separates .nil
  | trivia before rest ih =>
    rw [List.append_assoc]
    exact .trivia before ih
  | lexeme spelled follows rest ih =>
    rename_i lexeme text lexemes
    rw [List.append_assoc]
    refine .lexeme spelled ?_ ih
    cases text with
    | nil =>
      by_cases filled : gap = []
      · simp [filled]
      · simpa using @Trivia.stops _ [] separates filled lexeme.kind
    | cons d text => exact follows

/-- What was written can be cut between two lexemes. -/
theorem split (written : Written (lexemes ++ lexemes') text) :
    ∃ before after, text = before ++ after ∧ Written lexemes before ∧ Written lexemes' after := by
  generalize all : lexemes ++ lexemes' = together at written
  induction written generalizing lexemes with
  | nil =>
    obtain ⟨rfl, rfl⟩ := List.append_eq_nil_iff.mp all
    exact ⟨[], [], rfl, .nil, .nil⟩
  | trivia separates rest ih =>
    obtain ⟨before, after, rfl, written, others⟩ := ih all
    exact ⟨_, after, (List.append_assoc ..).symm, .trivia separates written, others⟩
  | lexeme spelled follows rest ih =>
    cases lexemes with
    | nil =>
      obtain rfl : lexemes' = _ := all
      exact ⟨[], _, rfl, .nil, .lexeme spelled follows rest⟩
    | cons head lexemes =>
      obtain ⟨rfl, behind⟩ := List.cons_eq_cons.mp all
      obtain ⟨before, after, rfl, written, others⟩ := ih behind
      refine ⟨_, after, (List.append_assoc ..).symm, .lexeme spelled ?_ written, others⟩
      cases before with
      | nil => simp
      | cons d before => exact follows

/-- The first of what was written, with trivia in front of it. -/
theorem uncons (written : Written (first :: lexemes) text) :
    ∃ gap rest, text = gap ++ (first.text.toList ++ rest) ∧ Trivia gap ∧
      first.kind.Spelled first.text.toList ∧ Written lexemes rest := by
  generalize all : first :: lexemes = together at written
  induction written with
  | nil => cases all
  | trivia separates rest ih =>
    obtain ⟨gap, after, rfl, trivia, spelled, others⟩ := ih all
    exact ⟨_, after, (List.append_assoc ..).symm, separates.append trivia, spelled, others⟩
  | lexeme spelled follows rest ih =>
    cases all
    exact ⟨[], _, rfl, .nil, spelled, rest⟩

end Written

/-! ## 3. Scanned texts -/

theorem lexeme?_le {c : Char} {rest : List Char} {kind : TokenKind} {more : Nat}
    (delivers : lexeme? c rest = .ok (kind, more)) : more ≤ rest.length := by
  cases delivered_of_lexeme delivers with
  | arrow next points =>
    obtain ⟨behind, rfl⟩ := List.head?_eq_some_iff.mp next
    exact Nat.le_add_left ..
  | punctuation => exact Nat.zero_le _
  | lifetime => exact (List.takeWhile_sublist _).length_le
  | name => exact nameTail_le

/-- A name goes on as long as it can. -/
theorem isNamePart_of_drop {rest : List Char} :
    ∀ c ∈ (rest.drop (nameTail rest)).head?, isNamePart c = false := by
  fun_induction nameTail rest with
  | case1 => simp
  | case2 c part => simp
  | case3 c part => simpa using part
  | case4 c d rest part ih => simpa using ih
  | case5 c d rest part joint ih => simpa using ih
  | case6 c d rest part single joint ih => simpa using ih
  | case7 c d rest part => simpa using part

/-- No token and no comment begins with a dot or a colon. -/
theorem not_scans_joint {here : Position} {c : Char} {rest : List Char} {tokens : Tokens}
    (scanned : scan (.lexeme 0) here (c :: rest) = .ok tokens) : c ≠ '.' ∧ c ≠ ':' := by
  have stray (joint : c = '.' ∨ c = ':') : lexeme? c rest = .error (.strayCharacter c) := by
    have noArrow : rest.head?.bind (arrow? c) = none :=
      Option.bind_eq_none_iff.mpr fun d _ => by rcases joint with rfl | rfl <;> rfl
    unfold lexeme?
    rw [noArrow]
    rcases joint with rfl | rfl <;> rfl
  have refused (joint : c = '.' ∨ c = ':') : False := by
    have blank : isBlank c = false := by rcases joint with rfl | rfl <;> decide
    have comment : opensComment c rest = false := by rcases joint with rfl | rfl <;> rfl
    rw [scan, blank, comment, stray joint] at scanned
    cases scanned
  exact ⟨fun dot => refused (.inl dot), fun colon => refused (.inr colon)⟩

/-- Behind a token stands what stops it. -/
theorem stops_of_scan {here : Position} {c : Char} {rest : List Char} {kind : TokenKind}
    {more : Nat} {tokens : Tokens} (delivers : lexeme? c rest = .ok (kind, more))
    (scanned : scan (.lexeme 0) here (rest.drop more) = .ok tokens) :
    ∀ d ∈ (rest.drop more).head?, kind.stops d = true := by
  intro d next
  cases delivered_of_lexeme delivers with
  | arrow _ points =>
    unfold arrow? at points
    split at points <;> cases points <;> rfl
  | punctuation alone stands =>
    unfold punctuation? at stands
    split at stands <;> cases stands <;> try rfl
    -- only `<` begins an arrow
    have noDash : arrow? '<' d = none := alone d next
    have other : d ≠ '-' := by
      rintro rfl
      cases noDash
    simpa [TokenKind.stops] using other
  | lifetime =>
    have behind : rest.drop (rest.takeWhile isNamePart).length = rest.dropWhile isNamePart :=
      (congrArg (List.drop _) List.takeWhile_append_dropWhile.symm).trans List.drop_left
    rw [behind] at next
    have ended := List.head?_dropWhile_not isNamePart rest
    rw [Option.mem_def.mp next] at ended
    simpa [TokenKind.stops] using ended
  | name =>
    have part := isNamePart_of_drop d next
    obtain ⟨behind, same⟩ := List.head?_eq_some_iff.mp next
    rw [same] at scanned
    obtain ⟨dot, colon⟩ := not_scans_joint scanned
    simp [TokenKind.stops, part, dot, colon]

/-- A comment begins with its opener. -/
theorem exists_opener {c : Char} {line : List Char} (opens : opensComment c line = true) :
    ∃ opener body, (opener = ['#'] ∨ opener = ['/', '/']) ∧ c :: line = opener ++ body ∧
      body ⊆ line := by
  simp only [opensComment, Bool.or_eq_true, beq_iff_eq, Bool.and_eq_true] at opens
  rcases opens with rfl | ⟨rfl, second⟩
  · exact ⟨['#'], line, .inl rfl, rfl, List.Subset.refl _⟩
  · obtain ⟨body, rfl⟩ := List.head?_eq_some_iff.mp second
    exact ⟨['/', '/'], body, .inr rfl, rfl, List.subset_cons_self _ _⟩

/-- A comment is trivia if its line ends. -/
theorem trivia_of_comment {c : Char} {line rest : List Char}
    (opens : opensComment c (line ++ '\n' :: rest) = true) (within : '\n' ∉ line) :
    Trivia (c :: (line ++ ['\n'])) := by
  have opens : opensComment c line = true := by
    cases line with
    | nil => simpa [opensComment] using opens
    | cons d line => exact opens
  obtain ⟨opener, body, opened, same, inside⟩ := exists_opener opens
  have comment : Trivia (opener ++ (body ++ '\n' :: [])) :=
    .comment opened (fun mem => within (inside mem)) .nil
  rwa [← List.append_assoc, ← same, List.cons_append] at comment

theorem unended_of_comment {c : Char} {line : List Char} (opens : opensComment c line = true)
    (within : '\n' ∉ line) : Unended (c :: line) := by
  obtain ⟨opener, body, opened, same, inside⟩ := exists_opener opens
  exact same ▸ .comment opened fun mem => within (inside mem)

/-- A scan that delivers a token goes on behind it. -/
theorem scan_behind {here : Position} {c : Char} {rest : List Char} {tokens : Tokens}
    (noBlank : ¬ isBlank c = true) (noComment : ¬ opensComment c rest = true)
    (scanned : scan (.lexeme 0) here (c :: rest) = .ok tokens) :
    ∃ (first : Lexeme) (more : Nat) (there : Position) (others : Tokens),
      first.text.toList = c :: rest.take more ∧ lexeme? c rest = .ok (first.kind, more) ∧
      scan (.lexeme 0) there (rest.drop more) = .ok others ∧
      tokens.items.map Token.lexeme = first :: others.items.map Token.lexeme := by
  rw [scan, if_neg noBlank, if_neg noComment] at scanned
  cases delivers : lexeme? c rest with
  | error cause =>
    rw [delivers] at scanned
    cases scanned
  | ok delivered =>
    obtain ⟨kind, more⟩ := delivered
    have onward : scan (.lexeme more) (here.next c) rest =
        scan (.lexeme 0) ((here.next c).after (rest.take more)) (rest.drop more) := by
      have cut := @scan_rest (here.next c) (rest.take more) (rest.drop more)
      rwa [List.length_take_of_le (lexeme?_le delivers), List.take_append_drop] at cut
    rw [delivers] at scanned
    dsimp only at scanned
    rw [onward] at scanned
    cases behind : scan (.lexeme 0) ((here.next c).after (rest.take more)) (rest.drop more) with
    | error error =>
      rw [behind] at scanned
      cases scanned
    | ok others =>
      rw [behind] at scanned
      cases scanned
      exact ⟨⟨kind, String.ofList (c :: rest.take more)⟩, more, _, others, String.toList_ofList, rfl,
        behind, rfl⟩

/-- A text that has tokens was written with them. -/
theorem written_of_scan {here : Position} {text : List Char} {tokens : Tokens}
    (scanned : scan (.lexeme 0) here text = .ok tokens) :
    ∃ front tail, text = front ++ tail ∧ Written (tokens.items.map Token.lexeme) front ∧
      Unended tail := by
  -- on the length of the text, for a token or a comment takes several characters at once
  induction length : text.length using Nat.strongRecOn generalizing here text tokens with
  | ind size ih =>
    cases text with
    | nil =>
      cases scanned
      exact ⟨[], [], rfl, .nil, .nil⟩
    | cons c rest =>
      rw [List.length_cons] at length
      by_cases blank : isBlank c = true
      · rw [scan, if_pos blank] at scanned
        obtain ⟨front, tail, rfl, written, unended⟩ := ih rest.length (by omega) scanned rfl
        exact ⟨c :: front, tail, rfl, .trivia (.blank blank .nil) written, unended⟩
      by_cases opens : opensComment c rest = true
      · by_cases ended : '\n' ∈ rest
        · obtain ⟨line, behind, rfl, within⟩ := List.eq_append_cons_of_mem ended
          rw [scan, if_neg blank, if_pos opens, scan_comment within] at scanned
          obtain ⟨front, tail, rfl, written, unended⟩ :=
            ih behind.length (by simp at length; omega) scanned rfl
          refine ⟨_, tail, ?_, .trivia (trivia_of_comment opens within) written, unended⟩
          simp
        · have unended := unended_of_comment opens ended
          obtain ⟨_, scanned', nothing⟩ := Scans.unended unended here
          cases scanned.symm.trans scanned'
          exact ⟨[], c :: rest, rfl, nothing ▸ .nil, unended⟩
      · obtain ⟨first, more, there, others, chars, delivers, behind, lexemes⟩ :=
          scan_behind blank opens scanned
        obtain ⟨front, tail, same, written, unended⟩ :=
          ih (rest.drop more).length (by rw [List.length_drop]; omega) behind rfl
        have spelled : first.kind.Spelled first.text.toList := chars ▸ spelled_of_lexeme delivers
        have stops : ∀ d ∈ front.head?, first.kind.stops d = true := by
          intro d next
          refine stops_of_scan delivers behind d ?_
          obtain ⟨front, rfl⟩ := List.head?_eq_some_iff.mp next
          rw [same]
          rfl
        refine ⟨first.text.toList ++ front, tail, ?_, ?_, unended⟩
        · rw [List.append_assoc, ← same, chars, List.cons_append, List.take_append_drop]
        · rw [lexemes]
          exact .lexeme spelled stops written

/-! ## 4. Pieces -/

/-- A declaration of a document as it can stand by itself: the keyword, and the text between the
    parentheses. -/
structure Piece where
  keyword : Keyword
  body : String
deriving DecidableEq, Repr

/-- The declaration that a piece contains. -/
def Piece.read (piece : Piece) : Except ParseError Declaration :=
  Parse.text (Parse.bodyOf .finish piece.keyword) piece.body

theorem Piece.read_eq_ok_iff {piece : Piece} {declared : Declaration} :
    piece.read = .ok declared ↔
      ∃ tokens, tokenize piece.body = .ok tokens ∧ piece.keyword.Phrase tokens.items declared :=
  Parse.text_eq_ok_iff (Parse.reads_bodyOf_iff (by decide) (by decide))

/-- What can stand between a declaration and the next. -/
inductive Closing : List Char → Prop where
  | none : Closing []
  | semicolon {gap : List Char} (separates : Trivia gap) : Closing (gap ++ [';'])

/-- The text consists of these pieces. No body contains a closing parenthesis; a comment in it can,
    but then goes to the end of its line. -/
inductive Composed : List Piece → List Char → Prop where
  | finish {gap tail : List Char} (separates : Trivia gap) (ends : Unended tail) :
      Composed [] (gap ++ tail)
  | piece {piece : Piece} {pieces : List Piece} {lexemes : List Lexeme}
      {before between closing rest : List Char} (leads : Trivia before) (separates : Trivia between)
      (written : Written lexemes piece.body.toList)
      (unclosed : ∀ lexeme ∈ lexemes, lexeme.kind ≠ .rightParen) (closes : Closing closing)
      (more : Composed pieces rest) :
      Composed (piece :: pieces) (before ++ (piece.keyword.text.toList ++ (between ++
        '(' :: (piece.body.toList ++ ')' :: (closing ++ rest)))))

/-- The lexemes are those of the pieces, with what the document puts around them. -/
inductive Laid : List Piece → List Lexeme → Prop where
  | nil : Laid [] []
  | cons {piece : Piece} {pieces : List Piece} {lexemes ending rest : List Lexeme} {tokens : Tokens}
      (scanned : tokenize piece.body = .ok tokens)
      (same : tokens.items.map Token.lexeme = lexemes)
      (unclosed : ∀ lexeme ∈ lexemes, lexeme.kind ≠ .rightParen)
      (ends : ending = [] ∨ ending = [⟨.semicolon, ";"⟩]) (more : Laid pieces rest) :
      Laid (piece :: pieces) (⟨.name, piece.keyword.text⟩ :: ⟨.leftParen, "("⟩ ::
        (lexemes ++ ⟨.rightParen, ")"⟩ :: (ending ++ rest)))

/-- A parenthesis ends every token. -/
theorem stops_paren {rest : List Char} (kind : TokenKind) :
    (∀ c ∈ ('(' :: rest).head?, kind.stops c = true) ∧ ∀ c ∈ (')' :: rest).head?, kind.stops c = true := by
  constructor
  · rintro c ⟨rfl⟩
    cases kind <;> decide
  · rintro c ⟨rfl⟩
    cases kind <;> decide

theorem Keyword.spelled (keyword : Keyword) : TokenKind.name.Spelled keyword.text.toList := by
  cases keyword with
  | machine => exact @TokenKind.Spelled.name 'm' "achine".toList (by decide) (by decide)
  | fallibleMachine =>
    exact @TokenKind.Spelled.name 'f' "allible_machine".toList (by decide) (by decide)
  | messages => exact @TokenKind.Spelled.name 'm' "essages".toList (by decide) (by decide)

/-- A text that is composed of pieces has their lexemes. -/
theorem Composed.laid {pieces : List Piece} {text : List Char} (composed : Composed pieces text) :
    ∃ lexemes, Scans text lexemes ∧ Laid pieces lexemes := by
  induction composed with
  | finish separates ends => exact ⟨[], (Scans.unended ends).trivia separates, .nil⟩
  | piece leads separates written unclosed closes more ih =>
    rename_i piece pieces lexemes before between closing rest
    -- from the end to the front, since a token has to know what follows it
    obtain ⟨others, scans, laid⟩ := ih
    obtain ⟨tokens, scanned, same⟩ := written.tokenize
    have behind : ∃ ending, (ending = [] ∨ ending = [⟨.semicolon, ";"⟩]) ∧
        Scans (closing ++ rest) (ending ++ others) := by
      cases closes with
      | none => exact ⟨[], .inl rfl, scans⟩
      | semicolon separates =>
        refine ⟨_, .inr rfl, ?_⟩
        rw [List.append_assoc]
        exact .trivia separates
          (@Scans.cons rest others ⟨.semicolon, ";"⟩ (.punctuation rfl) (fun _ _ => rfl) scans)
    obtain ⟨ending, ends, scans⟩ := behind
    have closed := @Scans.cons _ _ ⟨.rightParen, ")"⟩ (.punctuation rfl) (fun _ _ => rfl) scans
    have inside := Scans.append written (fun kind => (stops_paren kind).2) closed
    have opened := @Scans.cons _ _ ⟨.leftParen, "("⟩ (.punctuation rfl) (fun _ _ => rfl) inside
    refine ⟨_, .trivia leads (@Scans.cons _ _ ⟨.name, piece.keyword.text⟩ piece.keyword.spelled ?_
      (.trivia separates opened)), .cons scanned same unclosed ends laid⟩
    by_cases filled : between = []
    · rw [filled]
      exact (stops_paren .name).1
    · exact separates.stops filled .name

/-- The first parenthesis that is closed cuts in one way. -/
theorem cut_unique {before before' after after' : List Lexeme} {paren paren' : Lexeme}
    (unclosed : ∀ lexeme ∈ before, lexeme.kind ≠ .rightParen)
    (unclosed' : ∀ lexeme ∈ before', lexeme.kind ≠ .rightParen)
    (closes : paren.kind = .rightParen) (closes' : paren'.kind = .rightParen)
    (same : before ++ paren :: after = before' ++ paren' :: after') :
    before = before' ∧ after = after' := by
  induction before generalizing before' with
  | nil =>
    cases before' with
    | nil => exact ⟨rfl, (List.cons_eq_cons.mp same).2⟩
    | cons first' rest' =>
      obtain ⟨rfl, -⟩ := List.cons_eq_cons.mp same
      exact absurd closes (unclosed' _ (List.mem_cons_self ..))
  | cons first rest ih =>
    cases before' with
    | nil =>
      obtain ⟨rfl, -⟩ := List.cons_eq_cons.mp same
      exact absurd closes' (unclosed _ (List.mem_cons_self ..))
    | cons first' rest' =>
      obtain ⟨rfl, behind⟩ := List.cons_eq_cons.mp same
      obtain ⟨rfl, others⟩ := ih (fun lexeme mem => unclosed lexeme (List.mem_cons_of_mem _ mem))
        (fun lexeme mem => unclosed' lexeme (List.mem_cons_of_mem _ mem)) behind
      exact ⟨rfl, others⟩

namespace Laid

variable {pieces : List Piece} {items : List Token} {lexemes : List Lexeme}
  {declarations : List Declaration}

/-- A document begins with no semicolon. -/
theorem not_semicolon (laid : Laid pieces lexemes) {first : Lexeme} {rest : List Lexeme}
    (begins : lexemes = first :: rest) : first.kind ≠ .semicolon := by
  cases laid with
  | nil => cases begins
  | cons =>
    obtain ⟨rfl, -⟩ := List.cons_eq_cons.mp begins
    exact nofun

/-- A document begins with a semicolon no more than what it is laid out from. -/
theorem ending_unique {phrase ending : List Token} {last rest : List Lexeme}
    (ends : last = [] ∨ last = [⟨.semicolon, ";"⟩]) (laid : Laid pieces rest)
    (closes : Grammar.Ending ending) (fits : Document.Phrase phrase declarations)
    (same : ending.map Token.lexeme ++ phrase.map Token.lexeme = last ++ rest) :
    phrase.map Token.lexeme = rest := by
  cases closes with
  | none =>
    rcases ends with rfl | rfl
    · exact same
    · cases fits with
      | nil => cases same
      | cons declares more =>
        obtain ⟨named, -, -, -, -, -⟩ := declares
        have kind := congrArg Lexeme.kind (List.cons_eq_cons.mp same).1
        cases named.symm.trans kind
  | some semicolon =>
    rcases ends with rfl | rfl
    · exact absurd semicolon (laid.not_semicolon same.symm)
    · exact (List.cons_eq_cons.mp same).2

/-- If all pieces are read, so is what they are laid out to. -/
theorem phrase_of_read (laid : Laid pieces lexemes) (same : items.map Token.lexeme = lexemes)
    (read : List.Forall₂ (fun piece declared => piece.read = .ok declared) pieces declarations) :
    ∃ declarations', Document.Phrase items declarations' ∧
      unplaced declarations' = unplaced declarations := by
  induction laid generalizing items declarations with
  | nil =>
    cases read
    obtain rfl := List.map_eq_nil_iff.mp same
    exact ⟨[], .nil, rfl⟩
  | cons scanned inside unclosed ends more ih =>
    rename_i piece pieces lexemes ending rest tokens
    obtain _ | @⟨_, declared, _, declarations, first, others⟩ := read
    obtain ⟨word, _, rfl, word_eq, same⟩ := List.map_eq_cons_iff.mp same
    obtain ⟨opening, _, rfl, opening_eq, same⟩ := List.map_eq_cons_iff.mp same
    obtain ⟨phrase, _, rfl, phrase_eq, same⟩ := List.map_eq_append_iff.mp same
    obtain ⟨closing, _, rfl, closing_eq, same⟩ := List.map_eq_cons_iff.mp same
    obtain ⟨last, behind, rfl, last_eq, same⟩ := List.map_eq_append_iff.mp same
    obtain ⟨rest, fits, rest_eq⟩ := ih same others
    obtain ⟨tokens', scanned', body⟩ := Piece.read_eq_ok_iff.mp first
    cases scanned.symm.trans scanned'
    obtain ⟨declared', body, declared_eq⟩ := body.moved (inside.trans phrase_eq.symm)
    have ended : Grammar.Ending last := by
      rcases ends with rfl | rfl
      · rw [List.map_eq_nil_iff.mp last_eq]
        exact .none
      · obtain ⟨semicolon, nothing, rfl, semicolon_eq, none⟩ := List.map_eq_cons_iff.mp last_eq
        rw [List.map_eq_nil_iff.mp none]
        exact .some (congrArg Lexeme.kind semicolon_eq)
    have declares : declared'.Phrase (word :: opening :: (phrase ++ closing :: last)) :=
      .intro (congrArg Lexeme.kind word_eq) (congrArg Lexeme.text word_eq)
        (congrArg Lexeme.kind opening_eq) body (congrArg Lexeme.kind closing_eq) ended
    refine ⟨declared' :: rest, ?_, ?_⟩
    · have whole := Document.Phrase.cons declares fits
      simpa using whole
    · show unplaced declared' :: unplaced rest = unplaced declared :: unplaced declarations
      rw [declared_eq, rest_eq]

/-- If a document is read, so are the pieces that it is laid out from. -/
theorem read_of_phrase (laid : Laid pieces lexemes) (same : items.map Token.lexeme = lexemes)
    (fits : Document.Phrase items declarations) :
    ∃ declarations', List.Forall₂ (fun piece declared => piece.read = .ok declared) pieces
      declarations' ∧ unplaced declarations' = unplaced declarations := by
  induction laid generalizing items declarations with
  | nil =>
    obtain rfl := List.map_eq_nil_iff.mp same
    obtain rfl := Document.phrase_nil_iff.mp fits
    exact ⟨[], .nil, rfl⟩
  | cons scanned inside unclosed ends more ih =>
    rename_i piece pieces lexemes ending rest tokens
    obtain ⟨rfl, -⟩ | ⟨_, others, declared, declarations, declares, behind, rfl, rfl⟩ :=
      Document.phrase_iff.mp fits
    · cases same
    obtain ⟨named, means, opens, body, closes, ended⟩ := declares
    rename_i keyword word opening closing phrase last
    simp only [List.cons_append, List.append_assoc, List.map_cons, List.map_append,
      List.cons.injEq] at same
    obtain ⟨word_eq, -, same⟩ := same
    obtain rfl : keyword = piece.keyword :=
      Keyword.text_injective (means.symm.trans (congrArg Lexeme.text word_eq))
    have unclosed' : ∀ lexeme ∈ phrase.map Token.lexeme, lexeme.kind ≠ .rightParen := by
      intro lexeme mem
      obtain ⟨token, inside, rfl⟩ := List.mem_map.mp mem
      exact body.unclosed token inside
    obtain ⟨phrase_eq, same⟩ := cut_unique unclosed' unclosed closes rfl same
    obtain ⟨others', read, others_eq⟩ := ih (ending_unique ends more ended behind same) behind
    obtain ⟨declared', body, declared_eq⟩ := body.moved (phrase_eq.trans inside.symm)
    refine ⟨declared' :: others', .cons (Piece.read_eq_ok_iff.mpr ⟨tokens, scanned, body⟩) read, ?_⟩
    show unplaced declared' :: unplaced others' = unplaced declared :: unplaced declarations
    rw [declared_eq, others_eq]

end Laid

/-! ## 5. Documents -/

variable {source : String} {pieces : List Piece} {tokens : Tokens} {declarations : List Declaration}

/-- A text that is composed of pieces is a document just if all of them can be read. -/
theorem Composed.declares (composed : Composed pieces source.toList)
    (read : List.Forall₂ (fun piece declared => piece.read = .ok declared) pieces declarations) :
    ∃ tokens declarations', tokenize source = .ok tokens ∧
      Document.Phrase tokens.items declarations' ∧
      unplaced declarations' = unplaced declarations := by
  obtain ⟨lexemes, scans, laid⟩ := composed.laid
  obtain ⟨tokens, scanned, same⟩ := scans .start
  obtain ⟨declarations', fits, equal⟩ := laid.phrase_of_read same read
  exact ⟨tokens, declarations', scanned, fits, equal⟩

/-- And then they are read as what the document declares. -/
theorem Composed.reads (composed : Composed pieces source.toList)
    (scanned : tokenize source = .ok tokens) (fits : Document.Phrase tokens.items declarations) :
    ∃ declarations', List.Forall₂ (fun piece declared => piece.read = .ok declared) pieces
      declarations' ∧ unplaced declarations' = unplaced declarations := by
  obtain ⟨lexemes, scans, laid⟩ := composed.laid
  obtain ⟨tokens', scanned', same⟩ := scans .start
  cases scanned.symm.trans scanned'
  exact laid.read_of_phrase same fits

/-- A token of one character is written in one way. -/
theorem text_of_punctuation {token : Token} {kind : TokenKind} {c : Char}
    (spelled : token.lexeme.kind.Spelled token.lexeme.text.toList) (fits : token.kind = kind)
    (stands : punctuation? c = some kind) : token.lexeme.text.toList = [c] := by
  obtain ⟨_, text, span⟩ := token
  subst fits
  dsimp only [Token.lexeme] at spelled stands ⊢
  generalize text.toList = chars at spelled
  unfold punctuation? at stands
  cases spelled with
  | arrow points =>
    unfold arrow? at points
    split at points <;> cases points <;> split at stands <;> cases stands
  | punctuation stands' =>
    unfold punctuation? at stands'
    split at stands <;> cases stands <;> split at stands' <;> first | rfl | cases stands'
  | lifetime => split at stands <;> cases stands
  | name => split at stands <;> cases stands

/-- What stands between the declarations of a text. -/
theorem Written.ending {ending : List Token} {lexemes : List Lexeme} {text : List Char}
    (ends : Grammar.Ending ending) (written : Written (ending.map Token.lexeme ++ lexemes) text) :
    ∃ closing rest, text = closing ++ rest ∧ Closing closing ∧ Written lexemes rest := by
  cases ends with
  | none => exact ⟨[], text, rfl, .none, written⟩
  | some semicolon =>
    obtain ⟨gap, rest, rfl, trivia, spelled, others⟩ := written.uncons
    have sign : _ = [';'] := text_of_punctuation spelled semicolon rfl
    rw [sign]
    exact ⟨gap ++ [';'], rest, (List.append_assoc ..).symm, .semicolon trivia, others⟩

/-- A text that was written with the tokens of a document is composed of pieces. -/
theorem composed_of_written {items : List Token} (fits : Document.Phrase items declarations)
    {front tail : List Char} (written : Written (items.map Token.lexeme) front)
    (unended : Unended tail) : ∃ pieces, Composed pieces (front ++ tail) := by
  induction fits generalizing front with
  | nil => exact ⟨[], .finish written.trivia_of_nil unended⟩
  | cons declares more ih =>
    obtain ⟨named, means, opens, body, closes, ends⟩ := declares
    rename_i keyword word opening closing phrase ending
    simp only [List.cons_append, List.append_assoc, List.map_cons, List.map_append] at written
    obtain ⟨before, _, rfl, leads, -, written⟩ := written.uncons
    obtain ⟨between, _, rfl, separates, opening_spelled, written⟩ := written.uncons
    obtain ⟨inside, _, rfl, bodied, written⟩ := written.split
    obtain ⟨gap, _, rfl, trivia, closing_spelled, written⟩ := written.uncons
    obtain ⟨closing', rest, rfl, closed, written⟩ := Written.ending ends written
    obtain ⟨pieces, composed⟩ := ih written
    have left : _ = ['('] := text_of_punctuation opening_spelled opens rfl
    have right : _ = [')'] := text_of_punctuation closing_spelled closes rfl
    have introduces : word.lexeme.text = keyword.text := means
    have unclosed : ∀ lexeme ∈ phrase.map Token.lexeme, lexeme.kind ≠ .rightParen := by
      intro lexeme mem
      obtain ⟨token, inside, rfl⟩ := List.mem_map.mp mem
      exact body.unclosed token inside
    have chars : (String.ofList (inside ++ gap)).toList = inside ++ gap := String.toList_ofList
    have alone : Written _ (Piece.mk keyword (String.ofList (inside ++ gap))).body.toList :=
      chars.symm ▸ bodied.append_trivia trivia
    have whole := Composed.piece leads separates alone unclosed closed composed
    rw [chars] at whole
    rw [introduces, left, right]
    exact ⟨_, by simpa using whole⟩

/-- Every text that is read as a document can be cut into pieces. -/
theorem composed_of_tokenize (scanned : tokenize source = .ok tokens)
    (fits : Document.Phrase tokens.items declarations) : ∃ pieces, Composed pieces source.toList := by
  obtain ⟨front, tail, text, written, unended⟩ := written_of_scan scanned
  rw [text]
  exact composed_of_written fits written unended

/-- A text without comments ends where its last token does, or with blanks. -/
theorem written_of_tokenize (scanned : tokenize source = .ok tokens) (hash : '#' ∉ source.toList)
    (slash : '/' ∉ source.toList) : Written (tokens.items.map Token.lexeme) source.toList := by
  obtain ⟨front, tail, text, written, unended⟩ := written_of_scan scanned
  cases unended with
  | nil =>
    rw [text, List.append_nil]
    exact written
  | comment opens =>
    rcases opens with rfl | rfl
    · exact absurd (by simp [text]) hash
    · exact absurd (by simp [text]) slash

/-- A piece as it stands in a document. -/
def Piece.text (piece : Piece) : List Char :=
  piece.keyword.text.toList ++ '(' :: (piece.body.toList ++ [')'])

/-- Declarations that can be read, one behind the other, are a document. -/
theorem composed_of_read (plain : ∀ piece ∈ pieces, '#' ∉ piece.body.toList ∧ '/' ∉ piece.body.toList)
    (read : ∀ piece ∈ pieces, ∃ declared, piece.read = .ok declared) :
    Composed pieces (pieces.flatMap Piece.text) := by
  induction pieces with
  | nil => exact .finish .nil .nil
  | cons piece rest ih =>
    obtain ⟨⟨hash, slash⟩, plain⟩ := List.forall_mem_cons.mp plain
    obtain ⟨⟨declared, first⟩, read⟩ := List.forall_mem_cons.mp read
    obtain ⟨tokens, scanned, body⟩ := Piece.read_eq_ok_iff.mp first
    have unclosed : ∀ lexeme ∈ tokens.items.map Token.lexeme, lexeme.kind ≠ .rightParen := by
      intro lexeme mem
      obtain ⟨token, inside, rfl⟩ := List.mem_map.mp mem
      exact body.unclosed token inside
    have whole := Composed.piece .nil .nil (written_of_tokenize scanned hash slash) unclosed .none
      (ih plain read)
    simpa [Piece.text] using whole

end MachineSpec
