/-
MachineSpec.Proofs.Spacing — blanks and comments between tokens do not matter.

Let the tokens of a text be written with other blanks and comments before, between and
behind them, with some separation wherever two tokens would run together. The new text has
the same lexemes (`Respaces.tokenize`), because a blank or a comment ends every token. That
it is read alike follows from `MachineSpec.Proofs.Placement`.

* `read_respaced`: both texts have the same kinds and texts of tokens, and are read as a
  type name, a machine or a document with the same result or the same error, up to places.
-/
import MachineSpec.Proofs.Placement

namespace MachineSpec

open Placed (unplaced)

/-- Texts, each with what stands behind it. -/
def spaced : List (String × String) → String
  | [] => ""
  | (text, gap) :: rest => text ++ gap ++ spaced rest

/-- The pieces are these texts with trivia behind them, which only the last of them can lack. -/
structure Respaces (texts : List String) (before : String) (pieces : List (String × String)) :
    Prop where
  texts : pieces.map Prod.fst = texts
  before : Trivia before.toList
  gaps : ∀ piece ∈ pieces, Trivia piece.2.toList
  apart : ∀ piece ∈ pieces.dropLast, piece.2 ≠ ""

theorem written_spaced {lexemes : List Lexeme} {pieces : List (String × String)}
    (spelled : ∀ lexeme ∈ lexemes, lexeme.kind.Spelled lexeme.text.toList)
    (texts : pieces.map Prod.fst = lexemes.map Lexeme.text)
    (gaps : ∀ piece ∈ pieces, Trivia piece.2.toList)
    (apart : ∀ piece ∈ pieces.dropLast, piece.2 ≠ "") :
    Written lexemes (spaced pieces).toList := by
  induction lexemes generalizing pieces with
  | nil =>
    obtain rfl : pieces = [] := by simpa using texts
    exact .nil
  | cons lexeme lexemes ih =>
    cases pieces with
    | nil => simp at texts
    | cons piece rest =>
      obtain ⟨text, gap⟩ := piece
      obtain ⟨rfl, others⟩ := List.cons_eq_cons.mp texts
      have trivia : Trivia gap.toList := gaps _ (List.mem_cons_self ..)
      have behind : Written lexemes (spaced rest).toList := by
        refine ih (fun lexeme mem => spelled lexeme (List.mem_cons_of_mem _ mem)) others
          (fun piece mem => gaps piece (List.mem_cons_of_mem _ mem)) fun piece mem => apart piece ?_
        cases rest with
        | nil => cases mem
        | cons => exact List.mem_cons_of_mem _ mem
      have chars : (spaced ((lexeme.text, gap) :: rest)).toList =
          lexeme.text.toList ++ (gap.toList ++ (spaced rest).toList) := by
        simp [spaced]
      rw [chars]
      refine .lexeme (spelled lexeme (List.mem_cons_self ..)) ?_ (.trivia trivia behind)
      cases rest with
      | nil =>
        by_cases filled : gap.toList = []
        · simp [filled, spaced]
        · exact trivia.stops filled lexeme.kind
      | cons =>
        have filled : gap ≠ "" := apart (lexeme.text, gap) (List.mem_cons_self ..)
        exact trivia.stops (by simpa using filled) lexeme.kind

/-- A text that is written with other trivia has the same tokens. -/
theorem Respaces.tokenize {source before : String} {tokens : Tokens}
    {pieces : List (String × String)} (scanned : tokenize source = .ok tokens)
    (respaces : Respaces (tokens.items.map Token.text) before pieces) :
    ∃ tokens', MachineSpec.tokenize (before ++ spaced pieces) = .ok tokens' ∧
      tokens'.items.map Token.lexeme = tokens.items.map Token.lexeme := by
  have spelled : ∀ lexeme ∈ tokens.items.map Token.lexeme,
      lexeme.kind.Spelled lexeme.text.toList := by
    intro lexeme mem
    obtain ⟨token, found, rfl⟩ := List.mem_map.mp mem
    exact spelled_of_tokenize scanned token found
  have texts : pieces.map Prod.fst = (tokens.items.map Token.lexeme).map Lexeme.text := by
    rw [respaces.texts, List.map_map]
    rfl
  have written := written_spaced spelled texts respaces.gaps respaces.apart
  refine Written.tokenize ?_
  rw [String.toList_append]
  exact .trivia respaces.before written

/-- If the tokens of a text are written with other trivia, the new text has tokens of the same kinds
    and texts. As a type name, as a machine and as a document both texts are read with the same
    result or the same error, up to places, and with the same remarks. -/
theorem read_respaced {source before : String} {tokens : Tokens} {pieces : List (String × String)}
    (scanned : tokenize source = .ok tokens)
    (respaces : Respaces (tokens.items.map Token.text) before pieces) :
    (∃ tokens', tokenize (before ++ spaced pieces) = .ok tokens' ∧
      tokens'.items.map Token.lexeme = tokens.items.map Token.lexeme) ∧
    unplaced (Reference.ofText (before ++ spaced pieces)) = unplaced (Reference.ofText source) ∧
    (∀ fallible, unplaced (Machine.ofText fallible (before ++ spaced pieces)) =
      unplaced (Machine.ofText fallible source)) ∧
    (∀ fallible, (Machine.ofText fallible (before ++ spaced pieces)).toOption.bind
        Machine.unreachableRemark =
      (Machine.ofText fallible source).toOption.bind Machine.unreachableRemark) ∧
    unplaced (Document.ofText (before ++ spaced pieces)) = unplaced (Document.ofText source) ∧
    (Document.read (before ++ spaced pieces)).1.remarks = (Document.read source).1.remarks := by
  obtain ⟨tokens', scanned', lexemes⟩ := respaces.tokenize scanned
  have same : SameTokens (before ++ spaced pieces) source :=
    ⟨tokens', tokens, scanned', scanned, lexemes⟩
  exact ⟨⟨tokens', scanned', lexemes⟩, same.reference, fun _ => same.machine,
    fun _ => same.machine_remark, same.document_ofText, same.document_remarks⟩

/-- The tokens of `Up<T>`. -/
def genericTokens : Tokens :=
  ⟨[⟨.name, "Up", ⟨⟨0, 1, 1⟩, 2⟩⟩, ⟨.less, "<", ⟨⟨2, 1, 3⟩, 1⟩⟩, ⟨.name, "T", ⟨⟨3, 1, 4⟩, 1⟩⟩,
    ⟨.greater, ">", ⟨⟨4, 1, 5⟩, 1⟩⟩], ⟨5, 1, 6⟩⟩

/-- The same tokens with blanks and comments between them. The comments would open arrows and
    close lists if they meant anything. -/
def genericPieces : List (String × String) :=
  [("Up", "#=\n"), ("<", "\n"), ("T", " // >\n\t"), (">", "")]

theorem generic_respaces : Respaces (genericTokens.items.map Token.text) " " genericPieces where
  texts := rfl
  before := show Trivia [' '] from .blank (by decide) .nil
  gaps := by
    have line : Trivia ['\n'] := .blank (by decide) .nil
    have hash : Trivia (['#'] ++ (['='] ++ '\n' :: [])) := .comment (.inl rfl) (by decide) .nil
    have slashes : Trivia (' ' :: (['/', '/'] ++ ([' ', '>'] ++ '\n' :: ['\t']))) :=
      .blank (by decide) (.comment (.inr rfl) (by decide) (.blank (by decide) .nil))
    simp only [genericPieces, List.forall_mem_cons]
    exact ⟨hash, line, slashes, .nil, nofun⟩
  apart := by decide

/-- A type name on one line and on four lines with comments. -/
theorem read_respaced_generic :
    tokenize "Up<T>" = .ok genericTokens ∧
      Respaces (genericTokens.items.map Token.text) " " genericPieces ∧
      unplaced (Reference.ofText (" " ++ spaced genericPieces)) =
        unplaced (Reference.ofText "Up<T>") := by
  have scanned : tokenize "Up<T>" = .ok genericTokens := by rfl
  exact ⟨scanned, generic_respaces, (read_respaced scanned generic_respaces).2.1⟩

end MachineSpec
