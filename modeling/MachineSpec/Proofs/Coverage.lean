/-
MachineSpec.Proofs.Coverage — tokens, blanks and comments make up the text.

`Consists` describes the text that tokens were cut from: from a position on it continues
with blanks, comments and tokens, and every token is recorded with the position that has
been reached. It does not say which characters a token has (`Spelled` does), so the scanner
satisfies it by one induction (`consists_of_scan`).

The consequences are numeric. Tokens are the stretches of the text that their spans
describe, in order and without overlap, and between them are only blanks and comments. A
comment is taken without the line feed that ends it, which is a blank.

* `tokens_exact`: all of this for every text that is tokenized.
-/
import MachineSpec.Proofs.Partition
import MachineSpec.Proofs.Positions
import MachineSpec.Proofs.Printing

namespace MachineSpec

open Text

/-! ## 1. Texts and their tokens -/

/-- The number of the first character behind a stretch of text. -/
def Span.stop (span : Span) : Nat := span.offset + span.length

/-- From the position on the text consists of these tokens, with blanks and comments around them. A
    comment goes on to a line feed or to the end. -/
inductive Consists : Position → List Char → List Token → Prop where
  | nil {here : Position} : Consists here [] []
  | blank {here : Position} {c : Char} {text : List Char} {items : List Token}
      (blank : isBlank c = true) (rest : Consists (here.next c) text items) :
      Consists here (c :: text) items
  | comment {here : Position} {c : Char} {line text : List Char} {items : List Token}
      (comment : Unended (c :: line)) (ends : ∀ d ∈ text.head?, d = '\n')
      (rest : Consists (here.after (c :: line)) text items) :
      Consists here (c :: line ++ text) items
  | token {here : Position} {token : Token} {text : List Char} {items : List Token}
      (filled : token.text ≠ "") (place : token.span = here.span token.text.length)
      (rest : Consists (here.after token.text.toList) text items) :
      Consists here (token.text.toList ++ text) (token :: items)

/-- The same of a text in front of which something is open still: the rest of a comment, or the rest
    of a token. -/
def Pending.Consists : Pending → Position → List Char → List Token → Prop
  | .comment, here, text, items => ∃ line rest, text = line ++ rest ∧ '\n' ∉ line ∧
      (∀ d ∈ rest.head?, d = '\n') ∧ MachineSpec.Consists (here.after line) rest items
  | .lexeme left, here, text, items =>
      MachineSpec.Consists (here.after (text.take left)) (text.drop left) items

/-- A comment is one still if it is cut off at the end of its line. -/
theorem opensComment_of_append {c : Char} {line rest : List Char}
    (opens : opensComment c (line ++ rest) = true) (ends : ∀ d ∈ rest.head?, d = '\n') :
    opensComment c line = true := by
  cases line with
  | cons d line => exact opens
  | nil =>
    cases rest with
    | nil => exact opens
    | cons d rest =>
      obtain rfl : d = '\n' := ends d rfl
      simpa [opensComment] using opens

/-- A text that has tokens consists of them. -/
theorem consists_of_scan {pending : Pending} {here : Position} {text : List Char} {tokens : Tokens}
    (scanned : scan pending here text = .ok tokens) : pending.Consists here text tokens.items := by
  fun_induction scan pending here text generalizing tokens with
  | case1 pending here =>
    cases scanned
    cases pending with
    | comment => exact ⟨[], [], rfl, by simp, by simp, .nil⟩
    | lexeme left => simpa [Pending.Consists] using Consists.nil
  | case2 here c rest ih =>
    have behind := ih scanned
    by_cases ends : c = '\n'
    · rw [if_pos ends] at behind
      subst ends
      exact ⟨[], _, rfl, by simp, by simp, .blank (by decide) behind⟩
    · rw [if_neg ends] at behind
      obtain ⟨line, rest, rfl, within, stops, consists⟩ := behind
      exact ⟨c :: line, rest, rfl, by simp [within, Ne.symm ends], stops, consists⟩
  | case3 left here c rest ih => exact ih scanned
  | case4 here c rest blank ih => exact .blank blank (ih scanned)
  | case5 here c rest noBlank opens ih =>
    obtain ⟨line, rest, rfl, within, stops, consists⟩ := ih scanned
    exact .comment (unended_of_comment (opensComment_of_append opens stops) within) stops consists
  | case6 => cases scanned
  | case7 => cases scanned
  | case8 here c rest noBlank noComment kind more delivers others behind token =>
    rename_i ih
    cases scanned
    have chars : token.text.toList = c :: rest.take more := String.toList_ofList
    have length : token.text.length = more + 1 := by
      rw [← String.length_toList, chars, List.length_cons,
        List.length_take_of_le (lexeme?_le delivers)]
    have consists : MachineSpec.Consists here (token.text.toList ++ rest.drop more)
        (token :: others.items) := by
      refine .token (fun none => ?_) ?_ ?_
      · rw [none] at length
        cases length
      · rw [length]
      · rw [chars]
        exact ih behind
    rw [chars, List.cons_append, List.take_append_drop] at consists
    exact consists

/-! ## 2. Places -/

namespace Consists

variable {here : Position} {text : List Char} {items : List Token}

/-- Every token is a stretch of the text, at the position that is reached in front of it. -/
theorem found (consists : Consists here text items) : ∀ token ∈ items, token.text ≠ "" ∧
    ∃ before after, text = before ++ (token.text.toList ++ after) ∧
      token.span = (here.after before).span token.text.length := by
  induction consists with
  | nil => simp
  | @blank here c text items _ _ ih =>
    intro token mem
    obtain ⟨filled, before, after, rfl, place⟩ := ih token mem
    exact ⟨filled, c :: before, after, rfl, place⟩
  | @comment here c line text items _ _ _ ih =>
    intro token mem
    obtain ⟨filled, before, after, rfl, place⟩ := ih token mem
    exact ⟨filled, c :: line ++ before, after, (List.append_assoc ..).symm,
      place.trans (by rw [← after_append])⟩
  | @token here first text items filled place _ ih =>
    refine List.forall_mem_cons.mpr ⟨⟨filled, [], text, rfl, place⟩, fun token mem => ?_⟩
    obtain ⟨filled', before, after, rfl, place'⟩ := ih token mem
    exact ⟨filled', first.text.toList ++ before, after, (List.append_assoc ..).symm,
      place'.trans (by rw [← after_append])⟩

/-- No token begins in front of the text. -/
theorem offset_le (consists : Consists here text items) :
    ∀ token ∈ items, here.offset ≤ token.span.offset := by
  intro token mem
  obtain ⟨-, before, -, -, place⟩ := consists.found token mem
  rw [place]
  show here.offset ≤ (here.after before).offset
  rw [Position.after_offset]
  omega

/-- Tokens stand one behind the other. -/
theorem ordered (consists : Consists here text items) :
    items.Pairwise fun first second => first.span.stop ≤ second.span.offset := by
  induction consists with
  | nil => exact .nil
  | blank _ _ ih => exact ih
  | comment _ _ _ ih => exact ih
  | @token here first text items _ place rest ih =>
    refine .cons (fun second mem => ?_) ih
    have later := rest.offset_le second mem
    rw [Position.after_offset, String.length_toList] at later
    rw [place]
    exact later

/-- All end within the text. -/
theorem stop_le (consists : Consists here text items) :
    ∀ token ∈ items, token.span.stop ≤ here.offset + text.length := by
  intro token mem
  obtain ⟨-, before, after, rfl, place⟩ := consists.found token mem
  rw [place]
  show (here.after before).offset + token.text.length ≤ _
  rw [Position.after_offset, List.length_append, List.length_append, String.length_toList]
  omega

end Consists

/-! ## 3. What is in between -/

/-- The character with this number is none of a token: it is blank, or it belongs to a comment that
    goes on to a line feed or to the end of the text, and no token has any part of that. -/
inductive Between (offset : Nat) (items : List Token) (text : List Char) (number : Nat) : Prop where
  | blank {c : Char} (here : text[number]? = some c) (blank : isBlank c = true)
  | comment (before : List Char) {line after : List Char} (split : text = before ++ (line ++ after))
      (within : before.length ≤ number ∧ number < before.length + line.length)
      (comment : Unended line) (ends : ∀ d ∈ after.head?, d = '\n')
      (apart : ∀ token ∈ items, token.span.stop ≤ offset + before.length ∨
        offset + (before.length + line.length) ≤ token.span.offset)

namespace Between

variable {offset number : Nat} {items : List Token} {text : List Char}

/-- What is passed in front of a text changes the numbers, and nothing else. -/
theorem behind {front : List Char} {earlier : List Token}
    (passed : ∀ token ∈ earlier, token.span.stop ≤ offset + front.length)
    (between : Between (offset + front.length) items text number) :
    Between offset (earlier ++ items) (front ++ text) (front.length + number) := by
  cases between with
  | blank here blank =>
    refine .blank ?_ blank
    rwa [List.getElem?_append_right (by omega), Nat.add_sub_cancel_left]
  | @comment before line after split within comment ends apart =>
    refine .comment (front ++ before) (by rw [split, List.append_assoc]) ?_ comment ends
      fun token mem => ?_
    · rw [List.length_append]
      omega
    · rw [List.length_append]
      rcases List.mem_append.mp mem with mem | mem
      · have := passed token mem
        omega
      · have := apart token mem
        omega

end Between

/-- The token has the character with this number. -/
def Token.Covers (token : Token) (number : Nat) : Prop :=
  token.span.offset ≤ number ∧ number < token.span.stop

instance (token : Token) (number : Nat) : Decidable (token.Covers number) :=
  inferInstanceAs (Decidable (_ ∧ _))

/-- The characters with these numbers belong to tokens or stand between them. -/
def Accounted (offset : Nat) (items : List Token) (text : List Char) (length : Nat) : Prop :=
  ∀ number < length, (∃ token ∈ items, token.Covers (offset + number)) ∨
    Between offset items text number

/-- Behind what is accounted for comes what is accounted for by itself. -/
theorem Accounted.append {offset : Nat} {items : List Token} {text : List Char}
    (earlier : List Token) (front : List Char)
    (first : Accounted offset (earlier ++ items) (front ++ text) front.length)
    (passed : ∀ token ∈ earlier, token.span.stop ≤ offset + front.length)
    (rest : Accounted (offset + front.length) items text text.length) :
    Accounted offset (earlier ++ items) (front ++ text) (front ++ text).length := by
  intro number short
  by_cases here : number < front.length
  · exact first number here
  obtain ⟨further, rfl⟩ := Nat.exists_eq_add_of_le (Nat.le_of_not_lt here)
  rw [List.length_append] at short
  rcases rest further (by omega) with ⟨token, mem, covers⟩ | between
  · rw [Nat.add_assoc] at covers
    exact .inl ⟨token, List.mem_append_right _ mem, covers⟩
  · exact .inr (between.behind passed)

/-- There is nothing else in a text than its tokens and what may stand between them. -/
theorem Consists.accounted {here : Position} {text : List Char} {items : List Token}
    (consists : Consists here text items) : Accounted here.offset items text text.length := by
  induction consists with
  | nil => exact fun number short => absurd short (Nat.not_lt_zero _)
  | @blank here c text items blank rest ih =>
    have ih : Accounted (here.after [c]).offset items text text.length := ih
    rw [Position.after_offset] at ih
    refine Accounted.append [] [c] (fun number short => .inr ?_) (by simp) ih
    obtain rfl : number = 0 := Nat.lt_one_iff.mp short
    exact .blank rfl blank
  | @comment here c line text items comment ends rest ih =>
    rw [Position.after_offset] at ih
    refine Accounted.append [] (c :: line) (fun number short => .inr ?_) (by simp) ih
    refine .comment [] rfl ⟨Nat.zero_le _, by simpa using short⟩ comment ends
      fun token mem => .inr ?_
    have later := rest.offset_le token mem
    rw [Position.after_offset] at later
    simpa using later
  | @token here first text items filled place rest ih =>
    rw [Position.after_offset] at ih
    have stop : first.span.stop = here.offset + first.text.toList.length := by
      rw [place, String.length_toList]
      rfl
    have start : first.span.offset = here.offset := congrArg (fun span => span.offset) place
    refine Accounted.append [first] _ (fun number short => .inl ?_) (by simp [stop]) ih
    exact ⟨first, List.mem_cons_self .., by omega, by omega⟩

/-! ## 4. Main theorem -/

/-- What the tokens of a text say of the text. Characters are counted from zero, lines and columns
    from one. -/
structure Tokens.Exact (tokens : Tokens) (text : List Char) : Prop where
  /-- The last token stands for the end of the text, behind all characters. -/
  finish : tokens.all = tokens.items ++ [⟨.finish, "", tokens.finish.span 0⟩] ∧
    tokens.finish.offset = text.length
  /-- No other token does. -/
  others : ∀ token ∈ tokens.items, token.kind ≠ .finish
  /-- All others are stretches of the text. -/
  slices : ∀ token ∈ tokens.items, token.text ≠ "" ∧
    token.span.length = token.text.length ∧
    (text.drop token.span.offset).take token.span.length = token.text.toList
  /-- They stand one behind the other. -/
  ordered : tokens.all.Pairwise fun first second => first.span.stop ≤ second.span.offset
  /-- What belongs to none of them is blank or a comment. -/
  between : ∀ number < text.length, (∀ token ∈ tokens.items, ¬ token.Covers number) →
    Between 0 tokens.items text number
  /-- Lines and columns are those of the place. -/
  placed : ∀ token ∈ tokens.all, token.span.toPosition.Fits text

/-- The tokens of a text are exactly what their spans say, and the rest of the text is blanks and
    comments. -/
theorem tokens_exact {source : String} {tokens : Tokens} (scanned : tokenize source = .ok tokens) :
    tokens.Exact source.toList := by
  have consists : Consists .start source.toList tokens.items := consists_of_scan scanned
  have ends : tokens.finish.offset = source.toList.length := by
    rw [(along_of_scan scanned).2, Position.after_offset]
    exact Nat.zero_add _
  refine ⟨⟨rfl, ends⟩, fun token mem => (spelled_of_tokenize scanned token mem).ne_finish,
    fun token mem => ?_, ?_, fun number short none => ?_, fits_of_tokenize scanned⟩
  · obtain ⟨filled, before, after, split, place⟩ := consists.found token mem
    have offset : token.span.offset = before.length := by
      rw [place]
      exact Position.after_offset.trans (Nat.zero_add _)
    have length : token.span.length = token.text.length := congrArg Span.length place
    refine ⟨filled, length, ?_⟩
    rw [split, offset, length, List.drop_left, ← String.length_toList, List.take_left]
  · refine List.pairwise_append.mpr ⟨consists.ordered, List.pairwise_singleton .., ?_⟩
    intro token mem last isLast
    obtain rfl := List.mem_singleton.mp isLast
    have within : token.span.stop ≤ 0 + source.toList.length := consists.stop_le token mem
    show token.span.stop ≤ tokens.finish.offset
    omega
  · rcases consists.accounted number short with ⟨token, mem, covers⟩ | between
    · have covers : token.Covers (0 + number) := covers
      exact absurd (Nat.zero_add number ▸ covers) (none token mem)
    · exact between

/-- The tokens of `On<Dim> # => Off` with `=>pkg::Off//` behind a tab and a blank on the next line. -/
def remarkedTokens : Tokens where
  items := [⟨.name, "On", ⟨⟨0, 1, 1⟩, 2⟩⟩, ⟨.less, "<", ⟨⟨2, 1, 3⟩, 1⟩⟩,
    ⟨.name, "Dim", ⟨⟨3, 1, 4⟩, 3⟩⟩, ⟨.greater, ">", ⟨⟨6, 1, 7⟩, 1⟩⟩,
    ⟨.transitionArrow, "=>", ⟨⟨19, 2, 3⟩, 2⟩⟩, ⟨.name, "pkg::Off", ⟨⟨21, 2, 5⟩, 8⟩⟩]
  finish := ⟨31, 2, 15⟩

/-- An arrow within a comment is not a token. -/
theorem tokens_exact_remark :
    tokenize "On<Dim> # => Off\n\t =>pkg::Off//" = .ok remarkedTokens ∧
      remarkedTokens.Exact "On<Dim> # => Off\n\t =>pkg::Off//".toList ∧
      Between 0 remarkedTokens.items "On<Dim> # => Off\n\t =>pkg::Off//".toList 10 := by
  have scanned : tokenize "On<Dim> # => Off\n\t =>pkg::Off//" = .ok remarkedTokens :=
    eq_ok_of_toOption (by decide +kernel)
  have exact := tokens_exact scanned
  exact ⟨scanned, exact, exact.between 10 (by decide) (by decide)⟩

end MachineSpec
