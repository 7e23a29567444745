/-
MachineSpec.Proofs.Scanning — which texts have which tokens.

The scanner decides by looking ahead: a name goes on as long as it can, `<` begins an
arrow if `-` follows, and a dot belongs to a name only in front of a word. So a token
is not what it is whatever follows; `TokenKind.stops` says of each kind what may follow
it at once. The rest is `Spelled`, the characters that a kind of token can be written
with. It holds of everything that is scanned (`spelled_of_scan`), and what is spelled
is scanned again as the same token in front of what stops it (`lexeme?_append`).

`Written` puts this together: a text written with some lexemes, and with trivia where
they could run together, has these lexemes for its tokens (`Written.scan`).
-/
import MachineSpec.Token.Scan

namespace MachineSpec

open Text

/-! ## 1. Characters -/

namespace Text

/-- Whether no interval of one list meets one of the other. -/
def apart (left right : List Interval) : Bool :=
  left.all fun a => right.all fun b => a.2 < b.1 || b.2 < a.1

theorem covers_eq_false_of_apart {left right : List Interval} {floor code : Nat}
    (sorted : ascending floor left = true) (sorted' : ascending floor right = true)
    (disjoint : apart left right = true) (covered : covers left code = true) :
    covers right code = false := by
  obtain ⟨a, ha, low, high⟩ := (covers_iff sorted code).mp covered
  refine Bool.eq_false_iff.mpr fun both => ?_
  obtain ⟨b, hb, low', high'⟩ := (covers_iff sorted' code).mp both
  have between := List.all_eq_true.mp (List.all_eq_true.mp disjoint a ha) b hb
  simp only [Bool.or_eq_true, decide_eq_true_eq] at between
  omega

/-- No letter and no numeral is blank. -/
theorem isAlphanumeric_of_isBlank {c : Char} (blank : isBlank c = true) :
    isAlphanumeric c = false := by
  have sorted : ascending 0 blanks = true := by decide
  have noLetter : covers letters c.toNat = false :=
    covers_eq_false_of_apart sorted (by decide +kernel) (by decide +kernel) blank
  have noNumeral : covers numerals c.toNat = false :=
    covers_eq_false_of_apart sorted (by decide +kernel) (by decide +kernel) blank
  simp [isAlphanumeric, isLetter, noLetter, noNumeral]

end Text

theorem isNamePart_of_isNameStart {c : Char} (h : isNameStart c = true) : isNamePart c = true := by
  simp only [isNameStart, isNamePart, Bool.or_eq_true] at h ⊢
  exact h.imp isAlphanumeric_of_isLetter id

theorem isNamePart_of_isBlank {c : Char} (blank : isBlank c = true) : isNamePart c = false := by
  have noLine : c ≠ '_' := by
    rintro rfl
    exact absurd blank (by decide)
  simp [isNamePart, isAlphanumeric_of_isBlank blank, noLine]

/-! ## 2. Names -/

theorem nameTail_part {c : Char} {rest : List Char} (part : isNamePart c = true) :
    nameTail (c :: rest) = nameTail rest + 1 := by
  cases rest with
  | nil => simp [nameTail, part]
  | cons d rest => simp [nameTail, part]

/-- A dot or a colon in front of a word. -/
theorem nameTail_single {c d : Char} {rest : List Char} (part : ¬ isNamePart c = true)
    (joint : ((c == '.' || c == ':') && isNameStart d) = true) :
    nameTail (c :: d :: rest) = nameTail (d :: rest) + 1 := by
  rw [nameTail, if_neg part, if_pos joint]

/-- Two colons in front of a word. -/
theorem nameTail_double {c d : Char} {rest : List Char} (part : ¬ isNamePart c = true)
    (single : ¬ ((c == '.' || c == ':') && isNameStart d) = true)
    (joint : (c == ':' && d == ':' && rest.head?.any isNameStart) = true) :
    nameTail (c :: d :: rest) = nameTail rest + 2 := by
  rw [nameTail, if_neg part, if_neg single, if_pos joint]

/-- What a name does not go on with. -/
def TokenKind.stops : TokenKind → Char → Bool
  | .name, c => !isNamePart c && c != '.' && c != ':'
  | .lifetime, c => !isNamePart c
  | .less, c => c != '-'
  | _, _ => true

theorem nameTail_eq_zero {rest : List Char}
    (stops : ∀ c ∈ rest.head?, TokenKind.stops .name c = true) : nameTail rest = 0 := by
  match rest with
  | [] => rfl
  | [c] =>
    have part : isNamePart c = false := by simp_all [TokenKind.stops]
    simp [nameTail, part]
  | c :: d :: rest =>
    have here : isNamePart c = false ∧ c ≠ '.' ∧ c ≠ ':' := by simp_all [TokenKind.stops]
    simp [nameTail, here]

/-- Behind what is whole a name goes on as from there. -/
theorem nameTail_of_whole {tail next : List Char} (whole : nameTail tail = tail.length) :
    nameTail (tail ++ next) = tail.length + nameTail next := by
  fun_induction nameTail tail with
  | case1 => exact (Nat.zero_add _).symm
  | case2 c part =>
    rw [List.singleton_append, nameTail_part part, Nat.add_comm]
    rfl
  | case3 c part => simp at whole
  | case4 c d rest part ih =>
    rw [List.cons_append, nameTail_part part, ih (by simpa using whole)]
    exact Nat.add_right_comm ..
  | case5 c d rest part joint ih =>
    rw [List.cons_append, List.cons_append, nameTail_single part joint, ← List.cons_append,
      ih (by simpa using whole)]
    exact Nat.add_right_comm ..
  | case6 c d rest part single joint ih =>
    have behind : (rest ++ next).head? = rest.head? := by
      cases rest with
      | nil => simp at joint
      | cons => rfl
    rw [List.cons_append, List.cons_append, nameTail_double part single (behind ▸ joint),
      ih (by simpa using whole)]
    exact Nat.add_right_comm ..
  | case7 => simp at whole

/-- A name stays whole in front of what it does not go on with. -/
theorem nameTail_append {tail next : List Char} (whole : nameTail tail = tail.length)
    (stops : ∀ c ∈ next.head?, TokenKind.stops .name c = true) :
    nameTail (tail ++ next) = tail.length := by
  rw [nameTail_of_whole whole, nameTail_eq_zero stops, Nat.add_zero]

theorem nameTail_le {rest : List Char} : nameTail rest ≤ rest.length := by
  fun_induction nameTail rest <;> simp only [List.length_cons, List.length_nil] at * <;> omega

/-- What belongs to a name makes a name by itself. -/
theorem nameTail_take {rest : List Char} :
    nameTail (rest.take (nameTail rest)) = nameTail rest := by
  fun_induction nameTail rest with
  | case1 => rfl
  | case2 c part => simp [nameTail, part]
  | case3 c part => rfl
  | case4 c d rest part ih => rw [List.take_succ_cons, nameTail_part part, ih]
  | case5 c d rest part joint ih =>
    have start : isNameStart d = true := by simp_all
    cases length : nameTail (d :: rest) with
    | zero => simp [nameTail_part (isNamePart_of_isNameStart start)] at length
    | succ n =>
      rw [length] at ih
      exact (nameTail_single part joint).trans (congrArg (· + 1) ih)
  | case6 c d rest part single joint ih =>
    cases rest with
    | nil => simp at joint
    | cons e rest =>
      have start : isNameStart e = true := by simp_all
      cases length : nameTail (e :: rest) with
      | zero => simp [nameTail_part (isNamePart_of_isNameStart start)] at length
      | succ n =>
        rw [length] at ih
        have begins : nameTail (c :: d :: e :: rest.take n) = nameTail (e :: rest.take n) + 2 :=
          nameTail_double part single joint
        exact begins.trans (congrArg (· + 2) ih)
  | case7 => rfl

/-- What belongs to a name belongs to it in front of more. -/
theorem nameTail_le_of_cut {rest shorter : List Char} (cut : shorter <+: rest) :
    nameTail shorter ≤ nameTail rest := by
  obtain ⟨missing, rfl⟩ := cut
  have length : (shorter.take (nameTail shorter)).length = nameTail shorter :=
    List.length_take_of_le nameTail_le
  have whole := @nameTail_of_whole _ (shorter.drop (nameTail shorter) ++ missing)
    (nameTail_take.trans length.symm)
  rw [← List.append_assoc, List.take_append_drop, length] at whole
  omega

/-- A name is what it is as long as all of it is there. -/
theorem nameTail_of_cut {rest shorter : List Char} (cut : shorter <+: rest)
    (whole : nameTail rest ≤ shorter.length) :
    nameTail shorter = nameTail rest := by
  refine Nat.le_antisymm (nameTail_le_of_cut cut) ?_
  have kept : rest.take (nameTail rest) <+: shorter :=
    List.prefix_of_prefix_length_le (List.take_prefix _ _) cut
      (by rwa [List.length_take_of_le nameTail_le])
  calc nameTail rest = nameTail (rest.take (nameTail rest)) := nameTail_take.symm
    _ ≤ nameTail shorter := nameTail_le_of_cut kept

/-! ## 3. Lexemes -/

/-- A token without its place. -/
structure Lexeme where
  kind : TokenKind
  text : String
deriving DecidableEq, Repr

/-- What a token is, wherever it stands. -/
def Token.lexeme (token : Token) : Lexeme := ⟨token.kind, token.text⟩

/-- The characters that a kind of token can be written with. -/
inductive TokenKind.Spelled : TokenKind → List Char → Prop where
  | arrow {c d : Char} {kind : TokenKind} (points : arrow? c d = some kind) : Spelled kind [c, d]
  | punctuation {c : Char} {kind : TokenKind} (stands : punctuation? c = some kind) :
      Spelled kind [c]
  | lifetime {tail : List Char} (parts : ∀ c ∈ tail, isNamePart c = true) (some : tail ≠ []) :
      Spelled .lifetime ('\'' :: tail)
  | name {c : Char} {tail : List Char} (starts : isNameStart c = true)
      (whole : nameTail tail = tail.length) : Spelled .name (c :: tail)

/-- A name begins with no arrow, no punctuation and no apostrophe. -/
theorem arrow?_eq_none {c d : Char} (start : isNameStart c = true) : arrow? c d = none := by
  unfold arrow?
  split
  all_goals first | rfl | exact absurd start (by decide)

theorem punctuation?_eq_none {c : Char} (start : isNameStart c = true) : punctuation? c = none := by
  unfold punctuation?
  split
  all_goals first | rfl | exact absurd start (by decide)

/-- What can be taken for a token that begins with `c`, and how many characters behind it belong to
    the token. -/
inductive Delivered (c : Char) (rest : List Char) : TokenKind → Nat → Prop where
  | arrow {kind : TokenKind} {d : Char} (next : d ∈ rest.head?) (points : arrow? c d = some kind) :
      Delivered c rest kind 1
  | punctuation {kind : TokenKind} (alone : ∀ d ∈ rest.head?, arrow? c d = none)
      (stands : punctuation? c = some kind) : Delivered c rest kind 0
  | lifetime (quote : c = '\'') (named : rest.takeWhile isNamePart ≠ []) :
      Delivered c rest .lifetime (rest.takeWhile isNamePart).length
  | name (start : isNameStart c = true) : Delivered c rest .name (nameTail rest)

theorem delivered_of_lexeme {c : Char} {rest : List Char} {kind : TokenKind} {more : Nat}
    (delivers : lexeme? c rest = .ok (kind, more)) : Delivered c rest kind more := by
  unfold lexeme? at delivers
  split at delivers
  next arrow points =>
    cases delivers
    obtain ⟨d, next, points⟩ := Option.bind_eq_some_iff.mp points
    exact .arrow next points
  next alone =>
    split at delivers
    next stands =>
      cases delivers
      exact .punctuation (Option.bind_eq_none_iff.mp alone) stands
    next =>
      split at delivers
      next quote =>
        split at delivers
        next => cases delivers
        next length =>
          cases delivers
          exact .lifetime quote fun none => by simp [none] at length
      next =>
        split at delivers
        next start =>
          cases delivers
          exact .name start
        next => cases delivers

/-- Whatever can be taken for a token is taken for it. -/
theorem lexeme?_of_delivered {c : Char} {rest : List Char} {kind : TokenKind} {more : Nat}
    (delivered : Delivered c rest kind more) : lexeme? c rest = .ok (kind, more) := by
  cases delivered with
  | arrow next points =>
    obtain ⟨behind, rfl⟩ := List.head?_eq_some_iff.mp next
    simp [lexeme?, points]
  | punctuation alone stands =>
    simp [lexeme?, Option.bind_eq_none_iff.mpr alone, stands]
  | lifetime quote named =>
    subst quote
    have noArrow : rest.head?.bind (arrow? '\'') = none :=
      Option.bind_eq_none_iff.mpr fun d _ => rfl
    obtain ⟨d, tail, taken⟩ := List.exists_cons_of_ne_nil named
    simp only [lexeme?, noArrow, taken]
    rfl
  | name start =>
    have noArrow : rest.head?.bind (arrow? c) = none :=
      Option.bind_eq_none_iff.mpr fun d _ => arrow?_eq_none start
    have noQuote : c ≠ '\'' := by
      rintro rfl
      exact absurd start (by decide)
    simp only [lexeme?, noArrow, punctuation?_eq_none start, if_neg noQuote, if_pos start]

/-- What is taken for a token is spelled as one. -/
theorem spelled_of_lexeme {c : Char} {rest : List Char} {kind : TokenKind} {more : Nat}
    (delivers : lexeme? c rest = .ok (kind, more)) : kind.Spelled (c :: rest.take more) := by
  cases delivered_of_lexeme delivers with
  | arrow next points =>
    obtain ⟨behind, rfl⟩ := List.head?_eq_some_iff.mp next
    exact .arrow points
  | punctuation alone stands => exact .punctuation stands
  | lifetime quote named =>
    have taken : rest.take (rest.takeWhile isNamePart).length = rest.takeWhile isNamePart :=
      (List.prefix_iff_eq_take.mp (List.takeWhile_prefix _)).symm
    rw [quote, taken]
    exact .lifetime (fun d => List.all_eq_true.mp List.all_takeWhile d) named
  | name start =>
    refine .name start ?_
    rw [nameTail_take, List.length_take, Nat.min_eq_left nameTail_le]

/-- The one punctuation that begins an arrow is `<`. -/
theorem arrow?_eq_none_of_stops {c d : Char} {kind : TokenKind}
    (stands : punctuation? c = some kind) (stops : kind.stops d = true) : arrow? c d = none := by
  unfold arrow?
  split
  · simp [punctuation?] at stands
  · simp [punctuation?] at stands
  · cases stands
    exact absurd stops (by decide)
  · rfl

/-- A token is taken for what it is in front of what its kind does not go on with. -/
theorem lexeme?_append {kind : TokenKind} {c : Char} {tail next : List Char}
    (spelled : kind.Spelled (c :: tail)) (stops : ∀ d ∈ next.head?, kind.stops d = true) :
    lexeme? c (tail ++ next) = .ok (kind, tail.length) := by
  apply lexeme?_of_delivered
  generalize same : c :: tail = text at spelled
  cases spelled with
  | arrow points =>
    cases same
    exact .arrow rfl points
  | punctuation stands =>
    cases same
    exact .punctuation (fun d mem => arrow?_eq_none_of_stops stands (stops d mem)) stands
  | lifetime parts filled =>
    cases same
    have ended : next.takeWhile isNamePart = [] := by
      cases next with
      | nil => rfl
      | cons d next =>
        have part : isNamePart d = false := by simpa [TokenKind.stops] using stops d rfl
        simp [part]
    have taken : (tail ++ next).takeWhile isNamePart = tail := by
      rw [List.takeWhile_append_of_pos parts, ended, List.append_nil]
    have delivered : Delivered '\'' (tail ++ next) .lifetime
        ((tail ++ next).takeWhile isNamePart).length := .lifetime rfl (by rwa [taken])
    rwa [taken] at delivered
  | name start whole =>
    cases same
    rw [← nameTail_append whole stops]
    exact .name start

theorem TokenKind.Spelled.exists_cons {kind : TokenKind} {text : List Char}
    (spelled : kind.Spelled text) : ∃ c tail, text = c :: tail := by
  cases spelled <;> exact ⟨_, _, rfl⟩

/-- A token begins neither blank nor as a comment. -/
theorem TokenKind.Spelled.starts {kind : TokenKind} {c : Char} {tail next : List Char}
    (spelled : kind.Spelled (c :: tail)) :
    isBlank c = false ∧ opensComment c next = false := by
  cases spelled with
  | arrow points =>
    unfold arrow? at points
    split at points <;> first | exact ⟨by decide, rfl⟩ | cases points
  | punctuation stands =>
    unfold punctuation? at stands
    split at stands <;> first | exact ⟨by decide, rfl⟩ | cases stands
  | lifetime => exact ⟨by decide, rfl⟩
  | name start whole =>
    constructor
    · refine Bool.eq_false_iff.mpr fun blank => ?_
      have part := isNamePart_of_isNameStart start
      simp [isNamePart_of_isBlank blank] at part
    · have noHash : c ≠ '#' := by
        rintro rfl
        exact absurd start (by decide)
      have noSlash : c ≠ '/' := by
        rintro rfl
        exact absurd start (by decide)
      simp [opensComment, noHash, noSlash]

theorem TokenKind.Spelled.ne_finish {kind : TokenKind} {text : List Char}
    (spelled : kind.Spelled text) : kind ≠ .finish := by
  cases spelled with
  | arrow points =>
    unfold arrow? at points
    split at points <;> cases points <;> decide
  | punctuation stands =>
    unfold punctuation? at stands
    split at stands <;> cases stands <;> decide
  | lifetime => decide
  | name => decide

/-- The one token that makes an arrow behind `<` is an arrow itself. -/
theorem TokenKind.Spelled.ne_dash {kind : TokenKind} {c : Char} {tail : List Char}
    (spelled : kind.Spelled (c :: tail)) (other : kind ≠ .pushArrow) : c ≠ '-' := by
  rintro rfl
  cases spelled with
  | arrow points =>
    unfold arrow? at points
    split at points <;> simp_all
  | punctuation stands => cases stands
  | name start => exact absurd start (by decide)

/-! ## 4. Scans -/

/-- The token is written with the characters of its kind. -/
def Token.Spelled (token : Token) : Prop := token.kind.Spelled token.text.toList

/-- The tokens of a text are spelled as such. -/
theorem spelled_of_scan {pending : Pending} {here : Position} {text : List Char} {tokens : Tokens}
    (scanned : scan pending here text = .ok tokens) :
    ∀ token ∈ tokens.items, token.Spelled := by
  fun_induction scan pending here text generalizing tokens with
  | case1 =>
    cases scanned
    simp
  | case2 here c rest ih => exact ih scanned
  | case3 left here c rest ih => exact ih scanned
  | case4 here c rest blank ih => exact ih scanned
  | case5 here c rest noBlank comment ih => exact ih scanned
  | case6 => cases scanned
  | case7 => cases scanned
  | case8 here c rest noBlank noComment kind more delivers others behind token =>
    rename_i ih
    cases scanned
    intro found mem
    rcases List.mem_cons.mp mem with rfl | mem
    · show kind.Spelled (String.ofList (c :: rest.take more)).toList
      rw [String.toList_ofList]
      exact spelled_of_lexeme delivers
    · exact ih behind found mem

theorem spelled_of_tokenize {source : String} {tokens : Tokens}
    (scanned : tokenize source = .ok tokens) :
    ∀ token ∈ tokens.items, token.Spelled :=
  spelled_of_scan scanned

theorem after_append {here : Position} {first second : List Char} :
    here.after (first ++ second) = (here.after first).after second := List.foldl_append ..

theorem scan_rest {here : Position} {left text : List Char} :
    scan (.lexeme left.length) here (left ++ text) = scan (.lexeme 0) (here.after left) text := by
  induction left generalizing here with
  | nil => rfl
  | cons c left ih => exact ih

theorem scan_comment {here : Position} {body text : List Char} (line : '\n' ∉ body) :
    scan .comment here (body ++ '\n' :: text) =
      scan (.lexeme 0) (here.after (body ++ ['\n'])) text := by
  induction body generalizing here with
  | nil => rfl
  | cons c body ih =>
    have other : c ≠ '\n' := fun same => line (same ▸ List.mem_cons_self ..)
    rw [List.cons_append, scan, if_neg other]
    exact ih fun mem => line (List.mem_cons_of_mem _ mem)

/-- A token at the beginning of a text. -/
theorem scan_token {kind : TokenKind} {here : Position} {c : Char} {tail next : List Char}
    (spelled : kind.Spelled (c :: tail)) (stops : ∀ d ∈ next.head?, kind.stops d = true) :
    scan (.lexeme 0) here (c :: (tail ++ next)) =
      match scan (.lexeme 0) (here.after (c :: tail)) next with
      | .error error => .error error
      | .ok tokens =>
        .ok ⟨⟨kind, String.ofList (c :: tail), here.span (tail.length + 1)⟩ :: tokens.items,
          tokens.finish⟩ := by
  obtain ⟨noBlank, noComment⟩ : isBlank c = false ∧ opensComment c (tail ++ next) = false :=
    spelled.starts
  rw [scan, noBlank, noComment]
  simp only [Bool.false_eq_true, if_false, lexeme?_append spelled stops, scan_rest, List.take_left]
  rfl

/-! ## 5. Written texts -/

/-- What separates tokens: blanks, and comments with the end of their line. -/
inductive Trivia : List Char → Prop where
  | nil : Trivia []
  | blank {c : Char} {rest : List Char} (blank : isBlank c = true) (more : Trivia rest) :
      Trivia (c :: rest)
  | comment {opener body rest : List Char} (opens : opener = ['#'] ∨ opener = ['/', '/'])
      (line : '\n' ∉ body) (more : Trivia rest) : Trivia (opener ++ (body ++ '\n' :: rest))

theorem stops_of_isBlank {c : Char} {kind : TokenKind} (blank : isBlank c = true) :
    kind.stops c = true := by
  have other {d : Char} (notBlank : isBlank d = false) : c ≠ d := by
    rintro rfl
    simp [blank] at notBlank
  have part := isNamePart_of_isBlank blank
  have dot := other (by decide : isBlank '.' = false)
  have colon := other (by decide : isBlank ':' = false)
  have dash := other (by decide : isBlank '-' = false)
  cases kind <;> simp [TokenKind.stops, part, dot, colon, dash]

/-- Every token ends where trivia begin. -/
theorem Trivia.stops {gap text : List Char} (trivia : Trivia gap) (filled : gap ≠ [])
    (kind : TokenKind) : ∀ c ∈ (gap ++ text).head?, kind.stops c = true := by
  cases trivia with
  | nil => exact absurd rfl filled
  | blank blank =>
    rintro c ⟨rfl⟩
    exact stops_of_isBlank blank
  | comment opens =>
    rcases opens with rfl | rfl
    · rintro c ⟨rfl⟩
      cases kind <;> decide
    · rintro c ⟨rfl⟩
      cases kind <;> decide

theorem scan_trivia {gap text : List Char} (trivia : Trivia gap) {here : Position} :
    scan (.lexeme 0) here (gap ++ text) = scan (.lexeme 0) (here.after gap) text := by
  induction trivia generalizing here with
  | nil => rfl
  | blank blank more ih =>
    rw [List.cons_append, scan, if_pos blank]
    exact ih
  | comment opens line more ih =>
    rename_i opener body rest
    have behind (here : Position) (first : List Char) (line : '\n' ∉ first) :
        scan .comment here (first ++ '\n' :: (rest ++ text)) =
          scan (.lexeme 0) (here.after (first ++ '\n' :: rest)) text := by
      rw [scan_comment line, ih, ← after_append]
      simp
    rcases opens with rfl | rfl
    · have opens : opensComment '#' (body ++ '\n' :: (rest ++ text)) = true := rfl
      simp only [List.append_assoc, List.cons_append, List.nil_append]
      rw [scan, if_neg (by decide), if_pos opens, behind _ _ line]
      rfl
    · have opens : opensComment '/' ('/' :: (body ++ '\n' :: (rest ++ text))) = true := rfl
      simp only [List.append_assoc, List.cons_append, List.nil_append]
      rw [scan, if_neg (by decide), if_pos opens]
      exact behind _ ('/' :: body) (by simpa using line)

/-- The text consists of these lexemes in this order, with trivia where they could run together. -/
inductive Written : List Lexeme → List Char → Prop where
  | nil : Written [] []
  | trivia {gap text : List Char} {lexemes : List Lexeme} (separates : Trivia gap)
      (rest : Written lexemes text) : Written lexemes (gap ++ text)
  | lexeme {lexeme : Lexeme} {text : List Char} {lexemes : List Lexeme}
      (spelled : lexeme.kind.Spelled lexeme.text.toList)
      (stops : ∀ c ∈ text.head?, lexeme.kind.stops c = true) (rest : Written lexemes text) :
      Written (lexeme :: lexemes) (lexeme.text.toList ++ text)

/-- Tokens in front of those of a scan. -/
def Tokens.behind (items : List Token) (tokens : Tokens) : Tokens :=
  ⟨items ++ tokens.items, tokens.finish⟩

/-- What was written has its tokens in front of whatever stops all of them. -/
theorem scan_written {lexemes : List Lexeme} {text : List Char} (written : Written lexemes text)
    {here : Position} :
    ∃ items : List Token, items.map Token.lexeme = lexemes ∧
      ∀ next, (∀ kind : TokenKind, ∀ c ∈ next.head?, kind.stops c = true) →
        scan (.lexeme 0) here (text ++ next) =
          (scan (.lexeme 0) (here.after text) next).map (Tokens.behind items) := by
  induction written generalizing here with
  | nil =>
    refine ⟨[], rfl, fun next _ => ?_⟩
    show scan (.lexeme 0) here next = (scan (.lexeme 0) here next).map (Tokens.behind [])
    cases scan (.lexeme 0) here next <;> rfl
  | trivia separates rest ih =>
    obtain ⟨items, same, goes⟩ := @ih (here.after _)
    refine ⟨items, same, fun next stops => ?_⟩
    rw [List.append_assoc, scan_trivia separates, goes next stops, after_append]
  | lexeme spelled follows rest ih =>
    rename_i lexeme text lexemes
    obtain ⟨kind, word⟩ := lexeme
    obtain ⟨c, tail, chars⟩ := spelled.exists_cons
    dsimp only at spelled follows chars ⊢
    rw [chars] at spelled ⊢
    obtain ⟨items, same, goes⟩ := @ih (here.after (c :: tail))
    refine ⟨⟨kind, String.ofList (c :: tail), here.span (tail.length + 1)⟩ :: items, ?_,
      fun next stops => ?_⟩
    · simp [Token.lexeme, same, ← chars]
    · have behind : ∀ d ∈ (text ++ next).head?, kind.stops d = true := by
        cases text with
        | nil => exact stops kind
        | cons d text => exact follows
      rw [List.append_assoc, List.cons_append, scan_token spelled behind, goes next stops,
        after_append]
      cases scan (.lexeme 0) ((here.after (c :: tail)).after text) next <;> rfl

/-- A text has the tokens that it was written with. -/
theorem Written.scan {lexemes : List Lexeme} {text : List Char} (written : Written lexemes text)
    {here : Position} :
    ∃ tokens, scan (.lexeme 0) here text = .ok tokens ∧
      tokens.items.map Token.lexeme = lexemes := by
  obtain ⟨items, same, goes⟩ := @scan_written _ _ written here
  have alone := goes [] fun _ => nofun
  rw [List.append_nil] at alone
  exact ⟨_, alone, by simpa [Tokens.behind] using same⟩

theorem Written.tokenize {lexemes : List Lexeme} {text : String}
    (written : Written lexemes text.toList) :
    ∃ tokens, tokenize text = .ok tokens ∧ tokens.items.map Token.lexeme = lexemes :=
  written.scan

end MachineSpec
