/-
MachineSpec.Proofs.Refusal — the place of a lexical error.

A scan that fails returns its error only. `recognise` is the same scan together with the
tokens recognised so far (`scan_eq_recognise`).

The scanner looks ahead: two characters for an arrow or a comment, three for a double colon,
and names and lifetimes are as long as possible. So a prefix of a text could have other
tokens than the text. Up to the error it has not: a token is recognised as soon as all its
characters are there (`Delivered.of_cut`), and what is rejected is rejected before any
continuation (`Declined.of_cut`).

The induction is on the scan, for every cut of the text behind the current position
(`StopsAt`). At an error no token and no comment is open (`Pending.least`), and this is what
a cut has to preserve.

* `tokenize_error_locates`: the error is one character long, the text before it has the
  tokens recognised so far, and every prefix that contains it has the same error.
-/
import MachineSpec.Proofs.Positions

namespace MachineSpec

open Text

/-! ## 1. What was recognised -/

/-- What a scan has when it ends: the tokens it recognised, and the fault if one ended it. -/
structure Recognised where
  items : List Token
  fault : Option ParseError
deriving DecidableEq, Repr

/-- The scan of the rest of a text, which keeps what it recognised in front of a fault. -/
def recognise : Pending → Position → List Char → Recognised
  | _, _, [] => ⟨[], none⟩
  | .comment, here, c :: rest =>
    recognise (if c = '\n' then .lexeme 0 else .comment) (here.next c) rest
  | .lexeme (left + 1), here, c :: rest => recognise (.lexeme left) (here.next c) rest
  | .lexeme 0, here, c :: rest =>
    if isBlank c then recognise (.lexeme 0) (here.next c) rest
    else if opensComment c rest then recognise .comment (here.next c) rest
    else
      match lexeme? c rest with
      | .error cause => ⟨[], some ⟨cause, here.span 1⟩⟩
      | .ok (kind, more) =>
        let token := ⟨kind, String.ofList (c :: rest.take more), here.span (more + 1)⟩
        let behind := recognise (.lexeme more) (here.next c) rest
        ⟨token :: behind.items, behind.fault⟩

/-- Both are the same scan. -/
theorem scan_eq_recognise {pending : Pending} {here : Position} {text : List Char} :
    scan pending here text =
      (recognise pending here text).fault.elim
        (.ok ⟨(recognise pending here text).items, here.after text⟩) .error := by
  fun_induction recognise pending here text with
  | case1 => simp [scan, Position.after]
  | case2 here c rest ih => rw [scan]; exact ih
  | case3 left here c rest ih => rw [scan]; exact ih
  | case4 here c rest blank ih => rw [scan, if_pos blank]; exact ih
  | case5 here c rest noBlank opens ih => rw [scan, if_neg noBlank, if_pos opens]; exact ih
  | case6 here c rest noBlank noComment cause refused =>
    rw [scan, if_neg noBlank, if_neg noComment, refused]
    rfl
  | case7 here c rest noBlank noComment kind more delivers token behind ih =>
    rw [scan, if_neg noBlank, if_neg noComment, delivers]
    dsimp only
    rw [ih]
    cases (recognise (.lexeme more) (here.next c) rest).fault <;> rfl

/-! ## 2. Lexemes of texts that are cut off -/

variable {c : Char} {rest shorter : List Char} {kind : TokenKind} {more : Nat}
  {cause : Malformation}

theorem head?_of_cut (cut : shorter <+: rest) : ∀ d ∈ shorter.head?, d ∈ rest.head? := by
  obtain ⟨missing, rfl⟩ := cut
  cases shorter with
  | nil => nofun
  | cons d shorter => exact fun _ mem => mem

theorem takeWhile_of_cut {p : Char → Bool} (cut : shorter <+: rest)
    (whole : (rest.takeWhile p).length ≤ shorter.length) :
    shorter.takeWhile p = rest.takeWhile p := by
  obtain ⟨missing, rfl⟩ := cut
  rw [List.takeWhile_append] at whole ⊢
  split
  next all =>
    rw [if_pos all, List.length_append] at whole
    have none : missing.takeWhile p = [] := List.length_eq_zero_iff.mp (by omega)
    rw [none, List.append_nil]
    exact (List.takeWhile_prefix p).eq_of_length all
  next => rfl

/-- So it is in front of less, if nothing that belongs to it is missing. -/
theorem Delivered.of_cut (delivered : Delivered c rest kind more) (cut : shorter <+: rest)
    (whole : more ≤ shorter.length) : Delivered c shorter kind more := by
  cases delivered with
  | arrow next points =>
    obtain _ | ⟨d, shorter⟩ := shorter
    · cases whole
    obtain rfl := Option.mem_unique (head?_of_cut cut d rfl) next
    exact .arrow rfl points
  | punctuation alone stands =>
    exact .punctuation (fun d mem => alone d (head?_of_cut cut d mem)) stands
  | lifetime quote named =>
    rw [← takeWhile_of_cut cut whole] at named ⊢
    exact .lifetime quote named
  | name start =>
    rw [← nameTail_of_cut cut whole]
    exact .name start

/-- What can be taken for no token, and why. -/
inductive Declined (c : Char) (rest : List Char) : Malformation → Prop where
  | lifetime (quote : c = '\'') (unnamed : ∀ d ∈ rest.head?, isNamePart d = false) :
      Declined c rest .lifetimeWithoutName
  | stray (alone : ∀ d ∈ rest.head?, arrow? c d = none) (noMark : punctuation? c = none)
      (noQuote : c ≠ '\'') (noName : isNameStart c = false) :
      Declined c rest (.strayCharacter c)

theorem lexeme?_eq_error_iff : lexeme? c rest = .error cause ↔ Declined c rest cause := by
  constructor
  · intro refused
    unfold lexeme? at refused
    split at refused
    next => cases refused
    next alone =>
      have alone := Option.bind_eq_none_iff.mp alone
      split at refused
      next => cases refused
      next noMark =>
        split at refused
        next quote =>
          split at refused
          next none =>
            cases refused
            refine .lifetime quote fun d mem => Bool.eq_false_iff.mpr fun part => ?_
            obtain ⟨tail, rfl⟩ := List.head?_eq_some_iff.mp mem
            simp [part] at none
          next => cases refused
        next noQuote =>
          split at refused
          next => cases refused
          next noName =>
            cases refused
            exact .stray alone noMark noQuote (Bool.eq_false_iff.mpr noName)
  · intro declined
    cases declined with
    | lifetime quote unnamed =>
      subst quote
      have noArrow : rest.head?.bind (arrow? '\'') = none :=
        Option.bind_eq_none_iff.mpr fun d _ => rfl
      have nothing : rest.takeWhile isNamePart = [] := by
        cases rest with
        | nil => rfl
        | cons d rest => simp [unnamed d rfl]
      simp only [lexeme?, noArrow, nothing]
      rfl
    | stray alone noMark noQuote noName =>
      simp [lexeme?, Option.bind_eq_none_iff.mpr alone, noMark, noQuote, noName]

/-- The reason does not depend on what is missing. -/
theorem Declined.of_cut (declined : Declined c rest cause) (cut : shorter <+: rest) :
    Declined c shorter cause := by
  cases declined with
  | lifetime quote unnamed =>
    exact .lifetime quote fun d mem => unnamed d (head?_of_cut cut d mem)
  | stray alone noMark noQuote noName =>
    exact .stray (fun d mem => alone d (head?_of_cut cut d mem)) noMark noQuote noName

/-! ## 3. Scans of texts that are cut off -/

/-- A comment is one as long as its second character is there. -/
theorem opensComment_of_cut (cut : shorter <+: rest) (filled : 1 ≤ shorter.length) :
    opensComment c shorter = opensComment c rest := by
  obtain _ | ⟨d, shorter⟩ := shorter
  · cases filled
  have next : rest.head? = some d := head?_of_cut cut d rfl
  rw [opensComment, opensComment, next]
  rfl

theorem not_opensComment_of_cut (cut : shorter <+: rest)
    (noComment : ¬ opensComment c rest = true) :
    ¬ opensComment c shorter = true := by
  obtain _ | ⟨d, shorter⟩ := shorter
  · intro opens
    simp_all [opensComment]
  · rwa [opensComment_of_cut cut (Nat.le_add_left ..)]

/-- How many characters a text has at least if nothing is open at its end. -/
def Pending.least : Pending → Nat
  | .comment => 1
  | .lexeme left => left

/-- The scan comes to its fault behind these characters. -/
structure StopsAt (pending : Pending) (here : Position) (text : List Char) (error : ParseError)
    (before : List Char) : Prop where
  cut : before <+: text
  short : before.length < text.length
  closed : pending.least ≤ before.length
  place : error.span = (here.after before).span 1
  recognised : scan pending here before =
    .ok ⟨(recognise pending here text).items, here.after before⟩
  onwards : ∀ longer, longer <+: text → before.length < longer.length →
    scan pending here longer = .error error

theorem map_behind_nil {scanned : Except ParseError Tokens} :
    scanned.map (Tokens.behind []) = scanned := by
  cases scanned <;> rfl

/-- One character more in front, which opens or closes something or begins a token. -/
theorem StopsAt.cons {pending next : Pending} {here : Position} {error : ParseError}
    {before : List Char} (items : List Token)
    (stops : StopsAt next (here.next c) rest error before)
    (closed : pending.least ≤ before.length + 1)
    (goes : ∀ longer, longer <+: rest → next.least ≤ longer.length →
      scan pending here (c :: longer) =
        (scan next (here.next c) longer).map (Tokens.behind items))
    (recognises : (recognise pending here (c :: rest)).items =
      items ++ (recognise next (here.next c) rest).items) :
    StopsAt pending here (c :: rest) error (c :: before) where
  cut := List.cons_prefix_cons.mpr ⟨rfl, stops.cut⟩
  short := Nat.succ_lt_succ stops.short
  closed := closed
  place := stops.place
  recognised := by
    rw [goes before stops.cut stops.closed, stops.recognised, recognises]
    rfl
  onwards longer kept more := by
    obtain _ | ⟨d, longer⟩ := longer
    · cases more
    obtain ⟨rfl, kept_rest⟩ := List.cons_prefix_cons.mp kept
    have more_rest := Nat.lt_of_succ_lt_succ more
    have enough : next.least ≤ longer.length := Nat.le_trans stops.closed (Nat.le_of_lt more_rest)
    rw [goes longer kept_rest enough, stops.onwards longer kept_rest more_rest]
    rfl

/-- A scan that fails comes to its fault, in the text and in every cut that holds the character
    there. -/
theorem stopsAt_of_fault {pending : Pending} {here : Position} {text : List Char}
    {error : ParseError} (failed : scan pending here text = .error error) :
    ∃ before, StopsAt pending here text error before := by
  fun_induction scan pending here text with
  | case1 => cases failed
  | case2 here c rest ih =>
    obtain ⟨before, stops⟩ := ih failed
    exact ⟨c :: before, stops.cons [] (Nat.le_add_left ..) (fun _ _ _ => map_behind_nil.symm) rfl⟩
  | case3 left here c rest ih =>
    obtain ⟨before, stops⟩ := ih failed
    exact ⟨c :: before, stops.cons [] (Nat.succ_le_succ stops.closed)
      (fun _ _ _ => map_behind_nil.symm) rfl⟩
  | case4 here c rest blank ih =>
    obtain ⟨before, stops⟩ := ih failed
    refine ⟨c :: before, stops.cons [] (Nat.zero_le _) (fun longer _ _ => ?_) ?_⟩
    · rw [scan, if_pos blank, map_behind_nil]
    · rw [recognise, if_pos blank]
      rfl
  | case5 here c rest noBlank opens ih =>
    obtain ⟨before, stops⟩ := ih failed
    refine ⟨c :: before, stops.cons [] (Nat.zero_le _) (fun longer kept filled => ?_) ?_⟩
    · rw [scan, if_neg noBlank, if_pos ((opensComment_of_cut kept filled).trans opens),
        map_behind_nil]
    · rw [recognise, if_neg noBlank, if_pos opens]
      rfl
  | case6 here c rest noBlank noComment cause declines =>
    cases failed
    refine ⟨[], List.nil_prefix, Nat.zero_lt_succ _, Nat.le_refl _, rfl, ?_, ?_⟩
    · rw [recognise, if_neg noBlank, if_neg noComment, declines]
      rfl
    · intro longer kept filled
      obtain _ | ⟨d, longer⟩ := longer
      · cases filled
      obtain ⟨rfl, kept_rest⟩ := List.cons_prefix_cons.mp kept
      have declined := (lexeme?_eq_error_iff.mp declines).of_cut kept_rest
      rw [scan, if_neg noBlank, if_neg (not_opensComment_of_cut kept_rest noComment),
        lexeme?_eq_error_iff.mpr declined]
  | case7 here c rest noBlank noComment kind more delivers fault behind ih =>
    cases failed
    obtain ⟨before, stops⟩ := ih behind
    refine ⟨c :: before, stops.cons
      [⟨kind, String.ofList (c :: rest.take more), here.span (more + 1)⟩] (Nat.zero_le _)
      (fun longer kept whole => ?_) ?_⟩
    · have delivered := (delivered_of_lexeme delivers).of_cut kept whole
      have same : longer.take more = rest.take more := by
        obtain ⟨missing, rfl⟩ := kept
        exact (List.take_append_of_le_length whole).symm
      rw [scan, if_neg noBlank, if_neg (not_opensComment_of_cut kept noComment),
        lexeme?_of_delivered delivered]
      dsimp only
      rw [same]
      cases scan (.lexeme more) (here.next c) longer <;> rfl
    · rw [recognise, if_neg noBlank, if_neg noComment, delivers]
      rfl
  | case8 => cases failed

/-! ## 4. Main theorem -/

/-- What was recognised of a whole text. -/
def recognised (source : String) : Recognised := recognise (.lexeme 0) .start source.toList

/-- The text that the first characters of a text make. -/
def cutOff (source : String) (length : Nat) : String := String.ofList (source.toList.take length)

/-- What a lexical error says about its text. -/
structure ParseError.Locates (error : ParseError) (source : String) : Prop where
  /-- It is at one character of the text. -/
  within : error.span.offset < source.toList.length
  single : error.span.length = 1
  /-- Its line and column are those of the place. -/
  placed : error.span.toPosition.Fits source.toList
  /-- In front of it the text has the tokens that were recognised, and it ends there. -/
  before : tokenize (cutOff source error.span.offset) =
    .ok ⟨(recognised source).items, error.span.toPosition⟩
  /-- What is cut off behind it has the same fault. -/
  onwards : ∀ length, error.span.offset < length → length ≤ source.toList.length →
    tokenize (cutOff source length) = .error error

/-- A text has either tokens or an error. An error is at a single character: the text before it has
    the tokens recognised so far, and every longer prefix fails with the same error. -/
theorem tokenize_error_locates :
    (∀ source, tokenize source =
      (recognised source).fault.elim
        (.ok ⟨(recognised source).items, Position.start.after source.toList⟩) .error) ∧
    ∀ source error, tokenize source = .error error → error.Locates source := by
  refine ⟨fun source => scan_eq_recognise, fun source error failed => ?_⟩
  obtain ⟨before, stops⟩ := stopsAt_of_fault failed
  have offset : error.span.offset = before.length := by
    rw [stops.place]
    exact Position.after_offset.trans (Nat.zero_add _)
  refine ⟨offset ▸ stops.short, by rw [stops.place]; rfl, fits_of_tokenize_error failed, ?_, ?_⟩
  · rw [tokenize, cutOff, String.toList_ofList, offset, ← List.prefix_iff_eq_take.mp stops.cut,
      stops.place]
    exact stops.recognised
  · intro length behind within
    rw [tokenize, cutOff, String.toList_ofList]
    refine stops.onwards _ (List.take_prefix _ _) ?_
    rwa [List.length_take_of_le within, ← offset]

/-- The dot of `Off.1`, behind which no word begins. -/
def strayDot : ParseError := ⟨.strayCharacter '.', ⟨⟨25, 2, 14⟩, 1⟩⟩

/-- The error stands behind a dot, which the scanner looks past to end the name before it. -/
theorem tokenize_error_locates_dot :
    tokenize "Up<'a> // =\n  => pkg::Off.1" = .error strayDot ∧
      strayDot.Locates "Up<'a> // =\n  => pkg::Off.1" ∧
      tokenize (cutOff "Up<'a> // =\n  => pkg::Off.1" 26) = .error strayDot := by
  have fault : (recognised "Up<'a> // =\n  => pkg::Off.1").fault = some strayDot := by
    decide +kernel
  have failed : tokenize "Up<'a> // =\n  => pkg::Off.1" = .error strayDot := by
    rw [tokenize_error_locates.1, fault]
    rfl
  have locates := tokenize_error_locates.2 _ _ failed
  exact ⟨failed, locates, locates.onwards 26 (by decide) (by decide)⟩

end MachineSpec
