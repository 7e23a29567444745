/-
MachineSpec.Proofs.Positions — what a position says about the text it was counted in.

The scanner never looks back. It carries a position and moves it on by one character at
a time, so that a position is right is a statement about all the characters before it.
`Position.Fits` says it with the text in hand: so many characters stand in front, so many
of them end a line, and so many have been passed since the last that did.

* `Position.fits_after`: a position that was counted from the start fits.
* `along_of_scan`, `along_of_fault`: every token, the end and the fault of a scan stand
  where some part of the text has been passed, and nothing else.
-/
import Mathlib.Data.List.Induction
import MachineSpec.Proofs.Scanning

namespace MachineSpec

/-! ## 1. Counting -/

namespace Position

variable {here there : Position} {text before rest : List Char} {c : Char}

/-- The position is a place of the text, and its line and column are those of the place. Both are
    counted from one, and a line feed is the last character of its line. -/
structure Fits (here : Position) (text : List Char) : Prop where
  within : here.offset ≤ text.length
  line : here.line = 1 + (text.take here.offset).count '\n'
  column : here.column = 1 + ((text.take here.offset).reverse.takeWhile (· != '\n')).length

theorem after_cons : here.after (c :: rest) = (here.next c).after rest := rfl

theorem after_snoc : here.after (text ++ [c]) = (here.after text).next c := after_append

theorem after_offset : (here.after text).offset = here.offset + text.length := by
  induction text generalizing here with
  | nil => rfl
  | cons c rest ih =>
    have passed : (here.next c).offset = here.offset + 1 := by
      unfold next
      split <;> rfl
    rw [after_cons, ih, passed, List.length_cons]
    omega

theorem after_line : (here.after text).line = here.line + text.count '\n' := by
  induction text generalizing here with
  | nil => rfl
  | cons c rest ih =>
    rw [after_cons, ih, List.count_cons, next]
    by_cases ends : c = '\n'
    · simp [ends]
      omega
    · simp [ends]

/-- Only the characters behind the last line feed count for the column. -/
theorem start_after_column :
    (Position.start.after text).column = 1 + (text.reverse.takeWhile (· != '\n')).length := by
  induction text using List.reverseRecOn with
  | nil => rfl
  | append_singleton text c ih =>
    rw [after_snoc, List.reverse_append, List.reverse_singleton, List.singleton_append, next]
    by_cases ends : c = '\n'
    · simp [ends]
    · simp [ends, ih]
      omega

/-- A position that was counted from the start fits the text, however the text goes on. -/
theorem fits_after : (Position.start.after before).Fits (before ++ rest) := by
  have offset : (Position.start.after before).offset = before.length := by
    rw [after_offset]
    exact Nat.zero_add _
  refine ⟨?_, ?_, ?_⟩
  · rw [offset, List.length_append]
    omega
  · rw [offset, List.take_left, after_line]
    rfl
  · rw [offset, List.take_left, start_after_column]

/-! ## 2. Scanning -/

/-- Between the two positions lies a part of the text, and the text begins with it. -/
def Along (here : Position) (text : List Char) (there : Position) : Prop :=
  ∃ before rest, text = before ++ rest ∧ there = here.after before

theorem Along.start : here.Along text here := ⟨[], text, rfl, rfl⟩

theorem Along.finish : here.Along text (here.after text) := ⟨text, [], (List.append_nil _).symm, rfl⟩

theorem Along.next (along : (here.next c).Along rest there) : here.Along (c :: rest) there := by
  obtain ⟨before, behind, rfl, rfl⟩ := along
  exact ⟨c :: before, behind, rfl, rfl⟩

theorem Along.fits (along : Position.start.Along text there) : there.Fits text := by
  obtain ⟨before, behind, rfl, rfl⟩ := along
  exact fits_after

end Position

open Position

/-- The tokens and the end of a scan stand along the text. -/
theorem along_of_scan {pending : Pending} {here : Position} {text : List Char} {tokens : Tokens}
    (scanned : scan pending here text = .ok tokens) :
    (∀ token ∈ tokens.items, here.Along text token.span.toPosition) ∧
      tokens.finish = here.after text := by
  fun_induction scan pending here text generalizing tokens with
  | case1 =>
    cases scanned
    exact ⟨by simp, rfl⟩
  | case2 here c rest ih | case3 left here c rest ih | case4 here c rest blank ih
  | case5 here c rest noBlank comment ih =>
    obtain ⟨items, finish⟩ := ih scanned
    exact ⟨fun token mem => (items token mem).next, finish⟩
  | case6 => cases scanned
  | case7 => cases scanned
  | case8 here c rest noBlank noComment kind more delivers others behind token =>
    rename_i ih
    cases scanned
    obtain ⟨items, finish⟩ := ih behind
    exact ⟨List.forall_mem_cons.mpr ⟨.start, fun other mem => (items other mem).next⟩, finish⟩

/-- So does the fault of a scan that fails. -/
theorem along_of_fault {pending : Pending} {here : Position} {text : List Char} {error : ParseError}
    (failed : scan pending here text = .error error) : here.Along text error.span.toPosition := by
  fun_induction scan pending here text with
  | case1 => cases failed
  | case2 here c rest ih | case3 left here c rest ih | case4 here c rest blank ih
  | case5 here c rest noBlank comment ih => exact (ih failed).next
  | case6 =>
    cases failed
    exact .start
  | case7 here c rest noBlank noComment kind more delivers error behind ih =>
    cases failed
    exact (ih behind).next
  | case8 => cases failed

/-- The tokens of a text and the token that stands for its end. -/
theorem fits_of_tokenize {source : String} {tokens : Tokens} (scanned : tokenize source = .ok tokens) :
    ∀ token ∈ tokens.all, token.span.toPosition.Fits source.toList := by
  obtain ⟨items, finish⟩ := along_of_scan scanned
  intro token mem
  rcases List.mem_append.mp mem with mem | last
  · exact (items token mem).fits
  · obtain rfl := List.mem_singleton.mp last
    have ends : tokens.last.span.toPosition = Position.start.after source.toList := finish
    rw [ends]
    exact Along.finish.fits

theorem fits_of_tokenize_error {source : String} {error : ParseError}
    (failed : tokenize source = .error error) : error.span.toPosition.Fits source.toList :=
  (along_of_fault failed).fits

end MachineSpec
