/-
MachineSpec.Text.Interval — sets of characters, given as intervals of code points.

Whether a character is a letter, a numeral, blank or printable is data of a
standard and not a rule one could compute. Each such property is kept as one
ascending list of closed intervals, in the module named for the property, and
all of them are read by the one function `covers`.

Because the lists ascend, the search stops at the first interval that begins
above the character: an ASCII character is decided by the first few entries,
whatever the length of the table.
-/

namespace MachineSpec.Text

/-- A closed interval of code points: its lowest and its highest member. -/
abbrev Interval := Nat × Nat

/-- Whether a code point lies in one of the intervals of an ascending list. -/
def covers : List Interval → Nat → Bool
  | [], _ => false
  | (lowest, highest) :: rest, code =>
    if code < lowest then false
    else if code ≤ highest then true
    else covers rest code

/-- Whether every interval is non-empty and lies wholly above the one before it, the first one
    at or above `floor`. Searching from the left is complete only for such a list. -/
def ascending (floor : Nat) : List Interval → Bool
  | [] => true
  | (lowest, highest) :: rest =>
    floor ≤ lowest && lowest ≤ highest && ascending (highest + 1) rest

/-- On an ascending list nothing below the floor is covered. -/
theorem covers_eq_false_of_lt {table : List Interval} {floor code : Nat}
    (sorted : ascending floor table = true) (below : code < floor) : covers table code = false := by
  cases table with
  | nil => rfl
  | cons entry rest =>
    obtain ⟨lowest, highest⟩ := entry
    simp only [ascending, Bool.and_eq_true, decide_eq_true_eq] at sorted
    have : code < lowest := by omega
    simp [covers, this]

/-- On an ascending list the search finds exactly the code points that some interval holds. -/
theorem covers_iff {table : List Interval} {floor : Nat}
    (sorted : ascending floor table = true) (code : Nat) :
    covers table code = true ↔ ∃ entry ∈ table, entry.1 ≤ code ∧ code ≤ entry.2 := by
  induction table generalizing floor with
  | nil => simp [covers]
  | cons entry rest ih =>
    obtain ⟨lowest, highest⟩ := entry
    simp only [ascending, Bool.and_eq_true, decide_eq_true_eq] at sorted
    obtain ⟨⟨_, ordered⟩, above⟩ := sorted
    simp only [covers, List.mem_cons, exists_eq_or_imp]
    by_cases low : code < lowest
    · have absent := covers_eq_false_of_lt above (by omega : code < highest + 1)
      have := ih above
      simp only [absent, Bool.false_eq_true, false_iff] at this
      simp only [low, if_true, Bool.false_eq_true, false_iff, not_or]
      exact ⟨by omega, this⟩
    · by_cases high : code ≤ highest
      · simp only [low, high, if_true, if_false, true_iff]
        exact .inl ⟨by omega, trivial⟩
      · simp only [low, high, if_false, ih above]
        constructor
        · exact .inr
        · rintro (h | h)
          · exact absurd h.2 id
          · exact h

end MachineSpec.Text
