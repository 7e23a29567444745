/-
MachineSpec.Proofs.Names — name tokens are maximal.

A word begins with a letter or `_` and continues with letters, numerals and `_`. A name is
one or more words with a joint between any two (`Joined`, for a given set of joints). The
scanner's function `nameTail` agrees with this: a name is what it takes to the end
(`joined_iff_whole`). A name token is the longest name at its place, because more text never
makes the result of `nameTail` shorter (`nameTail_le_of_cut`).

The documented joints are the dot and the double colon. The scanner accepts a single colon
too.

* `name_token_maximal`: a name token is made of words and joints and is the longest such
  stretch of the text at its place; it is a documented name if and only if its colons come
  in pairs.
* `name_with_single_colon`: `a:b` is one name token.
-/
import MachineSpec.Proofs.Positions
import MachineSpec.Proofs.Printing

namespace MachineSpec

open Text

/-! ## 1. Words and joints -/

/-- A letter or `_`, and letters, numerals and `_` behind it. -/
def IsWord (text : List Char) : Prop :=
  ∃ c tail, text = c :: tail ∧ isNameStart c = true ∧ ∀ d ∈ tail, isNamePart d = true

/-- One or more words, and between any two of them one of the joints. -/
inductive Joined (joints : List (List Char)) : List Char → Prop where
  | word {word : List Char} (isWord : IsWord word) : Joined joints word
  | more {word joint rest : List Char} (isWord : IsWord word) (joins : joint ∈ joints)
      (others : Joined joints rest) : Joined joints (word ++ (joint ++ rest))

/-- The joints of dotted and of qualified names. -/
def pathJoints : List (List Char) := [['.'], [':', ':']]

/-- The joints that the scanner takes. -/
def joints : List (List Char) := [':'] :: pathJoints

theorem Joined.mono {joints others : List (List Char)} {text : List Char}
    (joined : Joined joints text) (within : joints ⊆ others) : Joined others text := by
  induction joined with
  | word isWord => exact .word isWord
  | more isWord joins _ ih => exact .more isWord (within joins) ih

/-- A name begins with a word. -/
theorem Joined.starts {joints : List (List Char)} {text : List Char} (joined : Joined joints text) :
    ∃ c tail, text = c :: tail ∧ isNameStart c = true := by
  cases joined with
  | word isWord =>
    obtain ⟨c, tail, rfl, start, -⟩ := isWord
    exact ⟨c, tail, rfl, start⟩
  | more isWord =>
    obtain ⟨c, tail, rfl, start, -⟩ := isWord
    exact ⟨c, _, rfl, start⟩

/-! ## 2. Names as the scanner sees them -/

theorem nameTail_of_parts {tail : List Char} (parts : ∀ d ∈ tail, isNamePart d = true) :
    nameTail tail = tail.length := by
  induction tail with
  | nil => rfl
  | cons d tail ih =>
    obtain ⟨part, parts⟩ := List.forall_mem_cons.mp parts
    rw [nameTail_part part, ih parts]
    rfl

/-- A joint in front of a word belongs to the name. -/
theorem nameTail_joint {joint rest : List Char} {c : Char} (joins : joint ∈ joints)
    (start : isNameStart c = true) :
    nameTail (joint ++ c :: rest) = joint.length + nameTail (c :: rest) := by
  have noDot : ¬ isNamePart '.' = true := by decide
  have noColon : ¬ isNamePart ':' = true := by decide
  simp only [joints, pathJoints, List.mem_cons, List.not_mem_nil, or_false] at joins
  rcases joins with rfl | rfl | rfl
  · exact (nameTail_single noColon (by simp [start])).trans (Nat.add_comm ..)
  · exact (nameTail_single noDot (by simp [start])).trans (Nat.add_comm ..)
  · exact (nameTail_double noColon (by decide) (by simp [start])).trans (Nat.add_comm ..)

/-- The scanner takes words and joints for a name, to the end. -/
theorem whole_of_joined {text : List Char} (joined : Joined joints text) :
    ∃ c tail, text = c :: tail ∧ isNameStart c = true ∧ nameTail tail = tail.length := by
  induction joined with
  | word isWord =>
    obtain ⟨c, tail, rfl, start, parts⟩ := isWord
    exact ⟨c, tail, rfl, start, nameTail_of_parts parts⟩
  | @more word joint rest isWord joins _ ih =>
    obtain ⟨c, tail, rfl, start, parts⟩ := isWord
    obtain ⟨d, behind, rfl, start', whole⟩ := ih
    refine ⟨c, tail ++ (joint ++ d :: behind), rfl, start, ?_⟩
    rw [nameTail_of_whole (nameTail_of_parts parts), nameTail_joint joins start',
      nameTail_part (isNamePart_of_isNameStart start'), whole]
    simp only [List.length_append, List.length_cons]

/-- What is open in front of the rest of a name: a word, or nothing if a word begins. -/
def Opens (word rest : List Char) : Prop :=
  IsWord word ∨ (word = [] ∧ ∃ c ∈ rest.head?, isNameStart c = true)

/-- The next character belongs to the word that is open, or begins one. -/
theorem Opens.part {word rest : List Char} {c : Char} (opens : Opens word (c :: rest))
    (part : isNamePart c = true) : IsWord (word ++ [c]) := by
  rcases opens with ⟨d, tail, rfl, start, parts⟩ | ⟨rfl, d, ⟨rfl⟩, start⟩
  · exact ⟨d, tail ++ [c], rfl, start, by simpa [or_imp, forall_and] using ⟨parts, part⟩⟩
  · exact ⟨c, [], rfl, start, by simp⟩

/-- No word begins with a joint. -/
theorem Opens.isWord {word rest : List Char} {c : Char} (opens : Opens word (c :: rest))
    (noPart : ¬ isNamePart c = true) : IsWord word := by
  rcases opens with isWord | ⟨-, d, ⟨rfl⟩, start⟩
  · exact isWord
  · exact absurd (isNamePart_of_isNameStart start) noPart

/-- What the scanner takes to the end is words and joints. -/
theorem joined_of_whole {word rest : List Char} (opens : Opens word rest)
    (whole : nameTail rest = rest.length) : Joined joints (word ++ rest) := by
  fun_induction nameTail rest generalizing word with
  | case1 =>
    rcases opens with isWord | ⟨-, c, none, -⟩
    · exact (List.append_nil word).symm ▸ .word isWord
    · cases none
  | case2 c part => exact .word (opens.part part)
  | case3 c part => simp at whole
  | case4 c d rest part ih =>
    have rest_joined := ih (.inl (opens.part part)) (by simpa using whole)
    rwa [List.append_assoc] at rest_joined
  | case5 c d rest part joint ih =>
    simp only [Bool.and_eq_true, Bool.or_eq_true, beq_iff_eq] at joint
    have joins : [c] ∈ joints := by rcases joint.1 with rfl | rfl <;> decide
    have others := @ih [] (.inr ⟨rfl, d, rfl, joint.2⟩) (by simpa using whole)
    exact .more (opens.isWord part) joins others
  | case6 c d rest part single joint ih =>
    simp only [Bool.and_eq_true, beq_iff_eq, Option.any_eq_true] at joint
    obtain ⟨⟨rfl, rfl⟩, e, next, start⟩ := joint
    have others := @ih [] (.inr ⟨rfl, e, next, start⟩) (by simpa using whole)
    exact .more (opens.isWord part) (by decide : [':', ':'] ∈ joints) others
  | case7 => simp at whole

/-- Names are what the scanner takes to the end. -/
theorem joined_iff_whole {c : Char} {tail : List Char} (start : isNameStart c = true) :
    Joined joints (c :: tail) ↔ nameTail tail = tail.length := by
  constructor
  · intro joined
    obtain ⟨d, behind, same, -, whole⟩ := whole_of_joined joined
    cases same
    exact whole
  · exact joined_of_whole (.inl ⟨c, [], rfl, start, by simp⟩)

/-! ## 3. Names as documented -/

/-- Colons come in pairs. -/
def colonsPaired : List Char → Bool
  | ':' :: ':' :: rest => colonsPaired rest
  | ':' :: _ => false
  | _ :: rest => colonsPaired rest
  | [] => true

theorem colonsPaired_cons {c : Char} {rest : List Char} (other : c ≠ ':') :
    colonsPaired (c :: rest) = colonsPaired rest := by
  rw [colonsPaired]
  · rintro rest rfl
    exact absurd rfl other
  · exact other

/-- No word has a colon. -/
theorem IsWord.colonsPaired {word rest : List Char} (isWord : IsWord word) :
    colonsPaired (word ++ rest) = MachineSpec.colonsPaired rest := by
  obtain ⟨c, tail, rfl, start, parts⟩ := isWord
  have named : ∀ d ∈ c :: tail, isNamePart d = true :=
    List.forall_mem_cons.mpr ⟨isNamePart_of_isNameStart start, parts⟩
  have all : ∀ d ∈ c :: tail, d ≠ ':' := by
    rintro d mem rfl
    exact absurd (named _ mem) (by decide)
  generalize c :: tail = word at all
  induction word with
  | nil => rfl
  | cons d word ih =>
    obtain ⟨other, all⟩ := List.forall_mem_cons.mp all
    rw [List.cons_append, colonsPaired_cons other, ih all]

theorem colonsPaired_of_joined {text : List Char} (joined : Joined pathJoints text) :
    colonsPaired text = true := by
  induction joined with
  | word isWord =>
    exact (List.append_nil _ ▸ isWord.colonsPaired : colonsPaired _ = colonsPaired [])
  | @more word joint rest isWord joins _ ih =>
    rw [isWord.colonsPaired]
    simp only [pathJoints, List.mem_cons, List.not_mem_nil, or_false] at joins
    rcases joins with rfl | rfl
    · exact (colonsPaired_cons (by decide)).trans ih
    · exact ih

/-- A name is as documented just if no colon of it stands alone. -/
theorem joined_path_iff {text : List Char} (joined : Joined joints text) :
    Joined pathJoints text ↔ colonsPaired text = true := by
  refine ⟨colonsPaired_of_joined, fun paired => ?_⟩
  induction joined with
  | word isWord => exact .word isWord
  | @more word joint rest isWord joins others ih =>
    rw [isWord.colonsPaired] at paired
    rcases List.mem_cons.mp joins with rfl | documented
    · -- behind a single colon a word begins, and not another colon
      obtain ⟨c, tail, rfl, start⟩ := others.starts
      have other : c ≠ ':' := by
        rintro rfl
        exact absurd start (by decide)
      simp [colonsPaired, other] at paired
    · refine .more isWord documented (ih ?_)
      simp only [pathJoints, List.mem_cons, List.not_mem_nil, or_false] at documented
      rcases documented with rfl | rfl
      · rwa [List.singleton_append, colonsPaired_cons (by decide)] at paired
      · exact paired

/-! ## 4. Names in a text -/

/-- Every token is what was taken for one at its place. -/
theorem found_of_scan {pending : Pending} {here : Position} {text : List Char} {tokens : Tokens}
    (scanned : scan pending here text = .ok tokens) :
    ∀ token ∈ tokens.items, ∃ before c rest more, text = before ++ c :: rest ∧
      lexeme? c rest = .ok (token.kind, more) ∧ token.text.toList = c :: rest.take more ∧
      token.span.toPosition = here.after before := by
  fun_induction scan pending here text generalizing tokens with
  | case1 =>
    cases scanned
    simp
  | case2 here c rest ih | case3 left here c rest ih | case4 here c rest blank ih
  | case5 here c rest noBlank comment ih =>
    intro token mem
    obtain ⟨before, d, tail, more, rfl, found⟩ := ih scanned token mem
    exact ⟨c :: before, d, tail, more, rfl, found⟩
  | case6 => cases scanned
  | case7 => cases scanned
  | case8 here c rest noBlank noComment kind more delivers others behind token =>
    rename_i ih
    cases scanned
    refine List.forall_mem_cons.mpr ⟨⟨[], c, rest, more, rfl, delivers, String.toList_ofList, rfl⟩,
      fun other mem => ?_⟩
    obtain ⟨before, d, tail, more, rfl, found⟩ := ih behind other mem
    exact ⟨c :: before, d, tail, more, rfl, found⟩

/-- What a name that is a token has to do with its text. -/
structure Token.NameOf (token : Token) (source : String) : Prop where
  /-- It stands where its span says. -/
  stands : token.text.toList <+: source.toList.drop token.span.offset
  /-- It is made of words and joints. -/
  joined : Joined joints token.text.toList
  /-- Nothing longer there is. -/
  longest : ∀ name, Joined joints name → name <+: source.toList.drop token.span.offset →
    name.length ≤ token.text.toList.length
  /-- It is a dotted or qualified name unless a colon stands alone. -/
  documented : Joined pathJoints token.text.toList ↔ colonsPaired token.text.toList = true
  /-- No dotted or qualified name there is longer. -/
  longestDocumented : ∀ name, Joined pathJoints name →
    name <+: source.toList.drop token.span.offset → name.length ≤ token.text.toList.length

/-- What is taken for a name is as long as the scanner's account of it. -/
theorem name_of_lexeme {c : Char} {rest : List Char} {more : Nat}
    (delivers : lexeme? c rest = .ok (.name, more)) :
    isNameStart c = true ∧ more = nameTail rest := by
  cases delivered_of_lexeme delivers with
  | arrow next points =>
    unfold arrow? at points
    split at points <;> cases points
  | punctuation alone stands =>
    unfold punctuation? at stands
    split at stands <;> cases stands
  | name start => exact ⟨start, rfl⟩

/-- A name token is made of words and joints, and is the longest such stretch of the text at its
    place. It is a name as documented if and only if every colon in it stands beside another. -/
theorem name_token_maximal {source : String} {tokens : Tokens}
    (scanned : tokenize source = .ok tokens) :
    ∀ token ∈ tokens.items, token.kind = .name → token.NameOf source := by
  intro token mem named
  obtain ⟨before, c, rest, more, split, delivers, chars, place⟩ := found_of_scan scanned token mem
  rw [named] at delivers
  obtain ⟨start, rfl⟩ := name_of_lexeme delivers
  have there : source.toList.drop token.span.offset = c :: rest := by
    have offset : token.span.offset = before.length := by
      rw [place]
      exact Position.after_offset.trans (Nat.zero_add _)
    rw [split, offset, List.drop_left]
  have length : (rest.take (nameTail rest)).length = nameTail rest :=
    List.length_take_of_le nameTail_le
  have joined : Joined joints token.text.toList := by
    rw [chars, joined_iff_whole start, length]
    exact nameTail_take
  have longest : ∀ name, Joined joints name → name <+: source.toList.drop token.span.offset →
      name.length ≤ token.text.toList.length := by
    intro name joined cut
    obtain ⟨d, tail, rfl, -, whole⟩ := whole_of_joined joined
    rw [there] at cut
    have shorter := nameTail_le_of_cut (List.cons_prefix_cons.mp cut).2
    rw [chars, List.length_cons, List.length_cons, length, ← whole]
    exact Nat.succ_le_succ shorter
  refine ⟨?_, joined, longest, joined_path_iff joined, fun name path =>
    longest name (path.mono (List.subset_cons_self _ _))⟩
  rw [chars, there]
  exact List.cons_prefix_cons.mpr ⟨rfl, List.take_prefix _ _⟩

/-- The two names of `pkg::On<a:b.C>`. -/
def qualifiedName : Token := ⟨.name, "pkg::On", ⟨⟨0, 1, 1⟩, 7⟩⟩

def mixedName : Token := ⟨.name, "a:b.C", ⟨⟨8, 1, 9⟩, 5⟩⟩

/-- Two names of one text; only the first is as documented. -/
theorem name_token_maximal_argument :
    (∃ tokens, tokenize "pkg::On<a:b.C>" = .ok tokens ∧ qualifiedName ∈ tokens.items ∧
      mixedName ∈ tokens.items) ∧
    qualifiedName.NameOf "pkg::On<a:b.C>" ∧ Joined pathJoints qualifiedName.text.toList ∧
    mixedName.NameOf "pkg::On<a:b.C>" ∧ ¬ Joined pathJoints mixedName.text.toList := by
  have scanned : tokenize "pkg::On<a:b.C>" =
      .ok ⟨[qualifiedName, ⟨.less, "<", ⟨⟨7, 1, 8⟩, 1⟩⟩, mixedName,
        ⟨.greater, ">", ⟨⟨13, 1, 14⟩, 1⟩⟩], ⟨14, 1, 15⟩⟩ :=
    eq_ok_of_toOption (by decide +kernel)
  have qualified := name_token_maximal scanned qualifiedName (by decide) rfl
  have mixed := name_token_maximal scanned mixedName (by decide) rfl
  exact ⟨⟨_, scanned, by decide, by decide⟩, qualified, qualified.documented.mpr (by decide), mixed,
    fun path => absurd (mixed.documented.mp path) (by decide)⟩

/-- A single colon joins two words. -/
theorem name_with_single_colon :
    tokenize "a:b" = .ok ⟨[⟨.name, "a:b", ⟨⟨0, 1, 1⟩, 3⟩⟩], ⟨3, 1, 4⟩⟩ ∧
      ¬ Joined pathJoints "a:b".toList :=
  ⟨eq_ok_of_toOption (by decide +kernel),
    fun path => absurd (colonsPaired_of_joined path) (by decide)⟩

end MachineSpec
