/-
MachineSpec.Proofs.Instantiation — tags of instantiations of one name.

The tag of a type name concatenates its arguments, so `Foo<Up, Down>` and `Foo<UpDown>` have
the same tag. For arguments that are capitalised words, such as `Up` and `Down`, the
arguments can be recovered: each is a word of the text that the tag is made of
(`words_intercalate`) and unchanged in it (`capitalized_eq`), and in the concatenation every
capital starts a word (`eq_of_flatten`). Words of a single capital are included.

* `instance_tags_injective`: the tag is injective in lists of such arguments, and a machine
  may list any states that differ in them only.
-/
import Mathlib.Data.List.Nodup
import MachineSpec.Proofs.Closure

namespace MachineSpec

open Text

/-! ## 1. Capitalised words -/

/-- A capital, and small letters behind it. -/
def Capitalised : List Char → Prop
  | [] => False
  | c :: tail => c.isUpper = true ∧ ∀ d ∈ tail, d.isLower = true

instance : DecidablePred Capitalised
  | [] => inferInstanceAs (Decidable False)
  | c :: tail =>
    decidable_of_iff ((c.isUpper && tail.all Char.isLower) = true) (by simp [Capitalised])

/-- There is no empty one. -/
theorem Capitalised.exists_cons {word : List Char} (capitalised : Capitalised word) :
    ∃ c tail, word = c :: tail ∧ c.isUpper = true ∧ ∀ d ∈ tail, d.isLower = true := by
  cases word with
  | nil => cases capitalised
  | cons c tail => exact ⟨c, tail, rfl, capitalised⟩

theorem isLower_iff {c : Char} : c.isLower = true ↔ 'a'.val ≤ c.val ∧ c.val ≤ 'z'.val := by
  show (decide (c.val ≥ 'a'.val) && decide (c.val ≤ 'z'.val)) = true ↔ _
  rw [Bool.and_eq_true, decide_eq_true_iff, decide_eq_true_iff]

theorem isLower_of_isUpper {c : Char} (upper : c.isUpper = true) : c.isLower = false := by
  have last : c.val ≤ 'Z'.val := (of_decide_eq_true upper).2
  refine Bool.eq_false_iff.mpr fun lower => ?_
  exact absurd (UInt32.le_trans (isLower_iff.mp lower).1 last) (by decide)

theorem toUpper_of_isUpper {c : Char} (upper : c.isUpper = true) : c.toUpper = c :=
  dif_neg fun small => Bool.eq_false_iff.mp (isLower_of_isUpper upper) (isLower_iff.mpr small)

theorem toLower_of_isLower {c : Char} (lower : c.isLower = true) : c.toLower = c :=
  dif_neg fun capital =>
    absurd (UInt32.le_trans (isLower_iff.mp lower).1 capital.2) (by decide)

/-- A capitalised word is its own capitalisation. -/
theorem capitalized_eq {word : List Char} (capitalised : Capitalised word) :
    capitalized word = word := by
  obtain ⟨c, tail, rfl, upper, lower⟩ := capitalised.exists_cons
  have same : tail.map Char.toLower = tail :=
    (List.map_congr_left fun d mem => toLower_of_isLower (lower d mem)).trans (List.map_id' _)
  rw [capitalized, toUpper_of_isUpper upper, same]

/-! ## 2. Words of a text -/

/-- A letter with small letters behind it is a word where no letter and no digit follows. -/
theorem words_run {c : Char} {tail next : List Char} (letter : (c.isUpper || c.isLower) = true)
    (small : ∀ d ∈ tail, d.isLower = true) (ends : ∀ d ∈ next.head?, isWordChar d = false) :
    words (c :: (tail ++ next)) = (c :: tail) :: words next := by
  have wordChar : isWordChar c = true := by simp [isWordChar, letter]
  induction tail generalizing c with
  | nil =>
    have apart : staysInWord c next = false := by
      cases next with
      | nil => rfl
      | cons d next =>
        have other : isWordChar d = false := ends d rfl
        simp only [isWordChar, Bool.or_eq_false_iff] at other
        simp [staysInWord, other]
    rw [List.nil_append, words, if_pos wordChar, apart]
    cases words next <;> rfl
  | cons d tail ih =>
    obtain ⟨lower, small⟩ := List.forall_mem_cons.mp small
    have stays : staysInWord c (d :: (tail ++ next)) = true := by
      simp [staysInWord, lower, letter]
    have behind := @ih d (by simp [lower]) small (by simp [isWordChar, lower])
    rw [List.cons_append, words, if_pos wordChar, behind]
    simp only [stays, if_true]

/-- Capitalised words with blanks between them are the words of the text. -/
theorem words_intercalate {list : List (List Char)}
    (capitalised : ∀ word ∈ list, Capitalised word) :
    words ([' '].intercalate list) = list := by
  have run {word next : List Char} (capitalised : Capitalised word)
      (ends : ∀ d ∈ next.head?, isWordChar d = false) :
      words (word ++ next) = word :: words next := by
    obtain ⟨c, tail, rfl, upper, lower⟩ := capitalised.exists_cons
    exact words_run (by simp [upper]) lower ends
  induction list with
  | nil => rfl
  | cons word list ih =>
    obtain ⟨first, others⟩ := List.forall_mem_cons.mp capitalised
    cases list with
    | nil => simpa [words] using @run word [] first nofun
    | cons other list =>
      rw [List.intercalate_cons_cons, List.append_assoc, run first (by rintro d ⟨rfl⟩; rfl)]
      exact congrArg (word :: ·) (ih others)

/-! ## 3. Tags -/

/-- Words that are run together begin with a capital. -/
theorem isLower_head_flatten {list : List (List Char)}
    (capitalised : ∀ word ∈ list, Capitalised word) :
    ∀ d ∈ list.flatten.head?, d.isLower = false := by
  cases list with
  | nil => nofun
  | cons word list =>
    obtain ⟨c, tail, rfl, upper, -⟩ := (capitalised word (List.mem_cons_self ..)).exists_cons
    rintro d ⟨rfl⟩
    exact isLower_of_isUpper upper

/-- The small letters of a word are those up to the next capital. -/
theorem takeWhile_isLower {tail next : List Char} (small : ∀ d ∈ tail, d.isLower = true)
    (ends : ∀ d ∈ next.head?, d.isLower = false) :
    (tail ++ next).takeWhile Char.isLower = tail := by
  rw [List.takeWhile_append_of_pos small]
  cases next with
  | nil => simp
  | cons d next => simp [ends d rfl]

/-- Capitalised words can be told apart when they are run together. -/
theorem eq_of_flatten {first second : List (List Char)}
    (capitalised : ∀ word ∈ first, Capitalised word)
    (capitalised' : ∀ word ∈ second, Capitalised word) (same : first.flatten = second.flatten) :
    first = second := by
  induction first generalizing second with
  | nil =>
    cases second with
    | nil => rfl
    | cons word second =>
      obtain ⟨c, tail, rfl, -⟩ := (capitalised' word (List.mem_cons_self ..)).exists_cons
      cases same
  | cons word first ih =>
    obtain ⟨one, others⟩ := List.forall_mem_cons.mp capitalised
    obtain ⟨c, tail, rfl, -, lower⟩ := one.exists_cons
    cases second with
    | nil => cases same
    | cons word' second =>
      obtain ⟨one', others'⟩ := List.forall_mem_cons.mp capitalised'
      obtain ⟨c', tail', rfl, -, lower'⟩ := one'.exists_cons
      simp only [List.flatten_cons, List.cons_append, List.cons.injEq] at same
      obtain ⟨rfl, same⟩ := same
      -- The small letters of the first word are those before the next capital on either side.
      have tails : tail = tail' := by
        rw [← takeWhile_isLower lower (isLower_head_flatten others), same,
          takeWhile_isLower lower' (isLower_head_flatten others')]
      subst tails
      rw [ih others others' (List.append_cancel_left same)]

/-- The characters of a tag, with those of the arguments in the middle. -/
theorem toList_tag {name : String} {arguments : List String}
    (capitalised : ∀ argument ∈ arguments, Capitalised argument.toList) :
    (TypeName.tag ⟨name, arguments⟩).toList =
      name.toList ++ (arguments.map String.toList).flatten ++ "State".toList := by
  have all : ∀ word ∈ arguments.map String.toList, Capitalised word :=
    List.forall_mem_map.mpr capitalised
  have kept : (arguments.map String.toList).flatMap capitalized =
      (arguments.map String.toList).flatten := by
    rw [List.flatMap_def, List.map_congr_left fun word mem => capitalized_eq (all word mem),
      List.map_id']
  have blank : " ".toList = [' '] := rfl
  rw [TypeName.tag, pascalCase, String.toList_append, String.toList_append, String.toList_ofList,
    String.toList_intercalate, blank, words_intercalate all, kept]

/-! ## 4. Main theorem -/

/-- The name with arguments that are capitalised words. -/
structure TypeName.Instantiates (type : TypeName) (name : String) : Prop where
  name : type.name = name
  capitalised : ∀ argument ∈ type.arguments, Capitalised argument.toList

/-- Such a name can be told from its tag. -/
theorem TypeName.Instantiates.eq_of_tag {name : String} {type other : TypeName}
    (this : type.Instantiates name) (that : other.Instantiates name)
    (same : type.tag = other.tag) : type = other := by
  obtain ⟨_, arguments⟩ := type
  obtain ⟨_, arguments'⟩ := other
  obtain ⟨rfl, capitalised⟩ := this
  obtain ⟨same_name, capitalised'⟩ := that
  cases same_name
  have lists := congrArg String.toList same
  rw [toList_tag capitalised, toList_tag capitalised'] at lists
  have flat := List.append_cancel_left (List.append_cancel_right lists)
  have words := eq_of_flatten (List.forall_mem_map.mpr capitalised)
    (List.forall_mem_map.mpr capitalised') flat
  have injective : Function.Injective String.toList := fun _ _ => String.toList_injective
  exact congrArg (TypeName.mk _) (List.map_injective_iff.mpr injective words)

/-- The tag of a name is injective in its arguments, if they are capitalised words, for lists of any
    length. So a machine whose states are distinct instantiations of one name has distinct tags, and
    it is accepted if and only if all names it uses are declared and no transition is declared
    twice. -/
theorem instance_tags_injective (name : String) :
    (∀ first second : List String, (∀ argument ∈ first, Capitalised argument.toList) →
      (∀ argument ∈ second, Capitalised argument.toList) →
      TypeName.tag ⟨name, first⟩ = TypeName.tag ⟨name, second⟩ → first = second) ∧
    ∀ decl : MachineDecl, (∀ state ∈ decl.states, state.type.Instantiates name) →
      (decl.states.map Reference.type).Nodup →
      (decl.states.map Reference.tag).Nodup ∧ checkTags decl.name [] decl.states = .ok () ∧
      ((∃ machine, Machine.ofDecl decl = .ok machine) ↔
        (∀ used ∈ decl.uses, ∃ state ∈ decl.states, state.tag = used.tag) ∧
          (decl.edges.map Edge.tags).Nodup) := by
  refine ⟨fun first second capitalised capitalised' same => ?_,
    fun decl instantiate different => ?_⟩
  · exact congrArg TypeName.arguments
      (@TypeName.Instantiates.eq_of_tag name _ _ ⟨rfl, capitalised⟩ ⟨rfl, capitalised'⟩ same)
  have types : ∀ type ∈ decl.states.map Reference.type, type.Instantiates name :=
    List.forall_mem_map.mpr instantiate
  have distinct : (decl.states.map Reference.tag).Nodup := by
    have tags : decl.states.map Reference.tag = (decl.states.map Reference.type).map TypeName.tag :=
      (List.map_map ..).symm
    rw [tags]
    exact different.map_on fun type mem other mem' => (types type mem).eq_of_tag (types other mem')
  refine ⟨distinct, checkTags_of_nodup distinct, Machine.ofDecl_ok_iff.trans ?_⟩
  exact ⟨fun closed => ⟨closed.declared, closed.once⟩, fun h => ⟨distinct, h.1, h.2⟩⟩

/-- What `Signal, Show<A, B>, [Show<A, B>, Show<Ab>, Show<B, A>], [Show<A, B> => Show<Ab>]`
    declares, at no particular places. -/
def signal : MachineDecl where
  name := "Signal"
  initial := ⟨⟨"Show", ["A", "B"]⟩, ⟨.start, 4⟩⟩
  states := [⟨⟨"Show", ["A", "B"]⟩, ⟨.start, 4⟩⟩, ⟨⟨"Show", ["Ab"]⟩, ⟨.start, 4⟩⟩,
    ⟨⟨"Show", ["B", "A"]⟩, ⟨.start, 4⟩⟩]
  edges := [⟨⟨⟨"Show", ["A", "B"]⟩, ⟨.start, 4⟩⟩, ⟨⟨"Show", ["Ab"]⟩, ⟨.start, 4⟩⟩, ⟨.start, 4⟩⟩]
  failure := none
  span := ⟨.start, 6⟩

/-- Arguments `A` and `B` against the argument `Ab`, and a machine that lists both states. -/
theorem instance_tags_injective_signal :
    TypeName.tag ⟨"Show", ["A", "B"]⟩ ≠ TypeName.tag ⟨"Show", ["Ab"]⟩ ∧
    ∃ machine, Machine.ofDecl signal = .ok machine := by
  obtain ⟨told, accepted⟩ := instance_tags_injective "Show"
  refine ⟨fun same => ?_, ?_⟩
  · exact absurd (told ["A", "B"] ["Ab"] (by decide) (by decide) same) (by decide)
  · have instantiate : ∀ state ∈ signal.states, state.type.Instantiates "Show" := by
      simp only [signal, List.forall_mem_cons]
      exact ⟨⟨rfl, by decide⟩, ⟨rfl, by decide⟩, ⟨rfl, by decide⟩, nofun⟩
    exact (accepted signal instantiate (by decide)).2.2.mpr ⟨by decide, by decide⟩

end MachineSpec
