/-
MachineSpec.Proofs.Quotation — texts that are read can be quoted.

Reports put names, tags and type texts between double quotes unchanged. That is correct if
none of them contains a double quote, a backslash or a line end (`Clean`). The scanner
ensures this: no token can be written with such a character (`TokenKind.Spelled.clean`), and
everything that is read is made of tokens and of a few characters between them
(`Reference.Phrase.clean`). So `Machine.WasRead.quotable`.
-/
import MachineSpec.Proofs.Distribution
import MachineSpec.Proofs.Instantiation
import MachineSpec.Proofs.Names
import MachineSpec.Proofs.Spelling

namespace MachineSpec

open Text Grammar

/-! ## 1. Clean texts -/

/-- Neither a double quote nor a backslash nor a line end. -/
def isClean (c : Char) : Bool := c != '"' && c != '\\' && c != '\n'

/-- The text can stand between double quotes on a line. -/
def Clean (text : String) : Prop := ∀ c ∈ text.toList, isClean c = true

instance (text : String) : Decidable (Clean text) :=
  decidable_of_iff (text.toList.all isClean = true) List.all_eq_true

namespace Clean

variable {text other : String}

theorem append (clean : Clean text) (clean' : Clean other) : Clean (text ++ other) := by
  unfold Clean
  rw [String.toList_append]
  exact List.forall_mem_append.mpr ⟨clean, clean'⟩

theorem intercalate {texts : List String} (between : Clean text)
    (clean : ∀ part ∈ texts, Clean part) : Clean (String.intercalate text texts) := by
  intro c mem
  rw [String.toList_intercalate] at mem
  induction texts with
  | nil => cases mem
  | cons first rest ih =>
    obtain ⟨cleanFirst, cleanRest⟩ := List.forall_mem_cons.mp clean
    cases rest with
    | nil => exact cleanFirst c (by simpa using mem)
    | cons second rest =>
      rw [List.map_cons, List.map_cons, List.intercalate_cons_cons] at mem
      rcases List.mem_append.mp mem with mem | mem
      · rcases List.mem_append.mp mem with mem | mem
        · exact cleanFirst c mem
        · exact between c mem
      · exact ih cleanRest (by rwa [List.map_cons])

end Clean

/-! ## 2. Tokens -/

/-- What passes a test that none of the three passes is clean. -/
theorem isClean_of_test {test : Char → Bool} {c : Char} (passes : test c = true)
    (quote : test '"' = false) (backslash : test '\\' = false) (lineEnd : test '\n' = false) :
    isClean c = true := by
  have other {d : Char} (fails : test d = false) : c ≠ d := by
    rintro rfl
    exact absurd passes (Bool.eq_false_iff.mp fails)
  simp [isClean, other quote, other backslash, other lineEnd]

theorem isClean_of_isNamePart {c : Char} (part : isNamePart c = true) : isClean c = true :=
  isClean_of_test part (by decide) (by decide) (by decide)

theorem Joined.clean {text : List Char} (joined : Joined joints text) :
    ∀ c ∈ text, isClean c = true := by
  have word {word : List Char} (isWord : IsWord word) : ∀ c ∈ word, isClean c = true := by
    obtain ⟨c, tail, rfl, start, parts⟩ := isWord
    exact List.forall_mem_cons.mpr ⟨isClean_of_isNamePart (isNamePart_of_isNameStart start),
      fun d mem => isClean_of_isNamePart (parts d mem)⟩
  induction joined with
  | word isWord => exact word isWord
  | more isWord joins _ ih =>
    have joint : joints.all (·.all isClean) = true := by decide
    exact List.forall_mem_append.mpr ⟨word isWord, List.forall_mem_append.mpr
      ⟨List.all_eq_true.mp (List.all_eq_true.mp joint _ joins), ih⟩⟩

/-- No token is written with anything else. -/
theorem TokenKind.Spelled.clean {kind : TokenKind} {text : List Char} (spelled : kind.Spelled text) :
    ∀ c ∈ text, isClean c = true := by
  cases spelled with
  | arrow points =>
    unfold arrow? at points
    split at points <;> first | exact List.all_eq_true.mp (by decide) | cases points
  | punctuation stands =>
    unfold punctuation? at stands
    split at stands <;> first | exact List.all_eq_true.mp (by decide) | cases stands
  | lifetime parts =>
    exact List.forall_mem_cons.mpr ⟨by decide, fun c mem => isClean_of_isNamePart (parts c mem)⟩
  | name starts whole => exact ((joined_iff_whole starts).mpr whole).clean

/-! ## 3. Type names -/

/-- The name is clean, and so are its arguments. -/
structure TypeName.Clean (type : TypeName) : Prop where
  name : MachineSpec.Clean type.name
  arguments : ∀ argument ∈ type.arguments, MachineSpec.Clean argument

theorem TypeName.Clean.text {type : TypeName} (clean : type.Clean) : MachineSpec.Clean type.text := by
  have arguments : MachineSpec.Clean (String.intercalate ", " type.arguments) :=
    .intercalate (by decide) clean.arguments
  unfold TypeName.text
  split
  · exact clean.name
  · exact ((clean.name.append (by decide)).append arguments).append (by decide)

/-- Words are made of what is in the text. -/
theorem flatten_words_sublist (text : List Char) : (words text).flatten.Sublist text := by
  induction text with
  | nil => exact .slnil
  | cons first rest ih =>
    rw [words]
    split
    · cases others : words rest with
      | nil => exact (List.nil_sublist _).cons_cons first
      | cons next more =>
        rw [others] at ih
        dsimp only
        split
        · exact ih.cons_cons first
        · exact ih.cons_cons first
    · exact ih.cons first

theorem isClean_toUpper {c : Char} (clean : isClean c = true) : isClean c.toUpper = true := by
  by_cases small : 'a'.val ≤ c.val ∧ c.val ≤ 'z'.val
  · have same : c.toUpper = ⟨c.val + ('A'.val - 'a'.val), _⟩ := dif_pos small
    have upper : c.toUpper.isUpper = true := by
      rw [same]
      exact decide_eq_true (by grind)
    exact isClean_of_test upper (by decide) (by decide) (by decide)
  · rwa [show c.toUpper = c from dif_neg small]

theorem isClean_toLower {c : Char} (clean : isClean c = true) : isClean c.toLower = true := by
  by_cases capital : 'A'.val ≤ c.val ∧ c.val ≤ 'Z'.val
  · have same : c.toLower = ⟨c.val + ('a'.val - 'A'.val), _⟩ := dif_pos capital
    have lower : c.toLower.isLower = true := by
      rw [same]
      exact isLower_iff.mpr (by grind)
    exact isClean_of_test lower (by decide) (by decide) (by decide)
  · rwa [show c.toLower = c from dif_neg capital]

/-- So the words of a clean text are clean, also when they are capitalised and run together. -/
theorem Clean.pascalCase {text : String} (clean : Clean text) : Clean (pascalCase text) := by
  intro c mem
  rw [Text.pascalCase, String.toList_ofList] at mem
  obtain ⟨word, isWord, inside⟩ := List.mem_flatMap.mp mem
  have kept : ∀ d ∈ word, isClean d = true := fun d mem =>
    clean d ((flatten_words_sublist _).subset (List.mem_flatten_of_mem isWord mem))
  cases word with
  | nil => cases inside
  | cons first rest =>
    obtain ⟨start, others⟩ := List.forall_mem_cons.mp kept
    rcases List.mem_cons.mp inside with rfl | inside
    · exact isClean_toUpper start
    · obtain ⟨d, later, rfl⟩ := List.mem_map.mp inside
      exact isClean_toLower (others d later)

theorem TypeName.Clean.tag {type : TypeName} (clean : type.Clean) : MachineSpec.Clean type.tag :=
  (clean.name.append (MachineSpec.Clean.pascalCase (.intercalate (by decide) clean.arguments))).append
    (by decide)

/-! ## 4. What is read -/

/-- A name with arguments is clean if its tokens are. -/
theorem clean_applied {phrase : List Token} {name : Token} {arguments : List String}
    {item : Phrases String} (applied : Applied item phrase name arguments)
    (spelled : ∀ token ∈ phrase, token.Spelled)
    (each : ∀ {part text}, (∀ token ∈ part, token.Spelled) → item part text → Clean text) :
    TypeName.Clean ⟨name.text, arguments⟩ := by
  cases applied with
  | bare => exact ⟨(spelled name (.head _)).clean, nofun⟩
  | generic _ _ series _ =>
    refine ⟨(spelled name (.head _)).clean, fun argument mem => ?_⟩
    obtain ⟨part, inside, fits⟩ := series.parts.2 argument mem
    exact each (fun token mem => spelled token (by simp [inside mem])) fits

theorem Grammar.Argument.clean {phrase : List Token} {text : String} (argument : Argument phrase text) :
    (∀ token ∈ phrase, token.Spelled) → Clean text := by
  refine Argument.induct (motive := fun phrase text => (∀ token ∈ phrase, token.Spelled) → Clean text)
    ?applied ?borrowed ?borrowedFor ?lifetime ?slice argument
  case applied =>
    intro phrase name arguments applied spelled
    exact (clean_applied applied spelled fun spelled ih => ih spelled).text
  case borrowed =>
    intro ampersand first rest text _ _ ih spelled
    exact .append (by decide) (ih fun token mem => spelled token (.tail _ mem))
  case borrowedFor =>
    intro ampersand lifetime phrase text _ _ ih spelled
    have named : Clean lifetime.text := (spelled lifetime (by simp)).clean
    exact (Clean.append (by decide) (named.append (by decide))).append
      (ih fun token mem => spelled token (by simp [mem]))
  case lifetime =>
    intro lifetime _ spelled
    exact (spelled lifetime (.head _)).clean
  case slice =>
    intro opening closing phrase text _ ih _ spelled
    exact (Clean.append (by decide) (ih fun token mem => spelled token (by simp [mem]))).append
      (by decide)

theorem Reference.Phrase.clean {phrase : List Token} {reference : Reference}
    (fits : reference.Phrase phrase) (spelled : ∀ token ∈ phrase, token.Spelled) :
    reference.type.Clean := by
  cases fits with
  | intro type => exact clean_applied type spelled fun spelled argument => argument.clean spelled

/-- A machine that was read, by itself or in a document. -/
inductive Machine.WasRead (machine : Machine) : Prop where
  | alone {fallible : Bool} {source : String}
      (read : Machine.ofText fallible source = .ok machine) : WasRead machine
  | member {source : String} {document : Document}
      (read : Document.ofText source = .ok document) (mem : machine ∈ document.machines) :
      WasRead machine

/-- The tokens of its declaration were written in the text. -/
theorem Machine.WasRead.phrase {machine : Machine} (read : machine.WasRead) :
    ∃ (decl : MachineDecl) (fallible : Bool) (phrase : List Token), decl.Phrase fallible phrase ∧
      (∀ token ∈ phrase, token.Spelled) ∧ Machine.ofDecl decl = .ok machine := by
  cases read with
  | @alone fallible source read =>
    unfold Machine.ofText at read
    split at read
    · cases read
    · rename_i decl parsed
      obtain ⟨tokens, scanned, fits⟩ := MachineDecl.ofText_eq_ok_iff.mp parsed
      cases made : Machine.ofDecl decl with
      | error offence =>
        rw [made] at read
        cases read
      | ok checked =>
        rw [made] at read
        cases read
        exact ⟨decl, fallible, _, fits, spelled_of_tokenize scanned, made⟩
  | @member source document read mem =>
    rw [Document.ofText] at read
    rcases whole : Document.read source with ⟨found, _ | rejection⟩ <;> rw [whole] at read <;>
      cases read
    obtain ⟨tokens, declarations, scanned, fits, declares⟩ := Document.read_iff.mp whole
    obtain ⟨decl, listed, made⟩ := Document.declared_of_mem declares mem
    obtain ⟨part, inside, fits⟩ := fits.parts _ listed
    cases fits with
    | intro named means opens body closes ends =>
      cases body with
      | machine body | fallibleMachine body =>
        exact ⟨decl, _, _, body, fun token mem =>
          spelled_of_tokenize scanned token (inside (by simp [mem])), made⟩

/-- All that a report shows of a machine can be quoted. -/
structure Machine.Quotable (machine : Machine) : Prop where
  name : Clean machine.name
  states : ∀ state ∈ machine.states, Clean state.tag ∧ Clean state.text
  targets : ∀ state ∈ machine.states, ∀ target ∈ state.transits, Clean target.tag ∧ Clean target.text

theorem Machine.WasRead.quotable {machine : Machine} (read : machine.WasRead) : machine.Quotable := by
  obtain ⟨decl, fallible, phrase, fits, spelled, made⟩ := read.phrase
  have keeps := Machine.keeps_of_ofDecl made
  have mentioned : ∀ reference ∈ decl.references, reference.type.Clean := by
    intro reference mem
    obtain ⟨part, inside, fits⟩ := fits.references reference mem
    exact fits.clean fun token mem => spelled token (inside mem)
  refine ⟨?_, fun state mem => ?_, fun state mem target leads => ?_⟩
  · cases fits with
    | intro name =>
      rw [keeps.name]
      exact (spelled name (.head _)).clean
  · have listed : state.reference ∈ decl.references := by
      have mem := List.mem_map_of_mem (f := State.reference) mem
      rw [keeps.states] at mem
      simp [MachineDecl.references, mem]
    exact ⟨(mentioned _ listed).tag, (mentioned _ listed).text⟩
  · rw [keeps.transits state mem] at leads
    obtain ⟨edge, leaves, rfl⟩ := List.mem_map.mp leads
    have listed : edge.destination ∈ decl.references := by
      have mem := (List.mem_filter.mp leaves).1
      simp only [MachineDecl.references, List.cons_append, List.mem_cons, List.mem_append,
        List.mem_flatMap]
      exact .inr (.inl (.inr ⟨edge, mem, .inr (.inl rfl)⟩))
    exact ⟨(mentioned _ listed).tag, (mentioned _ listed).text⟩

end MachineSpec
