/-
MachineSpec.Proofs.Resolution — what a type name is bound to after any registrations.

Classes are registered under texts. A text is read as a type name, and the bindings keep its
canonical text, which determines the type name (`Reference.WasRead.type_eq_iff`). So after
any sequence of registrations a type name is bound to the class of the first one for this
name (`first?`): a later one is for the same class or is refused. `Bindings.Holds` is the
invariant, and `Bindings.Holds.register` shows that a registration keeps it.

A name that is not registered is looked up in the namespace. Its text is cut at dots and
double colons from left to right (`Path`); the first part is an entry of the namespace, and
each further part is looked up as an attribute of the value found so far (`Reaches`). The
lookup of attributes is a parameter; in scenarios it finds the fields of an object first,
then the attributes of its class.

* `Bindings.resolve_after_calls`: the value of every type name, and the result of every
  registration.
-/
import MachineSpec.Proofs.Printing
import MachineSpec.Scenario.Setup

namespace MachineSpec

/-! ## 1. Paths -/

/-- A part of a path: there is nothing in it at which to cut. -/
def Uncut (part : List Char) : Prop := '.' ∉ part ∧ ¬ [':', ':'] <:+: part

/-- A text is cut into parts at every dot and at every double colon, the leftmost first. -/
inductive Path : List Char → List (List Char) → Prop where
  | last {part : List Char} (uncut : Uncut part) : Path part [part]
  | dot {part rest : List Char} {parts : List (List Char)} (uncut : Uncut part)
      (others : Path rest parts) : Path (part ++ '.' :: rest) (part :: parts)
  | colons {part rest : List Char} {parts : List (List Char)} (uncut : Uncut (part ++ [':']))
      (others : Path rest parts) : Path (part ++ ':' :: ':' :: rest) (part :: parts)

/-- No double colon begins here. -/
def Apart (c : Char) (rest : List Char) : Prop := c = ':' → rest.head? ≠ some ':'

theorem uncut_nil : Uncut [] := ⟨nofun, by simp⟩

theorem uncut_cons_iff {c : Char} {part : List Char} :
    Uncut (c :: part) ↔ c ≠ '.' ∧ Apart c part ∧ Uncut part := by
  have double : ¬ [':', ':'] <+: c :: part ↔ Apart c part := by
    cases part <;> simp [Apart, List.cons_prefix_cons, eq_comm]
  simp only [Uncut, List.mem_cons, not_or, List.infix_cons_iff, double, ne_comm]
  exact ⟨fun ⟨⟨a, b⟩, c, d⟩ => ⟨a, c, b, d⟩, fun ⟨a, c, b, d⟩ => ⟨⟨a, b⟩, c, d⟩⟩

theorem Path.ne_nil {text : List Char} {parts : List (List Char)} (path : Path text parts) :
    parts ≠ [] := by
  cases path <;> exact nofun

/-- A double colon begins or does not begin whatever stands behind the next character. -/
theorem Apart.append {c d : Char} {part rest rest' : List Char}
    (apart : Apart c (part ++ d :: rest)) : Apart c (part ++ d :: rest') := by
  intro colon
  have next := apart colon
  cases part <;> exact next

/-- A character that does not cut goes to the first part. -/
theorem Path.cons {c : Char} {text part : List Char} {parts : List (List Char)}
    (noDot : c ≠ '.') (apart : Apart c text) (path : Path text (part :: parts)) :
    Path (c :: text) ((c :: part) :: parts) := by
  cases path with
  | last uncut => exact .last (uncut_cons_iff.mpr ⟨noDot, apart, uncut⟩)
  | @dot _ rest _ uncut others =>
    refine @Path.dot (c :: part) _ _ (uncut_cons_iff.mpr ⟨noDot, fun colon => ?_, uncut⟩) others
    have next := apart colon
    cases part with
    | nil => exact nofun
    | cons => exact next
  | colons uncut others =>
    exact @Path.colons (c :: _) _ _ (uncut_cons_iff.mpr ⟨noDot, apart.append, uncut⟩) others

namespace Bindings

theorem splitPath_cons {c : Char} {rest step : List Char} {steps : List (List Char)}
    (noDot : c ≠ '.') (apart : Apart c rest) (split : splitPath rest = step :: steps) :
    splitPath (c :: rest) = (c :: step) :: steps := by
  rw [splitPath, if_neg noDot, split]
  rintro more colon rfl
  exact apart colon rfl

theorem path_splitPath (text : List Char) : Path text (splitPath text) := by
  fun_induction splitPath text with
  | case1 => exact .last uncut_nil
  | case2 rest ih => exact @Path.colons [] _ _ ⟨by decide, by decide⟩ ih
  | case3 rest _ ih => exact .dot uncut_nil ih
  | case4 c rest _ _ none ih => exact absurd none ih.ne_nil
  | case5 c rest apart noDot step steps split ih =>
    refine (split ▸ ih).cons noDot fun colon next => ?_
    obtain ⟨more, rfl⟩ := List.head?_eq_some_iff.mp next
    exact apart more colon rfl

theorem splitPath_uncut {part : List Char} (uncut : Uncut part) : splitPath part = [part] := by
  induction part with
  | nil => rfl
  | cons c part ih =>
    obtain ⟨noDot, apart, uncut⟩ := uncut_cons_iff.mp uncut
    exact splitPath_cons noDot apart (ih uncut)

theorem splitPath_dot {part rest : List Char} (uncut : Uncut part) :
    splitPath (part ++ '.' :: rest) = part :: splitPath rest := by
  induction part with
  | nil =>
    rw [List.nil_append, splitPath, if_pos rfl]
    exact fun _ colon => absurd colon (by decide)
  | cons c part ih =>
    obtain ⟨noDot, apart, uncut⟩ := uncut_cons_iff.mp uncut
    refine splitPath_cons noDot (fun colon => ?_) (ih uncut)
    have next := apart colon
    cases part with
    | nil => exact (by decide : some '.' ≠ some ':')
    | cons => exact next

theorem splitPath_colons {part rest : List Char} (uncut : Uncut (part ++ [':'])) :
    splitPath (part ++ ':' :: ':' :: rest) = part :: splitPath rest := by
  induction part with
  | nil => rw [List.nil_append, splitPath]
  | cons c part ih =>
    obtain ⟨noDot, apart, uncut⟩ := uncut_cons_iff.mp uncut
    exact splitPath_cons noDot apart.append (ih uncut)

/-- A name is cut in just one way. -/
theorem path_iff {text : List Char} {parts : List (List Char)} :
    Path text parts ↔ splitPath text = parts := by
  constructor
  · intro path
    induction path with
    | last uncut => exact splitPath_uncut uncut
    | dot uncut _ ih => rw [splitPath_dot uncut, ih]
    | colons uncut _ ih => rw [splitPath_colons uncut, ih]
  · rintro rfl
    exact path_splitPath text

end Bindings

/-! ## 2. Calls -/

/-- A class to be bound, and the text that says to what name. -/
structure Registration where
  source : String
  kind : Class

/-- The type name that the text consists of. -/
def Registration.type? (call : Registration) : Option TypeName :=
  (Reference.ofText call.source).toOption.map Reference.type

/-- The class of the first call for a type name. -/
def first? (type : TypeName) (calls : List Registration) : Option Class :=
  (calls.find? fun call => call.type? = some type).map Registration.kind

/-- A call for a name that an earlier one bound to another class. -/
def Conflicts (before : List Registration) (call : Registration) : Prop :=
  ∃ type kind, call.type? = some type ∧ first? type before = some kind ∧
    kind.same call.kind = false

theorem type?_of_read {call : Registration} {reference : Reference}
    (read : Reference.ofText call.source = .ok reference) : call.type? = some reference.type := by
  rw [Registration.type?, read]
  rfl

/-- One more call counts if it is for this name and no other was. -/
theorem first?_snoc (type : TypeName) (calls : List Registration) (call : Registration) :
    first? type (calls ++ [call]) =
      (first? type calls).or (if call.type? = some type then some call.kind else none) := by
  rw [first?, List.find?_append, first?]
  cases calls.find? fun call => call.type? = some type with
  | some => rfl
  | none =>
    by_cases named : call.type? = some type
    · simp [named]
    · simp [named]

/-- One more call changes nothing if it is for no name, or for one that another call was for. -/
theorem first?_snoc_later {calls : List Registration} {call : Registration}
    (later : ∀ type, call.type? = some type → first? type calls ≠ none) (type : TypeName) :
    first? type (calls ++ [call]) = first? type calls := by
  rw [first?_snoc]
  by_cases named : call.type? = some type
  · obtain ⟨kind, first⟩ := Option.ne_none_iff_exists'.mp (later type named)
    rw [first, Option.some_or]
  · rw [if_neg named, Option.or_none]

theorem same_symm {c d : Class} (same : c.same d = true) : d.same c = true := by
  rw [Class.same, beq_iff_eq] at same ⊢
  exact same.symm

namespace Bindings

/-- Binds a class to the name that a text consists of. -/
def register (bindings : Bindings) (call : Registration) : Except Error Bindings :=
  match Reference.ofText call.source with
  | .error error => .error (.rejected (.malformed error))
  | .ok reference => bindings.addType reference.type (.cls call.kind)

/-- The bindings after a call: the old ones if it is refused. -/
def attempt (bindings : Bindings) (call : Registration) : Bindings :=
  (bindings.register call).toOption.getD bindings

/-- The bindings after calls, one after another. -/
def attempts (bindings : Bindings) (calls : List Registration) : Bindings :=
  calls.foldl attempt bindings

/-! ## 3. What is bound after calls -/

/-- What is found where a class was bound: that class, or nothing where none was. -/
inductive Finds : Option Value → Option Class → Prop where
  | nothing : Finds none none
  | bound {found kind : Class} (same : found.same kind = true) :
      Finds (some (.cls found)) (some kind)

/-- Under the text of every name that was read stands the class of the first call for it. The
    namespace is the one that the bindings were made with. -/
structure Holds (entries : List (String × Value)) (attributeOf : Value → String → Option Value)
    (calls : List Registration) (bindings : Bindings) : Prop where
  namespaceEntries : bindings.namespaceEntries = entries
  attributeOf : bindings.attributeOf = attributeOf
  finds : ∀ reference : Reference, reference.WasRead →
    Finds (bindings.types.lookup reference.text) (first? reference.type calls)

theorem holds_empty (entries : List (String × Value))
    (attributeOf : Value → String → Option Value) :
    Holds entries attributeOf [] (empty entries attributeOf) :=
  ⟨rfl, rfl, fun _ _ => .nothing⟩

/-- What becomes of a call: the text is no name, or the name is free or bound to this class, or
    it is bound to another one. -/
inductive Receives (calls : List Registration) (bindings : Bindings) (call : Registration) :
    Except Error Bindings → Prop where
  | malformed {error : ParseError} (unread : Reference.ofText call.source = .error error) :
      Receives calls bindings call (.error (.rejected (.malformed error)))
  | bound {reference : Reference} (read : Reference.ofText call.source = .ok reference)
      (free : ∀ kind, first? reference.type calls = some kind → kind.same call.kind = true) :
      Receives calls bindings call
        (.ok { bindings with types := (reference.text, .cls call.kind) :: bindings.types })
  | refused {reference : Reference} {kind found : Class}
      (read : Reference.ofText call.source = .ok reference)
      (first : first? reference.type calls = some kind) (other : kind.same call.kind = false)
      (same : found.same kind = true) :
      Receives calls bindings call (.error (.alreadyBound reference.text (.cls found)))

section
variable {entries : List (String × Value)} {attributeOf : Value → String → Option Value}
  {calls : List Registration} {bindings : Bindings}

theorem Holds.receives (holds : Holds entries attributeOf calls bindings) (call : Registration) :
    Receives calls bindings call (bindings.register call) := by
  unfold register
  cases read : Reference.ofText call.source with
  | error error => exact .malformed read
  | ok reference =>
    change Receives calls bindings call (bindings.addType reference.type (.cls call.kind))
    unfold addType
    have finds := holds.finds reference (.alone read)
    rw [Reference.text] at finds
    generalize bindings.types.lookup reference.type.text = there,
      first : first? reference.type calls = bound at finds
    cases finds with
    | nothing => exact .bound read fun kind taken => absurd (first.symm.trans taken) nofun
    | @bound found kind same =>
      cases identical : found.same call.kind with
      | true =>
        have free : kind.same call.kind = true := by simp_all [Class.same]
        simp only [Value.identical, identical, Bool.or_true, if_true]
        exact .bound read fun other taken => Option.some.inj (first.symm.trans taken) ▸ free
      | false =>
        have other : kind.same call.kind = false := by simp_all [Class.same]
        simp only [Value.identical, Value.isNull, identical, Bool.or_false]
        exact .refused read first other same

/-- A call keeps it, whether or not it is refused. -/
theorem Holds.attempt (holds : Holds entries attributeOf calls bindings) (call : Registration) :
    Holds entries attributeOf (calls ++ [call]) (bindings.attempt call) := by
  have receives := holds.receives call
  unfold Bindings.attempt
  generalize bindings.register call = result at receives
  cases receives with
  | malformed unread =>
    refine ⟨holds.namespaceEntries, holds.attributeOf, fun reference read => ?_⟩
    rw [first?_snoc_later (by simp [Registration.type?, unread, Except.toOption])]
    exact holds.finds reference read
  | @refused reference kind found read first =>
    refine ⟨holds.namespaceEntries, holds.attributeOf, fun other otherRead => ?_⟩
    rw [first?_snoc_later (by simp [type?_of_read read, first])]
    exact holds.finds other otherRead
  | @bound reference read free =>
    refine ⟨holds.namespaceEntries, holds.attributeOf, fun other otherRead => ?_⟩
    have key : other.type = reference.type ↔ other.text = reference.text :=
      otherRead.type_eq_iff (.alone read)
    rw [first?_snoc, type?_of_read read]
    change Finds (((reference.text, Value.cls call.kind) :: bindings.types).lookup other.text) _
    by_cases same : other.type = reference.type
    · have found : ((reference.text, Value.cls call.kind) :: bindings.types).lookup other.text =
          some (.cls call.kind) := by rw [key.mp same, List.lookup_cons_self]
      rw [found, same, if_pos rfl]
      cases first : first? reference.type calls with
      | none => exact .bound (by simp [Class.same])
      | some kind => exact .bound (same_symm (free kind first))
    · have differs : (other.text == reference.text) = false :=
        beq_false_of_ne fun text => same (key.mpr text)
      have unnamed : ¬ some reference.type = some other.type := fun type =>
        same (Option.some.inj type).symm
      rw [List.lookup_cons, differs, if_neg unnamed, Option.or_none]
      exact holds.finds other otherRead

/-- Calls keep it. -/
theorem Holds.attempts (holds : Holds entries attributeOf calls bindings)
    (more : List Registration) :
    Holds entries attributeOf (calls ++ more) (bindings.attempts more) := by
  induction more generalizing calls bindings with
  | nil => rwa [List.append_nil]
  | cons call more ih =>
    have behind := ih (holds.attempt call)
    rwa [List.append_assoc, List.singleton_append] at behind

end

/-! ## 4. What a type name stands for -/

/-- Names are followed from a value: each is looked up as an attribute of what was found so far. An
    attribute that is missing gives `null`, and in `null` nothing is looked up. -/
inductive Reaches (attributeOf : Value → String → Option Value) :
    Value → List String → Value → Prop where
  | here {value : Value} : Reaches attributeOf value [] value
  | attribute {value next final : Value} {name : String} {names : List String}
      (there : value.isNull = false) (found : attributeOf value name = some next)
      (others : Reaches attributeOf next names final) : Reaches attributeOf value (name :: names) final
  | missing {value : Value} {name : String} {names : List String} (there : value.isNull = false)
      (missing : attributeOf value name = none) : Reaches attributeOf value (name :: names) .null
  | nothing {name : String} {names : List String} : Reaches attributeOf .null (name :: names) .null

/-- What the namespace has where a name leads: the entry of the first part, or `null` if there is
    none, and from there attribute by attribute. -/
def Leads (entries : List (String × Value)) (attributeOf : Value → String → Option Value)
    (name : String) (value : Value) : Prop :=
  ∃ first rest, Path name.toList (first :: rest) ∧
    Reaches attributeOf ((entries.lookup (String.ofList first)).getD .null)
      (rest.map String.ofList) value

theorem foldl_member_null (bindings : Bindings) (names : List String) :
    names.foldl bindings.member .null = .null := by
  induction names with
  | nil => rfl
  | cons name names ih => exact ih

theorem reaches_foldl (bindings : Bindings) (names : List String) (value : Value) :
    Reaches bindings.attributeOf value names (names.foldl bindings.member value) := by
  induction names generalizing value with
  | nil => exact .here
  | cons name names ih =>
    rw [List.foldl_cons, member]
    cases there : value.isNull with
    | true =>
      obtain rfl : value = .null := by cases value <;> simp_all [Value.isNull]
      rw [if_pos rfl, foldl_member_null]
      exact .nothing
    | false =>
      rw [if_neg Bool.false_ne_true]
      cases found : bindings.attributeOf value name with
      | some next => exact .attribute there found (ih next)
      | none =>
        rw [Option.getD_none, foldl_member_null]
        exact .missing there found

theorem leads_lookUp (bindings : Bindings) (name : String) :
    Leads bindings.namespaceEntries bindings.attributeOf name (bindings.lookUp name) := by
  have path := path_splitPath name.toList
  unfold lookUp pathSteps
  cases parts : splitPath name.toList with
  | nil => exact absurd parts path.ne_nil
  | cons first rest => exact ⟨first, rest, parts ▸ path, reaches_foldl bindings _ _⟩

/-- The answer to a type name after calls: the class that the first call for it bound; else, if
    it has arguments, what the first call for the bare name bound; else what is where the
    name leads; and if nothing is there, that it is bound to nothing. -/
inductive Answers (entries : List (String × Value)) (attributeOf : Value → String → Option Value)
    (calls : List Registration) (type : TypeName) : Except Error Value → Prop where
  | itself {kind found : Class} (first : first? type calls = some kind)
      (same : found.same kind = true) : Answers entries attributeOf calls type (.ok (.cls found))
  | bare {kind found : Class} (free : first? type calls = none) (applied : type.arguments ≠ [])
      (first : first? ⟨type.name, []⟩ calls = some kind) (same : found.same kind = true) :
      Answers entries attributeOf calls type (.ok (.cls found))
  | found {value : Value} (free : first? type calls = none)
      (bareFree : first? ⟨type.name, []⟩ calls = none)
      (leads : Leads entries attributeOf type.name value) (there : value.isNull = false) :
      Answers entries attributeOf calls type (.ok value)
  | missing (free : first? type calls = none) (bareFree : first? ⟨type.name, []⟩ calls = none)
      (leads : Leads entries attributeOf type.name .null) :
      Answers entries attributeOf calls type (.error (.unbound type.text))

end Bindings

/-- The bare name of a type name that was read could have been read, too. -/
theorem Reference.WasRead.bare {reference : Reference} (read : reference.WasRead) :
    ∃ bare : Reference, bare.WasRead ∧ bare.type = ⟨reference.type.name, []⟩ := by
  obtain ⟨phrase, fits, spelled⟩ := read.phrase
  cases fits with
  | @intro _ name arguments type =>
    obtain ⟨rest, rfl, named⟩ := type.starts
    have alone : Reference.Phrase [name] ⟨⟨name.text, []⟩, name.span⟩ := .intro (.bare named)
    obtain ⟨again, readAgain, bare⟩ := alone.reads_again fun token mem =>
      spelled token (List.mem_cons.mpr (.inl (List.mem_singleton.mp mem)))
    exact ⟨again, .alone readAgain, bare⟩

namespace Bindings

section
variable {entries : List (String × Value)} {attributeOf : Value → String → Option Value}
  {calls : List Registration} {bindings : Bindings}

theorem Holds.answers (holds : Holds entries attributeOf calls bindings) {reference : Reference}
    (read : reference.WasRead) :
    Answers entries attributeOf calls reference.type (bindings.resolve reference.type) := by
  obtain ⟨bare, bareRead, bareType⟩ := read.bare
  have itself := holds.finds reference read
  have byName := holds.finds bare bareRead
  rw [Reference.text] at itself byName
  rw [bareType] at byName
  unfold resolve
  generalize bindings.types.lookup reference.type.text = there,
    first : first? reference.type calls = bound at itself
  cases itself with
  | bound same => exact .itself first same
  | nothing =>
    change Finds (bindings.types.lookup reference.type.name) _ at byName
    generalize bindings.types.lookup reference.type.name = there,
      bareFirst : first? ⟨reference.type.name, []⟩ calls = bound at byName
    cases byName with
    | bound same =>
      refine .bare first (fun none => ?_) bareFirst same
      have alone : reference.type = ⟨reference.type.name, []⟩ := by rw [← none]
      rw [alone] at first
      exact absurd (first.symm.trans bareFirst) nofun
    | nothing =>
      have leads := leads_lookUp bindings reference.type.name
      rw [holds.namespaceEntries, holds.attributeOf] at leads
      change Answers entries attributeOf calls reference.type
        (if (bindings.lookUp reference.type.name).isNull = true then
          .error (.unbound reference.type.text) else .ok (bindings.lookUp reference.type.name))
      cases there : bindings.lookUp reference.type.name with
      | null => exact .missing first bareFirst (there ▸ leads)
      | _ => exact .found first bareFirst (there ▸ leads) rfl

/-- A call raises a binding error just if its name is bound to another class. -/
theorem Holds.refuses_iff (holds : Holds entries attributeOf calls bindings)
    (call : Registration) :
    (∃ error, bindings.register call = .error error ∧ error.kind = .bindingError) ↔
      Conflicts calls call := by
  have receives := holds.receives call
  constructor
  · rintro ⟨error, refuses, kind⟩
    rw [refuses] at receives
    cases receives with
    | malformed =>
      have other : Class.parseError.id ≠ Class.bindingError.id := by decide
      exact absurd (congrArg Class.id kind) other
    | refused read first other same => exact ⟨_, _, type?_of_read read, first, other⟩
  · rintro ⟨type, kind, named, first, other⟩
    generalize bindings.register call = result at receives
    cases receives with
    | malformed unread => simp [Registration.type?, unread, Except.toOption] at named
    | bound read free =>
      cases (type?_of_read read).symm.trans named
      exact absurd (free kind first) (by simp [other])
    | refused read first => exact ⟨_, rfl, rfl⟩

end

/-! ## 5. Calls in a world -/

/-- What a call does in a world: it changes the bindings, or it raises an exception and leaves them
    as they are. -/
inductive Carried (world : Scenario.World) (call : Registration) :
    Except Value Unit × Scenario.World → Prop where
  | done {bindings : Bindings} (accepts : world.bindings.register call = .ok bindings) :
      Carried world call (.ok (), { world with bindings })
  | raised {error : Error} {place : Nat} {changed : Scenario.World}
      (refuses : world.bindings.register call = .error error)
      (unmoved : changed.bindings = world.bindings) :
      Carried world call (.error (.object place error.kind), changed)

theorem carried (world : Scenario.World) (call : Registration) :
    Carried world call ((Scenario.Run.addType call.source (.cls call.kind)).run.run world) := by
  unfold Scenario.Run.addType Scenario.Run.typeName
  cases read : Reference.ofText call.source with
  | error error =>
    have refuses : world.bindings.register call = .error (.rejected (.malformed error)) := by
      rw [register, read]
    exact .raised refuses rfl
  | ok reference =>
    have same : world.bindings.register call =
        world.bindings.addType reference.type (.cls call.kind) := by
      rw [register, read]
    change Carried world call (ExceptT.run (do
      let bindings ← Scenario.Run.accept (world.bindings.addType reference.type (.cls call.kind))
      modify fun world => { world with bindings }) world)
    cases adds : world.bindings.addType reference.type (.cls call.kind) with
    | ok bindings => exact .done (same.trans adds)
    | error error => exact .raised (same.trans adds) rfl

/-- After any registrations, with any namespace and attribute lookup, a type name resolves to the
    class of the first registration for it; without one, if it has arguments, to that for the bare
    name; without one, to the value that its path leads to in the namespace; and is unbound if there
    is none. A registration is refused with a binding error if and only if an earlier one bound an
    equal name to another class, and a refused one changes nothing. -/
theorem resolve_after_calls (entries : List (String × Value))
    (attributeOf : Value → String → Option Value) (calls : List Registration) :
    (∀ reference : Reference, reference.WasRead →
      Answers entries attributeOf calls reference.type
        (((empty entries attributeOf).attempts calls).resolve reference.type)) ∧
    (∀ call, (∃ error, ((empty entries attributeOf).attempts calls).register call = .error error ∧
      error.kind = .bindingError) ↔ Conflicts calls call) ∧
    (∀ call world, Carried world call
      ((Scenario.Run.addType call.source (.cls call.kind)).run.run world)) := by
  have holds := (holds_empty entries attributeOf).attempts calls
  exact ⟨fun _ read => holds.answers read, holds.refuses_iff, fun call world => carried world call⟩

/-- Two classes for `Foo`, and one in the namespace. -/
def fooKind : Class := Class.state.plain 100 "Foo"

def upKind : Class := Class.state.plain 101 "FooUp"

def idleKind : Class := Class.state.plain 102 "Idle"

/-- A collection with a class in it, and an object. -/
def fooEntries : List (String × Value) :=
  [("states", .bundle [("Idle", .cls idleKind)]), ("box", .object 0 Class.object)]

/-- The object has a class in a field. -/
def fooWorld : Scenario.World :=
  { Scenario.World.initial .default none with entities := #[⟨[("Up", .cls upKind)], .plain⟩] }

/-- The third call is refused, and the text of the fourth is no name. -/
def fooCalls : List Registration :=
  [⟨"Foo", fooKind⟩, ⟨"Foo < Up >", upKind⟩, ⟨"Foo<Up,>", fooKind⟩, ⟨"Foo<Down", upKind⟩]

/-- What the calls leave, with attributes looked up as in the world. -/
def fooBindings : Bindings := (empty fooEntries fooWorld.attribute?).attempts fooCalls

/-- A registered instance, an instance that falls back to its bare name, paths to an entry of a
    collection, to a field of an object, to a method and to a missing attribute, and a refused
    registration. -/
theorem resolve_after_calls_foo :
    (∃ up : Reference, Reference.ofText "Foo<Up>" = .ok up ∧
      first? up.type fooCalls = some upKind ∧
      Answers fooEntries fooWorld.attribute? fooCalls up.type (fooBindings.resolve up.type)) ∧
    (∃ down : Reference, Reference.ofText "Foo<Down>" = .ok down ∧
      first? down.type fooCalls = none ∧ first? ⟨"Foo", []⟩ fooCalls = some fooKind ∧
      Answers fooEntries fooWorld.attribute? fooCalls down.type (fooBindings.resolve down.type)) ∧
    (∃ idle : Reference, Reference.ofText "states::Idle" = .ok idle ∧
      Leads fooEntries fooWorld.attribute? "states::Idle" (.cls idleKind) ∧
      Answers fooEntries fooWorld.attribute? fooCalls idle.type (fooBindings.resolve idle.type)) ∧
    (∃ field : Reference, Reference.ofText "box.Up" = .ok field ∧
      Leads fooEntries fooWorld.attribute? "box.Up" (.cls upKind) ∧
      Answers fooEntries fooWorld.attribute? fooCalls field.type (fooBindings.resolve field.type)) ∧
    (∃ entry : Reference, Reference.ofText "states.Idle.entry" = .ok entry ∧
      Leads fooEntries fooWorld.attribute? "states.Idle.entry"
        (.method Class.state.own "entry" .idle none) ∧
      Answers fooEntries fooWorld.attribute? fooCalls entry.type (fooBindings.resolve entry.type)) ∧
    (∃ nothing : Reference, Reference.ofText "box.Down" = .ok nothing ∧
      Leads fooEntries fooWorld.attribute? "box.Down" .null ∧
      Answers fooEntries fooWorld.attribute? fooCalls nothing.type
        (fooBindings.resolve nothing.type)) ∧
    (∃ error, fooBindings.register ⟨"Foo<Up>", idleKind⟩ = .error error ∧
      error.kind = .bindingError) := by
  obtain ⟨answers, refuses, -⟩ := resolve_after_calls fooEntries fooWorld.attribute? fooCalls
  have up : Reference.ofText "Foo<Up>" = .ok ⟨⟨"Foo", ["Up"]⟩, ⟨⟨0, 1, 1⟩, 3⟩⟩ :=
    eq_ok_of_toOption (by decide +kernel)
  have down : Reference.ofText "Foo<Down>" = .ok ⟨⟨"Foo", ["Down"]⟩, ⟨⟨0, 1, 1⟩, 3⟩⟩ :=
    eq_ok_of_toOption (by decide +kernel)
  have idle : Reference.ofText "states::Idle" = .ok ⟨⟨"states::Idle", []⟩, ⟨⟨0, 1, 1⟩, 12⟩⟩ :=
    eq_ok_of_toOption (by decide +kernel)
  have field : Reference.ofText "box.Up" = .ok ⟨⟨"box.Up", []⟩, ⟨⟨0, 1, 1⟩, 6⟩⟩ :=
    eq_ok_of_toOption (by decide +kernel)
  have entry : Reference.ofText "states.Idle.entry" =
      .ok ⟨⟨"states.Idle.entry", []⟩, ⟨⟨0, 1, 1⟩, 17⟩⟩ := eq_ok_of_toOption (by decide +kernel)
  have nothing : Reference.ofText "box.Down" = .ok ⟨⟨"box.Down", []⟩, ⟨⟨0, 1, 1⟩, 8⟩⟩ :=
    eq_ok_of_toOption (by decide +kernel)
  have toIdle : Leads fooEntries fooWorld.attribute? "states::Idle" (.cls idleKind) :=
    ⟨"states".toList, ["Idle".toList], path_iff.mpr (by decide), .attribute rfl rfl .here⟩
  have toField : Leads fooEntries fooWorld.attribute? "box.Up" (.cls upKind) :=
    ⟨"box".toList, ["Up".toList], path_iff.mpr (by decide), .attribute rfl rfl .here⟩
  have toEntry : Leads fooEntries fooWorld.attribute? "states.Idle.entry"
      (.method Class.state.own "entry" .idle none) :=
    ⟨"states".toList, ["Idle".toList, "entry".toList], path_iff.mpr (by decide),
      .attribute rfl rfl (.attribute rfl rfl .here)⟩
  have toNothing : Leads fooEntries fooWorld.attribute? "box.Down" .null :=
    ⟨"box".toList, ["Down".toList], path_iff.mpr (by decide), .missing rfl rfl⟩
  refine ⟨⟨_, up, by decide +kernel, answers _ (.alone up)⟩,
    ⟨_, down, by decide +kernel, by decide +kernel, answers _ (.alone down)⟩,
    ⟨_, idle, toIdle, answers _ (.alone idle)⟩, ⟨_, field, toField, answers _ (.alone field)⟩,
    ⟨_, entry, toEntry, answers _ (.alone entry)⟩,
    ⟨_, nothing, toNothing, answers _ (.alone nothing)⟩, (refuses _).mpr ?_⟩
  exact ⟨⟨"Foo", ["Up"]⟩, upKind, by decide +kernel, by decide +kernel, rfl⟩

end Bindings

end MachineSpec
