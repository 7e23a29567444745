/-
MachineSpec.Value — the values that machines and their callbacks exchange.

Most values are data and are equal if they look equal. An object is a
reference: two are the same only if they are one, whatever they hold. What an
object holds is kept elsewhere; the class is part of the reference, so whether
a value is an instance of a class is decided by the value alone.

`null` is a value like any other, but a machine that should hold it holds
nothing: it is the mark of the empty slot.
-/
import MachineSpec.Class
import MachineSpec.Decimal
import MachineSpec.Text.Quoted

namespace MachineSpec

/-! ## 1. Guards and values -/

/-- The verdict of a guard: stay in the state or take the transition. -/
inductive Guard where
  | remain
  | transit
deriving DecidableEq, Repr

/-- The verdict that a truth value stands for. -/
def Guard.ofBool (transit : Bool) : Guard := if transit then .transit else .remain

/-- The word for a verdict. -/
def Guard.word : Guard → String
  | .remain => "remain"
  | .transit => "transit"

/-- A value. -/
inductive Value where
  | null
  | bool (value : Bool)
  | int (value : Int)
  | float (value : Decimal)
  | text (value : String)
  | list (items : List Value)
  | guard (verdict : Guard)
  | cls (value : Class)
  /-- An object, by reference. -/
  | object (reference : Nat) (kind : Class)
  /-- A collection of named values. -/
  | bundle (entries : List (String × Value))
  /-- The state a machine was in when it was asked: its tag, its class and its data. -/
  | active (tag : String) (kind : Class) (data : Value)
  /-- A method under its name, with the class that adds it and the value it is bound to, if any. -/
  | method (owner : ClassLayer) (name : String) (member : Member) (self : Option Value)
deriving Repr, Inhabited

namespace Value

/-- The class of a value. -/
def kind : Value → Class
  | null => .noneType
  | bool _ => .bool
  | int _ => .int
  | float _ => .float
  | text _ => .str
  | list _ => .list
  | guard _ => .transitGuard
  | cls _ => .type
  | object _ c => c
  | bundle _ => .simpleNamespace
  | active .. => .activeState
  | method _ _ _ none => .function
  | method _ _ _ (some _) => .method

/-- Whether a value is an instance of a class. -/
def isA (value : Value) (c : Class) : Bool := value.kind.inherits c

/-- Whether a value is the mark of the empty slot. -/
def isNull : Value → Bool
  | null => true
  | _ => false

/-- The verdict that a value is accepted as: a verdict itself, or a truth value. -/
def verdict? : Value → Option Guard
  | guard verdict => some verdict
  | bool transit => some (.ofBool transit)
  | _ => none

/-- The number of a value that counts as a whole number; truth values are one and zero. -/
def whole? : Value → Option Int
  | bool b => some (if b then 1 else 0)
  | int n => some n
  | _ => none

/-- Whether a value passes for true: all do but nothing, zero and what is empty. -/
def truthy : Value → Bool
  | null => false
  | bool b => b
  | int n => n != 0
  | float d => d.mantissa != 0
  | text s => !s.isEmpty
  | list items => !items.isEmpty
  | _ => true

/-! ## 2. Sameness -/

/-- The number a value stands for, if it is one. -/
def number? : Value → Option Decimal
  | float d => some d
  | value => value.whole?.map .ofInt

mutual

/-- Whether two values are equal. Numbers are compared as numbers, objects and classes as
    references, and everything else part by part. -/
def equal : Value → Value → Bool
  | null, null => true
  | text a, text b => a == b
  | list as, list bs => equalAll as bs
  | guard a, guard b => a == b
  | cls a, cls b => a.same b
  | object a _, object b _ => a == b
  | bundle as, bundle bs => equalEntries as bs
  | active tag c a, active tag' d b => tag == tag' && c.same d && equal a b
  | method c name _ none, method d name' _ none => c.id == d.id && name == name'
  | method c name _ (some a), method d name' _ (some b) =>
    c.id == d.id && name == name' && equal a b
  | a, b =>
    match a.number?, b.number? with
    | some m, some n => m == n
    | _, _ => false

/-- Whether two lists are equal member by member. -/
def equalAll : List Value → List Value → Bool
  | [], [] => true
  | a :: as, b :: bs => equal a b && equalAll as bs
  | _, _ => false

/-- Whether two collections are equal entry by entry. -/
def equalEntries : List (String × Value) → List (String × Value) → Bool
  | [], [] => true
  | (name, a) :: as, (name', b) :: bs => name == name' && equal a b && equalEntries as bs
  | _, _ => false

end

/-- Whether a text exists only once: it is empty or a single one of the first 256 characters. -/
def shared (text : String) : Bool :=
  match text.toList with
  | [] => true
  | [c] => c.toNat < 256
  | _ => false

/-- Whether two values are one and the same. Small numbers, short texts, truth values, verdicts and
    classes exist once; larger numbers, longer texts and lists written twice do not. -/
def identical : Value → Value → Bool
  | null, null => true
  | bool a, bool b => a == b
  | int a, int b => a == b && -5 ≤ a && a ≤ 256
  | text a, text b => a == b && shared a
  | guard a, guard b => a == b
  | cls a, cls b => a.same b
  | object a _, object b _ => a == b
  | method c name _ none, method d name' _ none => c.id == d.id && name == name'
  | _, _ => false

/-! ## 3. Values in words -/

mutual

/-- How messages show a value, given how they show an object. -/
def shown (object : Nat → Class → String) : Value → String
  | null => "None"
  | bool b => if b then "True" else "False"
  | int n => toString n
  | float d => d.text
  | text s => Text.quoted s
  | list items => "[" ++ String.intercalate ", " (shownAll object items) ++ "]"
  | guard .remain => "<TransitGuard.REMAIN: 'remain'>"
  | guard .transit => "<TransitGuard.TRANSIT: 'transit'>"
  | cls c => c.shown
  | .object reference c => object reference c
  | bundle entries => "namespace(" ++ String.intercalate ", " (shownEntries object entries) ++ ")"
  | active tag c data =>
    "ActiveState(tag=" ++ Text.quoted tag ++ ", state_type=" ++ c.shown ++ ", data=" ++
      shown object data ++ ")"
  | method c name _ none => "<function " ++ c.name ++ "." ++ name ++ ">"
  | method c name _ (some self) =>
    "<bound method " ++ c.name ++ "." ++ name ++ " of " ++ shown object self ++ ">"

/-- How messages show the members of a list. -/
def shownAll (object : Nat → Class → String) : List Value → List String
  | [] => []
  | item :: rest => shown object item :: shownAll object rest

/-- How messages show the entries of a collection. -/
def shownEntries (object : Nat → Class → String) : List (String × Value) → List String
  | [] => []
  | (name, item) :: rest => (name ++ "=" ++ shown object item) :: shownEntries object rest

end

end Value

/-- The value of a member that is no method. -/
def Constant.value : Constant → Value
  | .null => .null
  | .bool b => .bool b
  | .int n => .int n
  | .text s => .text s

/-! ## 4. Attributes -/

/-- What stands for a member of a class where it is looked up: a constant itself, or a method, bound
    to the value it was looked up in. -/
def Member.value (member : Member) (owner : ClassLayer) (name : String) (self : Option Value) :
    Value :=
  match member with
  | .constant fixed => fixed.value
  | member => .method owner name member self

/-- What a class has under a name. -/
def Class.attribute? (kind : Class) (name : String) (self : Option Value) : Option Value :=
  (kind.find? name).map fun (owner, member) => member.value owner name self

/-- What a value itself has under a name, apart from the fields of objects: a collection and a
    snapshot of a machine have their parts, and a class has its name and its members. -/
def Value.part? (value : Value) (name : String) : Option Value :=
  match value with
  | .bundle entries => entries.lookup name
  | .active tag kind data =>
    [("tag", .text tag), ("state_type", .cls kind), ("data", data)].lookup name
  | .cls kind => if name = "__name__" then some (.text kind.name) else kind.attribute? name none
  | _ => none

/-- What is found in a value under a name, apart from the fields of objects: its class, what it has
    itself, or else what its class has. -/
def Value.attribute? (value : Value) (name : String) : Option Value :=
  if name = "__class__" then some (.cls value.kind)
  else (value.part? name).or (value.kind.attribute? name (some value))

end MachineSpec
