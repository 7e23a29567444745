/-
MachineSpec.TypeName — names of states and types, with their arguments.

A type name is a name and a list of arguments, each of them a text: `Foo`,
`Foo<Up>`, `Foo<&'a [T], 'b>`. Two names are the same if both parts are.

A state is dispatched by its tag, which folds the arguments into one word:
`Foo<Up>` has the tag `FooUpState`. The tag keeps only the ASCII words of the
arguments and forgets their case beyond the first letter, so different names
can have one tag; a machine in which two states do is refused when it is
checked.
-/
import MachineSpec.Text.Words
import MachineSpec.Token

namespace MachineSpec

/-- The name of a state, payload or error type. -/
structure TypeName where
  name : String
  arguments : List String
deriving DecidableEq, Repr

/-- The text of a type name, as messages and reports show it. -/
def TypeName.text (type : TypeName) : String :=
  match type.arguments with
  | [] => type.name
  | arguments => type.name ++ "<" ++ String.intercalate ", " arguments ++ ">"

/-- The tag by which a state of this name is dispatched. -/
def TypeName.tag (type : TypeName) : String :=
  type.name ++ Text.pascalCase (String.intercalate " " type.arguments) ++ "State"

/-- A type name as it stands in a text. -/
structure Reference where
  type : TypeName
  span : Span
deriving DecidableEq, Repr

/-- The text of the name referred to. -/
def Reference.text (reference : Reference) : String := reference.type.text

/-- The tag of the state referred to. -/
def Reference.tag (reference : Reference) : String := reference.type.tag

end MachineSpec
