import SchemaTemplate.Unicode.LowerCase

/-!
Names of keyspaces, tables, columns, types and properties. A name written without quotes is folded
to lower case, a name in quotes is kept as it is, and names are compared by what results.
-/

set_option autoImplicit false
set_option relaxedAutoImplicit false

namespace SchemaTemplate

/-- A name in the form in which it is looked up. -/
structure Identifier where
  text : String
  deriving DecidableEq, Repr

namespace Identifier

/-- The name that is meant by a word without quotes. -/
def unquoted (word : String) : Identifier := ⟨Unicode.lowerCase word⟩

/-- The name that is meant by a word in quotes. -/
def quoted (word : String) : Identifier := ⟨word⟩

instance : ToString Identifier := ⟨Identifier.text⟩

/-- Whether one name comes no later than another in the order of their code points. -/
def noLater (first second : Identifier) : Bool := first.text ≤ second.text

/-- The names in the order of their code points. -/
def sorted (names : List Identifier) : List Identifier := names.mergeSort noLater

end Identifier

end SchemaTemplate
