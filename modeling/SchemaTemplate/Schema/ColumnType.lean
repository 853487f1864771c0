import SchemaTemplate.Schema.Identifier

/-!
The types that columns are declared with. `ColumnType.text` writes a type the way a script does,
with a comma and a space between the elements of a composite type. `ColumnType.WellFormed` singles
out the types that a script can declare.
-/

set_option autoImplicit false
set_option relaxedAutoImplicit false

namespace SchemaTemplate

/-- The type of a column. -/
inductive ColumnType
  /-- A built-in type such as `int`. -/
  | simple (name : String)
  /-- A type with element types, such as `map<text, int>`. -/
  | composite (kind : String) (elements : List ColumnType)
  /-- A type that the schema itself defines, in a keyspace that may be left out. -/
  | user (keyspace : Option Identifier) (name : Identifier)
  /-- A type given by the name of the class that implements it. -/
  | custom (className : String)
  deriving Repr

namespace ColumnType

/-- The names of the built-in types. -/
def simpleNames : List String :=
  ["ascii", "bigint", "blob", "boolean", "counter", "date", "decimal", "double", "duration",
   "float", "inet", "int", "smallint", "text", "time", "timestamp", "timeuuid", "tinyint", "uuid",
   "varchar", "varint"]

/-- The kinds of composite types. -/
def compositeKinds : List String := ["list", "set", "map", "tuple", "frozen"]

mutual

/-- The written form of a type, with `separator` between the elements of a composite type. -/
def textWith (separator : String) : ColumnType → String
  | simple name => name
  | composite kind elements =>
    kind ++ "<" ++ separator.intercalate (textsWith separator elements) ++ ">"
  | user (some keyspace) name => keyspace.text ++ "." ++ name.text
  | user none name => name.text
  | custom className => "'" ++ className ++ "'"

/-- The written forms of several types. -/
def textsWith (separator : String) : List ColumnType → List String
  | [] => []
  | first :: rest => textWith separator first :: textsWith separator rest

end

/-- The written form of a type. -/
def text (type : ColumnType) : String := type.textWith ", "

mutual

/-- Whether a type is built from the known simple types, from the known kinds of composite types
with at least one element, from types of the schema's own and from types given by a class. -/
def WellFormed : ColumnType → Prop
  | simple name => name ∈ simpleNames
  | composite kind elements => kind ∈ compositeKinds ∧ elements ≠ [] ∧ AllWellFormed elements
  | user _ _ => True
  | custom _ => True

/-- Whether several types are well formed. -/
def AllWellFormed : List ColumnType → Prop
  | [] => True
  | first :: rest => WellFormed first ∧ AllWellFormed rest

end

mutual

/-- Whether a type contains neither a type of the schema's own nor a type given by a class. -/
def BuiltIn : ColumnType → Prop
  | simple _ => True
  | composite _ elements => AllBuiltIn elements
  | user _ _ => False
  | custom _ => False

/-- Whether several types are built in. -/
def AllBuiltIn : List ColumnType → Prop
  | [] => True
  | first :: rest => BuiltIn first ∧ AllBuiltIn rest

end

mutual

/-- Decides whether two types are equal. -/
def decEq : (first second : ColumnType) → Decidable (first = second)
  | simple name, simple name' => decidable_of_iff (name = name') (by simp)
  | composite kind elements, composite kind' elements' =>
    match decEqAll elements elements' with
    | .isTrue equal => decidable_of_iff (kind = kind') (by simp [equal])
    | .isFalse different => .isFalse (by simp [different])
  | user keyspace name, user keyspace' name' =>
    decidable_of_iff (keyspace = keyspace' ∧ name = name') (by simp)
  | custom className, custom className' => decidable_of_iff (className = className') (by simp)
  | simple _, composite .. => .isFalse nofun
  | simple _, user .. => .isFalse nofun
  | simple _, custom _ => .isFalse nofun
  | composite .., simple _ => .isFalse nofun
  | composite .., user .. => .isFalse nofun
  | composite .., custom _ => .isFalse nofun
  | user .., simple _ => .isFalse nofun
  | user .., composite .. => .isFalse nofun
  | user .., custom _ => .isFalse nofun
  | custom _, simple _ => .isFalse nofun
  | custom _, composite .. => .isFalse nofun
  | custom _, user .. => .isFalse nofun

/-- Decides whether two lists of types are equal. -/
def decEqAll : (firsts seconds : List ColumnType) → Decidable (firsts = seconds)
  | [], [] => .isTrue rfl
  | first :: firsts, second :: seconds =>
    match decEq first second, decEqAll firsts seconds with
    | .isTrue equal, .isTrue equalRest => .isTrue (by rw [equal, equalRest])
    | .isFalse different, _ => .isFalse (by simp [different])
    | _, .isFalse different => .isFalse (by simp [different])
  | [], _ :: _ => .isFalse nofun
  | _ :: _, [] => .isFalse nofun

end

instance : DecidableEq ColumnType := decEq

end ColumnType

end SchemaTemplate
