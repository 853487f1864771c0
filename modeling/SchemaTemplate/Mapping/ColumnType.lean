import SchemaTemplate.Mapping.Refusal
import SchemaTemplate.Schema.ColumnType
import SchemaTemplate.Template.Expr
import SchemaTemplate.Text.Quoted

/-!
Column types as values of a template. A built-in type is its name; a composite type puts the values
of its elements between the angles behind its kind. Types of the schema's own and types given by a
class have no counterpart.
-/

set_option autoImplicit false
set_option relaxedAutoImplicit false

namespace SchemaTemplate.Mapping

open Report

/-- The variable that stands for the element types of a composite type. -/
def elementsVariable : String := "Types"

/-- The value of a composite type whose elements have the given values. -/
def compositeExpr (kind : String) (elements : List Expr) : Expr :=
  .substitute (kind ++ "<$\x7b" ++ elementsVariable ++ "\x7d>")
    [(elementsVariable, .join "," elements)]

/-- Refuses a type that the schema defines, in a table of the given keyspace. -/
def refuseUserType (keyspace : Identifier) (typeKeyspace : Option Identifier)
    (name : Identifier) : Report Expr :=
  match typeKeyspace.filter (· ≠ keyspace) with
  | some foreign => refuse (.foreignUserType name foreign)
  | none => do
    let shown := Text.quoted name.text
    log .debug s!"User type '{name}' resolves to Literal({shown})"
    refuse .userType

mutual

/-- The value of a type, in a table of the given keyspace. -/
def typeExpr (keyspace : Identifier) : ColumnType → Report Expr
  | .simple name => pure (.literal name)
  | .composite kind elements => compositeExpr kind <$> typeExprs keyspace elements
  | .user typeKeyspace name => refuseUserType keyspace typeKeyspace name
  | .custom _ => refuse .customType

/-- The values of several types, up to the first that has none. -/
def typeExprs (keyspace : Identifier) : List ColumnType → Report (List Expr)
  | [] => pure []
  | first :: rest => do
    let value ← typeExpr keyspace first
    let values ← typeExprs keyspace rest
    return value :: values

end

end SchemaTemplate.Mapping
