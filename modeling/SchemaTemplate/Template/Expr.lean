import SchemaTemplate.Template.Json

/-!
Values inside a template. A value is a plain text or an intrinsic function, which is worked out only
when the template is deployed. Nothing is worked out here.
-/

set_option autoImplicit false
set_option relaxedAutoImplicit false

namespace SchemaTemplate

/-- A value of a template. -/
inductive Expr
  | literal (text : String)
  /-- What the resource with a logical id stands for. -/
  | reference (logicalId : String)
  /-- The items with a delimiter between them. -/
  | join (delimiter : String) (items : List Expr)
  /-- The item of a list at an index. -/
  | select (index : Nat) (list : Expr)
  /-- The parts of a text between delimiters. -/
  | split (delimiter : String) (source : Expr)
  /-- A text in which the names of variables are replaced by their values. -/
  | substitute (pattern : String) (bindings : List (String × Expr))
  deriving Repr

namespace Expr

/-- The text of a value for which nothing has to be worked out. -/
def literal? : Expr → Option String
  | literal text => some text
  | _ => none

mutual

/-- The form in which a template holds a value. -/
def toJson : Expr → Json
  | literal text => .text text
  | reference logicalId => .object [("Ref", .text logicalId)]
  | join delimiter items => .object [("Fn::Join", .list [.text delimiter, .list (toJsons items)])]
  | select index list => .object [("Fn::Select", .list [.number index, toJson list])]
  | split delimiter source => .object [("Fn::Split", .list [.text delimiter, toJson source])]
  | substitute pattern bindings =>
    .object [("Fn::Sub", .list [.text pattern, .object (toFields bindings)])]

/-- The forms of several values. -/
def toJsons : List Expr → List Json
  | [] => []
  | first :: rest => toJson first :: toJsons rest

/-- The forms of several bindings of variables. -/
def toFields : List (String × Expr) → List (String × Json)
  | [] => []
  | (name, value) :: rest => (name, toJson value) :: toFields rest

end

end Expr

end SchemaTemplate
