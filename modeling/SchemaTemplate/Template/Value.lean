import SchemaTemplate.Template.Expr

/-!
What the values of a template come to when it is deployed. A literal is its text, a join puts the
texts of its items together, and a substitution replaces every name between `${` and `}` by
the text of the variable, going through the pattern once from left to right. References, selections
and splits depend on what is deployed and have no value here, nor have names without a variable.
-/

set_option autoImplicit false
set_option relaxedAutoImplicit false

namespace SchemaTemplate.Expr

/-- Replaces the names in the rest of a pattern. Inside the braces of a name, `name` holds the
characters of the name read so far (reversed). -/
def expand (bindings : List (String × String)) :
    (name : Option (List Char)) → List Char → Option (List Char)
  | none, [] => some []
  | some _, [] => none
  | none, '$' :: '\x7b' :: rest => expand bindings (some []) rest
  | none, character :: rest => (character :: ·) <$> expand bindings none rest
  | some name, '\x7d' :: rest =>
    match bindings.lookup (String.ofList name.reverse) with
    | some text => (text.toList ++ ·) <$> expand bindings none rest
    | none => none
  | some name, character :: rest => expand bindings (some (character :: name)) rest

mutual

/-- The text that a value comes to. -/
def value? : Expr → Option String
  | literal text => some text
  | join delimiter items => delimiter.intercalate <$> values? items
  | substitute pattern bindings => do
    let texts ← bindingValues? bindings
    String.ofList <$> expand texts none pattern.toList
  | reference _ => none
  | select _ _ => none
  | split _ _ => none

/-- The texts that several values come to. -/
def values? : List Expr → Option (List String)
  | [] => some []
  | first :: rest => do
    let text ← value? first
    let texts ← values? rest
    return text :: texts

/-- The texts that several bindings come to. -/
def bindingValues? : List (String × Expr) → Option (List (String × String))
  | [] => some []
  | (name, value) :: rest => do
    let text ← value? value
    let texts ← bindingValues? rest
    return (name, text) :: texts

end

mutual

/-- The logical ids that a value refers to, anywhere in it. -/
def references : Expr → List String
  | literal _ => []
  | reference logicalId => [logicalId]
  | join _ items => referencesAll items
  | select _ list => references list
  | split _ source => references source
  | substitute _ bindings => bindingReferences bindings

/-- The logical ids that several values refer to. -/
def referencesAll : List Expr → List String
  | [] => []
  | first :: rest => references first ++ referencesAll rest

/-- The logical ids that several bindings refer to. -/
def bindingReferences : List (String × Expr) → List String
  | [] => []
  | (_, value) :: rest => references value ++ bindingReferences rest

end

mutual

/-- Whether a value contains no selection and no split. -/
def Direct : Expr → Prop
  | literal _ => True
  | reference _ => True
  | join _ items => AllDirect items
  | select _ _ => False
  | split _ _ => False
  | substitute _ bindings => BindingsDirect bindings

/-- Whether several values contain no selection and no split. -/
def AllDirect : List Expr → Prop
  | [] => True
  | first :: rest => Direct first ∧ AllDirect rest

/-- Whether several bindings contain no selection and no split. -/
def BindingsDirect : List (String × Expr) → Prop
  | [] => True
  | (_, value) :: rest => Direct value ∧ BindingsDirect rest

end

end SchemaTemplate.Expr
