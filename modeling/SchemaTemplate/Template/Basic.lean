import SchemaTemplate.Schema.OrderedMap
import SchemaTemplate.Template.Resource

/-!
Templates. A template is a map from logical ids to resources in the order of their creation, in
which no id stands for two resources. `Template.render` writes it down.
-/

set_option autoImplicit false
set_option relaxedAutoImplicit false

namespace SchemaTemplate

/-- The resources of a conversion under their logical ids. -/
structure Template where
  resources : OrderedMap String Resource
  deriving Repr

/-- Why a resource cannot be added to a template. -/
inductive TemplateFault
  | duplicateLogicalId (logicalId : String)
  deriving DecidableEq, Repr

/-- The wording of a fault. -/
def TemplateFault.message : TemplateFault → String
  | duplicateLogicalId logicalId => s!"duplicate logical id '{logicalId}'"

namespace Template

/-- The template without resources. -/
def empty : Template := ⟨.empty⟩

/-- Adds a resource under a logical id of its own. -/
def add (template : Template) (logicalId : String) (resource : Resource) :
    Except TemplateFault Template := do
  let resources ← (template.resources.add logicalId resource).mapError .duplicateLogicalId
  return ⟨resources⟩

/-- The resource under a logical id. -/
def resource? (template : Template) (logicalId : String) : Option Resource :=
  template.resources.get? logicalId

/-- The logical ids in the order of creation. -/
def logicalIds (template : Template) : List String := template.resources.keys

/-- The form of a template as one value. -/
def toJson (template : Template) : Json :=
  .object
    [("Resources", .object (template.resources.toList.map fun entry ↦ (entry.1, entry.2.toJson)))]

/-- The text of a template. -/
def render (template : Template) : String := template.toJson.render .pretty

end Template

end SchemaTemplate
