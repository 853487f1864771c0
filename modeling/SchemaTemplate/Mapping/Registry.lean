import SchemaTemplate.Report
import SchemaTemplate.Schema.Identifier
import SchemaTemplate.Template.Basic

/-!
What the statements mapped so far have left behind: the template, the keyspace in use, and the
logical ids of the keyspaces and tables that were created. The ids are numbered for each kind of
resource, beginning with one.
-/

set_option autoImplicit false
set_option relaxedAutoImplicit false

namespace SchemaTemplate

/-- The state between two statements. -/
structure Registry where
  template : Template
  usedKeyspace : Option Identifier
  keyspaces : List (Identifier × String)
  /-- The logical ids of tables by keyspace and name. -/
  tables : List ((Identifier × Identifier) × String)
  deriving Repr

namespace Registry

/-- The state before the first statement. -/
def empty : Registry := ⟨.empty, none, [], []⟩

/-- The logical id of a keyspace that was created. -/
def keyspaceId? (registry : Registry) (keyspace : Identifier) : Option String :=
  registry.keyspaces.lookup keyspace

/-- The logical id of a table that was created. -/
def tableId? (registry : Registry) (keyspace table : Identifier) : Option String :=
  registry.tables.lookup (keyspace, table)

/-- Adds a resource to the template. -/
def addResource (registry : Registry) (logicalId : String) (resource : Resource) :
    Report Registry :=
  match registry.template.add logicalId resource with
  | .ok template => pure { registry with template }
  | .error fault => .fail (.unrenderable fault.message)

/-- Adds the resource of a new keyspace. -/
def addKeyspace (registry : Registry) (keyspace : Identifier) : Report Registry := do
  let logicalId := "Keyspace" ++ toString (registry.keyspaces.length + 1)
  let registry ← registry.addResource logicalId (.keyspace keyspace.text)
  return { registry with keyspaces := registry.keyspaces ++ [(keyspace, logicalId)] }

/-- Adds the resource of a new table. -/
def addTable (registry : Registry) (keyspace table : Identifier) (resource : TableResource) :
    Report Registry := do
  let logicalId := "Table" ++ toString (registry.tables.length + 1)
  let registry ← registry.addResource logicalId (.table resource)
  return { registry with tables := registry.tables ++ [((keyspace, table), logicalId)] }

end Registry

end SchemaTemplate
