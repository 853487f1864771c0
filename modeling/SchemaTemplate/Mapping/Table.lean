import SchemaTemplate.Mapping.Capacity
import SchemaTemplate.Mapping.ColumnType
import SchemaTemplate.Mapping.Registry
import SchemaTemplate.Schema.Statement

/-!
Tables as resources. The declared columns are distributed over three groups: the partition key and
the clustering key in the order of the keys, and the other columns in the order of their
declaration. Regular properties draw a warning or, where leaving them out would mislead, a refusal.
-/

set_option autoImplicit false
set_option relaxedAutoImplicit false

namespace SchemaTemplate.Mapping

open Report

/-- Columns that were declared and not yet placed in a group. -/
abbrev Unplaced : Type := OrderedMap Identifier ColumnType

/-! ### Columns -/

/-- Maps a column of a table in the given keyspace. -/
def mapColumn (keyspace : Identifier) (column : Identifier × ColumnType) : Report Column := do
  let type ← typeExpr keyspace column.2
  return ⟨column.1.text, type⟩

/-- Maps the columns of a key, and says which columns are left. -/
def mapKey (keyspace : Identifier) : List Identifier → Unplaced → Report (List Column × Unplaced)
  | [], unplaced => pure ([], unplaced)
  | name :: names, unplaced =>
    match unplaced.get? name with
    | none => .fail (.ofFault (.unknownKeyColumn name))
    | some type => do
      let column ← mapColumn keyspace (name, type)
      let (columns, unplaced) ← mapKey keyspace names (unplaced.erase name)
      return (column :: columns, unplaced)

/-- A clustering column together with the direction that was given for it. -/
def clusteringColumn (definition : TableDefinition) (name : Identifier) (column : Column) :
    ClusteringColumn :=
  ⟨column, (definition.direction? name).map Direction.text⟩

/-- Refuses static columns, which have no counterpart. -/
def refuseStaticColumns (definition : TableDefinition) : Report Unit :=
  if definition.staticColumns.isEmpty then pure () else refuse .staticColumns

/-- The columns of a table in their groups; the billing mode is left open. -/
def mapColumns (keyspace : Identifier) (keyspaceName : Expr) (table : Identifier)
    (definition : TableDefinition) : Report TableResource := do
  let (partitionKey, unplaced) ← mapKey keyspace definition.partitionKey definition.columns
  let (clusteringKey, unplaced) ← mapKey keyspace definition.clusteringKey unplaced
  refuseStaticColumns definition
  let regularColumns ← unplaced.toList.mapM (mapColumn keyspace)
  return {
    keyspaceName
    tableName := table.text
    partitionKey
    clusteringKey :=
      definition.clusteringKey.zipWith (clusteringColumn definition) clusteringKey
    regularColumns
    billingMode := none }

/-! ### Properties -/

/-- Judges one regular property of a table. -/
def mapTableProperty (strictness : Strictness) (property : Identifier × PropertyValue) :
    Report Unit :=
  let name := property.1.text
  if name = "comment" then
    if property.2.text?.isNone then refuse (.notText name)
    else refuse (.propertyOutsideTemplates name)
  else if name = "default_time_to_live" then
    if (property.2.text?.bind Text.integer32?).isNone then refuse (.notInteger name)
    else refuse (.unsupportedProperty name)
  else if name = "tags" then
    if property.2.options?.isNone then refuse (.notMap name)
    else refuse (.propertyOutsideTemplates name)
  else caution strictness (.inapplicableProperty property.1)

/-- The billing mode that the settings of a table ask for. -/
def billingModeOf (settings : Settings) : Report (Option BillingMode) :=
  match settings.custom with
  | some custom => mapCustomProperties custom
  | none => pure none

/-- Judges the request for compact storage. -/
def mapCompactStorage (strictness : Strictness) (requested : Bool) : Report Unit :=
  if requested then caution strictness .inapplicableCompactStorage else pure ()

/-! ### Tables -/

/-- The value that names the keyspace of a table: a reference if the keyspace was created before,
otherwise its plain name, which draws a warning. -/
def keyspaceExpr (strictness : Strictness) (registry : Registry) (keyspace : Identifier) :
    Report Expr :=
  match registry.keyspaceId? keyspace with
  | some logicalId => pure (.reference logicalId)
  | none => do
    caution strictness (.keyspaceNotCreated keyspace)
    return .literal keyspace.text

/-- The resource of a table in the given keyspace. -/
def tableResource (strictness : Strictness) (registry : Registry) (keyspace : Identifier)
    (creation : TableCreation) : Report TableResource := do
  let keyspaceName ← keyspaceExpr strictness registry keyspace
  let definition := creation.definition
  let table ← mapColumns keyspace keyspaceName creation.table definition
  definition.settings.regular.toList.forM (mapTableProperty strictness)
  let billingMode ← billingModeOf definition.settings
  mapCompactStorage strictness definition.compactStorage
  return { table with billingMode }

/-- Leaves alone a table that exists already. -/
def skipTable (registry : Registry) (keyspace table : Identifier) : Report Registry := do
  log .info s!"Skipping table '{keyspace}.{table}': already created and IF NOT EXISTS specified"
  return registry

/-- Maps the creation of a table in the given keyspace. -/
def mapTableIn (strictness : Strictness) (registry : Registry) (keyspace : Identifier)
    (creation : TableCreation) : Report Registry :=
  if (registry.tableId? keyspace creation.table).isSome then
    if creation.ifNotExists then skipTable registry keyspace creation.table
    else refuse .tableExists
  else do
    let resource ← tableResource strictness registry keyspace creation
    registry.addTable keyspace creation.table resource

/-- The keyspace of a table: the one that the statement names, or else the one in use. -/
def effectiveKeyspace? (registry : Registry) (creation : TableCreation) : Option Identifier :=
  creation.keyspace.or registry.usedKeyspace

/-- Maps the creation of a table. -/
def mapTable (strictness : Strictness) (registry : Registry) (creation : TableCreation) :
    Report Registry :=
  match effectiveKeyspace? registry creation with
  | some keyspace => mapTableIn strictness registry keyspace creation
  | none => refuse .noKeyspace

end SchemaTemplate.Mapping
