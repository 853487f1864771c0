import SchemaTemplate.Template.Expr

/-!
The resources of a template: keyspaces and tables. Fields that say nothing (an empty list of
columns, a billing mode that was not chosen) are left out of the template.
-/

set_option autoImplicit false
set_option relaxedAutoImplicit false

namespace SchemaTemplate

/-- A column with the value that gives its type. -/
structure Column where
  name : String
  type : Expr
  deriving Repr

/-- A column of the clustering key, with the direction in which it is sorted if one was chosen. -/
structure ClusteringColumn where
  column : Column
  order : Option String
  deriving Repr

/-- What the use of a table is paid by: as it occurs, or by capacity set aside for it. -/
inductive BillingKind
  | onDemand
  | provisioned
  deriving DecidableEq, Repr

/-- Units of read and write capacity. -/
structure Throughput where
  readUnits : Int
  writeUnits : Int
  deriving DecidableEq, Repr

/-- How the use of a table is paid for. A template can hold any throughput with any kind, although
statements ask for one exactly where capacity is set aside. -/
structure BillingMode where
  kind : BillingKind
  throughput : Option Throughput
  deriving DecidableEq, Repr

/-- Payment for the use as it occurs. -/
def BillingMode.onDemand : BillingMode := ⟨.onDemand, none⟩

/-- Payment for units of read and write capacity set aside for the table. -/
def BillingMode.provisioned (readUnits writeUnits : Int) : BillingMode :=
  ⟨.provisioned, some ⟨readUnits, writeUnits⟩⟩

/-- A table. -/
structure TableResource where
  keyspaceName : Expr
  tableName : String
  partitionKey : List Column
  clusteringKey : List ClusteringColumn
  regularColumns : List Column
  billingMode : Option BillingMode
  deriving Repr

/-- A resource of a template. -/
inductive Resource
  | keyspace (name : String)
  | table (definition : TableResource)
  deriving Repr

/-! ### Forms in a template -/

/-- The form in which a template holds a column. -/
def Column.toJson (column : Column) : Json :=
  .object [("ColumnName", .text column.name), ("ColumnType", column.type.toJson)]

/-- A field that is left out if it has no value. -/
def optionalField (name : String) : Option Json → List (String × Json)
  | some value => [(name, value)]
  | none => []

/-- A field that holds a list, left out if the list is empty. -/
def listField (name : String) (items : List Json) : List (String × Json) :=
  if items.isEmpty then [] else [(name, .list items)]

/-- The form in which a template holds a clustering column. -/
def ClusteringColumn.toJson (clustering : ClusteringColumn) : Json :=
  .object
    (("Column", clustering.column.toJson) :: optionalField "OrderBy" (clustering.order.map .text))

/-- The word for a kind of payment. -/
def BillingKind.text : BillingKind → String
  | onDemand => "ON_DEMAND"
  | provisioned => "PROVISIONED"

/-- The form in which a template holds units of capacity. -/
def Throughput.toJson (throughput : Throughput) : Json :=
  .object
    [("ReadCapacityUnits", .number throughput.readUnits),
     ("WriteCapacityUnits", .number throughput.writeUnits)]

/-- The form in which a template holds a billing mode. -/
def BillingMode.toJson (mode : BillingMode) : Json :=
  .object
    (("Mode", .text mode.kind.text) ::
      optionalField "ProvisionedThroughput" (mode.throughput.map Throughput.toJson))

/-- The properties of a table. -/
def TableResource.toJson (table : TableResource) : Json :=
  .object
    ([("KeyspaceName", table.keyspaceName.toJson), ("TableName", .text table.tableName)] ++
      listField "PartitionKeyColumns" (table.partitionKey.map Column.toJson) ++
      listField "ClusteringKeyColumns" (table.clusteringKey.map ClusteringColumn.toJson) ++
      listField "RegularColumns" (table.regularColumns.map Column.toJson) ++
      optionalField "BillingMode" (table.billingMode.map BillingMode.toJson))

namespace Resource

/-- The name of the type of a resource. -/
def typeName : Resource → String
  | keyspace _ => "AWS::Cassandra::Keyspace"
  | table _ => "AWS::Cassandra::Table"

/-- The properties of a resource. -/
def properties : Resource → Json
  | keyspace name => .object [("KeyspaceName", .text name)]
  | table definition => definition.toJson

/-- The form in which a template holds a resource. -/
def toJson (resource : Resource) : Json :=
  .object [("Type", .text resource.typeName), ("Properties", resource.properties)]

end Resource

end SchemaTemplate
