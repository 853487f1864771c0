import SchemaTemplate.Schema.ColumnType
import SchemaTemplate.Schema.Settings

/-!
The definition of a table, built up clause by clause in the order of the script. Every clause is
checked against the clauses before it, so a clause that contradicts them is refused on the spot;
`TableDefinition.check` judges what only the complete definition can show.
-/

set_option autoImplicit false
set_option relaxedAutoImplicit false

namespace SchemaTemplate

/-- The direction in which a clustering column is kept sorted. -/
inductive Direction
  | ascending
  | descending
  deriving DecidableEq, Repr

/-- The keyword for a direction. -/
def Direction.text : Direction → String
  | ascending => "ASC"
  | descending => "DESC"

/-- The clauses of a table definition given so far. -/
structure TableDefinition where
  columns : OrderedMap Identifier ColumnType
  staticColumns : List Identifier
  partitionKey : List Identifier
  clusteringKey : List Identifier
  /-- The directions of the first clustering columns, as far as they were given. -/
  clusteringOrders : List (Identifier × Direction)
  /-- Whether a primary key was begun. -/
  primaryKeyGiven : Bool
  /-- Whether a clustering order was begun. -/
  clusteringOrderGiven : Bool
  compactStorage : Bool
  settings : Settings
  deriving DecidableEq, Repr

namespace TableDefinition

/-- The definition without any clause. -/
def empty : TableDefinition where
  columns := .empty
  staticColumns := []
  partitionKey := []
  clusteringKey := []
  clusteringOrders := []
  primaryKeyGiven := false
  clusteringOrderGiven := false
  compactStorage := false
  settings := .empty

/-- The columns of the primary key, the partition key first. -/
def primaryKey (definition : TableDefinition) : List Identifier :=
  definition.partitionKey ++ definition.clusteringKey

/-- The direction that was given for a clustering column. -/
def direction? (definition : TableDefinition) (column : Identifier) : Option Direction :=
  definition.clusteringOrders.lookup column

/-- Declares a column. -/
def addColumn (definition : TableDefinition) (column : Identifier) (type : ColumnType) :
    Except SchemaFault TableDefinition := do
  let columns ← (definition.columns.add column type).mapError .duplicateColumn
  return { definition with columns }

/-- Makes a declared column static; a key column cannot be static. -/
def addStaticColumn (definition : TableDefinition) (column : Identifier) :
    Except SchemaFault TableDefinition :=
  if !definition.columns.contains column then .error (.unknownStaticColumn column)
  else if column ∈ definition.primaryKey then .error (.staticKeyColumn column)
  else if column ∈ definition.staticColumns then .ok definition
  else .ok { definition with staticColumns := definition.staticColumns ++ [column] }

/-- Begins the primary key, of which there is only one. -/
def beginPrimaryKey (definition : TableDefinition) : Except SchemaFault TableDefinition :=
  if definition.primaryKeyGiven then .error .duplicatePrimaryKey
  else .ok { definition with primaryKeyGiven := true }

/-- Whether a column may be added to the primary key, and if not, why. -/
def checkKeyColumn (definition : TableDefinition) (column : Identifier) :
    Except SchemaFault Unit :=
  if !definition.columns.contains column then .error (.unknownKeyColumn column)
  else if column ∈ definition.staticColumns then .error (.staticKeyColumn column)
  else if column ∈ definition.primaryKey then .error (.repeatedKeyColumn column)
  else .ok ()

/-- Adds a column to the partition key. -/
def addPartitionColumn (definition : TableDefinition) (column : Identifier) :
    Except SchemaFault TableDefinition := do
  definition.checkKeyColumn column
  return { definition with partitionKey := definition.partitionKey ++ [column] }

/-- Adds a column to the clustering key. -/
def addClusteringColumn (definition : TableDefinition) (column : Identifier) :
    Except SchemaFault TableDefinition := do
  definition.checkKeyColumn column
  return { definition with clusteringKey := definition.clusteringKey ++ [column] }

/-- Begins the clustering order, of which there is only one. -/
def beginClusteringOrder (definition : TableDefinition) : Except SchemaFault TableDefinition :=
  if definition.clusteringOrderGiven then .error .duplicateClusteringOrder
  else .ok { definition with clusteringOrderGiven := true }

/-- Gives the direction of the first clustering column that has none, which has to be the named
one: directions are given for the first columns of the clustering key, in their order. -/
def addClusteringOrder (definition : TableDefinition) (column : Identifier)
    (direction : Direction) : Except SchemaFault TableDefinition :=
  if column ∉ definition.clusteringKey then .error .orderOutsideClusteringKey
  else if (definition.direction? column).isSome then .error (.repeatedOrder column)
  else match definition.clusteringKey.drop definition.clusteringOrders.length with
    | [] => .error (.repeatedOrder column)
    | due :: _ =>
      if due = column then
        .ok { definition with
              clusteringOrders := definition.clusteringOrders ++ [(column, direction)] }
      else .error (.missingOrder due)

/-- Asks for compact storage. -/
def requestCompactStorage (definition : TableDefinition) : Except SchemaFault TableDefinition :=
  if definition.compactStorage then .error .duplicateCompactStorage
  else .ok { definition with compactStorage := true }

/-- Changes the settings by an operation of their own. -/
def updateSettings (definition : TableDefinition)
    (update : Settings → Except SchemaFault Settings) : Except SchemaFault TableDefinition := do
  let settings ← update definition.settings
  return { definition with settings }

/-- Whether the definition is complete: it needs a partition key, and static columns need a
clustering key. -/
def check (definition : TableDefinition) : Except SchemaFault Unit :=
  if definition.partitionKey.isEmpty then .error .missingPrimaryKey
  else if definition.clusteringKey.isEmpty && !definition.staticColumns.isEmpty then
    .error .staticWithoutClusteringKey
  else .ok ()

end TableDefinition

end SchemaTemplate
