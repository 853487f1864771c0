import SchemaTemplate.Grammar.ColumnType
import SchemaTemplate.Grammar.Settings
import SchemaTemplate.Schema.TableDefinition

/-!
The grammar of table definitions: columns and primary key in parentheses, options behind `WITH`.
Each parser takes the definition read so far and returns it with its own clause added.
-/

set_option autoImplicit false
set_option relaxedAutoImplicit false

namespace SchemaTemplate.Grammar

open SchemaTemplate.Grammar.Parser

/-! ### Columns and the primary key -/

/-- Makes the column just declared static if the word for that comes next. -/
def staticMark (column : Identifier) (definition : TableDefinition) : Parser TableDefinition := do
  if ← acceptWord .static then lift (definition.addStaticColumn column) else return definition

/-- Makes the column just declared the only key column if the words for that come next. -/
def keyMark (column : Identifier) (definition : TableDefinition) : Parser TableDefinition := do
  if ← acceptWords [.primary, .key] then
    let definition ← lift definition.beginPrimaryKey
    lift (definition.addPartitionColumn column)
  else return definition

/-- Reads a column: a name, a type and perhaps the marks of a static or of the only key column. -/
def columnClause (definition : TableDefinition) : Parser TableDefinition := do
  let column ← identifier
  let type ← columnType
  let definition ← lift (definition.addColumn column type)
  let definition ← staticMark column definition
  keyMark column definition

/-- Reads a column of the partition key. -/
def partitionColumn (definition : TableDefinition) : Parser TableDefinition := do
  let column ← identifier
  lift (definition.addPartitionColumn column)

/-- Reads a column of the clustering key. -/
def clusteringColumn (definition : TableDefinition) : Parser TableDefinition := do
  let column ← identifier
  lift (definition.addClusteringColumn column)

/-- Reads the partition key, which is one column or several in parentheses of their own. -/
def partitionKey (definition : TableDefinition) : Parser TableDefinition := do
  if ← accept .leftParenthesis then
    let definition ← commaSeparated partitionColumn definition
    expect .rightParenthesis
    return definition
  else partitionColumn definition

/-- Reads the clustering key, if a comma introduces it. -/
def clusteringKey (definition : TableDefinition) : Parser TableDefinition := do
  if ← accept .comma then commaSeparated clusteringColumn definition else return definition

/-- Reads what follows the words `PRIMARY KEY`. -/
def primaryKeyClause (definition : TableDefinition) : Parser TableDefinition := do
  let definition ← lift definition.beginPrimaryKey
  expect .leftParenthesis
  let definition ← partitionKey definition
  let definition ← clusteringKey definition
  expect .rightParenthesis
  return definition

/-- Reads a column or the primary key. -/
def definitionClause (definition : TableDefinition) : Parser TableDefinition := do
  if ← acceptWords [.primary, .key] then primaryKeyClause definition
  else columnClause definition

/-- Reads the columns and the primary key in parentheses. -/
def definitionClauses (definition : TableDefinition) : Parser TableDefinition := do
  expect .leftParenthesis
  let definition ← commaSeparated definitionClause definition
  expect .rightParenthesis
  return definition

/-! ### Options -/

/-- Reads the direction of a clustering column. -/
def direction : Parser Direction := do
  if ← acceptWord .asc then return .ascending
  else if ← acceptWord .desc then return .descending
  else reject .direction

/-- Reads a clustering column with its direction. -/
def orderedColumn (definition : TableDefinition) : Parser TableDefinition := do
  let column ← identifier
  let direction ← direction
  lift (definition.addClusteringOrder column direction)

/-- Reads what follows the words `CLUSTERING ORDER BY`. -/
def clusteringOrderOption (definition : TableDefinition) : Parser TableDefinition := do
  let definition ← lift definition.beginClusteringOrder
  expect .leftParenthesis
  let definition ← commaSeparated orderedColumn definition
  expect .rightParenthesis
  return definition

/-- Reads an option of a table. -/
def tableOption (definition : TableDefinition) : Parser TableDefinition := do
  if ← acceptWords [.clustering, .order, .byWord] then clusteringOrderOption definition
  else if ← acceptWords [.compact, .storage] then lift definition.requestCompactStorage
  else
    let update ← property
    lift (definition.updateSettings update)

end SchemaTemplate.Grammar
