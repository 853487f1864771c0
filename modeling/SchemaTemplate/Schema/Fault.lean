import SchemaTemplate.Schema.Identifier

/-!
What can be wrong with the definition of a keyspace or a table, and how it is put into words.
-/

set_option autoImplicit false
set_option relaxedAutoImplicit false

namespace SchemaTemplate

/-- A contradiction or an omission in a definition. -/
inductive SchemaFault
  | duplicateProperty (name : String)
  | duplicateColumn (column : Identifier)
  | unknownStaticColumn (column : Identifier)
  | unknownKeyColumn (column : Identifier)
  | staticKeyColumn (column : Identifier)
  | repeatedKeyColumn (column : Identifier)
  | duplicatePrimaryKey
  | missingPrimaryKey
  | staticWithoutClusteringKey
  | duplicateClusteringOrder
  | orderOutsideClusteringKey
  | repeatedOrder (column : Identifier)
  | missingOrder (column : Identifier)
  | duplicateCompactStorage
  deriving DecidableEq, Repr

/-- The wording of a fault. -/
def SchemaFault.message : SchemaFault → String
  | duplicateProperty name => s!"multiple definition for property '{name}'"
  | duplicateColumn column => s!"multiple definition of column '{column}'"
  | unknownStaticColumn column => s!"unknown column '{column}' declared STATIC"
  | unknownKeyColumn column => s!"unknown column '{column}' referenced in PRIMARY KEY"
  | staticKeyColumn column => s!"static column '{column}' referenced in PRIMARY KEY"
  | repeatedKeyColumn column => s!"column '{column}' referenced more than once in PRIMARY KEY"
  | duplicatePrimaryKey => "multiple definition of PRIMARY KEY; exactly one required"
  | missingPrimaryKey => "no PRIMARY KEY specified; exactly one required"
  | staticWithoutClusteringKey => "static columns not allowed if table has no clustering column"
  | duplicateClusteringOrder => "multiple definition of CLUSTERING ORDER"
  | orderOutsideClusteringKey =>
    "only clustering key columns can be referenced in CLUSTERING ORDER"
  | repeatedOrder column => s!"column '{column}' referenced more than once in CLUSTERING ORDER"
  | missingOrder column => s!"missing CLUSTERING ORDER for column '{column}'"
  | duplicateCompactStorage => "multiple definition of COMPACT STORAGE"

end SchemaTemplate
