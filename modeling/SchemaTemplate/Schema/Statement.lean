import SchemaTemplate.Schema.TableDefinition

/-!
The statements of a schema script: one that selects a keyspace, one that creates a keyspace and one
that creates a table.
-/

set_option autoImplicit false
set_option relaxedAutoImplicit false

namespace SchemaTemplate

/-- The creation of a keyspace. -/
structure KeyspaceCreation where
  keyspace : Identifier
  /-- Whether a keyspace that exists already is left alone. -/
  ifNotExists : Bool
  settings : Settings
  deriving DecidableEq, Repr

/-- The creation of a table. -/
structure TableCreation where
  /-- The keyspace that the statement names; without one the keyspace in use is meant. -/
  keyspace : Option Identifier
  table : Identifier
  /-- Whether a table that exists already is left alone. -/
  ifNotExists : Bool
  definition : TableDefinition
  deriving DecidableEq, Repr

/-- A statement of a schema script. -/
inductive Statement
  | use (keyspace : Identifier)
  | createKeyspace (creation : KeyspaceCreation)
  | createTable (creation : TableCreation)
  deriving DecidableEq, Repr

namespace Statement

/-- A short description, by which reports refer to the statement. -/
def describe : Statement → String
  | use keyspace => s!"USE '{keyspace}'"
  | createKeyspace creation => "CREATE KEYSPACE '" ++ creation.keyspace.text ++ "'"
  | createTable creation =>
    let qualifier := match creation.keyspace with
      | some keyspace => keyspace.text ++ "."
      | none => ""
    "CREATE TABLE '" ++ qualifier ++ creation.table.text ++ "'"

/-- Whether what the statement defines is complete. -/
def check : Statement → Except SchemaFault Unit
  | use _ => .ok ()
  | createKeyspace _ => .ok ()
  | createTable creation => creation.definition.check

end Statement

end SchemaTemplate
