import SchemaTemplate.Report
import SchemaTemplate.Schema.Identifier

/-!
What keeps a statement from being mapped to a resource, what about it deserves a warning, and how
both are put into words.
-/

set_option autoImplicit false
set_option relaxedAutoImplicit false

namespace SchemaTemplate

/-- Why a statement has no counterpart among the resources. -/
inductive Refusal
  | noKeyspace
  | keyspaceExists
  | tableExists
  | missingProperty (property : String)
  | notText (property : String)
  | notInteger (property : String)
  | notMap (property : String)
  | propertyOutsideTemplates (property : String)
  | unsupportedProperty (property : String)
  | missingOption (option property : String)
  | unknownReplicationOption (option replicationClass : String)
  | keyspaceCustomProperties
  | foreignUserType (name keyspace : Identifier)
  | userType
  | customType
  | staticColumns
  | unknownCustomProperty (property : String)
  | customPropertyOutsideTemplates (property : String)
  | missingCustomOption (option property : String)
  | unknownCustomOption (option property : String)
  | customOptionNotInteger (option property : String)
  | unknownThroughputMode (mode : String)
  | missingThroughputOption (option mode : String)
  | unknownThroughputOption (option mode : String)
  | unknownRecoveryStatus (status : String)
  deriving DecidableEq, Repr

/-- The wording of a refusal. -/
def Refusal.message : Refusal → String
  | noKeyspace => "No keyspace specified for table"
  | keyspaceExists =>
    "Cannot create more than one keyspace with the same name unless IF NOT EXISTS is specified"
  | tableExists =>
    "Cannot create more than one table with the same name unless IF NOT EXISTS is specified"
  | missingProperty property => s!"Missing required property '{property}'"
  | notText property => s!"Invalid value for property '{property}'; it should be a string"
  | notInteger property => s!"Invalid value for property '{property}'; it should be an integer"
  | notMap property => s!"Invalid value for property '{property}'; it should be a map"
  | propertyOutsideTemplates property =>
    s!"Property '{property}' currently cannot be set via CloudFormation"
  | unsupportedProperty property => s!"Property '{property}' is not supported by Keyspaces yet"
  | missingOption option property =>
    s!"Missing required option '{option}' of property '{property}'"
  | unknownReplicationOption option replicationClass =>
    s!"Unrecognized option '{option}' for replication class '{replicationClass}'"
  | keyspaceCustomProperties => "Custom properties are not supported for keyspace yet"
  | foreignUserType name keyspace =>
    s!"Cannot reference user type '{name}' in another keyspace '{keyspace}'"
  | userType => "User types are not supported by Keyspaces yet"
  | customType => "Custom types are not supported by Keyspaces"
  | staticColumns => "Static columns are not supported by Keyspaces yet"
  | unknownCustomProperty property =>
    s!"Custom property '{property}' is not recognized by Keyspaces"
  | customPropertyOutsideTemplates property =>
    s!"Custom property '{property}' currently cannot be set via CloudFormation"
  | missingCustomOption option property =>
    s!"Missing required option '{option}' of custom property '{property}'"
  | unknownCustomOption option property =>
    s!"Unrecognized option '{option}' of custom property '{property}'"
  | customOptionNotInteger option property =>
    s!"Invalid value for option '{option}' of custom property '{property}'; " ++
      "it should be an integer"
  | unknownThroughputMode mode =>
    s!"Capacity mode throughput mode '{mode}' is not recognized by Keyspaces"
  | missingThroughputOption option mode =>
    s!"Missing required option '{option}' for capacity mode throughput mode '{mode}'"
  | unknownThroughputOption option mode =>
    s!"Unrecognized option '{option}' for capacity mode throughput mode '{mode}'"
  | unknownRecoveryStatus status =>
    s!"Point in time recovery status '{status}' is not recognized by Keyspaces"

/-- What about a statement is mapped only in part. -/
inductive Warning
  | inapplicableProperty (property : Identifier)
  | inapplicableReplicationClass (replicationClass : String)
  | inapplicableCompactStorage
  | keyspaceNotCreated (keyspace : Identifier)
  deriving DecidableEq, Repr

/-- The wording of a warning. -/
def Warning.message : Warning → String
  | inapplicableProperty property => s!"Property '{property}' is not applicable to Keyspaces"
  | inapplicableReplicationClass replicationClass =>
    s!"Replication class '{replicationClass}' is not applicable to Keyspaces"
  | inapplicableCompactStorage => "COMPACT STORAGE is not applicable to Keyspaces"
  | keyspaceNotCreated keyspace =>
    s!"Attempted to create table in keyspace '{keyspace}' before creating it first"

namespace Report

/-- Ends with a refusal. -/
def refuse {Value : Type} (refusal : Refusal) : Report Value := fail (.refused refusal.message)

/-- Gives a warning about a statement. -/
def caution (strictness : Strictness) (warning : Warning) : Report Unit :=
  warn strictness warning.message

@[simp] theorem outcome_refuse {Value : Type} (refusal : Refusal) :
    (refuse refusal : Report Value).outcome = .error (.refused refusal.message) := rfl

@[simp] theorem warnings_refuse {Value : Type} (refusal : Refusal) :
    (refuse refusal : Report Value).warnings = [] := rfl

end Report

end SchemaTemplate
