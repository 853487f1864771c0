import SchemaTemplate.Mapping.Refusal
import SchemaTemplate.Mapping.Registry
import SchemaTemplate.Schema.Statement

/-!
Keyspaces as resources. A keyspace has to say how it is replicated, and the one way of replication
that has a counterpart takes no options. Its other properties have none and draw a warning or, where
leaving them out would mislead, a refusal.
-/

set_option autoImplicit false
set_option relaxedAutoImplicit false

namespace SchemaTemplate.Mapping

open Report

/-- The replication class that has a counterpart. -/
def singleRegionStrategy : String := "SingleRegionStrategy"

/-- Judges the property `replication`. -/
def mapReplication (strictness : Strictness) (value : PropertyValue) : Report Unit :=
  match value.options? with
  | none => refuse (.notMap "replication")
  | some options =>
    match options.get? "class" with
    | none => refuse (.missingOption "class" "replication")
    | some replicationClass =>
      if replicationClass = singleRegionStrategy then
        match (options.erase "class").firstKey? with
        | some option => refuse (.unknownReplicationOption option singleRegionStrategy)
        | none => pure ()
      else caution strictness (.inapplicableReplicationClass replicationClass)

/-- Judges the property `tags` of a keyspace. -/
def mapKeyspaceTags (value : PropertyValue) : Report Unit :=
  match value.options? with
  | none => refuse (.notMap "tags")
  | some tags => do
    let count := tags.size
    log .debug s!"Keyspace declares {count} tag(s)"
    refuse (.propertyOutsideTemplates "tags")

/-- Judges one regular property of a keyspace. -/
def mapKeyspaceProperty (strictness : Strictness) (property : Identifier × PropertyValue) :
    Report Unit :=
  if property.1.text = "replication" then mapReplication strictness property.2
  else if property.1.text = "tags" then mapKeyspaceTags property.2
  else caution strictness (.inapplicableProperty property.1)

/-- Refuses settings without the property `replication`. -/
def requireReplication (settings : Settings) : Report Unit :=
  if settings.regular.contains (.quoted "replication") then pure ()
  else refuse (.missingProperty "replication")

/-- Refuses custom properties, even an empty block of them. -/
def refuseCustomProperties (settings : Settings) : Report Unit :=
  if settings.custom.isSome then refuse .keyspaceCustomProperties else pure ()

/-- Judges the properties of a keyspace. -/
def mapKeyspaceSettings (strictness : Strictness) (settings : Settings) : Report Unit := do
  requireReplication settings
  settings.regular.toList.forM (mapKeyspaceProperty strictness)
  refuseCustomProperties settings

/-- Leaves alone a keyspace that exists already. -/
def skipKeyspace (registry : Registry) (keyspace : Identifier) : Report Registry := do
  log .info s!"Skipping keyspace '{keyspace}': already created and IF NOT EXISTS specified"
  return registry

/-- Maps the creation of a keyspace. -/
def mapKeyspace (strictness : Strictness) (registry : Registry) (creation : KeyspaceCreation) :
    Report Registry :=
  if (registry.keyspaceId? creation.keyspace).isSome then
    if creation.ifNotExists then skipKeyspace registry creation.keyspace
    else refuse .keyspaceExists
  else do
    mapKeyspaceSettings strictness creation.settings
    registry.addKeyspace creation.keyspace

end SchemaTemplate.Mapping
