import SchemaTemplate.Schema.TableDefinition

/-!
The operations on table definitions as data, so that sequences of them can be spoken of.
`TableDefinition.edited` is the definition that an operation leads to. `TableDefinition.perform`
carries it out in place, where a fault does not undo what was changed before it and an item is
looked up in a list by its position; `attemptAll` carries out a whole sequence in place and passes
over the operations that stop. `TableDefinition.Built` holds of the definitions that come about in
this way.
-/

set_option autoImplicit false
set_option relaxedAutoImplicit false

namespace SchemaTemplate.TableDefinition

/-- An operation on a definition, with what it is called with. -/
inductive Edit
  | addColumn (column : Identifier) (type : ColumnType)
  | addStaticColumn (column : Identifier)
  | beginPrimaryKey
  | addPartitionColumn (column : Identifier)
  | addClusteringColumn (column : Identifier)
  | beginClusteringOrder
  | addClusteringOrder (column : Identifier) (direction : Direction)
  | requestCompactStorage
  | addProperty (name : Identifier) (value : PropertyValue)
  | defineCustom (custom : CustomProperties)
  deriving DecidableEq, Repr

/-- The definition that an operation leads to, or what is wrong with the operation. -/
def edited (definition : TableDefinition) : Edit → Except SchemaFault TableDefinition
  | .addColumn column type => definition.addColumn column type
  | .addStaticColumn column => definition.addStaticColumn column
  | .beginPrimaryKey => definition.beginPrimaryKey
  | .addPartitionColumn column => definition.addPartitionColumn column
  | .addClusteringColumn column => definition.addClusteringColumn column
  | .beginClusteringOrder => definition.beginClusteringOrder
  | .addClusteringOrder column direction => definition.addClusteringOrder column direction
  | .requestCompactStorage => definition.requestCompactStorage
  | .addProperty name value =>
    definition.updateSettings fun settings ↦ settings.addProperty name value
  | .defineCustom custom => definition.updateSettings fun settings ↦ settings.defineCustom custom

/-! ### Operations in place -/

/-- Why an operation in place stops. -/
inductive Stop
  /-- The operation is refused. -/
  | refused (fault : SchemaFault)
  /-- An item is looked up behind the end of a list. -/
  | outOfRange
  deriving DecidableEq, Repr

/-- A program that reads and changes a definition in place. What it changed before it stops stays
changed. -/
abbrev InPlace (Value : Type) : Type := ExceptT Stop (StateM TableDefinition) Value

namespace InPlace

variable {Value : Type}

/-- How a program ends, and the definition that it leaves. -/
def runOn (program : InPlace Value) (definition : TableDefinition) :
    Except Stop Value × TableDefinition :=
  (ExceptT.run program).run definition

/-- Stops under a condition. -/
def refuseIf (condition : Prop) [Decidable condition] (fault : SchemaFault) : InPlace Unit :=
  if condition then throw (.refused fault) else return ()

/-- The value that something is worked out to, if nothing is wrong. -/
def ofOutcome : Except SchemaFault Value → InPlace Value
  | .ok value => return value
  | .error fault => throw (.refused fault)

/-- The item at a position of a list. -/
def itemAt (items : List Value) (position : Nat) : InPlace Value :=
  match items[position]? with
  | some item => return item
  | none => throw .outOfRange

end InPlace

open InPlace

/-- Carries out an operation in place. -/
def perform : Edit → InPlace Unit
  | .addColumn column type => do
    let definition ← get
    refuseIf (definition.columns.contains column) (.duplicateColumn column)
    let columns ← ofOutcome (definition.columns.define column type)
    set { definition with columns }
  | .addStaticColumn column => do
    let definition ← get
    refuseIf (!definition.columns.contains column) (.unknownStaticColumn column)
    refuseIf (column ∈ definition.primaryKey) (.staticKeyColumn column)
    if column ∉ definition.staticColumns then
      set { definition with staticColumns := definition.staticColumns ++ [column] }
  | .beginPrimaryKey => do
    let definition ← get
    refuseIf definition.primaryKeyGiven .duplicatePrimaryKey
    set { definition with primaryKeyGiven := true }
  | .addPartitionColumn column => do
    let definition ← get
    ofOutcome (definition.checkKeyColumn column)
    set { definition with partitionKey := definition.partitionKey ++ [column] }
  | .addClusteringColumn column => do
    let definition ← get
    ofOutcome (definition.checkKeyColumn column)
    set { definition with clusteringKey := definition.clusteringKey ++ [column] }
  | .beginClusteringOrder => do
    let definition ← get
    refuseIf definition.clusteringOrderGiven .duplicateClusteringOrder
    set { definition with clusteringOrderGiven := true }
  | .addClusteringOrder column direction => do
    let definition ← get
    refuseIf (column ∉ definition.clusteringKey) .orderOutsideClusteringKey
    let position := definition.clusteringKey.idxOf column
    refuseIf (definition.direction? column).isSome (.repeatedOrder column)
    let assigned := definition.clusteringOrders.length
    if assigned = position then
      set { definition with
            clusteringOrders := definition.clusteringOrders ++ [(column, direction)] }
    else
      let due ← itemAt definition.clusteringKey assigned
      throw (.refused (.missingOrder due))
  | .requestCompactStorage => do
    let definition ← get
    refuseIf definition.compactStorage .duplicateCompactStorage
    set { definition with compactStorage := true }
  | .addProperty name value => do
    let definition ← get
    let regular ← ofOutcome (definition.settings.regular.define name value)
    set { definition with settings := { definition.settings with regular } }
  | .defineCustom custom => do
    let definition ← get
    refuseIf definition.settings.custom.isSome (.duplicateProperty Settings.customPropertiesName)
    set { definition with settings := { definition.settings with custom := some custom } }

/-- How an operation in place ends, and the definition that it leaves. -/
def attempt (definition : TableDefinition) (edit : Edit) : Except Stop Unit × TableDefinition :=
  (perform edit).runOn definition

/-- How an operation in place ends if it either leads to its definition or leaves all as it was. -/
def allOrNothing (definition : TableDefinition) :
    Except SchemaFault TableDefinition → Except Stop Unit × TableDefinition
  | .ok next => (.ok (), next)
  | .error fault => (.error (.refused fault), definition)

/-- Carries out operations in place one after the other, passing over those that stop. -/
def attemptAll (definition : TableDefinition) (edits : List Edit) : TableDefinition :=
  edits.foldl (fun definition edit ↦ (definition.attempt edit).2) definition

/-- Whether a definition comes about by operations on one without any clause. -/
def Built (definition : TableDefinition) : Prop :=
  ∃ edits, empty.attemptAll edits = definition

end SchemaTemplate.TableDefinition
