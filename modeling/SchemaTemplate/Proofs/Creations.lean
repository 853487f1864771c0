import SchemaTemplate.Proofs.TableMapping
import SchemaTemplate.Proofs.Transition
import SchemaTemplate.Schema.Soundness

/-!
What a script creates, told by its statements alone. `creationsOf` goes through the statements with
a ledger of the keyspace in use and of what was created so far: every creation adds an entry to it,
unless the statement carries `IF NOT EXISTS` and its object is in the ledger already. A run that
succeeds works the ledger off: `Session.recorded_run` says that its resources record the entries,
one by one and in the same order.
-/

set_option autoImplicit false
set_option relaxedAutoImplicit false

namespace SchemaTemplate

/-! ### What a creation says -/

/-- What the creation of a table says, as far as templates can tell it. -/
structure TableSchema where
  keyspace : Identifier
  table : Identifier
  /-- The columns of the partition key with their declared types. -/
  partitionKey : List (Identifier × Option ColumnType)
  /-- The columns of the clustering key with their declared types and directions. -/
  clusteringKey : List (Identifier × Option ColumnType × Option Direction)
  /-- The columns outside the key in the order of their declaration. -/
  otherColumns : List (Identifier × ColumnType)
  billingMode : Option BillingMode
  deriving DecidableEq, Repr

/-- The object that a statement creates. -/
inductive Creation
  | keyspace (name : Identifier)
  | table (schema : TableSchema)
  deriving DecidableEq, Repr

/-- The columns outside the primary key. -/
def TableDefinition.otherColumns (definition : TableDefinition) :
    List (Identifier × ColumnType) :=
  definition.columns.toList.filter fun column ↦ column.1 ∉ definition.primaryKey

/-- The billing mode that the options of a capacity mode ask for. -/
def requestedMode? (options : Options) : Option BillingMode := do
  let mode ← options.get? "throughput_mode"
  if mode = "PAY_PER_REQUEST" then return .onDemand
  else if mode = "PROVISIONED" then
    let readUnits ← options.get? "read_capacity_units"
    let writeUnits ← options.get? "write_capacity_units"
    return .provisioned (← Text.integer32? readUnits) (← Text.integer32? writeUnits)
  else none

/-- The billing mode that the settings ask for. Of several capacity modes, which no script can give,
the last would count. -/
def Settings.requestedBilling? (settings : Settings) : Option BillingMode := do
  let custom ← settings.custom
  let options ← custom.toList.reverse.lookup "capacity_mode"
  requestedMode? options

/-- What the creation of a table says, if it belongs to the given keyspace. -/
def TableCreation.schemaIn (keyspace : Identifier) (creation : TableCreation) : TableSchema :=
  let definition := creation.definition
  { keyspace
    table := creation.table
    partitionKey := definition.partitionKey.map fun column ↦
      (column, definition.columns.get? column)
    clusteringKey := definition.clusteringKey.map fun column ↦
      (column, definition.columns.get? column, definition.direction? column)
    otherColumns := definition.otherColumns
    billingMode := definition.settings.requestedBilling? }

/-- The names by which an object is told from others: those of a keyspace, or of a keyspace and a
table in it. -/
def Creation.object : Creation → Identifier × Option Identifier
  | keyspace name => (name, none)
  | table schema => (schema.keyspace, some schema.table)

/-! ### The ledger -/

/-- The keyspace in use and what was created so far. -/
structure Ledger where
  used : Option Identifier
  creations : List Creation
  deriving DecidableEq, Repr

namespace Ledger

/-- The ledger before the first statement. -/
def empty : Ledger := ⟨none, []⟩

/-- The objects created so far. -/
def objects (ledger : Ledger) : List (Identifier × Option Identifier) :=
  ledger.creations.map Creation.object

/-- The ledger with one more creation. -/
def append (ledger : Ledger) (creation : Creation) : Ledger :=
  { ledger with creations := ledger.creations ++ [creation] }

/-- Enters a creation, unless it is to be skipped because its object exists. -/
def add (ledger : Ledger) (ifNotExists : Bool) (creation : Creation) : Ledger :=
  if ifNotExists ∧ creation.object ∈ ledger.objects then ledger else ledger.append creation

/-- The ledger behind a statement. A table without any keyspace is not entered. -/
def enter (ledger : Ledger) : Statement → Ledger
  | .use keyspace => { ledger with used := some keyspace }
  | .createKeyspace creation => ledger.add creation.ifNotExists (.keyspace creation.keyspace)
  | .createTable creation =>
    match creation.keyspace.or ledger.used with
    | some keyspace => ledger.add creation.ifNotExists (.table (creation.schemaIn keyspace))
    | none => ledger

/-- One more creation is one more object. -/
theorem mem_objects_append {ledger : Ledger} {creation : Creation}
    {object : Identifier × Option Identifier} :
    object ∈ (ledger.append creation).objects ↔
      object ∈ ledger.objects ∨ object = creation.object := by
  simp [append, objects]

/-- What exists is skipped. -/
theorem add_of_mem {ledger : Ledger} {ifNotExists : Bool} {creation : Creation}
    (hskip : ifNotExists = true) (hknown : creation.object ∈ ledger.objects) :
    ledger.add ifNotExists creation = ledger := if_pos ⟨hskip, hknown⟩

/-- What is new is entered. -/
theorem add_of_notMem {ledger : Ledger} {ifNotExists : Bool} {creation : Creation}
    (hnew : creation.object ∉ ledger.objects) :
    ledger.add ifNotExists creation = ledger.append creation := if_neg fun hskip ↦ hnew hskip.2

/-- A table is entered under its effective keyspace. -/
theorem enter_createTable {ledger : Ledger} {creation : TableCreation} {keyspace : Identifier}
    (heffective : creation.keyspace.or ledger.used = some keyspace) :
    ledger.enter (.createTable creation) =
      ledger.add creation.ifNotExists (.table (creation.schemaIn keyspace)) := by
  rw [enter, heffective]

end Ledger

/-- What the statements of a script create, in their order. -/
def creationsOf (statements : List Statement) : List Creation :=
  (statements.foldl Ledger.enter .empty).creations

/-! ### What the resources record -/

/-- Whether a resource among others records a creation: it renders it, and if its keyspace was
known, the resource of the keyspace is among the others. -/
inductive Creation.RecordedBy (resources : List (String × Resource)) :
    Creation → String × Resource → Prop
  | keyspace (id : String) (name : Identifier) :
    RecordedBy resources (.keyspace name) (id, .keyspace name.text)
  | table (id : String) {registry : Registry} {keyspace : Identifier} {creation : TableCreation}
    {table : TableResource} (hrenders : Mapping.Renders registry keyspace creation table)
    (hkeyspace : ∀ logicalId, registry.keyspaceId? keyspace = some logicalId →
      (logicalId, .keyspace keyspace.text) ∈ resources) :
    RecordedBy resources (.table (creation.schemaIn keyspace)) (id, .table table)

/-- More resources do not change what is recorded. -/
theorem Creation.RecordedBy.mono {resources more : List (String × Resource)} {creation : Creation}
    {entry : String × Resource} (hrecorded : creation.RecordedBy resources entry)
    (hmore : resources ⊆ more) : creation.RecordedBy more entry := by
  cases hrecorded with
  | keyspace id name => exact .keyspace id name
  | table id hrenders hkeyspace =>
    exact .table id hrenders fun logicalId hid ↦ hmore (hkeyspace logicalId hid)

/-- Whether a registry is in the state that a ledger tells. -/
structure Recorded (registry : Registry) (ledger : Ledger) : Prop where
  used_eq : registry.usedKeyspace = ledger.used
  keyspace_known : ∀ keyspace,
    (registry.keyspaceId? keyspace).isSome = true ↔ (keyspace, none) ∈ ledger.objects
  table_known : ∀ keyspace table,
    (registry.tableId? keyspace table).isSome = true ↔ (keyspace, some table) ∈ ledger.objects
  ids_distinct : (registry.resources.map Prod.fst).Nodup
  keyspaces_listed : registry.KeyspacesListed
  creations_recorded : List.Forall₂ (Creation.RecordedBy registry.resources) ledger.creations
    registry.resources

theorem recorded_empty : Recorded .empty .empty where
  used_eq := rfl
  keyspace_known _ := by simp [Registry.empty, Registry.keyspaceId?, Ledger.empty, Ledger.objects]
  table_known _ _ := by simp [Registry.empty, Registry.tableId?, Ledger.empty, Ledger.objects]
  ids_distinct := .nil
  keyspaces_listed := nofun
  creations_recorded := .nil

namespace Recorded

variable {registry : Registry} {ledger : Ledger}

/-- Assumes: one more creation and one more resource that records it. All are recorded. -/
theorem creations_recorded_append (hrecorded : Recorded registry ledger) {creation : Creation}
    {entry : String × Resource}
    (hlast : creation.RecordedBy (registry.resources ++ [entry]) entry) :
    List.Forall₂ (Creation.RecordedBy (registry.resources ++ [entry]))
      (ledger.creations ++ [creation]) (registry.resources ++ [entry]) :=
  List.rel_append
    (hrecorded.creations_recorded.imp fun _ _ hbefore ↦ hbefore.mono (List.subset_append_left _ _))
    (.cons hlast .nil)

/-- Assumes: a state that a ledger tells, and a new id. The ledger with a new keyspace tells the
state with the resource of it. -/
theorem withKeyspace (hrecorded : Recorded registry ledger) (keyspace : Identifier)
    (hid : registry.nextKeyspaceId ∉ registry.template.logicalIds) :
    Recorded (registry.withKeyspace keyspace) (ledger.append (.keyspace keyspace)) where
  used_eq := hrecorded.used_eq
  keyspace_known := by
    intro other
    rw [Registry.keyspaceId?_withKeyspace, Option.isSome_or, Bool.or_eq_true,
      hrecorded.keyspace_known, Ledger.mem_objects_append]
    simp [Creation.object]
  table_known := by
    intro other table
    rw [Registry.tableId?_withKeyspace, hrecorded.table_known, Ledger.mem_objects_append]
    simp [Creation.object]
  ids_distinct := OrderedMap.Distinct.append hrecorded.ids_distinct hid _
  keyspaces_listed := hrecorded.keyspaces_listed.withKeyspace keyspace
  creations_recorded := hrecorded.creations_recorded_append (.keyspace _ _)

/-- Assumes: a state that a ledger tells, a new id, and a resource that renders the creation of a
table. The ledger with the table tells the state with the resource. -/
theorem withTable (hrecorded : Recorded registry ledger) {keyspace : Identifier}
    {creation : TableCreation} {table : TableResource}
    (hrenders : Mapping.Renders registry keyspace creation table)
    (hid : registry.nextTableId ∉ registry.template.logicalIds) :
    Recorded (registry.withTable keyspace creation.table table)
      (ledger.append (.table (creation.schemaIn keyspace))) where
  used_eq := hrecorded.used_eq
  keyspace_known := by
    intro other
    rw [Registry.keyspaceId?_withTable, hrecorded.keyspace_known, Ledger.mem_objects_append]
    simp [Creation.object]
  table_known := by
    intro otherKeyspace other
    rw [Registry.tableId?_withTable, Option.isSome_or, Bool.or_eq_true, hrecorded.table_known,
      Ledger.mem_objects_append]
    simp [Creation.object, TableCreation.schemaIn]
  ids_distinct := OrderedMap.Distinct.append hrecorded.ids_distinct hid _
  keyspaces_listed := hrecorded.keyspaces_listed.withTable keyspace creation.table table
  creations_recorded := hrecorded.creations_recorded_append (.table _ hrenders fun _ hknown ↦
    List.mem_append_left _ (hrecorded.keyspaces_listed keyspace _ hknown))

/-- Assumes: a statement that succeeds, in a state that a ledger tells. The ledger with the
statement entered tells the state behind it. -/
theorem step (hrecorded : Recorded registry ledger) {strictness : Strictness}
    {statement : Statement} {next : Registry}
    (htransition : Mapping.Transition strictness registry statement next) :
    Recorded next (ledger.enter statement) := by
  cases htransition with
  | keyspaceUsed keyspace => exact { hrecorded with used_eq := rfl }
  | keyspaceSkipped creation hknown hskip =>
    rw [Ledger.enter, Ledger.add_of_mem hskip ((hrecorded.keyspace_known _).1 hknown)]
    exact hrecorded
  | tableSkipped creation keyspace heffective hknown hskip =>
    rw [Mapping.effectiveKeyspace?, hrecorded.used_eq] at heffective
    rw [Ledger.enter_createTable heffective,
      Ledger.add_of_mem hskip ((hrecorded.table_known _ _).1 hknown)]
    exact hrecorded
  | keyspaceCreated creation hnew hsettings hid =>
    have hobject : (Creation.keyspace creation.keyspace).object ∉ ledger.objects := by
      rw [Creation.object, ← hrecorded.keyspace_known, hnew]
      simp
    rw [Ledger.enter, Ledger.add_of_notMem hobject]
    exact hrecorded.withKeyspace creation.keyspace hid
  | tableCreated creation keyspace table heffective hnew hresource hid =>
    rw [Mapping.effectiveKeyspace?, hrecorded.used_eq] at heffective
    have hobject : (Creation.table (creation.schemaIn keyspace)).object ∉ ledger.objects := by
      rw [Creation.object, ← hrecorded.table_known, TableCreation.schemaIn, hnew]
      simp
    rw [Ledger.enter_createTable heffective, Ledger.add_of_notMem hobject]
    exact hrecorded.withTable (Mapping.renders_of_outcome hresource) hid

end Recorded

/-- Assumes: a run that succeeds, from a state that a ledger tells. The ledger with the statements
entered tells the state behind it. -/
theorem Session.recorded_run {session : Session} {ledger : Ledger} (statements : List Statement)
    (hrecorded : Recorded session.registry ledger)
    (hok : (session.run statements).2.outcome = .ok ()) :
    Recorded (session.run statements).1.registry (statements.foldl Ledger.enter ledger) := by
  induction statements generalizing session ledger with
  | nil => exact hrecorded
  | cons statement rest ih =>
    rw [run_cons_report, Report.outcome_bind_eq_ok_iff] at hok
    obtain ⟨registry, hstatement, hrest⟩ := hok
    rw [run_cons_of_ok hstatement, List.foldl_cons]
    refine ih ?_ hrest
    rcases session.registry_handle statement with
      ⟨next, -, hnext, htransition⟩ | ⟨failure, hfailure, -⟩
    · rw [hnext]
      exact hrecorded.step htransition
    · rw [hstatement] at hfailure
      cases hfailure

end SchemaTemplate
