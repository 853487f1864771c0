import SchemaTemplate.Proofs.CapacityModes
import SchemaTemplate.Proofs.ColumnGroups
import SchemaTemplate.Proofs.ForeseenFailures
import SchemaTemplate.Proofs.Repetition
import SchemaTemplate.Proofs.Strictness

/-!
What becomes of the creation of a table where warnings are tolerated. The steps of the mapping stop
at the first thing that a template cannot have, so a definition is mapped exactly if it asks for
none of them (`TableDefinition.Mappable`); on the way nothing is warned of but what
`Mapping.tableCautions` lists.
-/

set_option autoImplicit false
set_option relaxedAutoImplicit false

namespace SchemaTemplate

namespace Mapping

open Report

/-! ### Types and columns -/

mutual

/-- A type has a value exactly if it is built in. -/
theorem exists_outcome_typeExpr_iff (keyspace : Identifier) : (type : ColumnType) →
    ((∃ value, (typeExpr keyspace type).outcome = .ok value) ↔ type.BuiltIn)
  | .simple name => iff_of_true ⟨_, outcome_typeExpr_simple keyspace name⟩ trivial
  | .composite kind elements => by
    rw [ColumnType.BuiltIn, ← exists_outcome_typeExprs_iff keyspace elements]
    simp only [outcome_typeExpr_composite_eq_ok_iff]
    exact ⟨fun ⟨_, values, hvalues, _⟩ ↦ ⟨values, hvalues⟩,
      fun ⟨values, hvalues⟩ ↦ ⟨_, values, hvalues, rfl⟩⟩
  | .user typeKeyspace name =>
    iff_of_false (fun ⟨value, hok⟩ ↦ outcome_typeExpr_user_ne_ok _ _ _ value hok) nofun
  | .custom className =>
    iff_of_false (fun ⟨value, hok⟩ ↦ outcome_typeExpr_custom_ne_ok _ _ value hok) nofun

/-- Several types have values exactly if all of them are built in. -/
theorem exists_outcome_typeExprs_iff (keyspace : Identifier) : (types : List ColumnType) →
    ((∃ values, (typeExprs keyspace types).outcome = .ok values) ↔ ColumnType.AllBuiltIn types)
  | [] => iff_of_true ⟨[], outcome_typeExprs_nil keyspace⟩ trivial
  | first :: rest => by
    rw [ColumnType.AllBuiltIn, ← exists_outcome_typeExpr_iff keyspace first,
      ← exists_outcome_typeExprs_iff keyspace rest]
    simp only [outcome_typeExprs_cons_eq_ok_iff]
    constructor
    · rintro ⟨_, value, more, hvalue, hmore, -⟩
      exact ⟨⟨value, hvalue⟩, more, hmore⟩
    · rintro ⟨⟨value, hvalue⟩, more, hmore⟩
      exact ⟨_, value, more, hvalue, hmore, rfl⟩

end

variable {keyspace : Identifier} {definition : TableDefinition}

/-- A declared column is mapped exactly if its type is built in. -/
theorem exists_maps_iff (keyspace : Identifier) (declared : Identifier × ColumnType) :
    (∃ column, Maps keyspace declared column) ↔ declared.2.BuiltIn := by
  rw [← exists_outcome_typeExpr_iff keyspace]
  exact ⟨fun ⟨column, hmaps⟩ ↦ ⟨column.type, hmaps.type_value⟩,
    fun ⟨value, hvalue⟩ ↦ ⟨⟨declared.1.text, value⟩, rfl, hvalue⟩⟩

theorem exists_outcome_mapColumn_iff (keyspace : Identifier) (declared : Identifier × ColumnType) :
    (∃ column, (mapColumn keyspace declared).outcome = .ok column) ↔ declared.2.BuiltIn := by
  simp only [outcome_mapColumn_eq_ok_iff, exists_maps_iff]

/-- Assumes: columns of a key without repetition, declared with types that are built in. They are
mapped. -/
theorem exists_outcome_mapKey (keyspace : Identifier) {names : List Identifier}
    (hdistinct : names.Nodup) {unplaced : Unplaced}
    (htypes : ∀ name ∈ names, ∃ type, unplaced.get? name = some type ∧ type.BuiltIn) :
    ∃ columns, (mapKey keyspace names unplaced).outcome =
      .ok (columns, names.foldl OrderedMap.erase unplaced) := by
  induction names generalizing unplaced with
  | nil => exact ⟨[], rfl⟩
  | cons name names ih =>
    obtain ⟨hnew, hdistinct⟩ := List.nodup_cons.1 hdistinct
    obtain ⟨⟨type, htype, hbuiltIn⟩, htypes⟩ := List.forall_mem_cons.1 htypes
    obtain ⟨column, hcolumn⟩ := (exists_outcome_mapColumn_iff keyspace (name, type)).2 hbuiltIn
    have hleft : ∀ other ∈ names,
        ∃ type, (unplaced.erase name).get? other = some type ∧ type.BuiltIn := by
      intro other hmem
      have hother : other ≠ name := by
        rintro rfl
        exact hnew hmem
      rw [OrderedMap.get?_erase_of_ne _ hother]
      exact htypes other hmem
    obtain ⟨columns, hcolumns⟩ := ih hdistinct hleft
    refine ⟨column :: columns, ?_⟩
    unfold mapKey
    rw [htype]
    dsimp only
    rw [outcome_bind_of_ok hcolumn, outcome_bind_of_ok hcolumns, List.foldl_cons]
    rfl

/-- Assumes: groups that hold the columns of a consistent definition. All declared types are built
in. -/
theorem Grouped.builtIn {table : TableResource} (hgrouped : Grouped keyspace definition table)
    (hconsistent : definition.Consistent) :
    ∀ column ∈ definition.columns.toList, column.2.BuiltIn := by
  have hplaced : ∀ {name : Identifier} {column : Column},
      Places keyspace definition name column →
        ∀ type, definition.columns.get? name = some type → type.BuiltIn := by
    rintro name column ⟨type, htype, hmaps⟩ declared hdeclared
    obtain rfl : type = declared := Option.some.inj (htype.symm.trans hdeclared)
    exact (exists_maps_iff _ _).1 ⟨column, hmaps⟩
  intro column hmem
  have hfound := (OrderedMap.get?_eq_some_iff hconsistent.columns_distinct).2 hmem
  have hgroup := hconsistent.primaryKey_append_otherNames_perm.mem_iff.2
    (List.mem_map_of_mem hmem)
  rw [TableDefinition.primaryKey, List.mem_append, List.mem_append] at hgroup
  obtain (hpartition | hclustering) | hother := hgroup
  · obtain ⟨_, hplaces⟩ := exists_related_of_mem hgrouped.partition_placed.flip hpartition
    exact hplaced hplaces column.2 hfound
  · obtain ⟨_, hplaces, -⟩ := exists_related_of_mem hgrouped.clustering_placed.flip hclustering
    exact hplaced hplaces column.2 hfound
  · obtain ⟨_, hplaces⟩ := exists_related_of_mem hgrouped.others_placed.flip hother
    exact hplaced hplaces column.2 hfound

/-- No columns are mapped if there are static ones. -/
theorem staticColumns_eq_nil {keyspaceName : Expr} {table : Identifier} {resource : TableResource}
    (hok : (mapColumns keyspace keyspaceName table definition).outcome = .ok resource) :
    definition.staticColumns = [] := by
  simp only [mapColumns, outcome_bind_eq_ok_iff] at hok
  obtain ⟨_, -, _, -, _, hstatic, -⟩ := hok
  unfold refuseStaticColumns at hstatic
  split at hstatic
  next hnone => exact List.isEmpty_iff.1 hnone
  next => cases hstatic

/-- Assumes: a consistent definition whose types are built in and of which no column is static. Its
columns are mapped. -/
theorem exists_outcome_mapColumns (keyspace : Identifier) (hconsistent : definition.Consistent)
    (htypes : ∀ column ∈ definition.columns.toList, column.2.BuiltIn)
    (hstatic : definition.staticColumns = []) (keyspaceName : Expr) (table : Identifier) :
    ∃ resource, (mapColumns keyspace keyspaceName table definition).outcome = .ok resource := by
  have hdeclared : ∀ name ∈ definition.primaryKey,
      ∃ type, definition.columns.get? name = some type ∧ type.BuiltIn := by
    intro name hkey
    obtain ⟨column, hmem, rfl⟩ := List.mem_map.1 (hconsistent.primaryKey_declared name hkey)
    have hfound := (OrderedMap.get?_eq_some_iff hconsistent.columns_distinct).2 hmem
    exact ⟨column.2, hfound, htypes column hmem⟩
  obtain ⟨hpartition, hclustering, hapart⟩ := List.nodup_append.1 hconsistent.primaryKey_distinct
  obtain ⟨partitionKey, hpartitionKey⟩ := exists_outcome_mapKey keyspace hpartition
    fun name hmem ↦ hdeclared name (List.mem_append_left _ hmem)
  have hleft : ∀ name ∈ definition.clusteringKey, ∃ type,
      (definition.partitionKey.foldl OrderedMap.erase definition.columns).get? name = some type ∧
        type.BuiltIn := by
    intro name hmem
    rw [get?_foldl_erase_of_notMem fun hpart ↦ hapart name hpart name hmem rfl]
    exact hdeclared name (List.mem_append_right _ hmem)
  obtain ⟨clusteringKey, hclusteringKey⟩ := exists_outcome_mapKey keyspace hclustering hleft
  have hnone : (refuseStaticColumns definition).outcome = .ok () := by
    rw [refuseStaticColumns, hstatic]
    rfl
  have hothers : ∃ columns, ((definition.clusteringKey.foldl OrderedMap.erase
      (definition.partitionKey.foldl OrderedMap.erase definition.columns)).toList.mapM
        (mapColumn keyspace)).outcome = .ok columns := by
    rw [exists_outcome_mapM_iff, ← List.foldl_append]
    intro column hmem
    rw [OrderedMap.toList, OrderedMap.entries_foldl_erase hconsistent.columns_distinct] at hmem
    exact (exists_outcome_mapColumn_iff _ _).2 (htypes column (List.mem_filter.1 hmem).1)
  obtain ⟨regularColumns, hregularColumns⟩ := hothers
  simp only [mapColumns, outcome_bind_eq_ok_iff]
  exact ⟨_, _, hpartitionKey, _, hclusteringKey, (), hnone, _, hregularColumns, rfl⟩

/-! ### Properties -/

/-- The regular properties without which a table would not be the one that was asked for. -/
def refusedProperties : List String := ["comment", "default_time_to_live", "tags"]

/-- A regular property that is not refused draws a warning. -/
theorem mapTableProperty_of_notMem {property : Identifier × PropertyValue}
    (hname : property.1.text ∉ refusedProperties) (strictness : Strictness) :
    mapTableProperty strictness property =
      caution strictness (.inapplicableProperty property.1) := by
  simp only [refusedProperties, List.mem_cons, List.not_mem_nil, or_false, not_or] at hname
  obtain ⟨hcomment, hlifetime, htags⟩ := hname
  rw [mapTableProperty, if_neg hcomment, if_neg hlifetime, if_neg htags]

/-- Where warnings are tolerated, a regular property is passed exactly if it is not one of those
that are refused. -/
theorem outcome_mapTableProperty_eq_ok_iff {property : Identifier × PropertyValue} :
    (mapTableProperty .lenient property).outcome = .ok () ↔
      property.1.text ∉ refusedProperties := by
  constructor
  · intro hok
    dsimp only [mapTableProperty] at hok
    split at hok
    · split at hok <;> cases hok
    split at hok
    · split at hok <;> cases hok
    split at hok
    · split at hok <;> cases hok
    next hcomment hlifetime htags => simp [refusedProperties, hcomment, hlifetime, htags]
  · intro hname
    rw [mapTableProperty_of_notMem hname]
    rfl

/-- Assumes: settings whose regular properties are all passed. Each of them draws its warning. -/
theorem warnings_forM_mapTableProperty {properties : List (Identifier × PropertyValue)}
    (hnames : ∀ property ∈ properties, property.1.text ∉ refusedProperties) :
    (properties.forM (mapTableProperty .lenient)).warnings =
      properties.map fun property ↦ (Warning.inapplicableProperty property.1).message := by
  rw [warnings_forM_of_ok fun property hmem ↦
    outcome_mapTableProperty_eq_ok_iff.2 (hnames property hmem), List.map_eq_flatMap]
  refine List.flatMap_congr fun property hmem ↦ ?_
  rw [mapTableProperty_of_notMem (hnames property hmem)]
  rfl

end Mapping

/-! ### Tables -/

/-- Whether a definition asks for nothing that the table of a template cannot have. -/
structure TableDefinition.Mappable (definition : TableDefinition) : Prop where
  types_builtIn : ∀ column ∈ definition.columns.toList, column.2.BuiltIn
  static_none : definition.staticColumns = []
  properties_passed : ∀ property ∈ definition.settings.regular.toList,
    property.1.text ∉ Mapping.refusedProperties
  custom_capacity : ∀ custom ∈ definition.settings.custom, ∀ property ∈ custom.toList,
    Mapping.IsCapacityMode property

namespace Mapping

open Report

variable {registry : Registry} {keyspace : Identifier} {creation : TableCreation}

/-- What is warned of when a table is created: that its keyspace was not, each of its regular
properties, and compact storage. -/
def tableCautions (registry : Registry) (keyspace : Identifier) (definition : TableDefinition) :
    List Warning :=
  (if registry.keyspaceId? keyspace = none then [.keyspaceNotCreated keyspace] else []) ++
    definition.settings.regular.toList.map (fun property ↦ .inapplicableProperty property.1) ++
    if definition.compactStorage then [.inapplicableCompactStorage] else []

theorem outcome_keyspaceExpr (registry : Registry) (keyspace : Identifier) :
    (keyspaceExpr .lenient registry keyspace).outcome = .ok (keyspaceValue registry keyspace) := by
  rw [keyspaceExpr, keyspaceValue]
  cases registry.keyspaceId? keyspace <;> rfl

theorem outcome_mapCompactStorage (requested : Bool) :
    (mapCompactStorage .lenient requested).outcome = .ok () := by
  cases requested <;> rfl

/-- Where warnings are tolerated, the creation of a table has a resource exactly if its definition
is mappable. -/
theorem exists_outcome_tableResource_iff (hconsistent : creation.definition.Consistent) :
    (∃ resource, (tableResource .lenient registry keyspace creation).outcome = .ok resource) ↔
      creation.definition.Mappable := by
  constructor
  · rintro ⟨resource, hok⟩
    have hgrouped := (renders_of_outcome hok).grouped hconsistent
    simp only [tableResource, outcome_bind_eq_ok_iff] at hok
    obtain ⟨_, -, _, hcolumns, _, hregular, _, hbilling, -⟩ := hok
    exact {
      types_builtIn := hgrouped.builtIn hconsistent
      static_none := staticColumns_eq_nil hcolumns
      properties_passed := fun property hmem ↦
        outcome_mapTableProperty_eq_ok_iff.1 (outcome_forM_eq_ok_iff.1 hregular property hmem)
      custom_capacity := exists_outcome_billingModeOf_iff.1 ⟨_, hbilling⟩ }
  · intro hmappable
    obtain ⟨table, hcolumns⟩ := exists_outcome_mapColumns keyspace hconsistent
      hmappable.types_builtIn hmappable.static_none (keyspaceValue registry keyspace)
      creation.table
    have hregular := outcome_forM_eq_ok_iff.2 fun property hmem ↦
      outcome_mapTableProperty_eq_ok_iff.2 (hmappable.properties_passed property hmem)
    obtain ⟨billingMode, hbilling⟩ := exists_outcome_billingModeOf_iff.2 hmappable.custom_capacity
    simp only [tableResource, outcome_bind_eq_ok_iff]
    exact ⟨_, _, outcome_keyspaceExpr registry keyspace, table, hcolumns, (), hregular,
      billingMode, hbilling, (), outcome_mapCompactStorage _, rfl⟩

/-- Assumes: the creation of a table that has a resource. What was warned of on the way is what is
listed. -/
theorem warnings_tableResource {resource : TableResource}
    (hok : (tableResource .lenient registry keyspace creation).outcome = .ok resource) :
    (tableResource .lenient registry keyspace creation).warnings =
      (tableCautions registry keyspace creation.definition).map Warning.message := by
  simp only [tableResource, outcome_bind_eq_ok_iff] at hok
  obtain ⟨keyspaceName, hkeyspace, table, hcolumns, _, hregular, billing, hbilling, _, hcompact, -⟩
    := hok
  have hnames := fun property hmem ↦
    outcome_mapTableProperty_eq_ok_iff.1 (outcome_forM_eq_ok_iff.1 hregular property hmem)
  have hkeyspaceWarnings : (keyspaceExpr .lenient registry keyspace).warnings =
      (if registry.keyspaceId? keyspace = none then
        [Warning.keyspaceNotCreated keyspace] else []).map Warning.message := by
    rw [keyspaceExpr]
    cases registry.keyspaceId? keyspace <;> rfl
  have hcompactWarnings : (mapCompactStorage .lenient creation.definition.compactStorage).warnings =
      (if creation.definition.compactStorage then
        [Warning.inapplicableCompactStorage] else []).map Warning.message := by
    cases creation.definition.compactStorage <;> rfl
  rw [tableResource, warnings_bind_of_ok hkeyspace, warnings_bind_of_ok hcolumns,
    warnings_bind_of_ok hregular, warnings_bind_of_ok hbilling, warnings_bind_of_ok hcompact,
    hkeyspaceWarnings, warnings_mapColumns, warnings_forM_mapTableProperty hnames,
    warnings_billingModeOf, hcompactWarnings, tableCautions]
  simp

/-- Assumes: a new table that has a resource. Its creation warns of what its resource warns of. -/
theorem warnings_mapStatement_createTable {strictness : Strictness} {resource : TableResource}
    (heffective : effectiveKeyspace? registry creation = some keyspace)
    (hnew : registry.tableId? keyspace creation.table = none)
    (hok : (tableResource strictness registry keyspace creation).outcome = .ok resource) :
    (mapStatement strictness registry (.createTable creation)).warnings =
      (tableResource strictness registry keyspace creation).warnings := by
  unfold mapStatement
  rw [warnings_bind_of_ok (outcome_log _ _), warnings_log, List.nil_append]
  simp only [mapTable, heffective, mapTableIn, hnew, Option.isSome_none, Bool.false_eq_true,
    if_false]
  rw [warnings_bind_of_ok hok, Registry.warnings_addTable, List.append_nil]

/-- Where ids are numbered and warnings are tolerated, the creation of a table succeeds exactly if
the table exists and may, or is new and has a mappable definition. -/
theorem exists_outcome_createTable_iff (hnumbered : registry.Numbered)
    (hconsistent : creation.definition.Consistent) :
    (∃ next, (mapStatement .lenient registry (.createTable creation)).outcome = .ok next) ↔
      ∃ keyspace, effectiveKeyspace? registry creation = some keyspace ∧
        ((registry.tableId? keyspace creation.table).isSome = true ∧
            creation.ifNotExists = true ∨
          registry.tableId? keyspace creation.table = none ∧ creation.definition.Mappable) := by
  simp only [outcome_mapStatement_eq_ok_iff]
  constructor
  · rintro ⟨next, htransition⟩
    cases htransition with
    | tableSkipped _ keyspace heffective hknown hskip =>
      exact ⟨keyspace, heffective, .inl ⟨hknown, hskip⟩⟩
    | tableCreated _ keyspace resource heffective hnew hresource _ =>
      have hmappable := (exists_outcome_tableResource_iff hconsistent).1 ⟨resource, hresource⟩
      exact ⟨keyspace, heffective, .inr ⟨hnew, hmappable⟩⟩
  · rintro ⟨keyspace, heffective, ⟨hknown, hskip⟩ | ⟨hnew, hmappable⟩⟩
    · exact ⟨_, .tableSkipped creation keyspace heffective hknown hskip⟩
    · obtain ⟨resource, hresource⟩ := (exists_outcome_tableResource_iff hconsistent).2 hmappable
      exact ⟨_, .tableCreated creation keyspace resource heffective hnew hresource
        hnumbered.nextTableId_new⟩

end Mapping

namespace Session

open Mapping

/-- Which creations of tables succeed. Whatever a session that tolerates warnings has handled, the
creation of a table that was read or built succeeds exactly if its keyspace is known and either the
table exists and may, or it is new and its definition is mappable. What exists is left alone, and so
is the session. A new table adds one resource, which has a billing mode exactly if a capacity mode
was given, and draws the warnings that are listed, in this order. -/
theorem table_creation_outcome (before : List Statement) {creation : TableCreation}
    (hobtainable : (Statement.createTable creation).Obtainable) :
    let session := (new .lenient).handleAll before
    let handled := session.handle (.createTable creation)
    let definition := creation.definition
    ((∃ next, handled.2.outcome = .ok next) ↔
      ∃ keyspace, creation.keyspace.or session.registry.usedKeyspace = some keyspace ∧
        ((session.registry.tableId? keyspace creation.table).isSome = true ∧
            creation.ifNotExists = true ∨
          session.registry.tableId? keyspace creation.table = none ∧ definition.Mappable)) ∧
    ∀ keyspace next, creation.keyspace.or session.registry.usedKeyspace = some keyspace →
      handled.2.outcome = .ok next →
      ((session.registry.tableId? keyspace creation.table).isSome = true →
        handled.1 = session) ∧
      (session.registry.tableId? keyspace creation.table = none →
        handled.1.warnings = session.warnings ++
          (tableCautions session.registry keyspace definition).map Warning.message ∧
        ∃ id table,
          handled.1.registry.resources = session.registry.resources ++ [(id, .table table)] ∧
          (table.billingMode.isSome = true ↔
            ∃ custom, definition.settings.custom = some custom ∧
              "capacity_mode" ∈ custom.keys)) := by
  intro session handled definition
  have hconsistent : definition.Consistent := hobtainable.isConsistent
  have hnumbered : session.registry.Numbered := Registry.numbered_handleAll .lenient before
  have hreport : handled.2 = mapStatement .lenient session.registry (.createTable creation) :=
    report_handleAll .lenient before (.createTable creation)
  refine ⟨?_, ?_⟩
  · rw [hreport]
    exact exists_outcome_createTable_iff hnumbered hconsistent
  · intro keyspace next heffective hok
    have htransition := (outcome_mapStatement_eq_ok_iff _).1 (hreport ▸ hok)
    cases htransition with
    | tableSkipped _ other hother hknown hskip =>
      obtain rfl : other = keyspace := Option.some.inj (hother.symm.trans heffective)
      have hskips : (Statement.createTable creation).SkipsExisting := hskip
      have hleft := (handle_of_knows hskips ⟨other, hother, hknown⟩).1
      exact ⟨fun _ ↦ hleft, fun hnew ↦ absurd hknown (by simp [hnew])⟩
    | tableCreated _ other resource hother hnew hresource =>
      obtain rfl : other = keyspace := Option.some.inj (hother.symm.trans heffective)
      have hwarnings : handled.2.warnings =
          (tableCautions session.registry other definition).map Warning.message := by
        rw [hreport, warnings_mapStatement_createTable hother hnew hresource,
          warnings_tableResource hresource]
      have hresources : handled.1.registry.resources = session.registry.resources ++
          [(session.registry.nextTableId, .table resource)] :=
        congrArg Registry.resources (session.registry_after_of_ok hok)
      exact ⟨fun hknown ↦ absurd hknown (by simp [hnew]),
        fun _ ↦ ⟨congrArg (session.warnings ++ ·) hwarnings, _, resource, hresources,
          isSome_of_outcome_billingModeOf (renders_of_outcome hresource).billing_asked⟩⟩

/-- The options of a capacity mode, not in the order in which they are looked up. -/
def meterCapacity : Options :=
  ⟨[("write_capacity_units", "5"), ("throughput_mode", "PROVISIONED"),
    ("read_capacity_units", "+10")]⟩

/-- Operations that define a table with nested types, properties and this capacity mode. -/
def meterEdits : List TableDefinition.Edit :=
  [.addColumn ⟨"meter"⟩ (.simple "uuid"),
    .addColumn ⟨"readings"⟩
      (.composite "list" [.composite "frozen" [.composite "map" [.simple "int", .simple "time"]]]),
    .beginPrimaryKey, .addPartitionColumn ⟨"meter"⟩,
    .addProperty ⟨"gc_grace_seconds"⟩ (.text "10"), .requestCompactStorage,
    .addProperty ⟨"compaction"⟩ (.options ⟨[("class", "LeveledCompactionStrategy")]⟩),
    .defineCustom ⟨[("capacity_mode", meterCapacity)]⟩]

/-- The creation of this table in the keyspace in use. -/
def meterTable : TableCreation :=
  ⟨none, ⟨"meters"⟩, false, TableDefinition.empty.attemptAll meterEdits⟩

/-- Behind the selection of a keyspace that was not created, the table is created with warnings
about the keyspace, its two properties and compact storage. -/
theorem table_creation_outcome_meterTable :
    let session := (new .lenient).handleAll [.use ⟨"plant"⟩]
    let handled := session.handle (.createTable meterTable)
    (Statement.createTable meterTable).Obtainable ∧ meterTable.definition.Mappable ∧
      handled.1.warnings =
        ["Attempted to create table in keyspace 'plant' before creating it first",
          "Property 'gc_grace_seconds' is not applicable to Keyspaces",
          "Property 'compaction' is not applicable to Keyspaces",
          "COMPACT STORAGE is not applicable to Keyspaces"] ∧
      ∃ id table, handled.1.registry.resources = [(id, .table table)] ∧
        table.billingMode.isSome = true := by
  have hobtainable : (Statement.createTable meterTable).Obtainable := by
    refine .inr ?_
    rintro creation ⟨⟩
    exact ⟨meterEdits, rfl⟩
  have hmappable : meterTable.definition.Mappable := {
    types_builtIn := List.forall_mem_cons.2 ⟨trivial, List.forall_mem_cons.2
      ⟨⟨⟨⟨trivial, trivial, trivial⟩, trivial⟩, trivial⟩, nofun⟩⟩
    static_none := rfl
    properties_passed := by decide
    custom_capacity := by
      have hentries : meterCapacity.toList.Perm [("throughput_mode", "PROVISIONED"),
          ("read_capacity_units", "+10"), ("write_capacity_units", "5")] := by decide
      rintro custom ⟨⟩ property hmem
      obtain rfl := List.mem_singleton.1 hmem
      exact ⟨rfl, .provisioned 10 5, .provisioned hentries (by decide) (by decide)⟩ }
  obtain ⟨haccepted, hcreated⟩ := table_creation_outcome [.use ⟨"plant"⟩] hobtainable
  obtain ⟨next, hok⟩ := haccepted.2 ⟨⟨"plant"⟩, rfl, .inr ⟨rfl, hmappable⟩⟩
  obtain ⟨hwarnings, id, table, hresources, hbilling⟩ := (hcreated ⟨"plant"⟩ next rfl hok).2 rfl
  exact ⟨hobtainable, hmappable, hwarnings, id, table, hresources,
    hbilling.2 ⟨_, rfl, List.mem_cons_self⟩⟩

end Session

end SchemaTemplate
