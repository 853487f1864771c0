import SchemaTemplate.Mapping.Table
import SchemaTemplate.Proofs.Reports

/-!
What the resource of a table says when there is one. Every column of it comes from a declared column
under the same name with the value of its type (`Mapping.Maps`), so the groups of columns are told
by relating lists item by item; `Mapping.renders_of_outcome` puts the parts together. Values of
types are opened here once and for all: a type that has a value is a built-in one or composed of
such.
-/

set_option autoImplicit false
set_option relaxedAutoImplicit false

namespace SchemaTemplate.Mapping

open Report

/-! ### Types -/

@[simp] theorem outcome_typeExpr_simple (keyspace : Identifier) (name : String) :
    (typeExpr keyspace (.simple name)).outcome = .ok (.literal name) := by
  simp [typeExpr]

/-- A composite type has a value exactly if its elements have. -/
theorem outcome_typeExpr_composite_eq_ok_iff (keyspace : Identifier) (kind : String)
    (elements : List ColumnType) (value : Expr) :
    (typeExpr keyspace (.composite kind elements)).outcome = .ok value ↔
      ∃ values, (typeExprs keyspace elements).outcome = .ok values ∧
        value = compositeExpr kind values := by
  rw [typeExpr, map_eq_pure_bind, outcome_bind_eq_ok_iff]
  simp only [outcome_pure, Except.ok.injEq, @eq_comm _ value]

/-- A type of the schema's own has no value. -/
theorem outcome_typeExpr_user_ne_ok (keyspace : Identifier) (typeKeyspace : Option Identifier)
    (name : Identifier) (value : Expr) :
    (typeExpr keyspace (.user typeKeyspace name)).outcome ≠ .ok value := by
  rw [typeExpr, refuseUserType]
  split
  · rintro ⟨⟩
  · rw [outcome_bind_of_ok (outcome_log _ _)]
    rintro ⟨⟩

/-- A type given by a class has no value. -/
theorem outcome_typeExpr_custom_ne_ok (keyspace : Identifier) (className : String)
    (value : Expr) : (typeExpr keyspace (.custom className)).outcome ≠ .ok value := by
  rw [typeExpr]
  rintro ⟨⟩

@[simp] theorem outcome_typeExprs_nil (keyspace : Identifier) :
    (typeExprs keyspace []).outcome = .ok [] := by
  simp [typeExprs]

/-- Several types have values exactly if each of them has. -/
theorem outcome_typeExprs_cons_eq_ok_iff (keyspace : Identifier) (first : ColumnType)
    (rest : List ColumnType) (values : List Expr) :
    (typeExprs keyspace (first :: rest)).outcome = .ok values ↔
      ∃ value more, (typeExpr keyspace first).outcome = .ok value ∧
        (typeExprs keyspace rest).outcome = .ok more ∧ values = value :: more := by
  rw [typeExprs]
  simp only [outcome_bind_eq_ok_iff, outcome_pure, Except.ok.injEq]
  constructor
  · rintro ⟨value, hvalue, more, hmore, rfl⟩
    exact ⟨value, more, hvalue, hmore, rfl⟩
  · rintro ⟨value, more, hvalue, hmore, rfl⟩
    exact ⟨value, hvalue, more, hmore, rfl⟩

/-! ### Columns -/

/-- Whether a declared column becomes a column of a resource, in a table of the given keyspace. -/
structure Maps (keyspace : Identifier) (declared : Identifier × ColumnType) (column : Column) :
    Prop where
  name_eq : column.name = declared.1.text
  type_value : (typeExpr keyspace declared.2).outcome = .ok column.type

theorem outcome_mapColumn_eq_ok_iff (keyspace : Identifier) (declared : Identifier × ColumnType)
    (column : Column) :
    (mapColumn keyspace declared).outcome = .ok column ↔ Maps keyspace declared column := by
  simp only [mapColumn, outcome_bind_eq_ok_iff, outcome_pure, Except.ok.injEq]
  constructor
  · rintro ⟨type, htype, rfl⟩
    exact ⟨rfl, htype⟩
  · rintro ⟨hname, htype⟩
    exact ⟨column.type, htype, by rw [← hname]⟩

/-- Columns are mapped together exactly if they are mapped one by one. -/
theorem outcome_mapM_mapColumn_eq_ok_iff (keyspace : Identifier)
    (declared : List (Identifier × ColumnType)) (columns : List Column) :
    (declared.mapM (mapColumn keyspace)).outcome = .ok columns ↔
      List.Forall₂ (Maps keyspace) declared columns := by
  rw [outcome_mapM_eq_ok_iff]
  simp only [outcome_mapColumn_eq_ok_iff]

/-- Assumes: columns of a key that could be mapped. Each of them was declared with its type, and
what is left is what was there without them. -/
theorem mapKey_cases {keyspace : Identifier} {names : List Identifier} {unplaced left : Unplaced}
    {columns : List Column}
    (hok : (mapKey keyspace names unplaced).outcome = .ok (columns, left)) :
    ∃ placed : List (Identifier × ColumnType), placed.map Prod.fst = names ∧
      (∀ name ∈ names, placed.lookup name = unplaced.get? name) ∧
      List.Forall₂ (Maps keyspace) placed columns ∧
      left = names.foldl OrderedMap.erase unplaced := by
  induction names generalizing unplaced columns with
  | nil =>
    simp only [mapKey, outcome_pure, Except.ok.injEq, Prod.mk.injEq] at hok
    obtain ⟨rfl, rfl⟩ := hok
    exact ⟨[], rfl, by simp, .nil, rfl⟩
  | cons name names ih =>
    unfold mapKey at hok
    split at hok
    next => cases hok
    next type htype =>
      rw [outcome_bind_eq_ok_iff] at hok
      obtain ⟨column, hcolumn, hok⟩ := hok
      rw [outcome_bind_eq_ok_iff] at hok
      obtain ⟨⟨more, rest⟩, hmore, hok⟩ := hok
      simp only [outcome_pure, Except.ok.injEq, Prod.mk.injEq] at hok
      obtain ⟨rfl, rfl⟩ := hok
      obtain ⟨placed, hnames, hdeclared, hmaps, hleft⟩ := ih hmore
      refine ⟨(name, type) :: placed, by simp [hnames], ?_, ?_, hleft⟩
      · intro other hmem
        by_cases hsame : other = name
        · rw [hsame, htype, List.lookup_cons_self]
        · have hdifferent : (other == name) = false := by simpa using hsame
          have hlater : other ∈ names := (List.mem_cons.1 hmem).resolve_left hsame
          rw [List.lookup_cons, hdifferent, hdeclared other hlater,
            OrderedMap.get?_erase_of_ne _ hsame]
      · exact .cons ((outcome_mapColumn_eq_ok_iff _ _ _).1 hcolumn) hmaps

/-- Taking out some entries does not change what is found under other keys. -/
theorem get?_foldl_erase_of_notMem {Key Value : Type} [DecidableEq Key] {keys : List Key}
    {key : Key} (hother : key ∉ keys) (map : OrderedMap Key Value) :
    (keys.foldl OrderedMap.erase map).get? key = map.get? key := by
  induction keys generalizing map with
  | nil => rfl
  | cons first keys ih =>
    rw [List.mem_cons, not_or] at hother
    rw [List.foldl_cons, ih hother.2, OrderedMap.get?_erase_of_ne _ hother.1]

/-! ### Tables -/

/-- The value that names the keyspace of a table, which strictness does not change. -/
def keyspaceValue (registry : Registry) (keyspace : Identifier) : Expr :=
  match registry.keyspaceId? keyspace with
  | some logicalId => .reference logicalId
  | none => .literal keyspace.text

/-- Assumes: a value that names the keyspace of a table. It is a reference exactly if the keyspace
was created. -/
theorem keyspaceExpr_cases {strictness : Strictness} {registry : Registry} {keyspace : Identifier}
    {value : Expr} (hok : (keyspaceExpr strictness registry keyspace).outcome = .ok value) :
    value = keyspaceValue registry keyspace := by
  rw [keyspaceValue]
  cases hid : registry.keyspaceId? keyspace with
  | some logicalId =>
    simp only [keyspaceExpr, hid] at hok
    exact (Except.ok.inj hok).symm
  | none =>
    simp only [keyspaceExpr, hid, outcome_bind_eq_ok_iff] at hok
    obtain ⟨_, _, hvalue⟩ := hok
    exact (Except.ok.inj hvalue).symm

/-- Whether a declared column becomes a clustering column of a resource, with the direction that
was given for it. -/
structure MapsClustering (definition : TableDefinition) (keyspace : Identifier)
    (declared : Identifier × ColumnType) (clustering : ClusteringColumn) : Prop where
  column_maps : Maps keyspace declared clustering.column
  order_eq : clustering.order = (definition.direction? declared.1).map Direction.text

/-- Assumes: columns mapped one by one. With the directions of their names they are clustering
columns. -/
theorem mapsClustering_zipWith (definition : TableDefinition) {keyspace : Identifier}
    {placed : List (Identifier × ColumnType)} {columns : List Column}
    (hmaps : List.Forall₂ (Maps keyspace) placed columns) :
    List.Forall₂ (MapsClustering definition keyspace) placed
      ((placed.map Prod.fst).zipWith (clusteringColumn definition) columns) := by
  induction hmaps with
  | nil => exact .nil
  | cons hfirst _ ih => exact .cons ⟨hfirst, rfl⟩ ih

/-- Whether the columns of the primary key of a definition, with their types, are those of two
groups. -/
structure Placement (definition : TableDefinition)
    (partition clustering : List (Identifier × ColumnType)) : Prop where
  partition_names : partition.map Prod.fst = definition.partitionKey
  clustering_names : clustering.map Prod.fst = definition.clusteringKey
  declared_type : ∀ name ∈ definition.primaryKey,
    (partition ++ clustering).lookup name = definition.columns.get? name

/-- Whether a resource says of a table what its creation says, part by part. -/
structure Renders (registry : Registry) (keyspace : Identifier) (creation : TableCreation)
    (table : TableResource) : Prop where
  keyspaceName_eq : table.keyspaceName = keyspaceValue registry keyspace
  tableName_eq : table.tableName = creation.table.text
  key_placed : ∃ partition clustering, Placement creation.definition partition clustering ∧
    List.Forall₂ (Maps keyspace) partition table.partitionKey ∧
    List.Forall₂ (MapsClustering creation.definition keyspace) clustering table.clusteringKey
  others_placed : List.Forall₂ (Maps keyspace)
    (creation.definition.primaryKey.foldl OrderedMap.erase creation.definition.columns).entries
    table.regularColumns
  billing_asked : (billingModeOf creation.definition.settings).outcome = .ok table.billingMode

/-- Assumes: two keys that could be mapped, one after the other. Their columns are placed. -/
theorem placement_of_mapKey {definition : TableDefinition}
    {partition clustering : List (Identifier × ColumnType)}
    (hpartition : partition.map Prod.fst = definition.partitionKey)
    (hclustering : clustering.map Prod.fst = definition.clusteringKey)
    (hfirst : ∀ name ∈ definition.partitionKey,
      partition.lookup name = definition.columns.get? name)
    (hsecond : ∀ name ∈ definition.clusteringKey, clustering.lookup name =
      (definition.partitionKey.foldl OrderedMap.erase definition.columns).get? name) :
    Placement definition partition clustering where
  partition_names := hpartition
  clustering_names := hclustering
  declared_type name hname := by
    rw [List.lookup_append]
    rw [← hpartition] at hfirst hsecond
    by_cases hpart : name ∈ partition.map Prod.fst
    · obtain ⟨entry, hentry, rfl⟩ := List.mem_map.1 hpart
      have hsome : (partition.lookup entry.1).isSome = true := by
        rw [List.lookup_isSome_iff]
        exact ⟨entry, hentry, beq_self_eq_true _⟩
      rw [Option.or_of_isSome hsome, hfirst entry.1 hpart]
    · have hnone : partition.lookup name = none := by
        rw [List.lookup_eq_none_iff]
        intro entry hentry
        have hdifferent : name ≠ entry.1 := by
          rintro rfl
          exact hpart (List.mem_map_of_mem hentry)
        simpa using hdifferent
      have hclusters := (List.mem_append.1 hname).resolve_left (hpartition ▸ hpart)
      rw [hnone, Option.none_or, hsecond name hclusters, get?_foldl_erase_of_notMem hpart]

/-- Assumes: a table that has a resource. The resource says what the creation says. -/
theorem renders_of_outcome {strictness : Strictness} {registry : Registry} {keyspace : Identifier}
    {creation : TableCreation} {table : TableResource}
    (hok : (tableResource strictness registry keyspace creation).outcome = .ok table) :
    Renders registry keyspace creation table := by
  unfold tableResource at hok
  simp only [mapColumns, outcome_bind_eq_ok_iff] at hok
  obtain ⟨keyspaceName, hkeyspace, _, hcolumns, _, _, billingMode, hbilling, _, _, htable⟩ := hok
  obtain ⟨⟨partitionKey, rest⟩, hpartition, hcolumns⟩ := hcolumns
  obtain ⟨⟨clusteringKey, left⟩, hclustering, _, _, regularColumns, hothers, hcolumns⟩ := hcolumns
  cases hcolumns
  cases htable
  obtain ⟨partition, hnames, hdeclared, hmaps, rfl⟩ := mapKey_cases hpartition
  obtain ⟨clustering, hordered, hleft, hmapsOrdered, rfl⟩ := mapKey_cases hclustering
  refine ⟨keyspaceExpr_cases hkeyspace, rfl, ⟨partition, clustering,
    placement_of_mapKey hnames hordered hdeclared hleft, hmaps, ?_⟩, ?_, hbilling⟩
  · have hclusters := mapsClustering_zipWith creation.definition hmapsOrdered
    rwa [hordered] at hclusters
  · rw [TableDefinition.primaryKey, List.foldl_append]
    exact (outcome_mapM_mapColumn_eq_ok_iff _ _ _).1 hothers

end SchemaTemplate.Mapping
