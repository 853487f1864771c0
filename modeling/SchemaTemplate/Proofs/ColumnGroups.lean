import SchemaTemplate.Proofs.OrderedMaps
import SchemaTemplate.Proofs.TableBuilding
import SchemaTemplate.Proofs.TableMapping
import SchemaTemplate.Proofs.Transition

/-!
Where the columns of a table go. The mapping takes the key columns out of the declared ones, key by
key, and what it leaves are the other columns. In a consistent definition the names of the columns
are distinct and the keys name declared columns without repetition, so taking out an entry is
filtering, and `Session.columns_placed_once` says that the three groups of a resource list every
declared column once, in the order of its group and with the value of its own type.
-/

set_option autoImplicit false
set_option relaxedAutoImplicit false

namespace SchemaTemplate

/-! ### Columns in their groups -/

/-- The names of the columns outside the primary key, in the order of their declaration. -/
def TableDefinition.otherNames (definition : TableDefinition) : List Identifier :=
  definition.columns.keys.filter (· ∉ definition.primaryKey)

namespace TableDefinition.Consistent

variable {definition : TableDefinition}

/-- The primary key and the other columns are the declared columns, each of them once. -/
theorem primaryKey_append_otherNames_perm (hconsistent : definition.Consistent) :
    (definition.primaryKey ++ definition.otherNames).Perm definition.columns.keys := by
  have hothers : definition.otherNames.Nodup := hconsistent.columns_distinct.filter _
  have hapart : definition.primaryKey.Disjoint definition.otherNames := by
    intro name hkey hother
    simpa [hkey] using (List.mem_filter.1 hother).2
  rw [List.perm_ext_iff_of_nodup (hconsistent.primaryKey_distinct.append hothers hapart)
    hconsistent.columns_distinct]
  intro name
  rw [List.mem_append, otherNames, List.mem_filter, decide_eq_true_iff]
  constructor
  · rintro (hkey | ⟨hdeclared, -⟩)
    · exact hconsistent.primaryKey_declared name hkey
    · exact hdeclared
  · intro hdeclared
    by_cases hkey : name ∈ definition.primaryKey
    · exact .inl hkey
    · exact .inr ⟨hdeclared, hkey⟩

/-- The direction of a column is the one that was given for it. -/
theorem direction?_eq_some_iff (hconsistent : definition.Consistent) (name : Identifier)
    (direction : Direction) : definition.direction? name = some direction ↔
      (name, direction) ∈ definition.clusteringOrders := by
  have hkey : definition.clusteringKey.Nodup :=
    (List.nodup_append.1 hconsistent.primaryKey_distinct).2.1
  exact lookup_eq_some_iff_mem (hkey.sublist hconsistent.orders_in_key_order.sublist)

end TableDefinition.Consistent

namespace Mapping

/-- Whether a column of a resource is the declared column of a name, with the value of the type that
was declared for it. -/
def Places (keyspace : Identifier) (definition : TableDefinition) (name : Identifier)
    (column : Column) : Prop :=
  ∃ type, definition.columns.get? name = some type ∧ Maps keyspace (name, type) column

/-- Whether the groups of a resource hold the columns of a definition as they should. -/
structure Grouped (keyspace : Identifier) (definition : TableDefinition) (table : TableResource) :
    Prop where
  partition_placed : List.Forall₂ (Places keyspace definition) definition.partitionKey
    table.partitionKey
  clustering_placed : List.Forall₂ (fun name clustering ↦
      Places keyspace definition name clustering.column ∧
        clustering.order = (definition.direction? name).map Direction.text)
    definition.clusteringKey table.clusteringKey
  others_placed : List.Forall₂ (Places keyspace definition) definition.otherNames
    table.regularColumns

variable {keyspace : Identifier} {definition : TableDefinition}

/-- Assumes: declared columns, related one by one to columns of a resource. So are their names. -/
theorem forall₂_names {Item : Type} {Related : Identifier × ColumnType → Item → Prop}
    {Named : Identifier → Item → Prop} {declared : List (Identifier × ColumnType)}
    {items : List Item} (hrelated : List.Forall₂ Related declared items)
    (hnamed : ∀ entry ∈ declared, ∀ item, Related entry item → Named entry.1 item) :
    List.Forall₂ Named (declared.map Prod.fst) items := by
  induction hrelated with
  | nil => exact .nil
  | cons hfirst _ ih =>
    exact .cons (hnamed _ List.mem_cons_self _ hfirst)
      (ih fun entry hmem ↦ hnamed entry (List.mem_cons_of_mem _ hmem))

/-- Assumes: the columns of a primary key without repetitions. Their types are the declared ones. -/
theorem Placement.get?_eq_some {partition clustering : List (Identifier × ColumnType)}
    (hplaced : Placement definition partition clustering)
    (hdistinct : definition.primaryKey.Nodup) {entry : Identifier × ColumnType}
    (hmem : entry ∈ partition ++ clustering) :
    definition.columns.get? entry.1 = some entry.2 := by
  have hnames : (partition ++ clustering).map Prod.fst = definition.primaryKey := by
    rw [List.map_append, hplaced.partition_names, hplaced.clustering_names,
      TableDefinition.primaryKey]
  rw [← hplaced.declared_type entry.1 (hnames ▸ List.mem_map_of_mem hmem)]
  exact lookup_of_mem (hnames ▸ hdistinct) hmem

/-- Assumes: a consistent definition. The resource that renders it holds its columns in groups. -/
theorem Renders.grouped {registry : Registry} {creation : TableCreation} {table : TableResource}
    (hrenders : Renders registry keyspace creation table)
    (hconsistent : creation.definition.Consistent) :
    Grouped keyspace creation.definition table := by
  obtain ⟨partition, clustering, hplaced, hpartition, hclustering⟩ := hrenders.key_placed
  have htype : ∀ entry ∈ partition ++ clustering,
      creation.definition.columns.get? entry.1 = some entry.2 :=
    fun _ hmem ↦ hplaced.get?_eq_some hconsistent.primaryKey_distinct hmem
  have hdistinct := hconsistent.columns_distinct
  refine ⟨?_, ?_, ?_⟩
  · rw [← hplaced.partition_names]
    refine forall₂_names hpartition fun entry hmem column hmaps ↦ ?_
    exact ⟨entry.2, htype entry (List.mem_append_left _ hmem), hmaps⟩
  · rw [← hplaced.clustering_names]
    refine forall₂_names hclustering fun entry hmem column hmaps ↦ ?_
    exact ⟨⟨entry.2, htype entry (List.mem_append_right _ hmem), hmaps.column_maps⟩, hmaps.order_eq⟩
  · have hothers := hrenders.others_placed
    rw [OrderedMap.entries_foldl_erase hdistinct] at hothers
    have hnames : creation.definition.otherNames = (creation.definition.columns.entries.filter
        fun entry ↦ entry.1 ∉ creation.definition.primaryKey).map Prod.fst := by
      rw [TableDefinition.otherNames, OrderedMap.keys, List.filter_map]
      rfl
    rw [hnames]
    refine forall₂_names hothers fun entry hmem column hmaps ↦ ⟨entry.2, ?_, hmaps⟩
    rw [OrderedMap.get?_eq_lookup]
    exact lookup_of_mem hdistinct (List.mem_filter.1 hmem).1

end Mapping

/-- The names of the columns of a table, group by group. -/
def TableResource.columnNames (table : TableResource) : List String :=
  table.partitionKey.map Column.name ++
    table.clusteringKey.map (fun clustering ↦ clustering.column.name) ++
    table.regularColumns.map Column.name

/-- Assumes: names related one by one to items. The names of the items are the same. -/
theorem map_eq_of_forall₂ {Item : Type} {Named : Identifier → Item → Prop} {name : Item → String}
    {names : List Identifier} {items : List Item} (hrelated : List.Forall₂ Named names items)
    (hnamed : ∀ identifier item, Named identifier item → name item = identifier.text) :
    items.map name = names.map Identifier.text := by
  induction hrelated with
  | nil => rfl
  | cons hfirst _ ih => rw [List.map_cons, List.map_cons, hnamed _ _ hfirst, ih]

/-- Assumes: groups that hold the columns of a definition. They name its columns, key by key. -/
theorem Mapping.Grouped.columnNames_eq {keyspace : Identifier} {definition : TableDefinition}
    {table : TableResource} (hgrouped : Grouped keyspace definition table) :
    table.columnNames =
      (definition.primaryKey ++ definition.otherNames).map Identifier.text := by
  have hplaces : ∀ name column, Places keyspace definition name column →
      column.name = name.text := fun name column ⟨_, _, hmaps⟩ ↦ hmaps.name_eq
  rw [TableResource.columnNames, map_eq_of_forall₂ hgrouped.partition_placed hplaces,
    map_eq_of_forall₂ hgrouped.clustering_placed fun name clustering hplaced ↦
      hplaces name clustering.column hplaced.1,
    map_eq_of_forall₂ hgrouped.others_placed hplaces, TableDefinition.primaryKey, List.map_append,
    List.map_append]

namespace Session

/-- Every declared column is placed once. Whatever was handled before, if the creation of a table
whose definition was built by its operations adds a resource, then this lists the columns of the
partition key and of the clustering key in the order of the keys and all others in the order of
their declaration, each with the value of the type that was declared for it, and clustering columns
with the directions that were given for them and no others. The three groups together are the
declared columns without repetition. -/
theorem columns_placed_once (session : Session) {creation : TableCreation}
    (hbuilt : creation.definition.Built) {id : String} {table : TableResource}
    (hadded : (session.handle (.createTable creation)).1.registry.resources =
      session.registry.resources ++ [(id, .table table)]) :
    let definition := creation.definition
    ∃ keyspace, creation.keyspace.or session.registry.usedKeyspace = some keyspace ∧
      Mapping.Grouped keyspace definition table ∧
      (∀ name direction, definition.direction? name = some direction ↔
        (name, direction) ∈ definition.clusteringOrders) ∧
      table.columnNames.Perm (definition.columns.keys.map Identifier.text) ∧
      table.columnNames.Nodup := by
  intro definition
  have hconsistent : definition.Consistent := hbuilt.consistent
  rcases session.registry_handle (.createTable creation) with
    ⟨next, -, hnext, htransition⟩ | ⟨failure, -, hsame⟩
  · rw [hnext] at hadded
    cases htransition with
    | tableSkipped => simp at hadded
    | tableCreated _ keyspace resource heffective _ hresource _ =>
      rw [Registry.resources_withTable] at hadded
      obtain ⟨-, rfl⟩ : _ ∧ resource = table := by simpa using hadded
      have hgrouped := (Mapping.renders_of_outcome hresource).grouped hconsistent
      have hperm : resource.columnNames.Perm (definition.columns.keys.map Identifier.text) := by
        rw [hgrouped.columnNames_eq]
        exact hconsistent.primaryKey_append_otherNames_perm.map _
      have htext : Function.Injective Identifier.text := fun ⟨_⟩ ⟨_⟩ hsame ↦
        congrArg Identifier.mk hsame
      exact ⟨keyspace, heffective, hgrouped, hconsistent.direction?_eq_some_iff, hperm,
        hperm.nodup_iff.2 (hconsistent.columns_distinct.map htext)⟩
  · rw [hsame] at hadded
    simp at hadded

/-- Operations that declare the columns of a table in another order than that of its keys, and of
which the last one fails. -/
def readingEdits : List TableDefinition.Edit :=
  [.addColumn ⟨"note"⟩ (.composite "list" [.simple "text"]), .addColumn ⟨"step"⟩ (.simple "int"),
    .addColumn ⟨"at"⟩ (.simple "timestamp"), .addColumn ⟨"value"⟩ (.simple "double"),
    .addColumn ⟨"device"⟩ (.simple "uuid"), .beginPrimaryKey, .addPartitionColumn ⟨"device"⟩,
    .addClusteringColumn ⟨"at"⟩, .addClusteringColumn ⟨"step"⟩, .beginClusteringOrder,
    .addClusteringOrder ⟨"at"⟩ .descending, .addPartitionColumn ⟨"at"⟩]

/-- The creation of a table with the columns of readings. -/
def readingTable : TableCreation where
  keyspace := some ⟨"plant"⟩
  table := ⟨"readings"⟩
  ifNotExists := false
  definition := { TableDefinition.empty with
    columns := ⟨[(⟨"note"⟩, .composite "list" [.simple "text"]), (⟨"step"⟩, .simple "int"),
      (⟨"at"⟩, .simple "timestamp"), (⟨"value"⟩, .simple "double"), (⟨"device"⟩, .simple "uuid")]⟩
    partitionKey := [⟨"device"⟩]
    clusteringKey := [⟨"at"⟩, ⟨"step"⟩]
    clusteringOrders := [(⟨"at"⟩, .descending)]
    primaryKeyGiven := true
    clusteringOrderGiven := true }

/-- The resource of a table with the columns of readings. -/
def readingResource : TableResource where
  keyspaceName := .literal "plant"
  tableName := "readings"
  partitionKey := [⟨"device", .literal "uuid"⟩]
  clusteringKey := [⟨⟨"at", .literal "timestamp"⟩, some "DESC"⟩, ⟨⟨"step", .literal "int"⟩, none⟩]
  regularColumns :=
    [⟨"note", Mapping.compositeExpr "list" [.literal "text"]⟩, ⟨"value", .literal "double"⟩]
  billingMode := none

/-- The columns of readings are placed once. -/
theorem columns_placed_once_readings :
    ((new .lenient).handle (.createTable readingTable)).1.registry.resources =
        [("Table1", .table readingResource)] ∧
      (∃ keyspace, Mapping.Grouped keyspace readingTable.definition readingResource) ∧
      readingResource.columnNames.Perm ["note", "step", "at", "value", "device"] := by
  have hadded : ((new .lenient).handle (.createTable readingTable)).1.registry.resources =
      (new .lenient).registry.resources ++ [("Table1", .table readingResource)] := by rfl
  obtain ⟨keyspace, -, hgrouped, -, hperm, -⟩ :=
    columns_placed_once (new .lenient) ⟨readingEdits, rfl⟩ hadded
  exact ⟨hadded, ⟨keyspace, hgrouped⟩, hperm⟩

end Session

end SchemaTemplate
