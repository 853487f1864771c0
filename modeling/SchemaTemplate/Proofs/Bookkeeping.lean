import SchemaTemplate.Proofs.ColumnGroups
import SchemaTemplate.Proofs.LogicalIds

/-!
The registry keeps the books of the template. Keyspaces and tables are entered under the ids of
their resources, in the order of the template, and the ids of each kind are numbered without a gap
(`Registry.Booked`). A transition that adds a resource adds its entry along with it, and resources
that follow do not change what the earlier ones say, so the books are in order after any statements.
What they are kept for is read off in `Registry.Accurate`: an id is found under a name exactly if
the resource under the id goes by the name.
-/

set_option autoImplicit false
set_option relaxedAutoImplicit false

namespace SchemaTemplate

theorem Identifier.text_injective : Function.Injective Identifier.text :=
  fun ⟨_⟩ ⟨_⟩ hsame ↦ congrArg Identifier.mk hsame

/-- One more entry under a new key keeps the keys distinct. -/
theorem nodup_keys_append {Key Value : Type} [BEq Key] [LawfulBEq Key]
    {entries : List (Key × Value)} (hdistinct : (entries.map Prod.fst).Nodup) {key : Key}
    (hnew : entries.lookup key = none) (value : Value) :
    ((entries ++ [(key, value)]).map Prod.fst).Nodup := by
  rw [List.map_append]
  refine nodup_append_singleton hdistinct fun hmem ↦ ?_
  obtain ⟨entry, hentry, rfl⟩ := List.mem_map.1 hmem
  rw [lookup_of_mem hdistinct hentry] at hnew
  cases hnew

/-- Ids that are numbered without a gap stay so with an entry under the next number. -/
theorem numbered_append {Key : Type} {idOf : Nat → String} {entries : List (Key × String)}
    (hnumbered : entries.map Prod.snd =
      (List.range entries.length).map fun number ↦ idOf (number + 1)) (key : Key) :
    (entries ++ [(key, idOf (entries.length + 1))]).map Prod.snd =
      (List.range (entries ++ [(key, idOf (entries.length + 1))]).length).map
        fun number ↦ idOf (number + 1) := by
  rw [List.map_append, hnumbered, List.length_append, List.length_singleton, List.range_succ,
    List.map_append, List.map_singleton, List.map_singleton]

/-! ### What a template says of its resources -/

/-- The name of the keyspace that a resource is. -/
def Resource.keyspace? : Resource → Option String
  | keyspace name => some name
  | table _ => none

/-- The table that a resource is. -/
def Resource.table? : Resource → Option TableResource
  | keyspace _ => none
  | table definition => some definition

namespace Template

/-- The ids of the keyspaces with their names, in the order of the template. -/
def keyspaces (template : Template) : List (String × String) :=
  template.resources.toList.filterMap fun entry ↦ entry.2.keyspace?.map (entry.1, ·)

/-- The tables under their ids, in the order of the template. -/
def tables (template : Template) : List (String × TableResource) :=
  template.resources.toList.filterMap fun entry ↦ entry.2.table?.map (entry.1, ·)

/-- The name of the keyspace that a value stands for: a literal is the name, and a reference stands
for the keyspace under its id. -/
def keyspaceNamed? (template : Template) : Expr → Option String
  | .literal name => some name
  | .reference logicalId => (template.resource? logicalId).bind Resource.keyspace?
  | _ => none

/-- The names by which a table is told from others: that of its keyspace and its own. -/
def tableNames (template : Template) (table : TableResource) : Option String × String :=
  (template.keyspaceNamed? table.keyspaceName, table.tableName)

/-- The template with one more resource. -/
def append (template : Template) (entry : String × Resource) : Template :=
  ⟨⟨template.resources.toList ++ [entry]⟩⟩

variable (template : Template)

@[simp] theorem keyspaces_append_keyspace (id name : String) :
    (template.append (id, .keyspace name)).keyspaces = template.keyspaces ++ [(id, name)] := by
  simp [append, keyspaces, OrderedMap.toList, Resource.keyspace?]

@[simp] theorem keyspaces_append_table (id : String) (table : TableResource) :
    (template.append (id, .table table)).keyspaces = template.keyspaces := by
  simp [append, keyspaces, OrderedMap.toList, Resource.keyspace?]

@[simp] theorem tables_append_keyspace (id name : String) :
    (template.append (id, .keyspace name)).tables = template.tables := by
  simp [append, tables, OrderedMap.toList, Resource.table?]

@[simp] theorem tables_append_table (id : String) (table : TableResource) :
    (template.append (id, .table table)).tables = template.tables ++ [(id, table)] := by
  simp [append, tables, OrderedMap.toList, Resource.table?]

variable {template}

/-- Every resource is a keyspace or a table. -/
theorem length_keyspaces_add_length_tables :
    template.keyspaces.length + template.tables.length = template.resources.toList.length := by
  obtain ⟨⟨entries⟩⟩ := template
  simp only [keyspaces, tables, OrderedMap.toList]
  induction entries with
  | nil => rfl
  | cons entry entries ih =>
    obtain ⟨id, name | table⟩ := entry <;>
      simp [Resource.keyspace?, Resource.table?] at ih ⊢ <;> omega

theorem mem_keyspaces_iff {id name : String} :
    (id, name) ∈ template.keyspaces ↔ (id, .keyspace name) ∈ template.resources.toList := by
  simp only [keyspaces, List.mem_filterMap]
  constructor
  · rintro ⟨⟨_, _ | _⟩, hmem, hentry⟩ <;> cases hentry
    exact hmem
  · exact fun hmem ↦ ⟨_, hmem, rfl⟩

theorem mem_tables_iff {id : String} {table : TableResource} :
    (id, table) ∈ template.tables ↔ (id, .table table) ∈ template.resources.toList := by
  simp only [tables, List.mem_filterMap]
  constructor
  · rintro ⟨⟨_, _ | _⟩, hmem, hentry⟩ <;> cases hentry
    exact hmem
  · exact fun hmem ↦ ⟨_, hmem, rfl⟩

/-- Under distinct ids the resource under an id is the one that the template lists. -/
theorem resource?_eq_some_iff (hdistinct : template.resources.Distinct) {id : String}
    {resource : Resource} :
    template.resource? id = some resource ↔ (id, resource) ∈ template.resources.toList := by
  rw [resource?, OrderedMap.get?_eq_lookup]
  exact lookup_eq_some_iff_mem hdistinct

/-- A value that stands for a keyspace stands for it with one more resource, too. -/
theorem keyspaceNamed?_append {value : Expr} {name : String}
    (hnamed : template.keyspaceNamed? value = some name) (entry : String × Resource) :
    (template.append entry).keyspaceNamed? value = some name := by
  cases value with
  | literal => exact hnamed
  | reference logicalId =>
    obtain ⟨resource, hresource, hname⟩ := Option.bind_eq_some_iff.1 hnamed
    have hfound : (template.append entry).resource? logicalId = some resource := by
      rw [resource?, OrderedMap.get?_eq_lookup] at hresource ⊢
      rw [append, OrderedMap.toList, List.lookup_append, hresource, Option.some_or]
    simp only [keyspaceNamed?, hfound, Option.bind_some, hname]
  | join | select | split | substitute => cases hnamed

end Template

/-! ### Books in order -/

namespace Registry

/-- Whether the entries of the registry are those of the resources, in their order and under
numbered ids. -/
structure Booked (registry : Registry) : Prop where
  ids_distinct : registry.template.resources.Distinct
  keyspaces_eq : registry.template.keyspaces =
    registry.keyspaces.map fun entry ↦ (entry.2, entry.1.text)
  tables_eq : registry.template.tables.map (fun entry ↦ (entry.1,
      registry.template.tableNames entry.2)) =
    registry.tables.map fun entry ↦ (entry.2, some entry.1.1.text, entry.1.2.text)
  keyspaces_distinct : (registry.keyspaces.map Prod.fst).Nodup
  tables_distinct : (registry.tables.map Prod.fst).Nodup
  keyspaces_numbered : registry.keyspaces.map Prod.snd =
    (List.range registry.keyspaces.length).map fun number ↦ keyspaceIdOf (number + 1)
  tables_numbered : registry.tables.map Prod.snd =
    (List.range registry.tables.length).map fun number ↦ tableIdOf (number + 1)

namespace Booked

variable {registry : Registry}

theorem empty : Registry.empty.Booked where
  ids_distinct := .nil
  keyspaces_eq := rfl
  tables_eq := rfl
  keyspaces_distinct := .nil
  tables_distinct := .nil
  keyspaces_numbered := rfl
  tables_numbered := rfl

/-- A keyspace has an id exactly if it is the keyspace under the id. -/
theorem keyspaceId?_eq_some_iff (hbooked : registry.Booked) {keyspace : Identifier} {id : String} :
    registry.keyspaceId? keyspace = some id ↔
      registry.template.resource? id = some (.keyspace keyspace.text) := by
  rw [keyspaceId?, lookup_eq_some_iff_mem hbooked.keyspaces_distinct,
    Template.resource?_eq_some_iff hbooked.ids_distinct, ← Template.mem_keyspaces_iff,
    hbooked.keyspaces_eq, List.mem_map]
  constructor
  · exact fun hmem ↦ ⟨_, hmem, rfl⟩
  · rintro ⟨⟨other, _⟩, hmem, hsame⟩
    obtain ⟨rfl, htext⟩ := Prod.mk.inj hsame
    rwa [← Identifier.text_injective htext]

/-- A table has an id exactly if it is the table under the id, in the keyspace that this names. -/
theorem tableId?_eq_some_iff (hbooked : registry.Booked) {keyspace table : Identifier}
    {id : String} : registry.tableId? keyspace table = some id ↔
      ∃ resource, registry.template.resource? id = some (.table resource) ∧
        registry.template.tableNames resource = (some keyspace.text, table.text) := by
  simp only [tableId?, lookup_eq_some_iff_mem hbooked.tables_distinct,
    Template.resource?_eq_some_iff hbooked.ids_distinct, ← Template.mem_tables_iff]
  constructor
  · intro hmem
    have hlisted : (id, some keyspace.text, table.text) ∈ registry.tables.map
        fun entry ↦ (entry.2, some entry.1.1.text, entry.1.2.text) :=
      List.mem_map.2 ⟨((keyspace, table), id), hmem, rfl⟩
    rw [← hbooked.tables_eq, List.mem_map] at hlisted
    obtain ⟨⟨_, resource⟩, hresource, hsame⟩ := hlisted
    obtain ⟨rfl, hnames⟩ := Prod.mk.inj hsame
    exact ⟨resource, hresource, hnames⟩
  · rintro ⟨resource, hresource, hnames⟩
    have hlisted : (id, registry.template.tableNames resource) ∈ registry.template.tables.map
        fun entry ↦ (entry.1, registry.template.tableNames entry.2) :=
      List.mem_map.2 ⟨_, hresource, rfl⟩
    rw [hbooked.tables_eq, hnames, List.mem_map] at hlisted
    obtain ⟨⟨⟨otherKeyspace, other⟩, _⟩, hmem, hsame⟩ := hlisted
    simp only [Prod.mk.injEq, Option.some.injEq] at hsame
    obtain ⟨rfl, hkeyspace, htable⟩ := hsame
    rwa [← Identifier.text_injective hkeyspace, ← Identifier.text_injective htable]

/-- The resources that are there name the same tables with one more resource. -/
theorem tables_eq_append (hbooked : registry.Booked) (entry : String × Resource) :
    registry.template.tables.map (fun table ↦ (table.1,
        (registry.template.append entry).tableNames table.2)) =
      registry.tables.map fun table ↦ (table.2, some table.1.1.text, table.1.2.text) := by
  rw [← hbooked.tables_eq]
  refine List.map_congr_left fun table hmem ↦ ?_
  have hlisted : (table.1, registry.template.tableNames table.2) ∈ registry.tables.map
      fun table ↦ (table.2, some table.1.1.text, table.1.2.text) := by
    rw [← hbooked.tables_eq]
    exact List.mem_map.2 ⟨table, hmem, rfl⟩
  obtain ⟨record, -, hsame⟩ := List.mem_map.1 hlisted
  have hnamed : registry.template.keyspaceNamed? table.2.keyspaceName = some record.1.1.text :=
    (congrArg (fun names ↦ names.2.1) hsame).symm
  rw [Template.tableNames, Template.tableNames, hnamed, Template.keyspaceNamed?_append hnamed]

/-- The value that names the keyspace of a table stands for the keyspace. -/
theorem keyspaceNamed?_keyspaceValue (hbooked : registry.Booked) (keyspace : Identifier) :
    registry.template.keyspaceNamed? (Mapping.keyspaceValue registry keyspace) =
      some keyspace.text := by
  rw [Mapping.keyspaceValue]
  split
  next logicalId hknown =>
    have hresource := hbooked.keyspaceId?_eq_some_iff.1 hknown
    simp only [Template.keyspaceNamed?, hresource, Option.bind_some, Resource.keyspace?]
  next => rfl

/-- A new keyspace is entered along with its resource. -/
theorem withKeyspace (hbooked : registry.Booked) {keyspace : Identifier}
    (hnew : registry.keyspaceId? keyspace = none)
    (hid : registry.nextKeyspaceId ∉ registry.template.logicalIds) :
    (registry.withKeyspace keyspace).Booked where
  ids_distinct := hbooked.ids_distinct.append hid _
  keyspaces_eq := by
    change (registry.template.append (registry.nextKeyspaceId, .keyspace keyspace.text)).keyspaces =
      (registry.keyspaces ++ [(keyspace, registry.nextKeyspaceId)]).map _
    rw [Template.keyspaces_append_keyspace, hbooked.keyspaces_eq, List.map_append,
      List.map_singleton]
  tables_eq := by
    change (registry.template.append (registry.nextKeyspaceId,
      .keyspace keyspace.text)).tables.map _ = registry.tables.map _
    rw [Template.tables_append_keyspace]
    exact hbooked.tables_eq_append _
  keyspaces_distinct := nodup_keys_append hbooked.keyspaces_distinct hnew _
  tables_distinct := hbooked.tables_distinct
  keyspaces_numbered := numbered_append hbooked.keyspaces_numbered keyspace
  tables_numbered := hbooked.tables_numbered

/-- A new table is entered along with its resource, which names its keyspace. -/
theorem withTable (hbooked : registry.Booked) {keyspace table : Identifier}
    {resource : TableResource} (hnew : registry.tableId? keyspace table = none)
    (hid : registry.nextTableId ∉ registry.template.logicalIds)
    (hkeyspace : resource.keyspaceName = Mapping.keyspaceValue registry keyspace)
    (htable : resource.tableName = table.text) :
    (registry.withTable keyspace table resource).Booked where
  ids_distinct := hbooked.ids_distinct.append hid _
  keyspaces_eq := by
    change (registry.template.append (registry.nextTableId, .table resource)).keyspaces =
      registry.keyspaces.map _
    rw [Template.keyspaces_append_table, hbooked.keyspaces_eq]
  tables_eq := by
    change (registry.template.append (registry.nextTableId, .table resource)).tables.map
        (fun entry ↦ (entry.1, (registry.template.append (registry.nextTableId,
          .table resource)).tableNames entry.2)) =
      (registry.tables ++ [((keyspace, table), registry.nextTableId)]).map _
    have hnamed := Template.keyspaceNamed?_append
      (hbooked.keyspaceNamed?_keyspaceValue keyspace) (registry.nextTableId, .table resource)
    rw [Template.tables_append_table, List.map_append, hbooked.tables_eq_append, List.map_append,
      List.map_singleton, List.map_singleton, Template.tableNames, hkeyspace, hnamed, htable]
  keyspaces_distinct := hbooked.keyspaces_distinct
  tables_distinct := nodup_keys_append hbooked.tables_distinct hnew _
  keyspaces_numbered := hbooked.keyspaces_numbered
  tables_numbered := numbered_append hbooked.tables_numbered (keyspace, table)

/-- A transition leaves the books in order. -/
theorem transition {strictness : Strictness} {statement : Statement} {next : Registry}
    (hbooked : registry.Booked)
    (htransition : Mapping.Transition strictness registry statement next) : next.Booked := by
  cases htransition with
  | keyspaceUsed keyspace => exact { hbooked with }
  | keyspaceSkipped | tableSkipped => exact hbooked
  | keyspaceCreated creation hnew hsettings hid => exact hbooked.withKeyspace hnew hid
  | tableCreated creation keyspace resource heffective hnew hresource hid =>
    have hrenders := Mapping.renders_of_outcome hresource
    exact hbooked.withTable hnew hid hrenders.keyspaceName_eq hrenders.tableName_eq

theorem length_keyspaces_eq (hbooked : registry.Booked) :
    registry.template.keyspaces.length = registry.keyspaces.length := by
  rw [hbooked.keyspaces_eq, List.length_map]

theorem length_tables_eq (hbooked : registry.Booked) :
    registry.template.tables.length = registry.tables.length := by
  simpa using congrArg List.length hbooked.tables_eq

/-- The names of the tables are those under which they are entered. -/
theorem tableNames_eq (hbooked : registry.Booked) :
    registry.template.tables.map (fun entry ↦ registry.template.tableNames entry.2) =
      registry.tables.map fun entry ↦ (some entry.1.1.text, entry.1.2.text) := by
  have hnames := congrArg (List.map Prod.snd) hbooked.tables_eq
  rw [List.map_map, List.map_map] at hnames
  exact hnames

end Booked

/-- Whether the registry and the template tell the same, each in its own way. -/
structure Accurate (registry : Registry) : Prop where
  keyspace_ids : registry.template.keyspaces.map Prod.fst =
    (List.range registry.keyspaces.length).map fun number ↦ keyspaceIdOf (number + 1)
  table_ids : registry.template.tables.map Prod.fst =
    (List.range registry.tables.length).map fun number ↦ tableIdOf (number + 1)
  size_eq : registry.template.resources.size = registry.keyspaces.length + registry.tables.length
  /-- A keyspace is entered once, so the entries are as many as the keyspaces entered. -/
  keyspaces_distinct : (registry.keyspaces.map Prod.fst).Nodup
  tables_distinct : (registry.tables.map Prod.fst).Nodup
  keyspace_found : ∀ keyspace id, registry.keyspaceId? keyspace = some id ↔
    registry.template.resource? id = some (.keyspace keyspace.text)
  table_found : ∀ keyspace table id, registry.tableId? keyspace table = some id ↔
    ∃ resource, registry.template.resource? id = some (.table resource) ∧
      resource.tableName = table.text ∧
      registry.template.keyspaceNamed? resource.keyspaceName = some keyspace.text
  keyspace_names_distinct : (registry.template.keyspaces.map Prod.snd).Nodup
  table_names_distinct :
    (registry.template.tables.map fun entry ↦ registry.template.tableNames entry.2).Nodup

/-- Books in order are accurate. -/
theorem Booked.accurate {registry : Registry} (hbooked : registry.Booked) : registry.Accurate where
  keyspace_ids := by
    rw [← hbooked.keyspaces_numbered, hbooked.keyspaces_eq, List.map_map]
    rfl
  table_ids := by
    have hids := congrArg (List.map Prod.fst) hbooked.tables_eq
    rw [List.map_map, List.map_map] at hids
    rw [← hbooked.tables_numbered]
    exact hids
  size_eq := by
    rw [← hbooked.length_keyspaces_eq, ← hbooked.length_tables_eq,
      Template.length_keyspaces_add_length_tables]
    rfl
  keyspaces_distinct := hbooked.keyspaces_distinct
  tables_distinct := hbooked.tables_distinct
  keyspace_found keyspace id := hbooked.keyspaceId?_eq_some_iff
  table_found keyspace table id := by
    rw [hbooked.tableId?_eq_some_iff]
    simp only [Template.tableNames, Prod.mk.injEq, and_comm]
  keyspace_names_distinct := by
    rw [hbooked.keyspaces_eq, List.map_map]
    have hnames := hbooked.keyspaces_distinct.map Identifier.text_injective
    rwa [List.map_map] at hnames
  table_names_distinct := by
    have hinjective : Function.Injective fun key : Identifier × Identifier ↦
        (some key.1.text, key.2.text) := by
      rintro ⟨keyspace, table⟩ ⟨otherKeyspace, other⟩ hsame
      simp only [Prod.mk.injEq, Option.some.injEq] at hsame
      rw [Identifier.text_injective hsame.1, Identifier.text_injective hsame.2]
    have hnames := hbooked.tables_distinct.map hinjective
    rw [List.map_map] at hnames
    rw [hbooked.tableNames_eq]
    exact hnames

end Registry

/-- The registry and the template match. After any statements, whether they create something, are
skipped or fail, and however strict the session is: the keyspaces of the template are numbered
without a gap in its order, and so are its tables, as many of each as are entered in the registry,
and there are no other resources. A keyspace is entered under an id exactly if the resource under
the id is that keyspace, and a table exactly if the resource is the table of that name in a keyspace
of that name, given literally or by reference. So no two keyspaces have the same name, and no two
tables the same name in the same keyspace. -/
theorem Session.registry_matches_template (strictness : Strictness) (statements : List Statement) :
    ((new strictness).handleAll statements).registry.Accurate := by
  have hbooked : ((new strictness).handleAll statements).registry.Booked :=
    registry_handleAll_induction Registry.Booked .empty
      (fun hbooked htransition ↦ hbooked.transition htransition) strictness statements
  exact hbooked.accurate

end SchemaTemplate
