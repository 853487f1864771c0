import SchemaTemplate.Schema.Statement

/-!
When the parts of a statement agree with each other. `TableDefinition.Consistent` holds of every
definition that its operations can build, in whatever order they are called. `Statement.Sound` holds
of every statement that a script can write: it adds that definitions are complete, that their types
are well formed, and that no key of a map comes twice.
-/

set_option autoImplicit false
set_option relaxedAutoImplicit false

namespace SchemaTemplate

/-- Whether the keys of a map are distinct. -/
def OrderedMap.Distinct {Key Value : Type} (map : OrderedMap Key Value) : Prop := map.keys.Nodup

/-- In a list without repetitions no item stands before itself. -/
theorem notMem_of_nodup_append {Item : Type} {before after : List Item} {item : Item}
    (hdistinct : (before ++ item :: after).Nodup) : item ∉ before :=
  fun hmem ↦ (List.nodup_append.1 hdistinct).2.2 item hmem item List.mem_cons_self rfl

/-- One more item that is new keeps a list free of repetitions. -/
theorem nodup_append_singleton {Item : Type} {items : List Item} {item : Item}
    (hdistinct : items.Nodup) (hnew : item ∉ items) : (items ++ [item]).Nodup := by
  refine List.nodup_append.2 ⟨hdistinct, by simp, ?_⟩
  rintro _ hmem _ hlast rfl
  obtain rfl := List.mem_singleton.1 hlast
  exact hnew hmem

/-- One more entry under a new key keeps the keys of a map distinct. -/
theorem OrderedMap.Distinct.append {Key Value : Type} {map : OrderedMap Key Value}
    (hdistinct : map.Distinct) {key : Key} (hnew : key ∉ map.keys) (value : Value) :
    (OrderedMap.mk (map.entries ++ [(key, value)])).Distinct := by
  rw [OrderedMap.Distinct, OrderedMap.keys, List.map_append]
  exact nodup_append_singleton hdistinct hnew

/-- Assumes: an entry of a map with distinct keys. It can be added to the entries before it. -/
theorem OrderedMap.add_of_distinct {Key Value : Type} [DecidableEq Key] {map : OrderedMap Key Value}
    (hdistinct : map.Distinct) {before after : List (Key × Value)} {entry : Key × Value}
    (hsplit : map.entries = before ++ entry :: after) :
    (OrderedMap.mk before).add entry.1 entry.2 = .ok ⟨before ++ [entry]⟩ := by
  rw [OrderedMap.Distinct, OrderedMap.keys, hsplit, List.map_append, List.map_cons] at hdistinct
  rw [OrderedMap.add_eq_ok_iff]
  exact ⟨notMem_of_nodup_append hdistinct, rfl⟩

theorem OrderedMap.define_of_distinct {Key Value : Type} [DecidableEq Key] [ToString Key]
    {map : OrderedMap Key Value} (hdistinct : map.Distinct) {before after : List (Key × Value)}
    {entry : Key × Value} (hsplit : map.entries = before ++ entry :: after) :
    (OrderedMap.mk before).define entry.1 entry.2 = .ok ⟨before ++ [entry]⟩ := by
  rw [OrderedMap.define, OrderedMap.add_of_distinct hdistinct hsplit]
  rfl

/-- Whether the keys of a property's value are distinct. -/
def PropertyValue.Distinct : PropertyValue → Prop
  | text _ => True
  | options entries => entries.Distinct

/-- Whether the keys of all maps in the settings are distinct and the regular properties leave out
the name of the custom ones. -/
structure Settings.Sound (settings : Settings) : Prop where
  regular_distinct : settings.regular.Distinct
  regular_name : ∀ name ∈ settings.regular.keys, name.text ≠ Settings.customPropertiesName
  regular_value : ∀ property ∈ settings.regular.toList, property.2.Distinct
  custom_distinct : ∀ custom ∈ settings.custom, custom.Distinct
  custom_value : ∀ custom ∈ settings.custom, ∀ property ∈ custom.toList, property.2.Distinct

namespace TableDefinition

/-- Whether the clauses of a definition agree with each other. -/
structure Consistent (definition : TableDefinition) : Prop where
  columns_distinct : definition.columns.Distinct
  primaryKey_distinct : definition.primaryKey.Nodup
  primaryKey_declared : ∀ column ∈ definition.primaryKey, column ∈ definition.columns.keys
  static_distinct : definition.staticColumns.Nodup
  static_declared : ∀ column ∈ definition.staticColumns, column ∈ definition.columns.keys
  static_outside_key : ∀ column ∈ definition.staticColumns, column ∉ definition.primaryKey
  orders_in_key_order : definition.clusteringOrders.map Prod.fst <+: definition.clusteringKey

/-- Whether a definition is one that a statement can give. -/
structure Sound (definition : TableDefinition) : Prop where
  consistent : definition.Consistent
  partitionKey_nonempty : definition.partitionKey ≠ []
  static_in_order : definition.staticColumns.Sublist definition.columns.keys
  static_needs_clustering : definition.clusteringKey = [] → definition.staticColumns = []
  primaryKey_given : definition.primaryKeyGiven = true
  order_given : definition.clusteringOrderGiven = true ↔ definition.clusteringOrders ≠ []
  types_wellFormed : ∀ column ∈ definition.columns.toList, column.2.WellFormed
  settings_sound : definition.settings.Sound

end TableDefinition

/-- Whether a statement is one that a script can write. -/
def Statement.Sound : Statement → Prop
  | use _ => True
  | createKeyspace creation => creation.settings.Sound
  | createTable creation => creation.definition.Sound

end SchemaTemplate
