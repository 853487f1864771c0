import SchemaTemplate.Proofs.TableAcceptance
import SchemaTemplate.Proofs.TableBuilding
import SchemaTemplate.Script.Reading

/-!
Whatever is read is sound. Each parser is followed to what its success says about the value that it
returns: types are well formed because only the known words open or make up a type, maps have
distinct keys because an entry is added under a new key only, and a table definition collects
what its operations keep. `TableDefinition.Drafted` holds of a definition between any two clauses;
what it lacks of soundness is what the check of the complete definition adds.
-/

set_option autoImplicit false
set_option relaxedAutoImplicit false

namespace SchemaTemplate

open Grammar Grammar.Parser

/-! ### Maps -/

namespace OrderedMap

variable {Key Value : Type} [DecidableEq Key] [ToString Key]

theorem define_eq_ok_iff {map next : OrderedMap Key Value} {key : Key} {value : Value} :
    map.define key value = .ok next ↔
      key ∉ map.keys ∧ next = ⟨map.entries ++ [(key, value)]⟩ := by
  rw [define, ← add_eq_ok_iff]
  cases map.add key value <;> simp [Except.mapError]

theorem Distinct.define {map next : OrderedMap Key Value} (hdistinct : map.Distinct) {key : Key}
    {value : Value} (hok : map.define key value = .ok next) : next.Distinct := by
  obtain ⟨hnew, rfl⟩ := define_eq_ok_iff.1 hok
  exact hdistinct.append hnew value

end OrderedMap

namespace Grammar

variable {tokens rest : List Token}

/-- A map that is read has distinct keys, and its values are as the parser of values makes them. -/
theorem distinct_of_mapOf {Value : Type} {value : Parser Value} (Good : Value → Prop)
    (hvalue : ∀ {tokens entry rest}, value tokens = .ok (entry, rest) → Good entry)
    {map : OrderedMap String Value} (hok : mapOf value tokens = .ok (map, rest)) :
    map.Distinct ∧ ∀ entry ∈ map.toList, Good entry.2 := by
  obtain ⟨-, rfl⟩ | ⟨behind, -, hentries⟩ := mapOf_cases hok
  · exact ⟨.nil, nofun⟩
  · refine hentries.keeps (fun map ↦ map.Distinct ∧ ∀ entry ∈ map.toList, Good entry.2) ?_
      ⟨.nil, nofun⟩
    rintro state next tokens rest ⟨hdistinct, hgood⟩ hitem
    obtain ⟨key, _, entry, -, hread, hdefine⟩ := mapEntry_eq_ok_iff.1 hitem
    refine ⟨hdistinct.define hdefine, ?_⟩
    obtain ⟨-, rfl⟩ := OrderedMap.define_eq_ok_iff.1 hdefine
    exact List.forall_mem_append.2 ⟨hgood, List.forall_mem_singleton.2 (hvalue hread)⟩

theorem distinct_of_options {entries : Options} (hok : options tokens = .ok (entries, rest)) :
    entries.Distinct :=
  (distinct_of_mapOf (fun _ ↦ True) (fun _ ↦ trivial) hok).1

theorem distinct_of_customProperties {custom : CustomProperties}
    (hok : customProperties tokens = .ok (custom, rest)) :
    custom.Distinct ∧ ∀ property ∈ custom.toList, property.2.Distinct :=
  distinct_of_mapOf OrderedMap.Distinct distinct_of_options hok

theorem distinct_of_propertyValue {value : PropertyValue}
    (hok : propertyValue tokens = .ok (value, rest)) : value.Distinct := by
  obtain ⟨entries, hentries, rfl⟩ | ⟨text, -, rfl⟩ := propertyValue_cases hok
  · exact distinct_of_options hentries
  · trivial

end Grammar

/-! ### Settings -/

namespace Settings

theorem sound_empty : empty.Sound where
  regular_distinct := .nil
  regular_name := nofun
  regular_value := nofun
  custom_distinct := nofun
  custom_value := nofun

theorem addProperty_eq_ok_iff {settings next : Settings} {name : Identifier}
    {value : PropertyValue} : settings.addProperty name value = .ok next ↔
      name ∉ settings.regular.keys ∧
        next = { settings with regular := ⟨settings.regular.entries ++ [(name, value)]⟩ } := by
  rw [addProperty]
  cases hdefine : settings.regular.define name value with
  | ok regular =>
    obtain ⟨hnew, rfl⟩ := OrderedMap.define_eq_ok_iff.1 hdefine
    simp [bind, Except.bind, pure, Except.pure, hnew, eq_comm]
  | error fault =>
    have hpresent : ¬ (name ∉ settings.regular.keys) := by
      intro hnew
      rw [OrderedMap.define_eq_ok_iff.2 ⟨hnew, rfl⟩] at hdefine
      cases hdefine
    simp [bind, Except.bind, hpresent]

theorem defineCustom_eq_ok_iff {settings next : Settings} {custom : CustomProperties} :
    settings.defineCustom custom = .ok next ↔
      settings.custom = none ∧ next = { settings with custom := some custom } := by
  rw [defineCustom]
  cases settings.custom <;> simp [eq_comm]

theorem Sound.addProperty {settings next : Settings} (hsound : settings.Sound) {name : Identifier}
    {value : PropertyValue} (hname : name.text ≠ customPropertiesName) (hvalue : value.Distinct)
    (hok : settings.addProperty name value = .ok next) : next.Sound := by
  obtain ⟨hnew, rfl⟩ := addProperty_eq_ok_iff.1 hok
  exact { hsound with
    regular_distinct := hsound.regular_distinct.append hnew value
    regular_name := by
      rw [OrderedMap.keys, List.map_append]
      exact List.forall_mem_append.2 ⟨hsound.regular_name, List.forall_mem_singleton.2 hname⟩
    regular_value :=
      List.forall_mem_append.2 ⟨hsound.regular_value, List.forall_mem_singleton.2 hvalue⟩ }

theorem Sound.defineCustom {settings next : Settings} (hsound : settings.Sound)
    {custom : CustomProperties} (hdistinct : custom.Distinct)
    (hvalues : ∀ property ∈ custom.toList, property.2.Distinct)
    (hok : settings.defineCustom custom = .ok next) : next.Sound := by
  obtain ⟨-, rfl⟩ := defineCustom_eq_ok_iff.1 hok
  exact { hsound with
    custom_distinct := by
      rintro _ ⟨⟩
      exact hdistinct
    custom_value := by
      rintro _ ⟨⟩
      exact hvalues }

/-- A property that is read keeps settings sound. -/
theorem Sound.property {settings next : Settings} (hsound : settings.Sound)
    {update : Settings → Except SchemaFault Settings} {tokens rest : List Token}
    (hread : property tokens = .ok (update, rest)) (hok : update settings = .ok next) :
    next.Sound := by
  obtain ⟨_, _, _, -, -, ⟨-, custom, hcustom, rfl⟩ | ⟨hname, value, hvalue, rfl⟩⟩ :=
    property_cases hread
  · obtain ⟨hdistinct, hvalues⟩ := distinct_of_customProperties hcustom
    exact hsound.defineCustom hdistinct hvalues hok
  · exact hsound.addProperty hname (distinct_of_propertyValue hvalue) hok

end Settings

/-! ### Types -/

namespace Grammar

variable {tokens rest : List Token}

theorem mem_of_spelledIn? {spellings : List String} {token : Token} {spelling : String}
    (hspelled : spelledIn? spellings token = some spelling) : spelling ∈ spellings :=
  List.mem_of_find?_eq_some hspelled

theorem wellFormed_of_plainType {type : ColumnType} (hok : plainType tokens = .ok (type, rest)) :
    type.WellFormed := by
  obtain ⟨_, name, -, hname, rfl⟩ | ⟨className, -, rfl⟩ | ⟨keyspace, name, -, rfl⟩ :=
    plainType_cases hok
  · exact mem_of_spelledIn? hname
  · trivial
  · trivial

/-- A type that is read is well formed, at every depth. -/
theorem wellFormed_of_typeNested {depth : Nat} {type : ColumnType}
    (hok : typeNested depth tokens = .ok (type, rest)) : type.WellFormed := by
  induction depth generalizing tokens type rest with
  | zero => exact wellFormed_of_plainType hok
  | succ depth ih =>
    obtain hplain | ⟨_, kind, _, elements, _, -, hkind, helements, -, rfl⟩ := typeNested_cases hok
    · exact wellFormed_of_plainType hplain
    have hall : elements ≠ [] ∧ ∀ element ∈ elements, element.WellFormed := by
      refine helements.establishes (fun elements ↦ ∀ element ∈ elements, element.WellFormed)
        (fun elements ↦ elements ≠ [] ∧ ∀ element ∈ elements, element.WellFormed) And.right ?_ nofun
      intro elements next tokens rest hbefore hitem
      simp only [elementType, run_bind_eq_ok_iff, run_pure_eq_ok_iff] at hitem
      obtain ⟨element, _, helement, rfl, rfl⟩ := hitem
      exact ⟨by simp,
        List.forall_mem_append.2 ⟨hbefore, List.forall_mem_singleton.2 (ih helement)⟩⟩
    exact ⟨mem_of_spelledIn? hkind, hall.1, (allWellFormed_iff elements).2 hall.2⟩

theorem wellFormed_of_columnType {type : ColumnType} (hok : columnType tokens = .ok (type, rest)) :
    type.WellFormed := wellFormed_of_typeNested hok

end Grammar

/-! ### Tables -/

namespace TableDefinition

variable {definition next : TableDefinition} {column : Identifier} {tokens rest : List Token}

/-- Whether a definition is as the clauses of a statement leave it behind each of them. -/
structure Drafted (definition : TableDefinition) : Prop where
  consistent : definition.Consistent
  static_in_order : definition.staticColumns.Sublist definition.columns.keys
  key_given : definition.partitionKey ≠ [] → definition.primaryKeyGiven = true
  order_given : definition.clusteringOrderGiven = true ↔ definition.clusteringOrders ≠ []
  types_wellFormed : ∀ column ∈ definition.columns.toList, column.2.WellFormed
  settings_sound : definition.settings.Sound

theorem drafted_empty : empty.Drafted where
  consistent := consistent_empty
  static_in_order := .slnil
  key_given := nofun
  order_given := by decide
  types_wellFormed := nofun
  settings_sound := Settings.sound_empty

/-- Whether a definition is consistent and differs from another in its primary key at most. -/
def Rekeyed (definition next : TableDefinition) : Prop :=
  next.Consistent ∧ ∃ partitionKey clusteringKey,
    next = { definition with partitionKey, clusteringKey }

namespace Rekeyed

variable {built : TableDefinition}

theorem refl (hconsistent : definition.Consistent) : definition.Rekeyed definition :=
  ⟨hconsistent, definition.partitionKey, definition.clusteringKey, rfl⟩

theorem addPartitionColumn (hrekeyed : definition.Rekeyed built)
    (hok : built.addPartitionColumn column = .ok next) : definition.Rekeyed next := by
  obtain ⟨hconsistent, partitionKey, clusteringKey, rfl⟩ := hrekeyed
  refine ⟨hconsistent.addPartitionColumn hok, ?_⟩
  obtain ⟨-, rfl⟩ := addPartitionColumn_eq_ok_iff.1 hok
  exact ⟨_, _, rfl⟩

theorem addClusteringColumn (hrekeyed : definition.Rekeyed built)
    (hok : built.addClusteringColumn column = .ok next) : definition.Rekeyed next := by
  obtain ⟨hconsistent, partitionKey, clusteringKey, rfl⟩ := hrekeyed
  refine ⟨hconsistent.addClusteringColumn hok, ?_⟩
  obtain ⟨-, rfl⟩ := addClusteringColumn_eq_ok_iff.1 hok
  exact ⟨_, _, rfl⟩

theorem partitionColumn (hrekeyed : definition.Rekeyed built)
    (hok : Grammar.partitionColumn built tokens = .ok (next, rest)) : definition.Rekeyed next := by
  obtain ⟨_, column, -, -, hadd⟩ := keyColumn_eq_ok_iff.1 hok
  exact hrekeyed.addPartitionColumn hadd

theorem clusteringColumn (hrekeyed : definition.Rekeyed built)
    (hok : Grammar.clusteringColumn built tokens = .ok (next, rest)) : definition.Rekeyed next := by
  obtain ⟨_, column, -, -, hadd⟩ := keyColumn_eq_ok_iff.1 hok
  exact hrekeyed.addClusteringColumn hadd

theorem primaryKeyClause (hconsistent : definition.Consistent)
    (hok : Grammar.primaryKeyClause definition tokens = .ok (next, rest)) :
    Rekeyed { definition with primaryKeyGiven := true } next := by
  obtain ⟨begun, _, partitioned, _, -, hbegin, hpartition, hclustering⟩ :=
    primaryKeyClause_cases hok
  obtain ⟨-, rfl⟩ := beginPrimaryKey_eq_ok_iff.1 hbegin
  have hbegun : Rekeyed { definition with primaryKeyGiven := true }
    { definition with primaryKeyGiven := true } := .refl { hconsistent with }
  have hpartitioned : Rekeyed { definition with primaryKeyGiven := true } partitioned := by
    obtain ⟨_, -, hcolumns⟩ | hcolumn := partitionKey_cases hpartition
    · exact hcolumns.keeps _ partitionColumn hbegun
    · exact hbegun.partitionColumn hcolumn
  obtain ⟨_, -, hcolumns⟩ | ⟨-, rfl⟩ := clusteringKey_cases hclustering
  · exact hcolumns.keeps _ clusteringColumn hpartitioned
  · exact hpartitioned

end Rekeyed

namespace Drafted

theorem rekeyed (hdrafted : definition.Drafted)
    (hrekeyed : Rekeyed { definition with primaryKeyGiven := true } next) : next.Drafted := by
  obtain ⟨hconsistent, partitionKey, clusteringKey, rfl⟩ := hrekeyed
  exact { hdrafted with consistent := hconsistent, key_given := fun _ ↦ rfl }

theorem keyMark (hdrafted : definition.Drafted)
    (hok : Grammar.keyMark column definition tokens = .ok (next, rest)) : next.Drafted := by
  obtain ⟨begun, -, hbegin, hadd⟩ | ⟨-, -, rfl⟩ := keyMark_cases hok
  · obtain ⟨-, rfl⟩ := beginPrimaryKey_eq_ok_iff.1 hbegin
    have hbegun : Rekeyed { definition with primaryKeyGiven := true }
      { definition with primaryKeyGiven := true } := .refl { hdrafted.consistent with }
    exact hdrafted.rekeyed (hbegun.addPartitionColumn hadd)
  · exact hdrafted

/-- The mark of a static column stands behind its declaration, so static columns come in the order
of their declarations. -/
theorem columnClause (hdrafted : definition.Drafted)
    (hok : Grammar.columnClause definition tokens = .ok (next, rest)) : next.Drafted := by
  obtain ⟨_, column, _, type, _, declared, marked, _, -, -, htype, hadd, hstatic, hkey⟩ :=
    columnClause_cases hok
  refine Drafted.keyMark ?_ hkey
  have hdeclared := hdrafted.consistent.addColumn hadd
  obtain ⟨-, rfl⟩ := addColumn_eq_ok_iff.1 hadd
  have htypes : ∀ entry ∈ definition.columns.entries ++ [(column, type)], entry.2.WellFormed :=
    List.forall_mem_append.2 ⟨hdrafted.types_wellFormed,
      List.forall_mem_singleton.2 (wellFormed_of_columnType htype)⟩
  have hkeys : (definition.columns.entries ++ [(column, type)]).map Prod.fst =
      definition.columns.keys ++ [column] := List.map_append
  have horder : definition.staticColumns.Sublist
      ((definition.columns.entries ++ [(column, type)]).map Prod.fst) := by
    rw [hkeys]
    exact hdrafted.static_in_order.trans (List.sublist_append_left _ _)
  have hunmarked : Drafted { definition with
      columns := ⟨definition.columns.entries ++ [(column, type)]⟩ } :=
    { hdrafted with
      consistent := hdeclared
      static_in_order := horder
      types_wellFormed := htypes }
  obtain ⟨_, -, -, hmark⟩ | ⟨-, -, rfl⟩ := staticMark_cases hstatic
  · have hmarked := hdeclared.addStaticColumn hmark
    obtain ⟨-, -, rfl⟩ := addStaticColumn_eq_ok_iff.1 hmark
    split
    next => exact hunmarked
    next hnew =>
      rw [if_neg hnew] at hmarked
      exact { hunmarked with
        consistent := hmarked
        static_in_order := by
          show (definition.staticColumns ++ [column]).Sublist
            ((definition.columns.entries ++ [(column, type)]).map Prod.fst)
          rw [hkeys]
          exact hdrafted.static_in_order.append_right [column] }
  · exact hunmarked

theorem definitionClause (hdrafted : definition.Drafted)
    (hok : Grammar.definitionClause definition tokens = .ok (next, rest)) : next.Drafted := by
  obtain ⟨_, -, hkey⟩ | ⟨-, hcolumn⟩ := definitionClause_cases hok
  · exact hdrafted.rekeyed (.primaryKeyClause hdrafted.consistent hkey)
  · exact hdrafted.columnClause hcolumn

theorem clusteringOrderOption (hdrafted : definition.Drafted)
    (hok : Grammar.clusteringOrderOption definition tokens = .ok (next, rest)) : next.Drafted := by
  obtain ⟨begun, _, -, hbegin, horders⟩ := clusteringOrderOption_cases hok
  obtain ⟨-, rfl⟩ := beginClusteringOrder_eq_ok_iff.1 hbegin
  have hnext : ∃ clusteringOrders, clusteringOrders ≠ [] ∧ next.Consistent ∧
      next = { definition with clusteringOrderGiven := true, clusteringOrders } := by
    refine horders.establishes
      (fun built ↦ built.Consistent ∧ ∃ clusteringOrders,
        built = { definition with clusteringOrderGiven := true, clusteringOrders })
      (fun built ↦ ∃ clusteringOrders, clusteringOrders ≠ [] ∧ built.Consistent ∧
        built = { definition with clusteringOrderGiven := true, clusteringOrders }) ?_ ?_
      ⟨{ hdrafted.consistent with }, _, rfl⟩
    · rintro built ⟨clusteringOrders, -, hconsistent, hbuilt⟩
      exact ⟨hconsistent, clusteringOrders, hbuilt⟩
    · rintro built next tokens rest ⟨hconsistent, clusteringOrders, rfl⟩ hitem
      obtain ⟨_, _, column, direction, -, -, -, hadd⟩ := orderedColumn_cases hitem
      have hconsistent := hconsistent.addClusteringOrder hadd
      obtain ⟨-, -, -, rfl⟩ := addClusteringOrder_eq_ok_iff.1 hadd
      exact ⟨_, by simp, hconsistent, rfl⟩
  obtain ⟨clusteringOrders, hnonempty, hconsistent, rfl⟩ := hnext
  exact { hdrafted with
    consistent := hconsistent
    order_given := iff_of_true rfl hnonempty }

theorem tableOption (hdrafted : definition.Drafted)
    (hok : Grammar.tableOption definition tokens = .ok (next, rest)) : next.Drafted := by
  obtain ⟨_, -, horder⟩ | ⟨-, hcompact⟩ | ⟨-, -, update, hread, hupdate⟩ := tableOption_cases hok
  · exact hdrafted.clusteringOrderOption horder
  · obtain ⟨-, rfl⟩ := requestCompactStorage_eq_ok_iff.1 hcompact
    exact { hdrafted with consistent := { hdrafted.consistent with } }
  · obtain ⟨settings, hsettings, rfl⟩ := updateSettings_eq_ok_iff.1 hupdate
    exact { hdrafted with
      consistent := { hdrafted.consistent with }
      settings_sound := hdrafted.settings_sound.property hread hsettings }

end Drafted

theorem check_eq_ok_iff : definition.check = .ok () ↔ definition.partitionKey ≠ [] ∧
    (definition.clusteringKey = [] → definition.staticColumns = []) := by
  rw [check]
  by_cases hpartition : definition.partitionKey = [] <;>
    by_cases hclustering : definition.clusteringKey = [] <;>
    by_cases hstatic : definition.staticColumns = [] <;>
    simp [hpartition, hclustering, hstatic]

/-- What a definition lacks of soundness is what its check adds. -/
theorem Drafted.sound (hdrafted : definition.Drafted) (hcheck : definition.check = .ok ()) :
    definition.Sound :=
  have ⟨hpartition, hstatic⟩ := check_eq_ok_iff.1 hcheck
  { hdrafted with
    partitionKey_nonempty := hpartition
    static_needs_clustering := hstatic
    primaryKey_given := hdrafted.key_given hpartition }

end TableDefinition

/-! ### Statements -/

namespace Grammar

variable {tokens rest : List Token} {statement : Statement}

theorem sound_of_keyspaceStatement (hok : keyspaceStatement tokens = .ok (statement, rest)) :
    statement.Sound := by
  obtain ⟨_, _, _, settings, _, -, -, hoptions, rfl⟩ := keyspaceStatement_cases hok
  obtain ⟨_, _, -, -, hoptions⟩ | ⟨-, rfl⟩ := withOptions_cases hoptions
  · refine hoptions.keeps Settings.Sound ?_ Settings.sound_empty
    intro settings next tokens rest hsound hitem
    simp only [keyspaceOption, run_bind_eq_ok_iff, run_lift_eq_ok_iff] at hitem
    obtain ⟨update, _, hread, hupdate, rfl⟩ := hitem
    exact hsound.property hread hupdate
  · exact Settings.sound_empty

theorem drafted_of_tableStatement (hok : tableStatement tokens = .ok (statement, rest)) :
    ∃ creation, statement = .createTable creation ∧ creation.definition.Drafted := by
  obtain ⟨_, _, _, definition, built, _, _, _, -, -, hclauses, hoptions, rfl⟩ :=
    tableStatement_cases hok
  refine ⟨_, rfl, ?_⟩
  obtain ⟨_, -, hclauses⟩ := definitionClauses_cases hclauses
  have hbuilt := hclauses.keeps _ TableDefinition.Drafted.definitionClause
    TableDefinition.drafted_empty
  obtain ⟨_, _, -, -, hoptions⟩ | ⟨-, rfl⟩ := withOptions_cases hoptions
  · exact hoptions.keeps _ TableDefinition.Drafted.tableOption hbuilt
  · exact hbuilt

/-- A statement that is read and passes its check is sound. -/
theorem sound_of_statementOf (hok : statementOf tokens = .ok statement)
    (hcheck : statement.check = .ok ()) : statement.Sound := by
  obtain ⟨_, hok⟩ := statementOf_eq_ok_iff.1 hok
  obtain ⟨_, _, -, -, huse⟩ | ⟨_, _, _, _, -, -, -, ⟨-, hkeyspace⟩ | ⟨-, htable⟩⟩ :=
    statement_cases hok
  · obtain ⟨_, _, -, -, rfl⟩ := useStatement_cases huse
    trivial
  · exact sound_of_keyspaceStatement hkeyspace
  · obtain ⟨creation, rfl, hdrafted⟩ := drafted_of_tableStatement htable
    exact hdrafted.sound hcheck

end Grammar

end SchemaTemplate
