import Mathlib.Data.List.Nodup
import SchemaTemplate.Conversion
import SchemaTemplate.Proofs.CapacityModes
import SchemaTemplate.Proofs.Creations
import SchemaTemplate.Proofs.References
import SchemaTemplate.Proofs.TemplateText

/-!
Conversions lose nothing that a template can tell. The value of a type determines the type, hence
the columns of a resource determine those of the creation that it renders, and with the name of the
keyspace and the billing mode they determine all that the creation says. As the text of a template
determines its resources, `convertStatements_lossless` says that scripts with the same template
create the same objects in the same order.
-/

set_option autoImplicit false
set_option relaxedAutoImplicit false

namespace SchemaTemplate

namespace Mapping

open Report

/-! ### Types and columns -/

/-- The value of a composite type tells the kind of the type and the values of its elements. -/
theorem compositeExpr_inj {kind other : String} {elements values : List Expr}
    (hequal : compositeExpr kind elements = compositeExpr other values) :
    kind = other ∧ elements = values := by
  rw [compositeExpr, compositeExpr, Expr.substitute.injEq] at hequal
  obtain ⟨hpattern, hbindings⟩ := hequal
  refine ⟨?_, by simpa using hbindings⟩
  rwa [String.append_left_inj, String.append_left_inj, String.append_left_inj] at hpattern

variable {keyspace other : Identifier}

mutual

/-- Assumes: a value of two types. The types are equal, whichever keyspaces they stand in. -/
theorem typeExpr_inj : ∀ (first second : ColumnType) (value : Expr),
    (typeExpr keyspace first).outcome = .ok value →
    (typeExpr other second).outcome = .ok value → first = second
  | .simple name, second, value, hfirst, hsecond => by
    rw [outcome_typeExpr_simple] at hfirst
    cases hfirst
    cases second with
    | simple =>
      rw [outcome_typeExpr_simple] at hsecond
      cases hsecond
      rfl
    | composite =>
      obtain ⟨_, _, hvalue⟩ := (outcome_typeExpr_composite_eq_ok_iff _ _ _ _).1 hsecond
      cases hvalue
    | user => exact absurd hsecond (outcome_typeExpr_user_ne_ok _ _ _ _)
    | custom => exact absurd hsecond (outcome_typeExpr_custom_ne_ok _ _ _)
  | .composite kind elements, second, value, hfirst, hsecond => by
    obtain ⟨values, hvalues, rfl⟩ := (outcome_typeExpr_composite_eq_ok_iff _ _ _ _).1 hfirst
    cases second with
    | simple =>
      rw [outcome_typeExpr_simple] at hsecond
      cases hsecond
    | composite =>
      obtain ⟨_, helements, hsame⟩ := (outcome_typeExpr_composite_eq_ok_iff _ _ _ _).1 hsecond
      obtain ⟨rfl, rfl⟩ := compositeExpr_inj hsame
      rw [typeExprs_inj elements _ values hvalues helements]
    | user => exact absurd hsecond (outcome_typeExpr_user_ne_ok _ _ _ _)
    | custom => exact absurd hsecond (outcome_typeExpr_custom_ne_ok _ _ _)
  | .user typeKeyspace name, _, _, hfirst, _ =>
    absurd hfirst (outcome_typeExpr_user_ne_ok _ _ _ _)
  | .custom className, _, _, hfirst, _ => absurd hfirst (outcome_typeExpr_custom_ne_ok _ _ _)

/-- Assumes: values of two lists of types. The lists are equal. -/
theorem typeExprs_inj : ∀ (firsts seconds : List ColumnType) (values : List Expr),
    (typeExprs keyspace firsts).outcome = .ok values →
    (typeExprs other seconds).outcome = .ok values → firsts = seconds
  | [], [], _, _, _ => rfl
  | [], _ :: _, _, hfirst, hsecond => by
    rw [outcome_typeExprs_nil] at hfirst
    obtain ⟨_, _, _, _, rfl⟩ := (outcome_typeExprs_cons_eq_ok_iff _ _ _ _).1 hsecond
    cases hfirst
  | _ :: _, [], _, hfirst, hsecond => by
    rw [outcome_typeExprs_nil] at hsecond
    obtain ⟨_, _, _, _, rfl⟩ := (outcome_typeExprs_cons_eq_ok_iff _ _ _ _).1 hfirst
    cases hsecond
  | first :: firsts, second :: seconds, _, hfirst, hsecond => by
    obtain ⟨value, values, hvalue, hvalues, rfl⟩ :=
      (outcome_typeExprs_cons_eq_ok_iff _ _ _ _).1 hfirst
    obtain ⟨_, _, hvalue', hvalues', hsame⟩ := (outcome_typeExprs_cons_eq_ok_iff _ _ _ _).1 hsecond
    obtain ⟨rfl, rfl⟩ := List.cons.inj hsame
    rw [typeExpr_inj first second value hvalue hvalue',
      typeExprs_inj firsts seconds values hvalues hvalues']

end

/-- A column of a resource tells the declared column. -/
theorem leftUnique_maps : Relator.LeftUnique (Maps keyspace) := by
  rintro ⟨⟨name⟩, type⟩ ⟨⟨other⟩, declared⟩ column hfirst hsecond
  obtain rfl : name = other := hfirst.name_eq.symm.trans hsecond.name_eq
  obtain rfl := typeExpr_inj type declared column.type hfirst.type_value hsecond.type_value
  rfl

theorem Direction.text_injective : Function.Injective Direction.text := by
  intro first second hequal
  cases first <;> cases second <;> first | rfl | exact absurd hequal (by decide)

variable {definition otherDefinition : TableDefinition}

/-- Assumes: clustering columns of a resource, mapped by two definitions. The columns and their
directions are the same in both. -/
theorem mapsClustering_unique {first second : List (Identifier × ColumnType)}
    {columns : List ClusteringColumn}
    (hfirst : List.Forall₂ (MapsClustering definition keyspace) first columns)
    (hsecond : List.Forall₂ (MapsClustering otherDefinition keyspace) second columns) :
    first = second ∧ ∀ name ∈ first.map Prod.fst,
      definition.direction? name = otherDefinition.direction? name := by
  induction hfirst generalizing second with
  | nil =>
    cases hsecond
    exact ⟨rfl, by simp⟩
  | cons hcolumn _ ih =>
    cases hsecond with
    | cons hsame hrest =>
      obtain ⟨rfl, hdirections⟩ := ih hrest
      obtain rfl := leftUnique_maps hcolumn.column_maps hsame.column_maps
      refine ⟨rfl, ?_⟩
      intro name hname
      rcases List.mem_cons.1 hname with rfl | hname
      · have htexts := hcolumn.order_eq.symm.trans hsame.order_eq
        exact Option.map_injective Direction.text_injective htexts
      · exact hdirections name hname

/-! ### Billing modes -/

/-- Assumes: options that ask for a billing mode. It is the one that they give. -/
theorem AsksFor.requestedMode?_eq {options : Options} {mode : BillingMode}
    (hasks : AsksFor options mode) : requestedMode? options = some mode := by
  cases hasks with
  | onDemand hentries =>
    obtain ⟨hname, -⟩ := (OrderedMap.toList_perm_cons_iff (by simp)).1 hentries
    simp [requestedMode?, hname]
  | provisioned hentries hread hwrite =>
    obtain ⟨hname, hreadText, hwriteText, -⟩ := perm_provisioned_iff.1 hentries
    rw [OrderedMap.get?_erase_of_ne _ (by decide)] at hreadText hwriteText
    rw [OrderedMap.get?_erase_of_ne _ (by decide)] at hwriteText
    simp [requestedMode?, hname, hreadText, hread, hwriteText, hwrite]

/-- Assumes: settings that are mapped to a billing mode or to none. They ask for it. -/
theorem requestedBilling?_of_outcome {settings : Settings} {mode : Option BillingMode}
    (hok : (billingModeOf settings).outcome = .ok mode) : settings.requestedBilling? = mode := by
  unfold billingModeOf at hok
  unfold Settings.requestedBilling?
  split at hok
  next custom hcustom =>
    unfold mapCustomProperties at hok
    rw [hcustom, Option.bind_eq_bind, Option.bind_some]
    -- Only the last of the properties decides, so no induction over them is needed.
    rcases List.eq_nil_or_concat' custom.toList with hnone | ⟨before, property, hlast⟩
    · rw [hnone] at hok ⊢
      exact Except.ok.inj hok
    · rw [hlast] at hok ⊢
      rw [List.foldlM_append, outcome_bind_eq_ok_iff] at hok
      obtain ⟨billing, -, hproperty⟩ := hok
      rw [List.foldlM_cons, outcome_bind_eq_ok_iff] at hproperty
      obtain ⟨_, hmapped, hmode⟩ := hproperty
      cases hmode
      obtain ⟨hname, asked, hasks, rfl⟩ := (outcome_mapCustomProperty_eq_ok_iff _ _ _).1 hmapped
      rw [List.reverse_append, List.reverse_singleton, List.singleton_append,
        show property = ("capacity_mode", property.2) from Prod.ext hname rfl,
        List.lookup_cons_self, Option.bind_eq_bind, Option.bind_some]
      exact hasks.requestedMode?_eq
  next hnone =>
    rw [hnone]
    exact Except.ok.inj hok

/-! ### Creations -/

/-- Assumes: entries of which none is singled out among those taken out of a map. The same entries
are singled out of what is left. -/
theorem filter_entries_foldl_erase {Key Value : Type} [DecidableEq Key] {keys : List Key}
    {single : Key × Value → Bool} (hsingle : ∀ entry, entry.1 ∈ keys → single entry = false)
    (map : OrderedMap Key Value) :
    (keys.foldl OrderedMap.erase map).entries.filter single = map.entries.filter single := by
  induction keys generalizing map with
  | nil => rfl
  | cons key keys ih =>
    rw [List.foldl_cons, ih (fun entry hmem ↦ hsingle entry (List.mem_cons_of_mem _ hmem))]
    obtain ⟨entries⟩ := map
    simp only [OrderedMap.erase]
    induction entries with
    | nil => rfl
    | cons entry entries ihEntries =>
      by_cases htaken : entry.1 = key
      · have hout := hsingle entry (htaken ▸ List.mem_cons_self)
        rw [List.eraseP_cons_of_pos (by simpa using htaken),
          List.filter_cons_of_neg (by simp [hout])]
      · rw [List.eraseP_cons_of_neg (by simpa using htaken), List.filter_cons, List.filter_cons,
          ihEntries]

/-- Assumes: the resource of a table, which renders two creations in one keyspace. Both creations
say the same. -/
theorem schemaIn_unique {registry otherRegistry : Registry} {first second : TableCreation}
    {table : TableResource} (hfirst : Renders registry keyspace first table)
    (hsecond : Renders otherRegistry keyspace second table) :
    first.schemaIn keyspace = second.schemaIn keyspace := by
  obtain ⟨partition, clustering, hplaced, hpartition, hclustering⟩ := hfirst.key_placed
  obtain ⟨partition', clustering', hplaced', hpartition', hclustering'⟩ := hsecond.key_placed
  obtain rfl : partition = partition' := leftUnique_maps.forall₂ hpartition hpartition'
  obtain ⟨rfl, hdirections⟩ := mapsClustering_unique hclustering hclustering'
  have hpartitionKey : first.definition.partitionKey = second.definition.partitionKey :=
    hplaced.partition_names.symm.trans hplaced'.partition_names
  have hclusteringKey : first.definition.clusteringKey = second.definition.clusteringKey :=
    hplaced.clustering_names.symm.trans hplaced'.clustering_names
  have hprimaryKey : first.definition.primaryKey = second.definition.primaryKey := by
    rw [TableDefinition.primaryKey, TableDefinition.primaryKey, hpartitionKey, hclusteringKey]
  have htypes : ∀ name ∈ first.definition.primaryKey,
      first.definition.columns.get? name = second.definition.columns.get? name := by
    intro name hname
    rw [← hplaced.declared_type name hname, ← hplaced'.declared_type name (hprimaryKey ▸ hname)]
  have hothers : first.definition.otherColumns = second.definition.otherColumns := by
    have hleft := leftUnique_maps.forall₂ hfirst.others_placed hsecond.others_placed
    rw [← hprimaryKey] at hleft
    have houtside : ∀ entry : Identifier × ColumnType, entry.1 ∈ first.definition.primaryKey →
        decide (entry.1 ∉ first.definition.primaryKey) = false := by simp
    have hfirstOthers := filter_entries_foldl_erase houtside first.definition.columns
    have hsecondOthers := filter_entries_foldl_erase houtside second.definition.columns
    rw [TableDefinition.otherColumns, TableDefinition.otherColumns, ← hprimaryKey]
    exact hfirstOthers.symm.trans ((congrArg (List.filter _) hleft).trans hsecondOthers)
  have hbilling : first.definition.settings.requestedBilling? =
      second.definition.settings.requestedBilling? :=
    (requestedBilling?_of_outcome hfirst.billing_asked).trans
      (requestedBilling?_of_outcome hsecond.billing_asked).symm
  have htable : first.table.text = second.table.text :=
    hfirst.tableName_eq.symm.trans hsecond.tableName_eq
  rw [TableCreation.schemaIn, TableCreation.schemaIn, TableSchema.mk.injEq]
  refine ⟨rfl, congrArg Identifier.mk htable, ?_, ?_, hothers, hbilling⟩
  · rw [← hpartitionKey]
    refine List.map_congr_left fun name hname ↦ ?_
    rw [htypes name (List.mem_append_left _ hname)]
  · rw [← hclusteringKey]
    refine List.map_congr_left fun name hname ↦ ?_
    rw [htypes name (List.mem_append_right _ hname),
      hdirections name (hplaced.clustering_names ▸ hname)]

/-- Assumes: a value that names the keyspaces of two tables. If the keyspaces it may refer to are
listed under their ids among the same resources, with distinct ids, it names the same keyspace. -/
theorem keyspaceValue_inj {registry otherRegistry : Registry} {resources : List (String × Resource)}
    (hdistinct : (resources.map Prod.fst).Nodup)
    (hfirst : ∀ logicalId, registry.keyspaceId? keyspace = some logicalId →
      (logicalId, .keyspace keyspace.text) ∈ resources)
    (hsecond : ∀ logicalId, otherRegistry.keyspaceId? other = some logicalId →
      (logicalId, .keyspace other.text) ∈ resources)
    (hequal : keyspaceValue registry keyspace = keyspaceValue otherRegistry other) :
    keyspace = other := by
  unfold keyspaceValue at hequal
  split at hequal
  next logicalId hid =>
    split at hequal
    next otherId hotherId =>
      cases hequal
      have hresource := List.inj_on_of_nodup_map hdistinct (hfirst logicalId hid)
        (hsecond logicalId hotherId) rfl
      cases keyspace
      cases other
      cases hresource
      rfl
    next => cases hequal
  next =>
    split at hequal
    next => cases hequal
    next =>
      cases keyspace
      cases other
      cases hequal
      rfl

end Mapping

/-- Assumes: resources with distinct ids. Each of them records one creation at most. -/
theorem Creation.leftUnique_recordedBy {resources : List (String × Resource)}
    (hdistinct : (resources.map Prod.fst).Nodup) :
    Relator.LeftUnique (Creation.RecordedBy resources) := by
  intro first second entry hfirst hsecond
  cases hfirst with
  | keyspace id name =>
    generalize hresource : Resource.keyspace name.text = resource at hsecond
    cases hsecond with
    | keyspace _ other =>
      obtain rfl : name = other := congrArg Identifier.mk (Resource.keyspace.inj hresource)
      rfl
    | table => cases hresource
  | table id hrenders hkeyspace =>
    cases hsecond with
    | table _ hrenders' hkeyspace' =>
      have hvalue := hrenders.keyspaceName_eq.symm.trans hrenders'.keyspaceName_eq
      obtain rfl := Mapping.keyspaceValue_inj hdistinct hkeyspace hkeyspace' hvalue
      rw [Mapping.schemaIn_unique hrenders hrenders']

/-! ### Conversions -/

/-- Assumes: statements that are converted. What they create is recorded by the resources of a
template with the text that the conversion yields. -/
theorem recorded_of_convertStatements {strictness : Strictness} {statements : List Statement}
    {conversion : Conversion}
    (hok : (convertStatements strictness statements).outcome = .ok conversion) :
    ∃ registry ledger, Recorded registry ledger ∧ ledger.creations = creationsOf statements ∧
      conversion.template = registry.template.render := by
  unfold convertStatements at hok
  rw [Report.outcome_bind_eq_ok_iff] at hok
  obtain ⟨_, hrun, hconversion⟩ := hok
  cases hconversion
  exact ⟨_, _, Session.recorded_run statements recorded_empty hrun, rfl, rfl⟩

/-- Conversions lose nothing that a template can tell. If two lists of statements are converted,
each in either strictness, and the templates are the same text, both create the same objects in the
same order: keyspaces with the same names, and tables with the same keyspaces, names, columns in
every group, types, directions and billing modes. -/
theorem convertStatements_lossless {strictness other : Strictness}
    {firsts seconds : List Statement} {first second : Conversion}
    (hfirst : (convertStatements strictness firsts).outcome = .ok first)
    (hsecond : (convertStatements other seconds).outcome = .ok second)
    (hequal : first.template = second.template) : creationsOf firsts = creationsOf seconds := by
  obtain ⟨registry, ledger, hrecorded, hcreations, htext⟩ := recorded_of_convertStatements hfirst
  obtain ⟨registry', ledger', hrecorded', hcreations', htext'⟩ :=
    recorded_of_convertStatements hsecond
  have htemplate : registry.template = registry'.template := by
    refine Template.render_injective ?_
    rw [← htext, ← htext', hequal]
  have hresources : registry.resources = registry'.resources := by
    rw [Registry.resources, htemplate, ← Registry.resources]
  have hsame := hrecorded'.creations_recorded
  rw [← hresources] at hsame
  have hunique := Creation.leftUnique_recordedBy hrecorded.ids_distinct
  rw [← hcreations, ← hcreations']
  exact hunique.forall₂ hrecorded.creations_recorded hsame

/-- A keyspace and a table in it, which is created while the keyspace is in use. -/
def tableInUsedKeyspace : List Statement :=
  [.createKeyspace (Session.plainKeyspace "shop"), .use ⟨"shop"⟩,
    .createTable (Session.oneColumnTable none "orders")]

/-- The same with the keyspace named by the table, and with both creations repeated. -/
def tableInNamedKeyspace : List Statement :=
  let keyspace := Session.plainKeyspace "shop"
  let table := Session.oneColumnTable (some ⟨"shop"⟩) "orders"
  [.createKeyspace keyspace, .createKeyspace { keyspace with ifNotExists := true },
    .createTable table, .createTable { table with ifNotExists := true }]

/-- A keyspace may be in use or named; what is created is the same. -/
theorem convertStatements_lossless_sameTemplate :
    ∃ conversion, (convertStatements .strict tableInUsedKeyspace).outcome = .ok conversion ∧
      (convertStatements .lenient tableInNamedKeyspace).outcome = .ok conversion ∧
      creationsOf tableInUsedKeyspace = creationsOf tableInNamedKeyspace := by
  let template : Template := ⟨⟨[("Keyspace1", .keyspace "shop"),
    ("Table1", .table (Session.oneColumnResource (.reference "Keyspace1") "orders"))]⟩⟩
  have hused : (convertStatements .strict tableInUsedKeyspace).outcome =
      .ok ⟨template.render, []⟩ := by rfl
  have hnamed : (convertStatements .lenient tableInNamedKeyspace).outcome =
      .ok ⟨template.render, []⟩ := by rfl
  exact ⟨_, hused, hnamed, convertStatements_lossless hused hnamed rfl⟩

end SchemaTemplate
