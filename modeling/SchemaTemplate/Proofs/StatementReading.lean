import Mathlib.Data.List.Perm.Subperm
import Mathlib.Tactic.ByContra
import SchemaTemplate.Proofs.TableReading

/-!
How the grammar of statements reads what `Grammar.tokensOf` writes. The operations that the clauses
of a sound statement stand for can be carried out in the order of the clauses, and they build up
what the statement defines: columns come before the key that they are in, the key before its
directions. Together with the reading of single clauses this gives `Grammar.statementOf_tokensOf`.
-/

set_option autoImplicit false
set_option relaxedAutoImplicit false

namespace SchemaTemplate

open Grammar Grammar.Parser

/-! ### Settings -/

namespace Settings

/-- Sound settings are built up by their properties. -/
theorem applyAll_settingsClauses {settings : Settings} (hsound : settings.Sound) :
    applyAll (settingsClauses settings) .empty = .ok settings := by
  obtain ⟨regular, custom⟩ := settings
  have hregular : applyAll (regular.toList.map Clause.regular) .empty = .ok ⟨regular, none⟩ := by
    refine applyAll_map (fun entries ↦ Settings.mk ⟨entries⟩ none) ?_
    intro before entry after hsplit
    show Settings.addProperty _ _ _ = _
    rw [addProperty, OrderedMap.define_of_distinct hsound.regular_distinct hsplit]
    rfl
  refine applyAll_append hregular ?_
  cases custom <;> rfl

end Settings

namespace TableDefinition

/-- Assumes: operations on settings that can be carried out. They can be carried out on those of a
definition, and change nothing else of it. -/
theorem applyAll_onTable {clauses : List (Clause Settings)} {definition : TableDefinition}
    {settings : Settings} (happly : applyAll clauses definition.settings = .ok settings) :
    applyAll (clauses.map .onTable) definition = .ok { definition with settings } := by
  induction clauses generalizing definition with
  | nil =>
    cases happly
    rfl
  | cons clause clauses ih =>
    rw [applyAll_cons_eq_ok_iff] at happly
    obtain ⟨between, heffect, hrest⟩ := happly
    rw [List.map_cons, applyAll_cons_eq_ok_iff]
    refine ⟨{ definition with settings := between }, ?_, ih hrest⟩
    show definition.updateSettings clause.effect = _
    rw [updateSettings, heffect]
    rfl

/-! ### Columns -/

/-- Items of a list without repetitions that come in its order are found by going through it. -/
theorem filter_eq_of_sublist {Item : Type} [DecidableEq Item] {items all : List Item}
    (hsublist : items.Sublist all) (hdistinct : all.Nodup) :
    all.filter (· ∈ items) = items := by
  have hfound : items.Sublist (all.filter (· ∈ items)) := by
    have hfiltered := hsublist.filter (· ∈ items)
    rwa [List.filter_eq_self.2 (by simp)] at hfiltered
  have hsubset : all.filter (· ∈ items) ⊆ items := by
    intro item hitem
    simpa using (List.mem_filter.1 hitem).2
  have hlength := (List.subperm_of_subset (hdistinct.filter _) hsubset).length_le
  exact (hfound.eq_of_length_le hlength).symm

/-- Assumes: a definition without a primary key in which a column was just declared. It can be made
static if it is not yet. -/
theorem addStaticColumn_eq {definition : TableDefinition} {column : Identifier}
    (hdeclared : column ∈ definition.columns.keys) (hkey : definition.primaryKey = [])
    (hnew : column ∉ definition.staticColumns) : definition.addStaticColumn column =
      .ok { definition with staticColumns := definition.staticColumns ++ [column] } := by
  have hcontains := (definition.columns.contains_iff column).2 hdeclared
  simp [addStaticColumn, hcontains, hkey, hnew]

/-- A definition that declares some columns of another, of which the static ones are marked. -/
def declaring (definition : TableDefinition) (columns : List (Identifier × ColumnType)) :
    TableDefinition :=
  { TableDefinition.empty with
    columns := ⟨columns⟩
    staticColumns := (columns.map Prod.fst).filter (· ∈ definition.staticColumns) }

/-- Assumes: the first columns of a definition and the next one. The clause of the next column
declares it in addition to them. -/
theorem effect_column {definition : TableDefinition} (hdistinct : definition.columns.Distinct)
    {before after : List (Identifier × ColumnType)} {column : Identifier × ColumnType}
    (hsplit : definition.columns.entries = before ++ column :: after) :
    (Clause.column definition column).effect (definition.declaring before) =
      .ok (definition.declaring (before ++ [column])) := by
  have hadd : (definition.declaring before).addColumn column.1 column.2 =
      .ok { definition.declaring before with columns := ⟨before ++ [column]⟩ } := by
    rw [addColumn, declaring, OrderedMap.add_of_distinct hdistinct hsplit]
    rfl
  show ((definition.declaring before).addColumn column.1 column.2 >>= _) = _
  rw [hadd, bind_eq_ok_iff]
  refine ⟨_, rfl, ?_⟩
  by_cases hstatic : column.1 ∈ definition.staticColumns
  · have hnew : column.1 ∉ before.map Prod.fst := by
      rw [OrderedMap.Distinct, OrderedMap.keys, hsplit, List.map_append, List.map_cons] at hdistinct
      exact notMem_of_nodup_append hdistinct
    rw [if_pos hstatic, addStaticColumn_eq (by simp [OrderedMap.keys]) rfl
      (fun hmem ↦ hnew (List.mem_filter.1 hmem).1)]
    simp [declaring, hstatic]
  · rw [if_neg hstatic]
    simp [declaring, hstatic, pure, Except.pure]

/-- The clauses of the columns build up the columns, of which the static ones are marked. -/
theorem applyAll_columns {definition : TableDefinition} (hsound : definition.Sound) :
    applyAll (definition.columns.toList.map (.column definition)) .empty =
      .ok { TableDefinition.empty with
        columns := definition.columns, staticColumns := definition.staticColumns } := by
  have hdistinct := hsound.consistent.columns_distinct
  have hstatics := filter_eq_of_sublist hsound.static_in_order hdistinct
  have hall : applyAll (definition.columns.toList.map (.column definition))
      (definition.declaring []) = .ok (definition.declaring definition.columns.toList) :=
    applyAll_map definition.declaring fun _ _ _ hsplit ↦ effect_column hdistinct hsplit
  refine hall.trans ?_
  rw [declaring, show definition.columns.toList.map Prod.fst = definition.columns.keys from rfl,
    hstatics]
  rfl

/-! ### The primary key -/

/-- Assumes: a declared column that is neither static nor in the primary key. It may be added to the
key. -/
theorem checkKeyColumn_eq {definition : TableDefinition} {column : Identifier}
    (hdeclared : column ∈ definition.columns.keys) (hstatic : column ∉ definition.staticColumns)
    (hnew : column ∉ definition.primaryKey) : definition.checkKeyColumn column = .ok () := by
  have hcontains := (definition.columns.contains_iff column).2 hdeclared
  simp [checkKeyColumn, hcontains, hstatic, hnew]

/-- A definition with the columns of another and a primary key. -/
def withKey (definition : TableDefinition) (partitionKey clusteringKey : List Identifier) :
    TableDefinition :=
  { TableDefinition.empty with
    columns := definition.columns
    staticColumns := definition.staticColumns
    primaryKeyGiven := true
    partitionKey
    clusteringKey }

/-- Assumes: a column of the primary key. It may be added to any key that it is not in. -/
theorem checkKeyColumn_withKey {definition : TableDefinition} (hsound : definition.Sound)
    {column : Identifier} (hmem : column ∈ definition.primaryKey)
    {partition clustering : List Identifier} (hnew : column ∉ partition ++ clustering) :
    (definition.withKey partition clustering).checkKeyColumn column = .ok () :=
  checkKeyColumn_eq (hsound.consistent.primaryKey_declared column hmem)
    (fun hstatic ↦ hsound.consistent.static_outside_key column hstatic hmem) hnew

/-- The columns of the partition key are added one after the other. -/
theorem applyAll_partitionKey {definition : TableDefinition} (hsound : definition.Sound) :
    applyAll (definition.partitionKey.map (.keyColumn addPartitionColumn))
        (definition.withKey [] []) =
      .ok (definition.withKey definition.partitionKey []) := by
  have hdistinct := hsound.consistent.primaryKey_distinct
  refine applyAll_map (definition.withKey · []) fun before column after hsplit ↦ ?_
  have hmem : column ∈ definition.primaryKey := by simp [primaryKey, hsplit]
  have hnew : column ∉ before ++ [] := by
    rw [primaryKey, hsplit, List.append_assoc, List.cons_append] at hdistinct
    rw [List.append_nil]
    exact notMem_of_nodup_append hdistinct
  show addPartitionColumn _ _ = _
  rw [addPartitionColumn, checkKeyColumn_withKey hsound hmem hnew]
  rfl

/-- The columns of the clustering key are added behind those of the partition key. -/
theorem applyAll_clusteringKey {definition : TableDefinition} (hsound : definition.Sound) :
    applyAll (definition.clusteringKey.map (.keyColumn addClusteringColumn))
        (definition.withKey definition.partitionKey []) =
      .ok (definition.withKey definition.partitionKey definition.clusteringKey) := by
  have hdistinct := hsound.consistent.primaryKey_distinct
  refine applyAll_map (definition.withKey definition.partitionKey)
    fun before column after hsplit ↦ ?_
  have hmem : column ∈ definition.primaryKey := by simp [primaryKey, hsplit]
  have hnew : column ∉ definition.partitionKey ++ before := by
    rw [primaryKey, hsplit, ← List.append_assoc] at hdistinct
    exact notMem_of_nodup_append hdistinct
  show addClusteringColumn _ _ = _
  rw [addClusteringColumn, checkKeyColumn_withKey hsound hmem hnew]
  rfl

/-- The clause of the primary key builds up the key. -/
theorem effect_primaryKey {definition : TableDefinition} (hsound : definition.Sound) :
    (Clause.primaryKey definition).effect { TableDefinition.empty with
        columns := definition.columns, staticColumns := definition.staticColumns } =
      .ok (definition.withKey definition.partitionKey definition.clusteringKey) := by
  show (Except.ok (definition.withKey [] []) >>= _) = _
  rw [bind_eq_ok_iff]
  refine ⟨_, rfl, ?_⟩
  rw [applyAll_partitionKey hsound]
  exact applyAll_clusteringKey hsound

/-! ### Options -/

/-- Assumes: a column of the clustering key that comes behind all that have a direction. It may be
given one. -/
theorem addClusteringOrder_eq {definition : TableDefinition} {column : Identifier}
    {after : List Identifier} (hdistinct : definition.clusteringKey.Nodup)
    (hkey : definition.clusteringKey =
      definition.clusteringOrders.map Prod.fst ++ column :: after) (direction : Direction) :
    definition.addClusteringOrder column direction = .ok { definition with
      clusteringOrders := definition.clusteringOrders ++ [(column, direction)] } := by
  have hnone : definition.direction? column = none := by
    rw [hkey] at hdistinct
    rw [direction?, List.lookup_eq_none_iff]
    intro order horder
    have hother : column ≠ order.1 := by
      rintro rfl
      exact notMem_of_nodup_append hdistinct (List.mem_map_of_mem horder)
    simpa using hother
  have hdue : definition.clusteringKey.drop definition.clusteringOrders.length =
      column :: after := by
    rw [hkey, List.drop_left' (by simp)]
  have hmem : column ∈ definition.clusteringKey := by simp [hkey]
  simp [addClusteringOrder, hmem, hnone, hdue]

/-- A definition with a clustering order. -/
def withOrders (definition : TableDefinition) (orders : List (Identifier × Direction)) :
    TableDefinition :=
  { definition with clusteringOrderGiven := true, clusteringOrders := orders }

/-- Assumes: directions for the first columns of a clustering key without repetitions. The clause of
the clustering order gives them. -/
theorem effect_clusteringOrder {definition : TableDefinition}
    {orders : List (Identifier × Direction)} (hdistinct : definition.clusteringKey.Nodup)
    (horders : orders.map Prod.fst <+: definition.clusteringKey)
    (hgiven : definition.clusteringOrderGiven = false) (hnone : definition.clusteringOrders = []) :
    (Clause.clusteringOrder orders).effect definition = .ok (definition.withOrders orders) := by
  have hbegin : definition.beginClusteringOrder = .ok (definition.withOrders []) := by
    simp [beginClusteringOrder, withOrders, hgiven, hnone]
  show (definition.beginClusteringOrder >>= _) = _
  rw [hbegin, bind_eq_ok_iff]
  refine ⟨_, rfl, applyAll_map definition.withOrders fun before order after hsplit ↦ ?_⟩
  obtain ⟨rest, hrest⟩ := horders
  have hkey : (definition.withOrders before).clusteringKey =
      (definition.withOrders before).clusteringOrders.map Prod.fst ++
        order.1 :: (after.map Prod.fst ++ rest) := by
    rw [withOrders, ← hrest, hsplit]
    simp
  have hcolumns : (definition.withOrders before).clusteringKey.Nodup := hdistinct
  exact addClusteringOrder_eq hcolumns hkey order.2

/-- A definition without its compact storage and its settings. -/
def unsettled (definition : TableDefinition) : TableDefinition :=
  { definition with compactStorage := false, settings := .empty }

/-- The clause of the clustering order, if there is one, gives the directions. -/
theorem applyAll_order {definition : TableDefinition} (hsound : definition.Sound) :
    applyAll (if definition.clusteringOrders.isEmpty then []
      else [.clusteringOrder definition.clusteringOrders])
        (definition.withKey definition.partitionKey definition.clusteringKey) =
      .ok definition.unsettled := by
  have hkey := hsound.primaryKey_given
  cases hgiven : definition.clusteringOrderGiven with
  | false =>
    have hnone : definition.clusteringOrders = [] := by
      by_contra hsome
      have hbegun := hsound.order_given.2 hsome
      rw [hgiven] at hbegun
      cases hbegun
    simp [unsettled, hkey, hgiven, hnone, withKey, TableDefinition.empty]
  | true =>
    have hsome := hsound.order_given.1 hgiven
    have hdistinct : (definition.withKey definition.partitionKey
        definition.clusteringKey).clusteringKey.Nodup :=
      (List.nodup_append.1 hsound.consistent.primaryKey_distinct).2.1
    rw [if_neg (by simpa using hsome), applyAll_singleton,
      effect_clusteringOrder hdistinct hsound.consistent.orders_in_key_order rfl rfl]
    simp [unsettled, hkey, hgiven, withKey, withOrders, TableDefinition.empty]

/-- The clauses of the options complete the definition. -/
theorem applyAll_tableClauses {definition : TableDefinition} (hsound : definition.Sound) :
    applyAll (tableClauses definition)
        (definition.withKey definition.partitionKey definition.clusteringKey) =
      .ok definition := by
  have hcompact : applyAll (if definition.compactStorage then [.compactStorage] else [])
      definition.unsettled =
        .ok { definition.unsettled with compactStorage := definition.compactStorage } := by
    cases definition.compactStorage with
    | false => rfl
    | true => rfl
  have hsettings : applyAll ((settingsClauses definition.settings).map .onTable)
      { definition.unsettled with compactStorage := definition.compactStorage } =
        .ok definition :=
    applyAll_onTable (Settings.applyAll_settingsClauses hsound.settings_sound)
  exact applyAll_append (applyAll_append (applyAll_order hsound) hcompact) hsettings

/-- The clauses of a sound definition build it up. -/
theorem applyAll_definingClauses {definition : TableDefinition} (hsound : definition.Sound) :
    applyAll (definingClauses definition) .empty =
      .ok (definition.withKey definition.partitionKey definition.clusteringKey) := by
  rw [definingClauses]
  refine applyAll_append (applyAll_columns hsound) ?_
  rw [applyAll_singleton, effect_primaryKey hsound]

/-- A sound definition is complete. -/
theorem check_eq {definition : TableDefinition} (hsound : definition.Sound) :
    definition.check = .ok () := by
  have hpartition := hsound.partitionKey_nonempty
  have hstatic := hsound.static_needs_clustering
  cases hkey : definition.clusteringKey with
  | nil => simp [check, hpartition, hkey, hstatic hkey]
  | cons => simp [check, hpartition, hkey]

end TableDefinition

/-! ### Statements -/

namespace Grammar

/-- Assumes: options whose operations can be carried out. They are read back behind the word `WITH`,
and without it if there are none. -/
theorem withOptions_withTokens {State : Type} {option : State → Parser State}
    {clauses : List (Clause State)} (hread : ∀ clause ∈ clauses, clause.ReadBy option)
    {state next : State} (happly : applyAll clauses state = .ok next) :
    withOptions option state (withTokens (clauses.map Clause.tokens)) = .ok (next, []) := by
  cases clauses with
  | nil =>
    cases happly
    rfl
  | cons clause clauses =>
    have hbehind : Behind [] := by simp [Behind]
    have hlast : acceptWord .andWord [] = .ok (false, []) := rfl
    have hoptions := separated_clauses separates_and hread (List.cons_ne_nil _ _) happly hbehind
      hlast
    rw [List.append_nil] at hoptions
    rw [withTokens, List.map_cons, List.isEmpty_cons, if_neg Bool.false_ne_true, ← List.map_cons,
      withOptions, run_bind (acceptWord_self _ _)]
    exact hoptions

theorem ifNotExists_ifNotExistsTokens (flag : Bool) {rest : List Token}
    (hlacks : Lacks .ifWord rest) :
    ifNotExists (ifNotExistsTokens flag ++ rest) = .ok (flag, rest) := by
  cases flag with
  | true =>
    show ifNotExists (.word Keyword.ifWord.text :: .word Keyword.notWord.text ::
      .word Keyword.existsWord.text :: rest) = _
    rw [ifNotExists, run_bind (acceptWord_self _ _)]
    show (expectWord .notWord >>= _) _ = _
    rw [run_bind (expectWord_self _ _), run_bind (expectWord_self _ _)]
    rfl
  | false =>
    rw [ifNotExists, ifNotExistsTokens, if_neg Bool.false_ne_true, List.nil_append,
      run_bind (acceptWord_of_lacks hlacks)]
    rfl

/-- The creation of a keyspace with sound settings is read back. -/
theorem keyspaceStatement_eq {creation : KeyspaceCreation} (hsound : creation.settings.Sound) :
    keyspaceStatement (ifNotExistsTokens creation.ifNotExists ++
        nameToken creation.keyspace :: withTokens (settingsRuns creation.settings)) =
      .ok (.createKeyspace creation, []) := by
  have hread : ∀ clause ∈ settingsClauses creation.settings, clause.ReadBy keyspaceOption := by
    intro clause hmem
    exact (isProperty_of_mem_settingsClauses hsound hmem).readBy_keyspaceOption
  have hoptions := withOptions_withTokens hread (Settings.applyAll_settingsClauses hsound)
  rw [tokens_settingsClauses] at hoptions
  rw [keyspaceStatement,
    run_bind (ifNotExists_ifNotExistsTokens _ (lacks_nameToken _ _ _)),
    run_bind (identifier_nameToken _ _), run_bind hoptions]
  rfl

/-- The creation of a table with a sound definition is read back. -/
theorem tableStatement_eq {creation : TableCreation} (hsound : creation.definition.Sound) :
    tableStatement (ifNotExistsTokens creation.ifNotExists ++
        (qualifiedTokens creation.keyspace creation.table ++
          (definingTokens creation.definition ++
            withTokens (tableOptionRuns creation.definition)))) =
      .ok (.createTable creation, []) := by
  have hread : ∀ clause ∈ tableClauses creation.definition, clause.ReadBy tableOption := by
    intro clause hmem
    exact readBy_of_mem_tableClauses hsound.settings_sound hmem
  have hoptions := withOptions_withTokens hread (TableDefinition.applyAll_tableClauses hsound)
  rw [tokens_tableClauses] at hoptions
  have hlacks : Lacks .ifWord (qualifiedTokens creation.keyspace creation.table ++
      (definingTokens creation.definition ++
        withTokens (tableOptionRuns creation.definition))) := by
    cases creation.keyspace <;> exact lacks_nameToken _ _ _
  rw [tableStatement, run_bind (ifNotExists_ifNotExistsTokens _ hlacks),
    run_bind (qualifiedName_qualifiedTokens rfl _ _)]
  have hdefinition := definitionClauses_eq hsound.types_wellFormed hsound.partitionKey_nonempty
    (TableDefinition.applyAll_definingClauses hsound)
  show (definitionClauses .empty >>= _) _ = _
  rw [run_bind (hdefinition _), run_bind hoptions]
  rfl

/-- What follows the words that begin the creation of a table is read as one. -/
theorem statement_eq_tableStatement {first second : Token} {kind : Keyword}
    (hcreate : isWord Keyword.create.text first = true) (hkind : kind ∈ [.table, .columnFamily])
    (hsecond : isWord kind.text second = true) (rest : List Token) :
    Grammar.statement (first :: second :: rest) = tableStatement rest := by
  have hother : ∀ {keyword : Keyword}, keyword ≠ kind →
      acceptWord keyword (second :: rest) = .ok (false, second :: rest) :=
    fun hother ↦ acceptWord_of_lacks (lacks_of_isWord hsecond hother rest)
  have hread : acceptWord kind (second :: rest) = .ok (true, rest) :=
    acceptWord_eq_true_iff.2 ⟨second, rfl, hsecond⟩
  rw [Grammar.statement, run_bind (acceptWord_of_lacks (lacks_of_isWord hcreate (by decide) _)),
    if_neg Bool.false_ne_true, run_bind (acceptWord_eq_true_iff.2 ⟨first, rfl, hcreate⟩),
    if_pos rfl]
  simp only [List.mem_cons, List.not_mem_nil, or_false] at hkind
  obtain rfl | rfl := hkind
  · rw [run_bind (hother (by decide)), if_neg Bool.false_ne_true, run_bind (hother (by decide)),
      if_neg Bool.false_ne_true, run_bind hread, if_pos rfl]
  · rw [run_bind (hother (by decide)), if_neg Bool.false_ne_true, run_bind (hother (by decide)),
      if_neg Bool.false_ne_true, run_bind (hother (by decide)), if_neg Bool.false_ne_true,
      run_bind hread, if_pos rfl]

/-- A sound statement is read back from its tokens. -/
theorem statementOf_tokensOf {statement : Statement} (hsound : statement.Sound) :
    statementOf (tokensOf statement) = .ok statement := by
  suffices hread : Grammar.statement (tokensOf statement) = .ok (statement, []) by
    rw [statementOf]
    show (Prod.fst <$> Grammar.statement (tokensOf statement) : Except _ _) = _
    rw [hread]
    rfl
  have hcreate : ∀ rest, Lacks .use (.word Keyword.create.text :: rest) :=
    lacks_of_isWord (isWord_self _) (by decide)
  cases statement with
  | use keyspace =>
    rw [tokensOf, Grammar.statement]
    show (acceptWord .use >>= _) (.word Keyword.use.text :: nameToken keyspace :: []) = _
    rw [run_bind (acceptWord_self _ _)]
    rfl
  | createKeyspace creation =>
    have htokens : tokensOf (.createKeyspace creation) = .word Keyword.create.text ::
        .word Keyword.keyspace.text :: (ifNotExistsTokens creation.ifNotExists ++
          nameToken creation.keyspace :: withTokens (settingsRuns creation.settings)) := by
      simp [tokensOf, keyspaceTokens, wordsOf]
    rw [htokens, Grammar.statement, run_bind (acceptWord_of_lacks (hcreate _)),
      if_neg Bool.false_ne_true, run_bind (acceptWord_self _ _), if_pos rfl,
      run_bind (acceptWord_self _ _)]
    exact keyspaceStatement_eq hsound
  | createTable creation =>
    have htokens : tokensOf (.createTable creation) = .word Keyword.create.text ::
        .word Keyword.table.text :: (ifNotExistsTokens creation.ifNotExists ++
          (qualifiedTokens creation.keyspace creation.table ++
            (definingTokens creation.definition ++
              withTokens (tableOptionRuns creation.definition)))) := by
      simp [tokensOf, tableTokens, definingTokens, wordsOf]
    rw [htokens, statement_eq_tableStatement (isWord_self _) (by simp) (isWord_self _)]
    exact tableStatement_eq hsound

end Grammar

end SchemaTemplate
