import SchemaTemplate.Proofs.ClauseCounts

/-!
How the parsers read the clauses of a table: its columns, its primary key, and the options that
other things do not have.
-/

set_option autoImplicit false
set_option relaxedAutoImplicit false

namespace SchemaTemplate.Grammar

open SchemaTemplate.Grammar.Parser

/-! ### Columns -/

/-- The declaration of a column, in a definition that says which columns are static. -/
def Clause.column (definition : TableDefinition) (column : Identifier × ColumnType) :
    Clause TableDefinition where
  tokens := columnTokens definition column
  effect built := do
    let built ← built.addColumn column.1 column.2
    if column.1 ∈ definition.staticColumns then built.addStaticColumn column.1 else return built

/-- The mark of a static column. -/
def staticTokens (definition : TableDefinition) (column : Identifier) : List Token :=
  if column ∈ definition.staticColumns then wordsOf [.static] else []

/-- Assumes: a declared column that is made static if it is static in a definition. It is read with
the mark exactly if it is made so. -/
theorem staticMark_staticTokens {definition built next : TableDefinition} {column : Identifier}
    (hmade : (if column ∈ definition.staticColumns then built.addStaticColumn column
      else return built) = .ok next)
    {rest : List Token} (hbehind : Behind rest) :
    staticMark column built (staticTokens definition column ++ rest) = .ok (next, rest) := by
  rw [staticTokens]
  by_cases hstatic : column ∈ definition.staticColumns
  · rw [if_pos hstatic] at hmade ⊢
    rw [staticMark]
    show (acceptWord .static >>= _) (.word Keyword.static.text :: rest) = _
    rw [run_bind (acceptWord_self .static rest)]
    exact run_lift hmade rest
  · rw [if_neg hstatic] at hmade ⊢
    cases hmade
    rw [staticMark, List.nil_append, run_bind (acceptWord_of_lacks (hbehind.lacks (by decide)))]
    rfl

/-- The declaration of a column is read back if its type is well formed. -/
theorem Clause.readBy_column (definition : TableDefinition) {column : Identifier × ColumnType}
    (hwell : column.2.WellFormed) :
    (Clause.column definition column).ReadBy definitionClause := by
  intro built next rest heffect hbehind
  have hperiod : accept .period (staticTokens definition column.1 ++ rest) =
      .ok (false, staticTokens definition column.1 ++ rest) := by
    unfold staticTokens
    split
    · rfl
    · exact hbehind.accept_period
  have htokens : (Clause.column definition column).tokens ++ rest = nameToken column.1 ::
      (typeTokens column.2 ++ (staticTokens definition column.1 ++ rest)) := by
    simp [Clause.column, columnTokens, staticTokens]
  obtain ⟨declared, hadd, hmade⟩ := bind_eq_ok_iff.1 heffect
  rw [htokens, definitionClause, run_bind (acceptWords_of_lacks (lacks_nameToken _ _ _) _),
    if_neg Bool.false_ne_true, columnClause, run_bind (identifier_nameToken _ _),
    run_bind (columnType_typeTokens hwell hperiod), run_bind (run_lift hadd _),
    run_bind (staticMark_staticTokens hmade hbehind), keyMark,
    run_bind (acceptWords_of_lacks (hbehind.lacks (by decide)) _)]
  rfl

/-! ### The primary key -/

/-- A column of the primary key, given how it is added. -/
def Clause.keyColumn
    (add : TableDefinition → Identifier → Except SchemaFault TableDefinition)
    (column : Identifier) : Clause TableDefinition where
  tokens := [nameToken column]
  effect built := add built column

/-- The primary key of a definition. -/
def Clause.primaryKey (definition : TableDefinition) : Clause TableDefinition where
  tokens := primaryKeyTokens definition
  effect built := do
    let built ← built.beginPrimaryKey
    let built ←
      applyAll (definition.partitionKey.map (.keyColumn TableDefinition.addPartitionColumn)) built
    applyAll (definition.clusteringKey.map (.keyColumn TableDefinition.addClusteringColumn)) built

/-- Assumes: a parser that reads a name and adds the column to a key. It reads the columns of the
key. -/
theorem Clause.readBy_keyColumn
    {add : TableDefinition → Identifier → Except SchemaFault TableDefinition}
    {item : TableDefinition → Parser TableDefinition}
    (hitem : ∀ built, item built = identifier >>= fun column ↦ lift (add built column))
    (column : Identifier) : (Clause.keyColumn add column).ReadBy item := by
  intro built next rest heffect _
  show item built (nameToken column :: rest) = _
  rw [hitem, run_bind (identifier_nameToken _ _)]
  exact run_lift heffect rest

/-- Assumes: a parser that reads a name and adds the column to a key, and columns that can be added,
at least one. They are read back with commas between them. -/
theorem commaSeparated_keyColumns
    {add : TableDefinition → Identifier → Except SchemaFault TableDefinition}
    {item : TableDefinition → Parser TableDefinition}
    (hitem : ∀ built, item built = identifier >>= fun column ↦ lift (add built column))
    {columns : List Identifier} (hnonempty : columns ≠ []) {built next : TableDefinition}
    (happly : applyAll (columns.map (.keyColumn add)) built = .ok next) (rest : List Token) :
    commaSeparated item built
        (joined (.symbol .comma) (columns.map fun column ↦ [nameToken column]) ++
          .symbol .rightParenthesis :: rest) =
      .ok (next, .symbol .rightParenthesis :: rest) := by
  have hread : ∀ clause ∈ columns.map (Clause.keyColumn add), clause.ReadBy item := by
    intro clause hmem
    obtain ⟨column, -, rfl⟩ := List.mem_map.1 hmem
    exact Clause.readBy_keyColumn hitem column
  have htokens : (columns.map (Clause.keyColumn add)).map Clause.tokens =
      columns.map fun column ↦ [nameToken column] := by
    rw [List.map_map]
    rfl
  rw [← htokens]
  exact commaSeparated_clauses hread (by simpa using hnonempty) happly .rightParenthesis
    (by simp) rest

/-- Assumes: columns that can be added to the partition key, at least one. They are read back in
parentheses of their own. -/
theorem partitionKey_eq {columns : List Identifier} (hnonempty : columns ≠ [])
    {built next : TableDefinition}
    (happly : applyAll (columns.map (.keyColumn TableDefinition.addPartitionColumn)) built =
      .ok next)
    (rest : List Token) :
    partitionKey built (parenthesized (columns.map fun column ↦ [nameToken column]) ++ rest) =
      .ok (next, rest) := by
  have hitem : ∀ built, partitionColumn built =
      identifier >>= fun column ↦ lift (built.addPartitionColumn column) := fun _ ↦ rfl
  rw [parenthesized_append, partitionKey, run_bind (accept_self _ _)]
  show (commaSeparated _ _ >>= _) _ = _
  rw [run_bind (commaSeparated_keyColumns hitem hnonempty happly rest),
    run_bind (expect_self _ _)]
  rfl

/-- Assumes: columns that can be added to the clustering key. They are read back behind a comma, and
without any comma if there are none. -/
theorem clusteringKey_eq {columns : List Identifier} {built next : TableDefinition}
    (happly : applyAll (columns.map (.keyColumn TableDefinition.addClusteringColumn)) built =
      .ok next)
    (rest : List Token) :
    clusteringKey built ((if columns.isEmpty then [] else .symbol .comma ::
        joined (.symbol .comma) (columns.map fun column ↦ [nameToken column])) ++
          .symbol .rightParenthesis :: rest) =
      .ok (next, .symbol .rightParenthesis :: rest) := by
  cases columns with
  | nil =>
    cases happly
    rfl
  | cons column columns =>
    rw [List.isEmpty_cons, if_neg Bool.false_ne_true, List.cons_append, clusteringKey,
      run_bind (accept_self _ _)]
    exact commaSeparated_keyColumns (fun _ ↦ rfl) (List.cons_ne_nil _ _) happly rest

/-- The primary key is read back if it has a partition key. -/
theorem Clause.readBy_primaryKey {definition : TableDefinition}
    (hnonempty : definition.partitionKey ≠ []) :
    (Clause.primaryKey definition).ReadBy definitionClause := by
  intro built next rest heffect _
  have htokens : (Clause.primaryKey definition).tokens ++ rest = wordsOf [.primary, .key] ++
      .symbol .leftParenthesis ::
        (parenthesized (definition.partitionKey.map fun column ↦ [nameToken column]) ++
          ((if definition.clusteringKey.isEmpty then [] else .symbol .comma ::
            joined (.symbol .comma)
              (definition.clusteringKey.map fun column ↦ [nameToken column])) ++
            .symbol .rightParenthesis :: rest)) := by
    cases hkey : definition.clusteringKey with
    | nil => simp [Clause.primaryKey, primaryKeyTokens, hkey, parenthesized, joined_singleton]
    | cons column columns =>
      simp [Clause.primaryKey, primaryKeyTokens, hkey, parenthesized, joined_cons_cons]
  obtain ⟨begun, hbegin, hkeys⟩ := bind_eq_ok_iff.1 heffect
  obtain ⟨partitioned, hpartition, hclustering⟩ := bind_eq_ok_iff.1 hkeys
  rw [htokens, definitionClause, run_bind (acceptWords_wordsOf _ _), if_pos rfl, primaryKeyClause,
    run_bind (run_lift hbegin _), run_bind (expect_self _ _),
    run_bind (partitionKey_eq hnonempty hpartition _), run_bind (clusteringKey_eq hclustering _),
    run_bind (expect_self _ _)]
  rfl

/-! ### Options of tables -/

theorem direction_of_isWord {direction : Direction} {token : Token}
    (hword : isWord (directionKeyword direction).text token = true) (rest : List Token) :
    Grammar.direction (token :: rest) = .ok (direction, rest) := by
  have hread : ∀ {keyword : Keyword}, isWord keyword.text token = true →
      acceptWord keyword (token :: rest) = .ok (true, rest) :=
    fun hword ↦ acceptWord_eq_true_iff.2 ⟨token, rfl, hword⟩
  cases direction with
  | ascending => exact run_bind (hread hword) _
  | descending =>
    have hother : Lacks .asc (token :: rest) := lacks_of_isWord hword (by decide) rest
    rw [Grammar.direction, run_bind (acceptWord_of_lacks hother), if_neg Bool.false_ne_true]
    exact run_bind (hread hword) _

/-- A clustering column with its direction. -/
def Clause.order (order : Identifier × Direction) : Clause TableDefinition where
  tokens := nameToken order.1 :: wordsOf [directionKeyword order.2]
  effect built := built.addClusteringOrder order.1 order.2

/-- The clustering order. -/
def Clause.clusteringOrder (orders : List (Identifier × Direction)) : Clause TableDefinition where
  tokens := clusteringOrderTokens orders
  effect built := do
    let built ← built.beginClusteringOrder
    applyAll (orders.map .order) built

/-- The request for compact storage. -/
def Clause.compactStorage : Clause TableDefinition where
  tokens := wordsOf [.compact, .storage]
  effect := TableDefinition.requestCompactStorage

/-- A clustering column with its direction, spelled in some way. -/
def Clause.spelledOrder (spelled : List Token × Identifier × Direction) : Clause TableDefinition :=
  { Clause.order spelled.2 with tokens := spelled.1 }

theorem readExactlyBy_spelledOrder {first second : Token} {column : Identifier}
    {direction : Direction} (hname : nameOf? first = some column)
    (hword : isWord (directionKeyword direction).text second = true) :
    (Clause.spelledOrder ([first, second], column, direction)).ReadExactlyBy orderedColumn := by
  intro definition next rest left
  show orderedColumn definition (first :: second :: rest) = _ ↔ _
  rw [orderedColumn, run_bind (identifier_eq_ok_iff.2 ⟨first, rfl, hname⟩),
    run_bind (direction_of_isWord hword rest), run_lift_eq_ok_iff, @eq_comm _ rest]
  rfl

theorem Clause.readBy_order (order : Identifier × Direction) :
    (Clause.order order).ReadBy orderedColumn :=
  (readExactlyBy_spelledOrder rfl (isWord_self _)).readBy

/-- The clustering order is read back if it gives any direction. -/
theorem Clause.readBy_clusteringOrder {orders : List (Identifier × Direction)}
    (hnonempty : orders ≠ []) : (Clause.clusteringOrder orders).ReadBy tableOption := by
  intro built next rest heffect _
  obtain ⟨begun, hbegin, horders⟩ := bind_eq_ok_iff.1 heffect
  have hread : ∀ clause ∈ orders.map Clause.order, clause.ReadBy orderedColumn := by
    intro clause hmem
    obtain ⟨order, -, rfl⟩ := List.mem_map.1 hmem
    exact Clause.readBy_order order
  have hcolumns := commaSeparated_clauses hread (by simpa using hnonempty) horders
    .rightParenthesis (by simp) rest
  have htokens : (Clause.clusteringOrder orders).tokens ++ rest =
      wordsOf [.clustering, .order, .byWord] ++ .symbol .leftParenthesis ::
        (joined (.symbol .comma) ((orders.map Clause.order).map Clause.tokens) ++
          .symbol .rightParenthesis :: rest) := by
    rw [List.map_map, ← parenthesized_append, Clause.clusteringOrder, clusteringOrderTokens,
      List.append_assoc]
    rfl
  rw [htokens, tableOption, run_bind (acceptWords_wordsOf _ _), if_pos rfl, clusteringOrderOption,
    run_bind (run_lift hbegin _), run_bind (expect_self _ _), run_bind hcolumns,
    run_bind (expect_self _ _)]
  rfl

theorem Clause.readBy_compactStorage : Clause.compactStorage.ReadBy tableOption := by
  intro built next rest heffect _
  have hother : Lacks .clustering (wordsOf [.compact, .storage] ++ rest) := by
    rintro _ ⟨⟩
    decide
  rw [Clause.compactStorage, tableOption, run_bind (acceptWords_of_lacks hother _),
    if_neg Bool.false_ne_true, run_bind (acceptWords_wordsOf _ _), if_pos rfl]
  exact run_lift heffect rest

/-- The options of a definition. -/
def tableClauses (definition : TableDefinition) : List (Clause TableDefinition) :=
  (if definition.clusteringOrders.isEmpty then []
    else [.clusteringOrder definition.clusteringOrders]) ++
    (if definition.compactStorage then [.compactStorage] else []) ++
    (settingsClauses definition.settings).map .onTable

theorem tokens_tableClauses (definition : TableDefinition) :
    (tableClauses definition).map Clause.tokens = tableOptionRuns definition := by
  have hsettings : ((settingsClauses definition.settings).map Clause.onTable).map Clause.tokens =
      settingsRuns definition.settings := by
    rw [← tokens_settingsClauses, List.map_map]
    rfl
  rw [tableClauses, tableOptionRuns, List.map_append, List.map_append, hsettings]
  split <;> split <;> rfl

/-- The options of a definition with sound settings are read back. -/
theorem readBy_of_mem_tableClauses {definition : TableDefinition}
    (hsound : definition.settings.Sound) {clause : Clause TableDefinition}
    (hmem : clause ∈ tableClauses definition) : clause.ReadBy tableOption := by
  simp only [tableClauses, List.mem_append, List.mem_map] at hmem
  rcases hmem with (horder | hcompact) | ⟨setting, hsetting, rfl⟩
  · split at horder
    next => cases horder
    next hnonempty =>
      obtain rfl := List.mem_singleton.1 horder
      exact Clause.readBy_clusteringOrder (by simpa using hnonempty)
  · split at hcompact
    next =>
      obtain rfl := List.mem_singleton.1 hcompact
      exact Clause.readBy_compactStorage
    next => cases hcompact
  · exact (isProperty_of_mem_settingsClauses hsound hsetting).readBy_tableOption

/-! ### Definitions -/

/-- The columns and the primary key of a definition. -/
def definingClauses (definition : TableDefinition) : List (Clause TableDefinition) :=
  definition.columns.toList.map (.column definition) ++ [.primaryKey definition]

/-- The columns and the primary key of a definition in parentheses. -/
def definingTokens (definition : TableDefinition) : List Token :=
  parenthesized
    (definition.columns.toList.map (columnTokens definition) ++ [primaryKeyTokens definition])

/-- Assumes: columns and a primary key whose operations can be carried out. They are read back in
parentheses. -/
theorem definitionClauses_eq {definition built next : TableDefinition}
    (htypes : ∀ column ∈ definition.columns.toList, column.2.WellFormed)
    (hnonempty : definition.partitionKey ≠ [])
    (happly : applyAll (definingClauses definition) built = .ok next) (rest : List Token) :
    definitionClauses built (definingTokens definition ++ rest) = .ok (next, rest) := by
  have hread : ∀ clause ∈ definingClauses definition, clause.ReadBy definitionClause := by
    intro clause hmem
    rcases List.mem_append.1 hmem with hcolumn | hkey
    · obtain ⟨column, hdeclared, rfl⟩ := List.mem_map.1 hcolumn
      exact Clause.readBy_column definition (htypes column hdeclared)
    · obtain rfl := List.mem_singleton.1 hkey
      exact Clause.readBy_primaryKey hnonempty
  have hclauses := commaSeparated_clauses hread (by simp [definingClauses]) happly
    .rightParenthesis (by simp) rest
  have htokens : (definingClauses definition).map Clause.tokens =
      definition.columns.toList.map (columnTokens definition) ++ [primaryKeyTokens definition] := by
    rw [definingClauses, List.map_append, List.map_map]
    rfl
  rw [htokens] at hclauses
  rw [definingTokens, parenthesized_append, definitionClauses, run_bind (expect_self _ _),
    run_bind hclauses, run_bind (expect_self _ _)]
  rfl

end SchemaTemplate.Grammar
