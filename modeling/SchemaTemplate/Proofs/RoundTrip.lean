import Mathlib.Tactic.ByContra
import SchemaTemplate.Proofs.StatementReading
import SchemaTemplate.Script.Reading

/-!
Sound statements are read back. The tokens that write a statement contain no semicolon, so a script
that consists of them and of blanks is one stretch, and `Script.outcome_readLexemes_tokensOf` says
that it is read as that statement alone.
-/

set_option autoImplicit false
set_option relaxedAutoImplicit false

namespace SchemaTemplate

open Grammar

/-! ### Semicolons -/

namespace Grammar

/-- A token other than the separator stands in one of the runs. -/
theorem mem_joined_iff {token separator : Token} (hother : token ≠ separator)
    (runs : List (List Token)) : token ∈ joined separator runs ↔ ∃ run ∈ runs, token ∈ run := by
  cases runs with
  | nil => simp [joined, List.intercalate]
  | cons run runs =>
    induction runs generalizing run with
    | nil => simp [joined_singleton]
    | cons next runs ih => simp [joined_cons_cons, hother, ih next]

/-- Whether tokens contain no semicolon. -/
def Unbroken (tokens : List Token) : Prop := .symbol .semicolon ∉ tokens

theorem unbroken_append {first second : List Token} :
    Unbroken (first ++ second) ↔ Unbroken first ∧ Unbroken second := by
  simp [Unbroken]

theorem unbroken_cons {token : Token} {tokens : List Token} :
    Unbroken (token :: tokens) ↔ token ≠ .symbol .semicolon ∧ Unbroken tokens := by
  simp [Unbroken, eq_comm]

theorem unbroken_joined {separator : Token} (hother : separator ≠ .symbol .semicolon)
    {runs : List (List Token)} :
    Unbroken (joined separator runs) ↔ ∀ run ∈ runs, Unbroken run := by
  simp [Unbroken, mem_joined_iff hother.symm]

theorem unbroken_parenthesized {runs : List (List Token)} :
    Unbroken (parenthesized runs) ↔ ∀ run ∈ runs, Unbroken run := by
  rw [parenthesized, unbroken_append, unbroken_cons, unbroken_joined (by decide)]
  simp [Unbroken]

theorem unbroken_wordsOf (keywords : List Keyword) : Unbroken (wordsOf keywords) := by
  simp [Unbroken, wordsOf]

theorem unbroken_qualifiedTokens (keyspace : Option Identifier) (name : Identifier) :
    Unbroken (qualifiedTokens keyspace name) := by
  cases keyspace <;> simp [Unbroken, qualifiedTokens, nameToken]

mutual

theorem unbroken_typeTokens : ∀ type : ColumnType, Unbroken (typeTokens type)
  | .simple name => by simp [Unbroken, typeTokens]
  | .composite kind elements => by
    rw [typeTokens, unbroken_append, unbroken_cons, unbroken_cons, unbroken_joined (by decide)]
    exact ⟨⟨by simp, by simp, unbroken_typesTokens elements⟩, by simp [Unbroken]⟩
  | .user keyspace name => unbroken_qualifiedTokens keyspace name
  | .custom className => by simp [Unbroken, typeTokens]

theorem unbroken_typesTokens : ∀ types : List ColumnType,
    ∀ run ∈ typesTokens types, Unbroken run
  | [], _, hmem => nomatch hmem
  | first :: rest, run, hmem => by
    rcases List.mem_cons.1 hmem with rfl | hmem
    · exact unbroken_typeTokens first
    · exact unbroken_typesTokens rest run hmem

end

theorem unbroken_mapTokens {Value : Type} {write : Value → List Token}
    (hvalue : ∀ value, Unbroken (write value)) (map : OrderedMap String Value) :
    Unbroken (mapTokens write map) := by
  rw [mapTokens, unbroken_append, unbroken_cons, unbroken_joined (by decide)]
  refine ⟨⟨by simp, ?_⟩, by simp [Unbroken]⟩
  intro run hmem
  obtain ⟨entry, -, rfl⟩ := List.mem_map.1 hmem
  rw [unbroken_cons, unbroken_cons]
  exact ⟨by simp, by simp, hvalue entry.2⟩

theorem unbroken_optionsTokens (options : Options) : Unbroken (optionsTokens options) :=
  unbroken_mapTokens (fun option ↦ by simp [Unbroken]) options

theorem unbroken_settingsRuns (settings : Settings) :
    ∀ run ∈ settingsRuns settings, Unbroken run := by
  intro run hmem
  rcases List.mem_append.1 hmem with hregular | hcustom
  · obtain ⟨property, -, rfl⟩ := List.mem_map.1 hregular
    rw [propertyTokens, unbroken_cons, unbroken_cons]
    refine ⟨by simp [nameToken], by simp, ?_⟩
    cases property.2 with
    | text content => simp [Unbroken, valueTokens]
    | options entries => exact unbroken_optionsTokens entries
  · obtain ⟨custom, -, rfl⟩ : ∃ custom, settings.custom = some custom ∧
        customTokens custom = run := by
      simpa using hcustom
    rw [customTokens, unbroken_cons, unbroken_cons]
    exact ⟨by simp [nameToken], by simp, unbroken_mapTokens unbroken_optionsTokens custom⟩

theorem unbroken_withTokens {runs : List (List Token)} (hruns : ∀ run ∈ runs, Unbroken run) :
    Unbroken (withTokens runs) := by
  unfold withTokens
  split
  · simp [Unbroken]
  · rw [unbroken_cons, unbroken_joined (by decide)]
    exact ⟨by simp, hruns⟩

theorem unbroken_columnTokens (definition : TableDefinition) (column : Identifier × ColumnType) :
    Unbroken (columnTokens definition column) := by
  rw [columnTokens, unbroken_append, unbroken_cons]
  refine ⟨⟨by simp [nameToken], unbroken_typeTokens column.2⟩, ?_⟩
  split
  · exact unbroken_wordsOf _
  · simp [Unbroken]

theorem unbroken_primaryKeyTokens (definition : TableDefinition) :
    Unbroken (primaryKeyTokens definition) := by
  have hnames : ∀ columns : List Identifier,
      ∀ run ∈ columns.map fun column ↦ [nameToken column], Unbroken run := by
    intro columns run hmem
    obtain ⟨column, -, rfl⟩ := List.mem_map.1 hmem
    simp [Unbroken, nameToken]
  rw [primaryKeyTokens, unbroken_append, unbroken_parenthesized, List.forall_mem_cons,
    unbroken_parenthesized]
  exact ⟨unbroken_wordsOf _, hnames _, hnames _⟩

theorem unbroken_tableOptionRuns (definition : TableDefinition) :
    ∀ run ∈ tableOptionRuns definition, Unbroken run := by
  intro run hmem
  rcases List.mem_append.1 hmem with hown | hsettings
  · rcases List.mem_append.1 hown with horder | hcompact
    · split at horder
      next => cases horder
      next =>
        obtain rfl := List.mem_singleton.1 horder
        rw [clusteringOrderTokens, unbroken_append, unbroken_parenthesized]
        refine ⟨unbroken_wordsOf _, ?_⟩
        intro run hmem
        obtain ⟨order, -, rfl⟩ := List.mem_map.1 hmem
        exact unbroken_cons.2 ⟨by simp [nameToken], unbroken_wordsOf _⟩
    · split at hcompact
      next =>
        obtain rfl := List.mem_singleton.1 hcompact
        exact unbroken_wordsOf _
      next => cases hcompact
  · exact unbroken_settingsRuns definition.settings run hsettings

/-- A statement is written without any semicolon. -/
theorem unbroken_tokensOf (statement : Statement) : Unbroken (tokensOf statement) := by
  have hexists : ∀ flag, Unbroken (ifNotExistsTokens flag) := by
    intro flag
    cases flag
    · simp [Unbroken, ifNotExistsTokens]
    · exact unbroken_wordsOf _
  cases statement with
  | use keyspace => simp [Unbroken, tokensOf, wordsOf, nameToken]
  | createKeyspace creation =>
    rw [tokensOf, keyspaceTokens, unbroken_append, unbroken_append, unbroken_cons]
    exact ⟨⟨unbroken_wordsOf _, hexists _⟩, by simp [nameToken],
      unbroken_withTokens (unbroken_settingsRuns creation.settings)⟩
  | createTable creation =>
    rw [tokensOf, tableTokens]
    simp only [unbroken_append, unbroken_parenthesized, List.mem_append, List.mem_singleton]
    refine ⟨⟨⟨⟨unbroken_wordsOf _, hexists _⟩, unbroken_qualifiedTokens _ _⟩, ?_⟩,
      unbroken_withTokens (unbroken_tableOptionRuns creation.definition)⟩
    rintro run (hcolumn | rfl)
    · obtain ⟨column, -, rfl⟩ := List.mem_map.1 hcolumn
      exact unbroken_columnTokens _ column
    · exact unbroken_primaryKeyTokens _

end Grammar

/-! ### Stretches of a script -/

theorem Statement.check_of_sound {statement : Statement} (hsound : statement.Sound) :
    statement.check = .ok () := by
  cases statement with
  | use | createKeyspace => rfl
  | createTable creation => exact TableDefinition.check_eq hsound

namespace Script

theorem outcome_logDraft (statement : Statement) : (logDraft statement).outcome = .ok () := by
  cases statement <;> rfl

/-- Assumes: lexemes that write a sound statement. As a stretch of a script they are read as the
statement. -/
theorem outcome_readStatement {statement : Statement} (hsound : statement.Sound)
    {lexemes : List Lexeme}
    (htokens : (significant lexemes).map Lexeme.token = tokensOf statement) :
    (readStatement lexemes).outcome = .ok statement := by
  have hdraft : draft lexemes = .ok statement := by
    rw [draft, htokens, statementOf_tokensOf hsound]
    rfl
  rw [readStatement, Report.outcome_bind_of_ok hdraft,
    Report.outcome_bind_of_ok (outcome_logDraft statement), Statement.check_of_sound hsound]
  rfl

/-- Assumes: lexemes that write a statement. They are the only stretch of their script. -/
theorem statementLexemes_eq {statement : Statement} {lexemes : List Lexeme}
    (htokens : (significant lexemes).map Lexeme.token = tokensOf statement) :
    statementLexemes lexemes = [lexemes] := by
  have hunbroken : ∀ lexeme ∈ lexemes,
      decide (lexeme.token = .symbol .semicolon) = false := by
    intro lexeme hmem
    by_contra hbreak
    have htoken : lexeme.token = .symbol .semicolon := by simpa using hbreak
    have hsignificant : lexeme ∈ significant lexemes :=
      List.mem_filter.2 ⟨hmem, by rw [htoken]; rfl⟩
    have hwritten : lexeme.token ∈ tokensOf statement := htokens ▸ List.mem_map_of_mem hsignificant
    exact unbroken_tokensOf statement (htoken ▸ hwritten)
  have hsome : (significant lexemes).isEmpty = false := by
    cases hnone : significant lexemes with
    | nil =>
      rw [hnone] at htokens
      cases statement <;> cases htokens
    | cons => rfl
  rw [statementLexemes, splitStatements, List.splitOnP_eq_singleton hunbroken,
    List.filter_cons_of_pos (by rw [hsome]; rfl), List.filter_nil]

/-- Parsing undoes printing. Whatever blanks stand between the tokens that write a sound statement,
reading them yields the statement, and a script that consists of them is read as that statement
alone. -/
theorem outcome_readLexemes_tokensOf {statement : Statement} (hsound : statement.Sound)
    {lexemes : List Lexeme}
    (htokens : (significant lexemes).map Lexeme.token = tokensOf statement) :
    (readStatement lexemes).outcome = .ok statement ∧
      (readLexemes lexemes).outcome = .ok [statement] := by
  have hread := outcome_readStatement hsound htokens
  refine ⟨hread, ?_⟩
  rw [readLexemes, statementLexemes_eq htokens, List.mapM_cons, Report.outcome_bind_of_ok hread]
  rfl

/-- A table whose names are words of the grammar, with maps that are empty. -/
def wordyTable : TableCreation where
  keyspace := some ⟨"USE"⟩
  table := ⟨"TABLE"⟩
  ifNotExists := true
  definition := { TableDefinition.empty with
    columns := ⟨[
      (⟨"PRIMARY"⟩, .composite "map" [.simple "text", .composite "list" [.simple "int"]]),
      (⟨"STATIC"⟩, .user none ⟨"KEY"⟩), (⟨"KEY"⟩, .custom "PRIMARY")]⟩
    staticColumns := [⟨"STATIC"⟩]
    partitionKey := [⟨"PRIMARY"⟩]
    clusteringKey := [⟨"KEY"⟩]
    clusteringOrders := [(⟨"KEY"⟩, .descending)]
    primaryKeyGiven := true
    clusteringOrderGiven := true
    settings := ⟨⟨[(⟨"CLUSTERING"⟩, .text "AND"), (⟨"tags"⟩, .options ⟨[]⟩)]⟩,
      some ⟨[("WITH", ⟨[]⟩)]⟩⟩ }

theorem sound_wordyTable : (Statement.createTable wordyTable).Sound where
  consistent :=
    { columns_distinct := by simp [OrderedMap.Distinct, OrderedMap.keys, wordyTable]
      primaryKey_distinct := by decide
      primaryKey_declared := by decide
      static_distinct := by decide
      static_declared := by decide
      static_outside_key := by decide
      orders_in_key_order := by decide }
  partitionKey_nonempty := by decide
  static_in_order := by decide
  static_needs_clustering := by decide
  primaryKey_given := by decide
  order_given := by decide
  types_wellFormed := by
    simp [wordyTable, OrderedMap.toList, ColumnType.WellFormed, ColumnType.AllWellFormed,
      ColumnType.compositeKinds, ColumnType.simpleNames]
  settings_sound :=
    { regular_distinct := by simp [OrderedMap.Distinct, OrderedMap.keys, wordyTable]
      regular_name := by decide
      regular_value := by
        simp [wordyTable, OrderedMap.toList, PropertyValue.Distinct, OrderedMap.Distinct,
          OrderedMap.keys]
      custom_distinct := by simp [OrderedMap.Distinct, OrderedMap.keys, wordyTable]
      custom_value := by
        simp [OrderedMap.Distinct, OrderedMap.toList, OrderedMap.keys, wordyTable] }

/-- Tokens with a blank behind each of them. -/
def spaced (tokens : List Token) : List Lexeme :=
  tokens.flatMap fun token ↦ [⟨token, [], Position.start⟩, ⟨.blank, [' '], Position.start⟩]

/-- Even a table named by nothing but words of the grammar is read back. -/
theorem outcome_readLexemes_wordyTable :
    let lexemes := spaced (tokensOf (.createTable wordyTable))
    (readStatement lexemes).outcome = .ok (.createTable wordyTable) ∧
      (readLexemes lexemes).outcome = .ok [.createTable wordyTable] :=
  outcome_readLexemes_tokensOf sound_wordyTable (by rfl)

end Script

end SchemaTemplate
