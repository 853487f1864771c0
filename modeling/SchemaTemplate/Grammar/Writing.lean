import SchemaTemplate.Grammar.Parser
import SchemaTemplate.Schema.Statement

/-!
Statements as tokens. `Grammar.tokensOf` writes a statement in one of the ways in which the grammar
of statements can read it: keywords and the names of types are plain words, all other names stand in
double quotes and all constants in single quotes. The clauses of a table come in a fixed order, with
the primary key behind the columns.
-/

set_option autoImplicit false
set_option relaxedAutoImplicit false

namespace SchemaTemplate.Grammar

/-! ### Parts -/

/-- Keywords as words. -/
def wordsOf (keywords : List Keyword) : List Token :=
  keywords.map fun keyword ↦ .word keyword.text

/-- A name in double quotes. -/
def nameToken (name : Identifier) : Token := .quotedWord name.text

/-- A name in double quotes, behind the name of its keyspace if that is given. -/
def qualifiedTokens (keyspace : Option Identifier) (name : Identifier) : List Token :=
  match keyspace with
  | some keyspace => [nameToken keyspace, .symbol .period, nameToken name]
  | none => [nameToken name]

/-- Runs of tokens with a separator between them. -/
def joined (separator : Token) (runs : List (List Token)) : List Token :=
  [separator].intercalate runs

/-- Runs of tokens with commas between them, in parentheses. -/
def parenthesized (runs : List (List Token)) : List Token :=
  .symbol .leftParenthesis :: joined (.symbol .comma) runs ++ [.symbol .rightParenthesis]

/-! ### Types -/

mutual

/-- A column type. -/
def typeTokens : ColumnType → List Token
  | .simple name => [.word name]
  | .composite kind elements =>
    .word kind :: .symbol .less :: joined (.symbol .comma) (typesTokens elements) ++
      [.symbol .greater]
  | .user keyspace name => qualifiedTokens keyspace name
  | .custom className => [.string className]

/-- Several column types. -/
def typesTokens : List ColumnType → List (List Token)
  | [] => []
  | first :: rest => typeTokens first :: typesTokens rest

end

/-! ### Properties -/

/-- A map in braces, given the tokens of its values. -/
def mapTokens {Value : Type} (value : Value → List Token) (map : OrderedMap String Value) :
    List Token :=
  let entry (item : String × Value) : List Token :=
    .string item.1 :: .symbol .colon :: value item.2
  .symbol .leftBrace :: joined (.symbol .comma) (map.toList.map entry) ++ [.symbol .rightBrace]

/-- The options of a property. -/
def optionsTokens (options : Options) : List Token :=
  mapTokens (fun option ↦ [.string option]) options

/-- The value of a regular property. -/
def valueTokens : PropertyValue → List Token
  | .text content => [.string content]
  | .options entries => optionsTokens entries

/-- A regular property. -/
def propertyTokens (property : Identifier × PropertyValue) : List Token :=
  nameToken property.1 :: .symbol .equals :: valueTokens property.2

/-- The block of custom properties. -/
def customTokens (custom : CustomProperties) : List Token :=
  nameToken ⟨Settings.customPropertiesName⟩ :: .symbol .equals :: mapTokens optionsTokens custom

/-- The properties of a keyspace or a table, each as one run of tokens. -/
def settingsRuns (settings : Settings) : List (List Token) :=
  settings.regular.toList.map propertyTokens ++ (settings.custom.map customTokens).toList

/-- Options behind the word `WITH`, if there are any. -/
def withTokens (options : List (List Token)) : List Token :=
  if options.isEmpty then []
  else .word Keyword.withWord.text :: joined (.word Keyword.andWord.text) options

/-! ### Tables -/

/-- A column with its type, and with the mark of a static column if it is one. -/
def columnTokens (definition : TableDefinition) (column : Identifier × ColumnType) :
    List Token :=
  nameToken column.1 :: typeTokens column.2 ++
    if column.1 ∈ definition.staticColumns then wordsOf [.static] else []

/-- The clause of the primary key. -/
def primaryKeyTokens (definition : TableDefinition) : List Token :=
  let names (columns : List Identifier) : List (List Token) :=
    columns.map fun column ↦ [nameToken column]
  wordsOf [.primary, .key] ++
    parenthesized (parenthesized (names definition.partitionKey) :: names definition.clusteringKey)

/-- The keyword for a direction. -/
def directionKeyword : Direction → Keyword
  | .ascending => .asc
  | .descending => .desc

/-- The clause of the clustering order. -/
def clusteringOrderTokens (orders : List (Identifier × Direction)) : List Token :=
  let ordered (order : Identifier × Direction) : List Token :=
    nameToken order.1 :: wordsOf [directionKeyword order.2]
  wordsOf [.clustering, .order, .byWord] ++ parenthesized (orders.map ordered)

/-- The options of a table, each as one run of tokens. -/
def tableOptionRuns (definition : TableDefinition) : List (List Token) :=
  (if definition.clusteringOrders.isEmpty then []
    else [clusteringOrderTokens definition.clusteringOrders]) ++
    (if definition.compactStorage then [wordsOf [.compact, .storage]] else []) ++
    settingsRuns definition.settings

/-! ### Statements -/

/-- The words that leave alone what exists already. -/
def ifNotExistsTokens (ifNotExists : Bool) : List Token :=
  if ifNotExists then wordsOf [.ifWord, .notWord, .existsWord] else []

/-- The creation of a keyspace. -/
def keyspaceTokens (creation : KeyspaceCreation) : List Token :=
  wordsOf [.create, .keyspace] ++ ifNotExistsTokens creation.ifNotExists ++
    nameToken creation.keyspace :: withTokens (settingsRuns creation.settings)

/-- The creation of a table. -/
def tableTokens (creation : TableCreation) : List Token :=
  let definition := creation.definition
  wordsOf [.create, .table] ++ ifNotExistsTokens creation.ifNotExists ++
    qualifiedTokens creation.keyspace creation.table ++
    parenthesized
      (definition.columns.toList.map (columnTokens definition) ++ [primaryKeyTokens definition]) ++
    withTokens (tableOptionRuns definition)

/-- A statement. -/
def tokensOf : Statement → List Token
  | .use keyspace => wordsOf [.use] ++ [nameToken keyspace]
  | .createKeyspace creation => keyspaceTokens creation
  | .createTable creation => tableTokens creation

end SchemaTemplate.Grammar
