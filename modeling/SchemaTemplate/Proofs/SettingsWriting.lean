import SchemaTemplate.Proofs.ConstantPlaces

/-!
What writes the settings of a statement. `Grammar.WritesSettings` says, without any parser, which
tokens write which settings, down to each constant and the tokens that it is written with
(`Grammar.WritesConstant`). The tokens of a statement that is read write its settings
(`Grammar.writesSettings_of_statementOf`).
-/

set_option autoImplicit false
set_option relaxedAutoImplicit false

namespace SchemaTemplate

/-- The settings that a statement gives. -/
def Statement.settings : Statement → Settings
  | use _ => .empty
  | createKeyspace creation => creation.settings
  | createTable creation => creation.definition.settings

namespace Grammar

open SchemaTemplate.Grammar.Parser

variable {Value : Type} {tokens rest used : List Token}

/-! ### Constants, maps and properties -/

/-- Whether tokens write a constant with a text: a text in quotes, a bare word, or a number, which
may have a sign in front of it. -/
inductive WritesConstant : List Token → String → Prop
  | quoted (text : String) : WritesConstant [.string text] text
  | word (text : String) : WritesConstant [.word text] text
  | number (digits : String) (long : Bool) : WritesConstant [.number digits long] digits
  | negative (digits : String) (long : Bool) :
    WritesConstant [.symbol .minus, .number digits long] ("-" ++ digits)

/-- Whether tokens write the entries of a map, with commas between them. -/
inductive WritesEntries (Writes : List Token → Value → Prop) :
    List Token → List (String × Value) → Prop
  | last {used more : List Token} {key : String} {value : Value} (hkey : WritesConstant used key)
    (hvalue : Writes more value) :
    WritesEntries Writes (used ++ .symbol .colon :: more) [(key, value)]
  | more {used more others : List Token} {key : String} {value : Value}
    {entries : List (String × Value)} (hkey : WritesConstant used key) (hvalue : Writes more value)
    (hentries : WritesEntries Writes others entries) :
    WritesEntries Writes (used ++ .symbol .colon :: (more ++ .symbol .comma :: others))
      ((key, value) :: entries)

/-- Whether tokens write a map in braces. -/
inductive WritesMap (Writes : List Token → Value → Prop) :
    List Token → OrderedMap String Value → Prop
  | empty : WritesMap Writes [.symbol .leftBrace, .symbol .rightBrace] .empty
  | entries {inner : List Token} {map : OrderedMap String Value}
    (hentries : WritesEntries Writes inner map.entries) :
    WritesMap Writes (.symbol .leftBrace :: (inner ++ [.symbol .rightBrace])) map

/-- Whether tokens write the value of a regular property. -/
inductive WritesValue : List Token → PropertyValue → Prop
  | text {used : List Token} {text : String} (hconstant : WritesConstant used text) :
    WritesValue used (.text text)
  | options {used : List Token} {entries : Options}
    (hentries : WritesMap WritesConstant used entries) : WritesValue used (.options entries)

/-- Whether tokens write an item behind the word `WITH`, with the settings in front of it and those
behind it. Items other than properties change no settings and hold no marks of constants. -/
inductive WritesItem : List Token → (settings next : Settings) → Prop
  | regular {token : Token} {name : Identifier} {used : List Token} {value : PropertyValue}
    {settings : Settings} (hname : nameOf? token = some name)
    (hregular : name.text ≠ Settings.customPropertiesName) (hvalue : WritesValue used value) :
    WritesItem (token :: .symbol .equals :: used) settings
      { settings with regular := ⟨settings.regular.entries ++ [(name, value)]⟩ }
  | custom {token : Token} {name : Identifier} {used : List Token} {custom : CustomProperties}
    {settings : Settings} (hname : nameOf? token = some name)
    (hcustom : name.text = Settings.customPropertiesName)
    (hblock : WritesMap (WritesMap WritesConstant) used custom) (hfirst : settings.custom = none) :
    WritesItem (token :: .symbol .equals :: used) settings { settings with custom := some custom }
  | other {used : List Token} {settings : Settings} (hunmarked : Unmarked used) :
    WritesItem used settings settings

/-- Whether tokens write items with the word `AND` between them. -/
inductive WritesItems : List Token → (settings next : Settings) → Prop
  | last {used : List Token} {settings next : Settings} (hitem : WritesItem used settings next) :
    WritesItems used settings next
  | more {used others : List Token} {token : Token} {settings between next : Settings}
    (hitem : WritesItem used settings between) (hand : isWord Keyword.andWord.text token = true)
    (hitems : WritesItems others between next) : WritesItems (used ++ token :: others) settings next

/-- Whether the tokens of a statement write settings. In front of the word `WITH`, which introduces
them, no marks of constants stand. -/
inductive WritesSettings : List Token → Settings → Prop
  | none {tokens : List Token} (hunmarked : Unmarked tokens) : WritesSettings tokens .empty
  | behind {front items : List Token} {token : Token} {settings : Settings}
    (hunmarked : Unmarked front) (hwith : isWord Keyword.withWord.text token = true)
    (hitems : WritesItems items .empty settings) : WritesSettings (front ++ token :: items) settings

/-! ### What is read is written -/

/-- Whether a parser that reads a value uses up tokens that write it. -/
def ReadsWritten (parser : Parser Value) (Writes : List Token → Value → Prop) : Prop :=
  ∀ ⦃tokens value rest⦄, parser tokens = .ok (value, rest) →
    ∃ used, tokens = used ++ rest ∧ Writes used value

theorem readsWritten_constant : ReadsWritten constant WritesConstant := by
  intro tokens text rest hok
  obtain ⟨digits, long, rfl, rfl⟩ | ⟨token, rfl, hconstant⟩ := constant_eq_ok_iff.1 hok
  · exact ⟨[.symbol .minus, .number digits long], rfl, .negative digits long⟩
  · refine ⟨[token], rfl, ?_⟩
    cases token with
    | string | word | number =>
      cases hconstant
      constructor
    | blank | quotedWord | symbol | other => cases hconstant

theorem exists_writesEntries {value : Parser Value} {Writes : List Token → Value → Prop}
    (hvalue : ReadsWritten value Writes) {map next : OrderedMap String Value}
    (hlisted : Listed (accept .comma) (mapEntry value) map tokens next rest) :
    ∃ used entries, tokens = used ++ rest ∧ WritesEntries Writes used entries ∧
      next.entries = map.entries ++ entries := by
  induction hlisted with
  | last hitem =>
    obtain ⟨key, behind, entry, hkey, hentry, hdefine⟩ := mapEntry_eq_ok_iff.1 hitem
    obtain ⟨-, rfl⟩ := OrderedMap.define_eq_ok_iff.1 hdefine
    obtain ⟨used, rfl, hwritten⟩ := readsWritten_constant hkey
    obtain ⟨more, rfl, hvalueWritten⟩ := hvalue hentry
    exact ⟨used ++ .symbol .colon :: more, [(key, entry)], by simp, .last hwritten hvalueWritten,
      rfl⟩
  | more hitem hcomma _ ih =>
    obtain ⟨key, behind, entry, hkey, hentry, hdefine⟩ := mapEntry_eq_ok_iff.1 hitem
    obtain ⟨-, rfl⟩ := OrderedMap.define_eq_ok_iff.1 hdefine
    obtain ⟨used, rfl, hwritten⟩ := readsWritten_constant hkey
    obtain ⟨more, rfl, hvalueWritten⟩ := hvalue hentry
    obtain rfl := accept_eq_true_iff.1 hcomma
    obtain ⟨others, entries, rfl, hentries, hnext⟩ := ih
    exact ⟨used ++ .symbol .colon :: (more ++ .symbol .comma :: others), (key, entry) :: entries,
      by simp, .more hwritten hvalueWritten hentries, by simp [hnext]⟩

theorem readsWritten_mapOf {value : Parser Value} {Writes : List Token → Value → Prop}
    (hvalue : ReadsWritten value Writes) : ReadsWritten (mapOf value) (WritesMap Writes) := by
  intro tokens map rest hok
  obtain ⟨rfl, rfl⟩ | ⟨behind, rfl, hlisted⟩ := mapOf_cases hok
  · exact ⟨_, rfl, .empty⟩
  · obtain ⟨inner, entries, rfl, hentries, hmap⟩ := exists_writesEntries hvalue hlisted
    obtain rfl : map.entries = entries := hmap
    exact ⟨.symbol .leftBrace :: (inner ++ [.symbol .rightBrace]), by simp, .entries hentries⟩

theorem readsWritten_propertyValue : ReadsWritten propertyValue WritesValue := by
  intro tokens value rest hok
  obtain ⟨entries, hentries, rfl⟩ | ⟨text, htext, rfl⟩ := propertyValue_cases hok
  · obtain ⟨used, rfl, hwritten⟩ := readsWritten_mapOf readsWritten_constant hentries
    exact ⟨used, rfl, .options hwritten⟩
  · obtain ⟨used, rfl, hwritten⟩ := readsWritten_constant htext
    exact ⟨used, rfl, .text hwritten⟩

theorem exists_writesItem_of_property {update : Settings → Except SchemaFault Settings}
    (hread : property tokens = .ok (update, rest)) {settings next : Settings}
    (hupdate : update settings = .ok next) :
    ∃ used, tokens = used ++ rest ∧ WritesItem used settings next := by
  obtain ⟨token, name, behind, rfl, hname, ⟨hcustom, custom, hcustomRead, rfl⟩ |
    ⟨hregular, value, hvalue, rfl⟩⟩ := property_cases hread
  · obtain ⟨used, rfl, hblock⟩ :=
      readsWritten_mapOf (readsWritten_mapOf readsWritten_constant) hcustomRead
    obtain ⟨hfirst, rfl⟩ := Settings.defineCustom_eq_ok_iff.1 hupdate
    exact ⟨token :: .symbol .equals :: used, rfl, .custom hname hcustom hblock hfirst⟩
  · obtain ⟨used, rfl, hwritten⟩ := readsWritten_propertyValue hvalue
    obtain ⟨-, rfl⟩ := Settings.addProperty_eq_ok_iff.1 hupdate
    exact ⟨token :: .symbol .equals :: used, rfl, .regular hname hregular hwritten⟩

/-! ### Clauses that change no settings -/

section

variable {definition next : TableDefinition} {column : Identifier}

theorem settings_of_columnClause (hok : columnClause definition tokens = .ok (next, rest)) :
    next.settings = definition.settings := by
  obtain ⟨_, column, _, _, _, declared, marked, _, -, -, -, hadd, hstatic, hkey⟩ :=
    columnClause_cases hok
  obtain ⟨-, rfl⟩ := TableDefinition.addColumn_eq_ok_iff.1 hadd
  have hmarked : marked.settings = definition.settings := by
    obtain ⟨_, -, -, hmark⟩ | ⟨-, -, rfl⟩ := staticMark_cases hstatic
    · obtain ⟨-, -, rfl⟩ := TableDefinition.addStaticColumn_eq_ok_iff.1 hmark
      split <;> rfl
    · rfl
  obtain ⟨begun, -, hbegin, hadd⟩ | ⟨-, -, rfl⟩ := keyMark_cases hkey
  · obtain ⟨-, rfl⟩ := TableDefinition.beginPrimaryKey_eq_ok_iff.1 hbegin
    obtain ⟨-, rfl⟩ := TableDefinition.addPartitionColumn_eq_ok_iff.1 hadd
    exact hmarked
  · exact hmarked

theorem settings_of_partitionColumn (hok : partitionColumn definition tokens = .ok (next, rest)) :
    next.settings = definition.settings := by
  obtain ⟨_, column, -, -, hadd⟩ := keyColumn_eq_ok_iff.1 hok
  obtain ⟨-, rfl⟩ := TableDefinition.addPartitionColumn_eq_ok_iff.1 hadd
  rfl

theorem settings_of_clusteringColumn (hok : clusteringColumn definition tokens = .ok (next, rest)) :
    next.settings = definition.settings := by
  obtain ⟨_, column, -, -, hadd⟩ := keyColumn_eq_ok_iff.1 hok
  obtain ⟨-, rfl⟩ := TableDefinition.addClusteringColumn_eq_ok_iff.1 hadd
  rfl

/-- Assumes: items that change no settings. A list of them changes none. -/
theorem settings_of_listed {separator : Parser Bool}
    {item : TableDefinition → Parser TableDefinition}
    (hitem : ∀ {definition next tokens rest}, item definition tokens = .ok (next, rest) →
      next.settings = definition.settings)
    (hlisted : Listed separator item definition tokens next rest) :
    next.settings = definition.settings :=
  hlisted.keeps (fun built ↦ built.settings = definition.settings)
    (fun hsame hok ↦ (hitem hok).trans hsame) rfl

theorem settings_of_primaryKeyClause (hok : primaryKeyClause definition tokens = .ok (next, rest)) :
    next.settings = definition.settings := by
  obtain ⟨begun, _, partitioned, _, -, hbegin, hpartition, hclustering⟩ :=
    primaryKeyClause_cases hok
  have hbegun : begun.settings = definition.settings := by
    obtain ⟨-, rfl⟩ := TableDefinition.beginPrimaryKey_eq_ok_iff.1 hbegin
    rfl
  have hpartitioned : partitioned.settings = begun.settings := by
    obtain ⟨_, -, hcolumns⟩ | hcolumn := partitionKey_cases hpartition
    · exact settings_of_listed (fun hok ↦ settings_of_partitionColumn hok) hcolumns
    · exact settings_of_partitionColumn hcolumn
  have hclustered : next.settings = partitioned.settings := by
    obtain ⟨_, -, hcolumns⟩ | ⟨-, rfl⟩ := clusteringKey_cases hclustering
    · exact settings_of_listed (fun hok ↦ settings_of_clusteringColumn hok) hcolumns
    · rfl
  rw [hclustered, hpartitioned, hbegun]

theorem settings_of_definitionClauses
    (hok : definitionClauses definition tokens = .ok (next, rest)) :
    next.settings = definition.settings := by
  obtain ⟨_, -, hclauses⟩ := definitionClauses_cases hok
  refine settings_of_listed ?_ hclauses
  intro definition next tokens rest hclause
  obtain ⟨_, -, hkey⟩ | ⟨-, hcolumn⟩ := definitionClause_cases hclause
  · exact settings_of_primaryKeyClause hkey
  · exact settings_of_columnClause hcolumn

theorem settings_of_clusteringOrderOption
    (hok : clusteringOrderOption definition tokens = .ok (next, rest)) :
    next.settings = definition.settings := by
  obtain ⟨begun, _, -, hbegin, horders⟩ := clusteringOrderOption_cases hok
  have hbegun : begun.settings = definition.settings := by
    obtain ⟨-, rfl⟩ := TableDefinition.beginClusteringOrder_eq_ok_iff.1 hbegin
    rfl
  refine (settings_of_listed ?_ horders).trans hbegun
  intro definition next tokens rest horder
  obtain ⟨_, _, column, direction, -, -, -, hadd⟩ := orderedColumn_cases horder
  obtain ⟨-, -, -, rfl⟩ := TableDefinition.addClusteringOrder_eq_ok_iff.1 hadd
  rfl

end

/-! ### Items -/

/-- Assumes: an item that is passed over, in front of what is no closing angle. It changes no
settings. -/
theorem exists_writesItem_of_passedOver (hpassed : PassedOver tokens rest)
    (hangle : rest.head? ≠ some (.symbol .greater)) (settings : Settings) :
    ∃ used, tokens = used ++ rest ∧ WritesItem used settings settings := by
  obtain ⟨used, rfl, hunmarked⟩ := hpassed.exists_unmarked hangle
  exact ⟨used, rfl, .other hunmarked⟩

theorem exists_writesItem_of_keyspaceOption {settings next : Settings}
    (hok : keyspaceOption settings tokens = .ok (next, rest)) :
    ∃ used, tokens = used ++ rest ∧ WritesItem used settings next := by
  simp only [keyspaceOption, run_bind_eq_ok_iff, run_lift_eq_ok_iff] at hok
  obtain ⟨update, _, hread, hupdate, rfl⟩ := hok
  exact exists_writesItem_of_property hread hupdate

theorem exists_writesItem_of_tableOption {definition next : TableDefinition}
    (hok : tableOption definition tokens = .ok (next, rest))
    (hangle : rest.head? ≠ some (.symbol .greater)) :
    ∃ used, tokens = used ++ rest ∧ WritesItem used definition.settings next.settings := by
  have hwords : ∀ {keywords behind}, acceptWords keywords tokens = .ok (true, behind) →
      PassedOver tokens behind := .of_ok fun hrespected ↦ hrespected.words _
  obtain ⟨behind, hread, horder⟩ | ⟨hread, hcompact⟩ | ⟨-, -, update, hread, hupdate⟩ :=
    tableOption_cases hok
  · rw [settings_of_clusteringOrderOption horder]
    have hbehind : PassedOver behind rest :=
      .of_ok (fun hrespected ↦ hrespected.clusteringOrderOption definition) horder
    exact exists_writesItem_of_passedOver ((hwords hread).trans hbehind) hangle _
  · obtain ⟨-, rfl⟩ := TableDefinition.requestCompactStorage_eq_ok_iff.1 hcompact
    exact exists_writesItem_of_passedOver (hwords hread) hangle _
  · obtain ⟨settings, hsettings, rfl⟩ := TableDefinition.updateSettings_eq_ok_iff.1 hupdate
    exact exists_writesItem_of_property hread hsettings

/-- Assumes: items that are read from tokens that write them, if no closing angle is left. So are
items with the word `AND` between them. -/
theorem writesItems_of_listed {State : Type} {item : State → Parser State}
    (settingsOf : State → Settings)
    (hitem : ∀ {state next tokens rest}, item state tokens = .ok (next, rest) →
      rest.head? ≠ some (.symbol .greater) →
        ∃ used, tokens = used ++ rest ∧ WritesItem used (settingsOf state) (settingsOf next))
    {state next : State} (hlisted : Listed (acceptWord .andWord) item state tokens next rest)
    (hnone : rest = []) : WritesItems tokens (settingsOf state) (settingsOf next) := by
  induction hlisted with
  | last hok =>
    subst hnone
    obtain ⟨used, rfl, hwrites⟩ := hitem hok nofun
    rw [List.append_nil]
    exact .last hwrites
  | more hok hseparator _ ih =>
    -- An item could leave the second of two closing angles, but here the word `AND` is left.
    obtain ⟨token, rfl, hand⟩ := acceptWord_eq_true_iff.1 hseparator
    have hangle : token ≠ .symbol .greater := by
      rintro rfl
      cases hand
    obtain ⟨used, rfl, hwrites⟩ := hitem hok (by simpa using hangle)
    exact .more hwrites hand (ih hnone)

/-! ### Statements -/

/-- Assumes: items that are read from tokens that write them, behind tokens that are passed over.
The tokens of the statement write its settings. -/
theorem writesSettings_of_withOptions {State : Type} {item : State → Parser State}
    (settingsOf : State → Settings)
    (hitem : ∀ {state next tokens rest}, item state tokens = .ok (next, rest) →
      rest.head? ≠ some (.symbol .greater) →
        ∃ used, tokens = used ++ rest ∧ WritesItem used (settingsOf state) (settingsOf next))
    {state next : State} (hempty : settingsOf state = .empty) {options : List Token}
    (hpassed : PassedOver tokens options)
    (hok : withOptions item state options = .ok (next, [])) :
    WritesSettings tokens (settingsOf next) := by
  obtain ⟨token, items, rfl, hwith, hlisted⟩ | ⟨rfl, rfl⟩ := withOptions_cases hok
  · have hangle : token ≠ .symbol .greater := by
      rintro rfl
      cases hwith
    obtain ⟨front, rfl, hunmarked⟩ := hpassed.exists_unmarked (by simpa using hangle)
    exact .behind hunmarked hwith (hempty ▸ writesItems_of_listed settingsOf hitem hlisted rfl)
  · obtain ⟨front, rfl, hunmarked⟩ := hpassed.exists_unmarked nofun
    rw [hempty, List.append_nil]
    exact .none hunmarked

theorem writesSettings_of_keyspaceStatement {statement : Statement}
    (hok : keyspaceStatement tokens = .ok (statement, rest)) :
    WritesSettings tokens statement.settings := by
  obtain ⟨ifNotExists, name, keyspace, settings, behind, hflag, hname, hsettings, rfl⟩ :=
    keyspaceStatement_cases hok
  have hpassed : PassedOver tokens behind :=
    .trans (.of_ok RespectedInClauses.ifNotExists hflag)
      (passedOver_cons (introducesConstant_of_nameOf? hname) behind)
  exact writesSettings_of_withOptions id (fun hitem _ ↦ exists_writesItem_of_keyspaceOption hitem)
    rfl hpassed hsettings

theorem writesSettings_of_tableStatement {statement : Statement}
    (hok : tableStatement tokens = .ok (statement, rest)) :
    WritesSettings tokens statement.settings := by
  obtain ⟨ifNotExists, keyspace, table, definition, built, names, clauses, options, hflag, hnames,
    hclauses, hoptions, rfl⟩ := tableStatement_cases hok
  have hpassed : PassedOver tokens options :=
    .trans (.of_ok RespectedInClauses.ifNotExists hflag) <| .trans
      (.of_ok (fun hrespected ↦
        .qualifiedName hrespected.identifier (hrespected.accept .period (by decide))) hnames)
      (.of_ok (fun hrespected ↦ hrespected.definitionClauses .empty) hclauses)
  exact writesSettings_of_withOptions TableDefinition.settings
    exists_writesItem_of_tableOption (settings_of_definitionClauses hclauses) hpassed hoptions

theorem WritesSettings.cons {token : Token} (hplain : introducesConstant token = false)
    {settings : Settings} (hwrites : WritesSettings tokens settings) :
    WritesSettings (token :: tokens) settings := by
  cases hwrites with
  | none hunmarked => exact .none (List.forall_mem_cons.2 ⟨hplain, hunmarked⟩)
  | behind hunmarked hwith hitems =>
    rw [← List.cons_append]
    exact .behind (List.forall_mem_cons.2 ⟨hplain, hunmarked⟩) hwith hitems

/-- The tokens of a statement that is read write its settings. -/
theorem writesSettings_of_statementOf {statement : Statement}
    (hok : statementOf tokens = .ok statement) : WritesSettings tokens statement.settings := by
  obtain ⟨rest, hok⟩ := statementOf_eq_ok_iff.1 hok
  obtain ⟨first, behind, rfl, huse, hok⟩ | ⟨first, second, kind, behind, rfl, hcreate, hkind,
    ⟨-, hok⟩ | ⟨-, hok⟩⟩ := statement_cases hok
  · obtain ⟨name, keyspace, rfl, hname, rfl⟩ := useStatement_cases hok
    refine .none (List.forall_mem_cons.2 ⟨introducesConstant_of_isWord huse, ?_⟩)
    exact List.forall_mem_singleton.2 (introducesConstant_of_nameOf? hname)
  · exact ((writesSettings_of_keyspaceStatement hok).cons (introducesConstant_of_isWord hkind)).cons
      (introducesConstant_of_isWord hcreate)
  · exact ((writesSettings_of_tableStatement hok).cons (introducesConstant_of_isWord hkind)).cons
      (introducesConstant_of_isWord hcreate)

end Grammar

end SchemaTemplate
