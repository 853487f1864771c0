import SchemaTemplate.Proofs.ClauseCounts
import SchemaTemplate.Proofs.ReadSoundness

/-!
What is counted among the tokens that a parser uses up is what the definition gains. This balance is
kept by every clause of a table, and it says of a whole statement that no clause that may be given
once only was overlooked or taken for another. It holds in front of tokens that can stand behind a
clause; what else could stand there would let the clause end in the middle of another.
-/

set_option autoImplicit false
set_option relaxedAutoImplicit false

namespace SchemaTemplate.Grammar.SingleClause

open SchemaTemplate.Grammar.Parser

variable {clause : SingleClause} {first second : Token} {tokens rest : List Token}
  {keyword : Keyword}

/-! ### Names, types and constants -/

theorem count_qualifiedName {names : Option Identifier × Identifier}
    (hok : qualifiedName tokens = .ok (names, rest)) (hclosed : clause.Closed rest) :
    clause.count tokens = clause.count rest := by
  obtain ⟨token, _, rfl, -⟩ | ⟨token, _, second, _, rfl, -⟩ := qualifiedName_eq_ok_iff.1 hok
  · exact count_of_closed hclosed token
  · rw [count_of_closed (clause.closed_symbol _), count_symbol, count_of_closed hclosed]

theorem count_constant {text : String} (hok : constant tokens = .ok (text, rest))
    (hclosed : clause.Closed rest) : clause.count tokens = clause.count rest := by
  obtain ⟨digits, long, rfl, -⟩ | ⟨token, rfl, -⟩ := constant_eq_ok_iff.1 hok
  · rw [count_symbol, count_of_closed hclosed]
  · exact count_of_closed hclosed token

theorem count_plainType {type : ColumnType} (hok : plainType tokens = .ok (type, rest))
    (hclosed : clause.Closed rest) : clause.count tokens = clause.count rest := by
  obtain ⟨token, _, rfl, -⟩ | ⟨_, rfl, -⟩ | ⟨_, _, hname, -⟩ := plainType_cases hok
  · exact count_of_closed hclosed token
  · exact count_of_closed hclosed _
  · exact count_qualifiedName hname hclosed

/-! ### Lists -/

/-- Whether tokens begin with a symbol other than an equals sign, as they do behind an item. -/
def Punctuated (tokens : List Token) : Prop :=
  ∃ symbol behind, tokens = .symbol symbol :: behind ∧ symbol ≠ .equals

theorem punctuated_symbol {symbol : Symbol} (hother : symbol ≠ .equals) (rest : List Token) :
    Punctuated (.symbol symbol :: rest) := ⟨symbol, rest, rfl, hother⟩

theorem Punctuated.closed (hpunctuated : Punctuated rest) : clause.Closed rest := by
  obtain ⟨symbol, _, rfl, -⟩ := hpunctuated
  exact clause.closed_symbol symbol

/-- Whether what the states of a parser weigh more behind an item is how often a clause is given in
the item. -/
def Balances (clause : SingleClause) {State : Type} (weight : State → Nat)
    (item : State → Parser State) : Prop :=
  ∀ {state next : State} {tokens rest : List Token}, item state tokens = .ok (next, rest) →
    Punctuated rest → weight state + clause.count tokens = weight next + clause.count rest

/-- The balance of single items is that of all items, since no clause begins with a comma. -/
theorem Balances.listed {State : Type} {weight : State → Nat} {item : State → Parser State}
    (hitem : clause.Balances weight item) {state next : State}
    (hlisted : Listed (accept .comma) item state tokens next rest) (hbehind : Punctuated rest) :
    weight state + clause.count tokens = weight next + clause.count rest := by
  induction hlisted with
  | last hok => exact hitem hok hbehind
  | more hok hseparator _ ih =>
    obtain rfl := accept_eq_true_iff.1 hseparator
    rw [hitem hok (punctuated_symbol (by decide) _), count_symbol]
    exact ih hbehind

/-- Items without any clause in them balance if states weigh nothing. -/
theorem Balances.listed_zero {State : Type} {item : State → Parser State}
    (hitem : clause.Balances (fun _ ↦ 0) item) {state next : State}
    (hlisted : Listed (accept .comma) item state tokens next rest) (hbehind : Punctuated rest) :
    clause.count tokens = clause.count rest := by
  simpa using hitem.listed hlisted hbehind

theorem count_typeNested {depth : Nat} {type : ColumnType}
    (hok : typeNested depth tokens = .ok (type, rest)) (hclosed : clause.Closed rest) :
    clause.count tokens = clause.count rest := by
  induction depth generalizing tokens type rest with
  | zero => exact count_plainType hok hclosed
  | succ depth ih =>
    obtain hplain | ⟨token, _, _, _, left, rfl, -, helements, hclosing, -⟩ := typeNested_cases hok
    · exact count_plainType hplain hclosed
    have helement : clause.Balances (fun _ ↦ 0) (elementType (typeNested depth)) := by
      intro elements next tokens rest hitem hbehind
      simp only [elementType, run_bind_eq_ok_iff, run_pure_eq_ok_iff] at hitem
      obtain ⟨_, _, helement, -, rfl⟩ := hitem
      rw [ih helement hbehind.closed]
    rw [count_of_closed (clause.closed_symbol _), count_symbol]
    obtain rfl | ⟨behind, rfl, rfl⟩ := expectClosingAngle_eq_ok_iff.1 hclosing
    · rw [helement.listed_zero helements (punctuated_symbol (by decide) _), count_symbol]
    · rw [helement.listed_zero helements (punctuated_symbol (by decide) _), count_symbol,
        count_symbol]

theorem count_mapOf {Value : Type} {value : Parser Value}
    (hvalue : ∀ {tokens entry rest}, value tokens = .ok (entry, rest) → clause.Closed rest →
      clause.count tokens = clause.count rest)
    {map : OrderedMap String Value} (hok : mapOf value tokens = .ok (map, rest)) :
    clause.count tokens = clause.count rest := by
  obtain ⟨rfl, -⟩ | ⟨behind, rfl, hentries⟩ := mapOf_cases hok
  · rw [count_symbol, count_symbol]
  have hentry : clause.Balances (fun _ ↦ 0) (mapEntry value) := by
    intro map next tokens rest hitem hbehind
    obtain ⟨_, _, _, hkey, hread, -⟩ := mapEntry_eq_ok_iff.1 hitem
    rw [count_constant hkey (clause.closed_symbol _), count_symbol, hvalue hread hbehind.closed]
  rw [count_symbol, hentry.listed_zero hentries (punctuated_symbol (by decide) _), count_symbol]

theorem count_options {entries : Options} (hok : options tokens = .ok (entries, rest)) :
    clause.count tokens = clause.count rest := count_mapOf count_constant hok

theorem count_customProperties {custom : CustomProperties}
    (hok : Grammar.customProperties tokens = .ok (custom, rest)) :
    clause.count tokens = clause.count rest := count_mapOf (fun hread _ ↦ count_options hread) hok

theorem count_propertyValue {value : PropertyValue}
    (hok : propertyValue tokens = .ok (value, rest)) (hclosed : clause.Closed rest) :
    clause.count tokens = clause.count rest := by
  obtain ⟨_, hentries, -⟩ | ⟨_, htext, -⟩ := propertyValue_cases hok
  · exact count_options hentries
  · exact count_constant htext hclosed

/-! ### The primary key -/

/-- What a definition weighs: whether it has a clause. -/
def weight (clause : SingleClause) (definition : TableDefinition) : Nat :=
  (clause.given definition).toNat

variable {definition next : TableDefinition} {column : Identifier}

theorem count_primaryKeyWords (hok : acceptWords [.primary, .key] tokens = .ok (true, rest)) :
    clause.count tokens = (decide (clause = primaryKey)).toNat + clause.count rest := by
  obtain ⟨first, second, rfl, hfirst, hsecond⟩ := acceptWords_primaryKey_iff.1 hok
  rw [count, occurrences, ← count, count_of_isWord hsecond (by decide)]
  congr 2
  cases clause <;> simp [begins, beginsWith, introduces_eq hfirst, hfirst, hsecond]

/-- A primary key that is begun weighs as much as its two words count. -/
theorem weight_beginPrimaryKey {begun : TableDefinition}
    (hbegin : definition.beginPrimaryKey = .ok begun) :
    clause.weight begun = (decide (clause = primaryKey)).toNat + clause.weight definition := by
  obtain ⟨hgiven, rfl⟩ := TableDefinition.beginPrimaryKey_eq_ok_iff.1 hbegin
  cases clause <;> simp [weight, given, hgiven]

theorem weight_addPartitionColumn (hadd : definition.addPartitionColumn column = .ok next) :
    clause.weight next = clause.weight definition := by
  obtain ⟨-, rfl⟩ := TableDefinition.addPartitionColumn_eq_ok_iff.1 hadd
  cases clause <;> rfl

theorem weight_addClusteringColumn (hadd : definition.addClusteringColumn column = .ok next) :
    clause.weight next = clause.weight definition := by
  obtain ⟨-, rfl⟩ := TableDefinition.addClusteringColumn_eq_ok_iff.1 hadd
  cases clause <;> rfl

/-- Columns of a key balance, given that adding them does not change the weight. -/
theorem balances_keyColumn (add : TableDefinition → Identifier → Except SchemaFault TableDefinition)
    (hweight : ∀ {definition next column}, add definition column = .ok next →
      clause.weight next = clause.weight definition) :
    clause.Balances clause.weight fun definition ↦
      identifier >>= fun column ↦ lift (add definition column) := by
  intro definition next tokens rest hok hbehind
  obtain ⟨token, _, rfl, -, hadd⟩ := keyColumn_eq_ok_iff.1 hok
  rw [hweight hadd, count_of_closed hbehind.closed]

theorem balances_partitionColumn : clause.Balances clause.weight partitionColumn :=
  balances_keyColumn TableDefinition.addPartitionColumn weight_addPartitionColumn

theorem balances_clusteringColumn : clause.Balances clause.weight clusteringColumn :=
  balances_keyColumn TableDefinition.addClusteringColumn weight_addClusteringColumn

theorem balances_partitionKey : clause.Balances clause.weight partitionKey := by
  intro definition next tokens rest hok hbehind
  obtain ⟨_, rfl, hcolumns⟩ | hcolumn := partitionKey_cases hok
  · rw [count_symbol, balances_partitionColumn.listed hcolumns (punctuated_symbol (by decide) _),
      count_symbol]
  · exact balances_partitionColumn hcolumn hbehind

theorem balances_clusteringKey : clause.Balances clause.weight clusteringKey := by
  intro definition next tokens rest hok hbehind
  obtain ⟨_, rfl, hcolumns⟩ | ⟨rfl, rfl⟩ := clusteringKey_cases hok
  · rw [count_symbol, balances_clusteringColumn.listed hcolumns hbehind]
  · rfl

theorem punctuated_of_clusteringKey (hok : clusteringKey definition tokens = .ok (next, rest))
    (hbehind : Punctuated rest) : Punctuated tokens := by
  obtain ⟨_, rfl, -⟩ | ⟨rfl, -⟩ := clusteringKey_cases hok
  · exact punctuated_symbol (by decide) _
  · exact hbehind

/-- The clause of a primary key weighs as much as its two words count. -/
theorem balance_primaryKeyClause (hok : primaryKeyClause definition tokens = .ok (next, rest)) :
    (decide (clause = primaryKey)).toNat + clause.weight definition + clause.count tokens =
      clause.weight next + clause.count rest := by
  obtain ⟨begun, _, partitioned, _, rfl, hbegin, hpartition, hclustering⟩ :=
    primaryKeyClause_cases hok
  have hend : Punctuated (.symbol .rightParenthesis :: rest) := punctuated_symbol (by decide) _
  have hbetween := punctuated_of_clusteringKey hclustering hend
  rw [← weight_beginPrimaryKey hbegin, count_symbol, balances_partitionKey hpartition hbetween,
    balances_clusteringKey hclustering hend, count_symbol]

/-! ### Columns -/

theorem balance_staticMark (hok : staticMark column definition tokens = .ok (next, rest)) :
    clause.weight definition + clause.count tokens = clause.weight next + clause.count rest := by
  obtain ⟨_, rfl, hword, hadd⟩ | ⟨-, rfl, rfl⟩ := staticMark_cases hok
  · obtain ⟨-, -, rfl⟩ := TableDefinition.addStaticColumn_eq_ok_iff.1 hadd
    rw [count_of_isWord hword (by decide)]
    split
    · rfl
    · cases clause <;> rfl
  · rfl

theorem balance_keyMark (hok : keyMark column definition tokens = .ok (next, rest)) :
    clause.weight definition + clause.count tokens = clause.weight next + clause.count rest := by
  obtain ⟨begun, hwords, hbegin, hadd⟩ | ⟨-, rfl, rfl⟩ := keyMark_cases hok
  · rw [weight_addPartitionColumn hadd, weight_beginPrimaryKey hbegin, count_primaryKeyWords hwords]
    omega
  · rfl

/-- Assumes: a name with neither an opening angle nor a period behind it. As a type it is that name
alone. -/
theorem rest_of_typeNested {depth : Nat} {name : Identifier} {type : ColumnType}
    (hname : nameOf? first = some name) (hless : second ≠ .symbol .less)
    (hperiod : second ≠ .symbol .period)
    (hok : typeNested depth (first :: second :: tokens) = .ok (type, rest)) :
    rest = second :: tokens := by
  have hplain : plainType (first :: second :: tokens) = .ok (type, rest) := by
    cases depth with
    | zero => exact hok
    | succ depth =>
      obtain hplain | ⟨_, _, _, _, _, htokens, -⟩ := typeNested_cases hok
      · exact hplain
      · cases htokens
        exact absurd rfl hless
  obtain ⟨_, _, htokens, -⟩ | ⟨_, htokens, -⟩ | ⟨_, _, hqualified, -⟩ := plainType_cases hplain
  · exact (List.cons.inj htokens).2.symm
  · cases htokens
    cases hname
  · obtain ⟨_, _, htokens, -⟩ | ⟨_, _, _, _, htokens, -⟩ := qualifiedName_eq_ok_iff.1 hqualified
    · exact (List.cons.inj htokens).2.symm
    · cases htokens
      exact absurd rfl hperiod

/-- Behind the first two tokens of an option comes one that cannot follow the type of a column. -/
theorem third_of_begins (hoption : clause ≠ primaryKey)
    (hbegins : clause.begins (first :: tokens) = true) : ∃ second third behind name,
      tokens = second :: third :: behind ∧ nameOf? second = some name ∧
        ((∃ keyword ∈ [Keyword.order, .storage], isWord keyword.text third = true) ∨
          third = .symbol .equals) := by
  cases clause with
  | primaryKey => exact absurd rfl hoption
  | clusteringOrder =>
    simp only [begins, introduces, Bool.and_eq_true] at hbegins
    obtain ⟨second, _, rfl, hsecond, hbegins⟩ := beginsWith_cons_iff.1 hbegins.2
    obtain ⟨third, behind, rfl, hthird, -⟩ := beginsWith_cons_iff.1 hbegins
    exact ⟨second, third, behind, _, rfl, nameOf?_of_isWord hsecond, .inl ⟨.order, by simp, hthird⟩⟩
  | compactStorage =>
    simp only [begins, introduces, Bool.and_eq_true] at hbegins
    obtain ⟨second, _, rfl, hsecond, hbegins⟩ := beginsWith_cons_iff.1 hbegins.2
    obtain ⟨third, behind, rfl, hthird, -⟩ := beginsWith_cons_iff.1 hbegins
    exact ⟨second, third, behind, _, rfl, nameOf?_of_isWord hsecond,
      .inl ⟨.storage, by simp, hthird⟩⟩
  | customProperties =>
    simp only [begins, introduces, Bool.and_eq_true] at hbegins
    obtain ⟨-, hbegins⟩ := hbegins
    unfold beginsCustom at hbegins
    split at hbegins
    next second behind =>
      exact ⟨second, _, behind, _, rfl, by simpa using hbegins, .inr rfl⟩
    next => cases hbegins

/-- No clause begins with the name of a column: it is no option because the column would have to end
in the middle of it. -/
theorem begins_of_columnClause (hwords : beginsWith [.primary, .key] (first :: tokens) = false)
    {type : ColumnType} {left behind : List Token} {marked : TableDefinition}
    (htype : columnType tokens = .ok (type, left))
    (hstatic : staticMark column definition left = .ok (marked, behind))
    (hkey : keyMark column marked behind = .ok (next, rest)) (hbehind : Punctuated rest) :
    clause.begins (first :: tokens) = false := by
  by_cases hoption : clause = primaryKey
  · rw [hoption]
    exact hwords
  rw [Bool.eq_false_iff]
  intro hbegins
  obtain ⟨second, third, behind, name, rfl, hname, hthird⟩ := third_of_begins hoption hbegins
  have hword : ∀ keyword, keyword ∉ [Keyword.order, .storage] →
      isWord (Keyword.text keyword) third = false := by
    intro keyword hother
    rw [Bool.eq_false_iff]
    intro hsame
    obtain ⟨other, hmem, hthird⟩ | rfl := hthird
    · exact hother (keyword_eq_of_isWord hsame hthird ▸ hmem)
    · cases hsame
  have hsymbol : ∀ symbol, symbol ≠ .equals → third ≠ .symbol symbol := by
    rintro symbol hother rfl
    obtain ⟨_, -, hthird⟩ | hthird := hthird
    · cases hthird
    · cases hthird
      exact hother rfl
  obtain rfl := rest_of_typeNested hname (hsymbol .less (by decide)) (hsymbol .period (by decide))
    htype
  obtain ⟨_, htokens, hword', -⟩ | ⟨-, rfl, -⟩ := staticMark_cases hstatic
  · cases htokens
    rw [hword .static (by decide)] at hword'
    cases hword'
  obtain ⟨_, hkeyWords, -⟩ | ⟨-, rfl, -⟩ := keyMark_cases hkey
  · obtain ⟨_, _, htokens, hword', -⟩ := acceptWords_primaryKey_iff.1 hkeyWords
    cases htokens
    rw [hword .primary (by decide)] at hword'
    cases hword'
  · obtain ⟨symbol, _, htokens, hother⟩ := hbehind
    cases htokens
    exact hsymbol symbol hother rfl

/-- Behind the type of a column no clause can begin in front of what comes next. -/
theorem closed_of_marks {left behind : List Token} {marked : TableDefinition}
    (hstatic : staticMark column definition left = .ok (marked, behind))
    (hkey : keyMark column marked behind = .ok (next, rest)) (hbehind : Punctuated rest) :
    clause.Closed left := by
  obtain ⟨_, rfl, hword, -⟩ | ⟨-, rfl, -⟩ := staticMark_cases hstatic
  · exact clause.closed_of_isWord hword (by decide)
  obtain ⟨_, hwords, -⟩ | ⟨-, rfl, -⟩ := keyMark_cases hkey
  · obtain ⟨_, _, rfl, hword, -⟩ := acceptWords_primaryKey_iff.1 hwords
    exact clause.closed_of_isWord hword (by decide)
  · exact hbehind.closed

theorem balances_definitionClause : clause.Balances clause.weight definitionClause := by
  intro definition next tokens rest hok hbehind
  obtain ⟨_, hwords, hkey⟩ | ⟨hwords, hcolumn⟩ := definitionClause_cases hok
  · rw [count_primaryKeyWords hwords, ← balance_primaryKeyClause hkey]
    omega
  · obtain ⟨token, column, behind, type, left, declared, marked, more, rfl, -, htype, hadd, hstatic,
      hkey⟩ := columnClause_cases hcolumn
    have hnone : clause.begins (token :: behind) = false :=
      begins_of_columnClause hwords htype hstatic hkey hbehind
    have hdeclared : clause.weight declared = clause.weight definition := by
      obtain ⟨-, rfl⟩ := TableDefinition.addColumn_eq_ok_iff.1 hadd
      cases clause <;> rfl
    rw [count, occurrences, hnone, Bool.toNat_false, Nat.zero_add, ← count,
      count_typeNested htype (closed_of_marks hstatic hkey hbehind), ← hdeclared,
      balance_staticMark hstatic, balance_keyMark hkey]

theorem balance_definitionClauses
    (hok : definitionClauses definition tokens = .ok (next, rest)) :
    clause.weight definition + clause.count tokens = clause.weight next + clause.count rest := by
  obtain ⟨_, rfl, hclauses⟩ := definitionClauses_cases hok
  rw [count_symbol, balances_definitionClause.listed hclauses (punctuated_symbol (by decide) _),
    count_symbol]

/-! ### Options -/

theorem count_words {keywords : List Keyword}
    (hok : acceptWords keywords tokens = .ok (true, rest))
    (hother : ∀ keyword ∈ keywords, keyword ∉ [Keyword.primary, .withWord, .andWord]) :
    clause.count tokens = clause.count rest := by
  obtain ⟨hbegins, rfl⟩ := acceptWords_eq_true_iff.1 hok
  clear hok
  induction keywords generalizing tokens with
  | nil => rfl
  | cons keyword keywords ih =>
    obtain ⟨token, behind, rfl, hword, hbegins⟩ := beginsWith_cons_iff.1 hbegins
    obtain ⟨hfirst, hrest⟩ := List.forall_mem_cons.1 hother
    rw [count_of_isWord hword hfirst, ih hrest hbegins]
    rfl

/-- Whether a token is a word that introduces an option. -/
def Introducing (token : Token) : Prop :=
  ∃ keyword ∈ [Keyword.withWord, .andWord], isWord (Keyword.text keyword) token = true

theorem introduces_iff {token : Token} (hintroducing : Introducing token)
    (option : List Token → Bool) : introduces option (token :: rest) = option rest := by
  obtain ⟨keyword, hmem, hword⟩ := hintroducing
  rw [introduces_eq hword, decide_eq_true hmem, Bool.true_and]

/-- Whether tokens can stand behind an option: another option, or nothing. -/
def BehindOption (tokens : List Token) : Prop :=
  tokens = [] ∨ ∃ token behind, tokens = token :: behind ∧ isWord Keyword.andWord.text token = true

theorem BehindOption.closed (hbehind : BehindOption rest) : clause.Closed rest := by
  obtain rfl | ⟨_, _, rfl, hword⟩ := hbehind
  · exact clause.closed_nil
  · exact clause.closed_of_isWord hword (by decide)

theorem balances_orderedColumn : clause.Balances clause.weight orderedColumn := by
  intro definition next tokens rest hok hbehind
  obtain ⟨_, _, _, direction, rfl, -, hword, hadd⟩ := orderedColumn_cases hok
  obtain ⟨-, -, -, rfl⟩ := TableDefinition.addClusteringOrder_eq_ok_iff.1 hadd
  have hclosed : clause.Closed (_ :: rest) :=
    clause.closed_of_isWord hword (by cases direction <;> decide)
  rw [count_of_closed hclosed, count_of_isWord hword (by cases direction <;> decide)]
  cases clause <;> rfl

theorem count_cons (token : Token) (rest : List Token) :
    clause.count (token :: rest) = (clause.begins (token :: rest)).toNat + clause.count rest := rfl

theorem begins_primaryKey_of_introducing {token : Token} (hintroducing : Introducing token) :
    primaryKey.begins (token :: tokens) = false := by
  obtain ⟨keyword, hmem, hword⟩ := hintroducing
  have hother : Keyword.primary ≠ keyword := by
    rintro rfl
    exact absurd hmem (by decide)
  rw [begins, beginsWith, isWord_eq_false hword hother, Bool.false_and]

theorem beginsCustom_of_isWord (hword : isWord keyword.text first = true) :
    beginsCustom (first :: rest) = false := by
  unfold beginsCustom
  split
  next heq =>
    cases heq
    exact decide_eq_false (nameOf?_ne_custom hword)
  next => rfl

/-- An option that begins with a keyword is the one with these words, if any. -/
theorem begins_of_optionWord {token : Token} (hintroducing : Introducing token)
    (hword : isWord keyword.text first = true) : clause.begins (token :: first :: rest) =
      match clause with
      | clusteringOrder => beginsWith [.clustering, .order, .byWord] (first :: rest)
      | compactStorage => beginsWith [.compact, .storage] (first :: rest)
      | primaryKey | customProperties => false := by
  cases clause with
  | primaryKey => exact begins_primaryKey_of_introducing hintroducing
  | clusteringOrder | compactStorage => exact introduces_iff hintroducing _
  | customProperties =>
    exact (introduces_iff hintroducing _).trans (beginsCustom_of_isWord hword)

/-- The clustering order weighs as much as its words count behind the word that introduces it. -/
theorem balance_clusteringOrder {token : Token} {behind : List Token}
    (hintroducing : Introducing token)
    (hwords : acceptWords [.clustering, .order, .byWord] tokens = .ok (true, behind))
    (hok : clusteringOrderOption definition behind = .ok (next, rest)) :
    clause.weight definition + clause.count (token :: tokens) =
      clause.weight next + clause.count rest := by
  obtain ⟨begun, _, rfl, hbegin, horders⟩ := clusteringOrderOption_cases hok
  have hbegins : clause.begins (token :: tokens) = decide (clause = clusteringOrder) := by
    have hall := (acceptWords_eq_true_iff.1 hwords).1
    obtain ⟨first, _, rfl, hfirst, -⟩ := beginsWith_cons_iff.1 hall
    rw [begins_of_optionWord hintroducing hfirst]
    cases clause with
    | clusteringOrder => exact hall
    | compactStorage => exact beginsWith_of_isWord hfirst (by decide) _ _
    | primaryKey | customProperties => rfl
  have hbegun : clause.weight begun =
      (decide (clause = clusteringOrder)).toNat + clause.weight definition := by
    obtain ⟨hgiven, rfl⟩ := TableDefinition.beginClusteringOrder_eq_ok_iff.1 hbegin
    cases clause <;> simp [weight, given, hgiven]
  have hitem : clause.Balances clause.weight orderedColumn := balances_orderedColumn
  have horder := hitem.listed horders (punctuated_symbol (by decide) _)
  rw [count_symbol] at horder
  rw [count_cons, hbegins, count_words hwords (by decide), count_symbol]
  omega

/-- Compact storage weighs as much as its words count behind the word that introduces it. -/
theorem balance_compactStorage {token : Token} (hintroducing : Introducing token)
    (hwords : acceptWords [.compact, .storage] tokens = .ok (true, rest))
    (hok : definition.requestCompactStorage = .ok next) :
    clause.weight definition + clause.count (token :: tokens) =
      clause.weight next + clause.count rest := by
  have hbegins : clause.begins (token :: tokens) = decide (clause = compactStorage) := by
    have hall := (acceptWords_eq_true_iff.1 hwords).1
    obtain ⟨first, _, rfl, hfirst, -⟩ := beginsWith_cons_iff.1 hall
    rw [begins_of_optionWord hintroducing hfirst]
    cases clause with
    | clusteringOrder => exact beginsWith_of_isWord hfirst (by decide) _ _
    | compactStorage => exact hall
    | primaryKey | customProperties => rfl
  have hnext : clause.weight next =
      (decide (clause = compactStorage)).toNat + clause.weight definition := by
    obtain ⟨hgiven, rfl⟩ := TableDefinition.requestCompactStorage_eq_ok_iff.1 hok
    cases clause <;> simp [weight, given, hgiven]
  rw [count_cons, hbegins, count_words hwords (by decide)]
  omega

/-- A property weighs as much as its name counts, which is the name of the custom ones or not. -/
theorem balance_property {token : Token} (hintroducing : Introducing token)
    (horder : beginsWith [.clustering, .order, .byWord] tokens = false)
    (hcompact : beginsWith [.compact, .storage] tokens = false)
    {update : Settings → Except SchemaFault Settings}
    (hread : property tokens = .ok (update, rest))
    (hok : definition.updateSettings update = .ok next) (hclosed : clause.Closed rest) :
    clause.weight definition + clause.count (token :: tokens) =
      clause.weight next + clause.count rest := by
  obtain ⟨settings, hsettings, rfl⟩ := TableDefinition.updateSettings_eq_ok_iff.1 hok
  obtain ⟨first, name, behind, rfl, hname, hvalue⟩ := property_cases hread
  have hbegins : clause.begins (token :: first :: .symbol .equals :: behind) =
      decide (clause = customProperties ∧ name.text = Settings.customPropertiesName) := by
    cases clause with
    | primaryKey => exact begins_primaryKey_of_introducing hintroducing
    | clusteringOrder => exact (introduces_iff hintroducing _).trans horder
    | compactStorage => exact (introduces_iff hintroducing _).trans hcompact
    | customProperties =>
      rw [begins, introduces_iff hintroducing, beginsCustom, hname]
      obtain ⟨text⟩ := name
      simp
  rw [count_cons, hbegins, count_of_closed (clause.closed_symbol _), count_symbol]
  obtain ⟨hcustom, custom, hblock, rfl⟩ | ⟨hregular, value, hvalue, rfl⟩ := hvalue
  · obtain ⟨hnone, rfl⟩ := Settings.defineCustom_eq_ok_iff.1 hsettings
    rw [count_customProperties hblock]
    cases clause <;> simp [weight, given, hcustom, hnone]
  · obtain ⟨-, rfl⟩ := Settings.addProperty_eq_ok_iff.1 hsettings
    rw [count_propertyValue hvalue hclosed]
    cases clause <;> simp [weight, given, hregular]

theorem balance_tableOption {token : Token} (hintroducing : Introducing token)
    (hok : tableOption definition tokens = .ok (next, rest)) (hbehind : BehindOption rest) :
    clause.weight definition + clause.count (token :: tokens) =
      clause.weight next + clause.count rest := by
  obtain ⟨_, hwords, horder⟩ | ⟨hwords, hcompact⟩ | ⟨horder, hcompact, update, hread, hupdate⟩ :=
    tableOption_cases hok
  · exact balance_clusteringOrder hintroducing hwords horder
  · exact balance_compactStorage hintroducing hwords hcompact
  · exact balance_property hintroducing horder hcompact hread hupdate hbehind.closed

/-- The balance of single options is that of all options, each with the word in front of it. -/
theorem balance_tableOptions
    (hlisted : Listed (acceptWord .andWord) tableOption definition tokens next rest)
    {token : Token} (hintroducing : Introducing token) (hbehind : BehindOption rest) :
    clause.weight definition + clause.count (token :: tokens) =
      clause.weight next + clause.count rest := by
  induction hlisted generalizing token with
  | last hok => exact balance_tableOption hintroducing hok hbehind
  | more hok hseparator _ ih =>
    obtain ⟨following, rfl, hword⟩ := acceptWord_eq_true_iff.1 hseparator
    rw [balance_tableOption hintroducing hok (.inr ⟨following, _, rfl, hword⟩)]
    exact ih ⟨.andWord, by simp, hword⟩ hbehind

/-! ### Statements -/

theorem count_ifNotExists {flag : Bool} (hok : ifNotExists tokens = .ok (flag, rest)) :
    clause.count tokens = clause.count rest := by
  obtain ⟨_, _, _, rfl, hif, hnot, hexists, -⟩ | ⟨rfl, -⟩ := ifNotExists_cases hok
  · rw [count_of_isWord hif (by decide), count_of_isWord hnot (by decide),
      count_of_isWord hexists (by decide)]
  · rfl

theorem weight_empty : clause.weight TableDefinition.empty = 0 := by
  cases clause <;> rfl

theorem count_tableStatement {creation : TableCreation}
    (hok : tableStatement tokens = .ok (.createTable creation, rest)) :
    clause.count tokens = clause.weight creation.definition := by
  obtain ⟨_, _, _, definition, built, _, clauses, options, hflag, hname, hclauses, hoptions, ⟨⟩⟩ :=
    tableStatement_cases hok
  have hbuilt : clause.weight .empty + clause.count clauses =
      clause.weight built + clause.count options := balance_definitionClauses hclauses
  rw [weight_empty, Nat.zero_add] at hbuilt
  have hclosed : clause.Closed clauses := by
    obtain ⟨_, rfl, -⟩ := definitionClauses_cases hclauses
    exact clause.closed_symbol _
  rw [count_ifNotExists hflag, count_qualifiedName hname hclosed, hbuilt]
  obtain ⟨_, _, rfl, hword, hoptions⟩ | ⟨rfl, rfl⟩ := withOptions_cases hoptions
  · exact balance_tableOptions hoptions ⟨.withWord, by simp, hword⟩ (.inl rfl)
  · rfl

/-- In the tokens of a table each clause is found as often as the definition has it. -/
theorem count_of_statementOf {creation : TableCreation}
    (hok : statementOf tokens = .ok (.createTable creation)) :
    clause.count tokens = (clause.given creation.definition).toNat := by
  obtain ⟨_, hok⟩ := statementOf_eq_ok_iff.1 hok
  obtain ⟨_, _, -, -, huse⟩ | ⟨first, second, kind, behind, rfl, hcreate, hkind,
    ⟨-, hkeyspace⟩ | ⟨hmem, htable⟩⟩ := statement_cases hok
  · obtain ⟨_, _, -, -, ⟨⟩⟩ := useStatement_cases huse
  · obtain ⟨_, _, _, _, _, -, -, -, ⟨⟩⟩ := keyspaceStatement_cases hkeyspace
  · have hother : kind ∉ [Keyword.primary, .withWord, .andWord] := by
      rintro hkind
      cases kind <;> simp at hmem hkind
    rw [count_of_isWord hcreate (by decide), count_of_isWord hkind hother]
    exact count_tableStatement htable

end SchemaTemplate.Grammar.SingleClause
