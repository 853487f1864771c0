import SchemaTemplate.Proofs.Acceptance

/-!
What the parsers of table definitions and of whole statements have read when they succeed: which
clauses, with which operations on the definition, and which tokens these are made of.
-/

set_option autoImplicit false
set_option relaxedAutoImplicit false

namespace SchemaTemplate.Grammar

open SchemaTemplate.Grammar.Parser

variable {tokens rest : List Token} {definition next : TableDefinition} {column : Identifier}

/-! ### Words -/

theorem acceptWords_primaryKey_iff : acceptWords [.primary, .key] tokens = .ok (true, rest) ↔
    ∃ first second, tokens = first :: second :: rest ∧
      isWord Keyword.primary.text first = true ∧ isWord Keyword.key.text second = true := by
  rw [acceptWords_eq_true_iff]
  constructor
  · rintro ⟨hbegins, rfl⟩
    obtain ⟨first, _, rfl, hfirst, hbegins⟩ := beginsWith_cons_iff.1 hbegins
    obtain ⟨second, behind, rfl, hsecond, -⟩ := beginsWith_cons_iff.1 hbegins
    exact ⟨first, second, rfl, hfirst, hsecond⟩
  · rintro ⟨first, second, rfl, hfirst, hsecond⟩
    simp [beginsWith, hfirst, hsecond]

/-! ### Columns -/

theorem staticMark_cases (hok : staticMark column definition tokens = .ok (next, rest)) :
    (∃ token, tokens = token :: rest ∧ isWord Keyword.static.text token = true ∧
      definition.addStaticColumn column = .ok next) ∨
    (Lacks .static tokens ∧ tokens = rest ∧ definition = next) := by
  simp only [staticMark, run_bind_eq_ok_iff, exists_choice_iff, acceptWord_eq_true_iff,
    acceptWord_eq_false_iff, run_lift_eq_ok_iff, run_pure_eq_ok_iff] at hok
  obtain ⟨_, ⟨token, rfl, hstatic⟩, hadd, rfl⟩ | ⟨_, ⟨hlacks, rfl⟩, rfl, rfl⟩ := hok
  · exact .inl ⟨token, rfl, hstatic, hadd⟩
  · exact .inr ⟨hlacks, rfl, rfl⟩

theorem keyMark_cases (hok : keyMark column definition tokens = .ok (next, rest)) :
    (∃ begun, acceptWords [.primary, .key] tokens = .ok (true, rest) ∧
      definition.beginPrimaryKey = .ok begun ∧ begun.addPartitionColumn column = .ok next) ∨
    (beginsWith [.primary, .key] tokens = false ∧ tokens = rest ∧ definition = next) := by
  simp only [keyMark, run_bind_eq_ok_iff, exists_choice_iff, acceptWords_eq_false_iff,
    run_lift_eq_ok_iff, run_pure_eq_ok_iff] at hok
  obtain ⟨_, hwords, begun, _, ⟨hbegin, rfl⟩, hadd, rfl⟩ | ⟨_, ⟨hbegins, rfl⟩, rfl, rfl⟩ := hok
  · exact .inl ⟨begun, hwords, hbegin, hadd⟩
  · exact .inr ⟨hbegins, rfl, rfl⟩

theorem columnClause_cases (hok : columnClause definition tokens = .ok (next, rest)) :
    ∃ token column behind type left declared marked more, tokens = token :: behind ∧
      nameOf? token = some column ∧ columnType behind = .ok (type, left) ∧
      definition.addColumn column type = .ok declared ∧
      staticMark column declared left = .ok (marked, more) ∧
      keyMark column marked more = .ok (next, rest) := by
  simp only [columnClause, run_bind_eq_ok_iff, identifier_eq_ok_iff, run_lift_eq_ok_iff] at hok
  obtain ⟨column, behind, ⟨token, rfl, hname⟩, type, left, htype, declared, _, ⟨hadd, rfl⟩, marked,
    more, hstatic, hkey⟩ := hok
  exact ⟨token, column, behind, type, left, declared, marked, more, rfl, hname, htype, hadd,
    hstatic, hkey⟩

/-! ### The primary key -/

/-- A column of a key is a name, given how the column is added. -/
theorem keyColumn_eq_ok_iff
    {add : TableDefinition → Identifier → Except SchemaFault TableDefinition} :
    (identifier >>= fun column ↦ lift (add definition column)) tokens = .ok (next, rest) ↔
      ∃ token column, tokens = token :: rest ∧ nameOf? token = some column ∧
        add definition column = .ok next := by
  simp only [run_bind_eq_ok_iff, identifier_eq_ok_iff, run_lift_eq_ok_iff]
  constructor
  · rintro ⟨column, _, ⟨token, rfl, hname⟩, hadd, rfl⟩
    exact ⟨token, column, rfl, hname, hadd⟩
  · rintro ⟨token, column, rfl, hname, hadd⟩
    exact ⟨column, rest, ⟨token, rfl, hname⟩, hadd, rfl⟩

theorem partitionKey_cases (hok : partitionKey definition tokens = .ok (next, rest)) :
    (∃ behind, tokens = .symbol .leftParenthesis :: behind ∧
      Listed (accept .comma) partitionColumn definition behind next
        (.symbol .rightParenthesis :: rest)) ∨
    partitionColumn definition tokens = .ok (next, rest) := by
  simp only [partitionKey, run_bind_eq_ok_iff, exists_choice_iff, accept_eq_true_iff,
    accept_eq_false_iff, expect_eq_ok_iff, run_pure_eq_ok_iff] at hok
  obtain ⟨behind, rfl, _, _, hcolumns, _, _, rfl, rfl, rfl⟩ | ⟨_, ⟨-, rfl⟩, hcolumn⟩ := hok
  · exact .inl ⟨behind, rfl, .of_commaSeparated hcolumns⟩
  · exact .inr hcolumn

theorem clusteringKey_cases (hok : clusteringKey definition tokens = .ok (next, rest)) :
    (∃ behind, tokens = .symbol .comma :: behind ∧
      Listed (accept .comma) clusteringColumn definition behind next rest) ∨
    (tokens = rest ∧ definition = next) := by
  simp only [clusteringKey, run_bind_eq_ok_iff, exists_choice_iff, accept_eq_true_iff,
    accept_eq_false_iff, run_pure_eq_ok_iff] at hok
  obtain ⟨behind, rfl, hcolumns⟩ | ⟨_, ⟨-, rfl⟩, rfl, rfl⟩ := hok
  · exact .inl ⟨behind, rfl, .of_commaSeparated hcolumns⟩
  · exact .inr ⟨rfl, rfl⟩

theorem primaryKeyClause_cases (hok : primaryKeyClause definition tokens = .ok (next, rest)) :
    ∃ begun behind partitioned left, tokens = .symbol .leftParenthesis :: behind ∧
      definition.beginPrimaryKey = .ok begun ∧
      partitionKey begun behind = .ok (partitioned, left) ∧
      clusteringKey partitioned left = .ok (next, .symbol .rightParenthesis :: rest) := by
  simp only [primaryKeyClause, run_bind_eq_ok_iff, run_lift_eq_ok_iff, expect_eq_ok_iff,
    run_pure_eq_ok_iff] at hok
  obtain ⟨begun, _, ⟨hbegin, rfl⟩, _, behind, rfl, partitioned, left, hpartition, _, _, hclustering,
    _, _, rfl, rfl, rfl⟩ := hok
  exact ⟨begun, behind, partitioned, left, rfl, hbegin, hpartition, hclustering⟩

/-! ### Definitions -/

theorem definitionClause_cases (hok : definitionClause definition tokens = .ok (next, rest)) :
    (∃ behind, acceptWords [.primary, .key] tokens = .ok (true, behind) ∧
      primaryKeyClause definition behind = .ok (next, rest)) ∨
    (beginsWith [.primary, .key] tokens = false ∧
      columnClause definition tokens = .ok (next, rest)) := by
  simp only [definitionClause, run_bind_eq_ok_iff, exists_choice_iff,
    acceptWords_eq_false_iff] at hok
  obtain ⟨behind, hwords, hkey⟩ | ⟨_, ⟨hbegins, rfl⟩, hcolumn⟩ := hok
  · exact .inl ⟨behind, hwords, hkey⟩
  · exact .inr ⟨hbegins, hcolumn⟩

theorem definitionClauses_cases (hok : definitionClauses definition tokens = .ok (next, rest)) :
    ∃ behind, tokens = .symbol .leftParenthesis :: behind ∧
      Listed (accept .comma) definitionClause definition behind next
        (.symbol .rightParenthesis :: rest) := by
  simp only [definitionClauses, run_bind_eq_ok_iff, expect_eq_ok_iff, run_pure_eq_ok_iff] at hok
  obtain ⟨_, behind, rfl, _, _, hclauses, _, _, rfl, rfl, rfl⟩ := hok
  exact ⟨behind, rfl, .of_commaSeparated hclauses⟩

/-! ### Options -/

theorem direction_cases {direction : Direction}
    (hok : Grammar.direction tokens = .ok (direction, rest)) : ∃ token, tokens = token :: rest ∧
      isWord (directionKeyword direction).text token = true := by
  simp only [Grammar.direction, run_bind_eq_ok_iff, exists_choice_iff, acceptWord_eq_true_iff,
    acceptWord_eq_false_iff, run_pure_eq_ok_iff, reject_ne_ok] at hok
  obtain ⟨_, ⟨token, rfl, hword⟩, rfl, rfl⟩ |
    ⟨_, ⟨-, rfl⟩, ⟨_, ⟨token, rfl, hword⟩, rfl, rfl⟩ | ⟨_, -, ⟨⟩⟩⟩ := hok
  · exact ⟨token, rfl, hword⟩
  · exact ⟨token, rfl, hword⟩

theorem orderedColumn_cases (hok : orderedColumn definition tokens = .ok (next, rest)) :
    ∃ first second column direction, tokens = first :: second :: rest ∧
      nameOf? first = some column ∧ isWord (directionKeyword direction).text second = true ∧
        definition.addClusteringOrder column direction = .ok next := by
  simp only [orderedColumn, run_bind_eq_ok_iff, identifier_eq_ok_iff, run_lift_eq_ok_iff] at hok
  obtain ⟨column, _, ⟨first, rfl, hname⟩, direction, _, hdirection, hadd, rfl⟩ := hok
  obtain ⟨second, rfl, hword⟩ := direction_cases hdirection
  exact ⟨first, second, column, direction, rfl, hname, hword, hadd⟩

theorem clusteringOrderOption_cases
    (hok : clusteringOrderOption definition tokens = .ok (next, rest)) :
    ∃ begun behind, tokens = .symbol .leftParenthesis :: behind ∧
      definition.beginClusteringOrder = .ok begun ∧
      Listed (accept .comma) orderedColumn begun behind next
        (.symbol .rightParenthesis :: rest) := by
  simp only [clusteringOrderOption, run_bind_eq_ok_iff, run_lift_eq_ok_iff, expect_eq_ok_iff,
    run_pure_eq_ok_iff] at hok
  obtain ⟨begun, _, ⟨hbegin, rfl⟩, _, behind, rfl, _, _, horders, _, _, rfl, rfl, rfl⟩ := hok
  exact ⟨begun, behind, rfl, hbegin, .of_commaSeparated horders⟩

theorem tableOption_cases (hok : tableOption definition tokens = .ok (next, rest)) :
    (∃ behind, acceptWords [.clustering, .order, .byWord] tokens = .ok (true, behind) ∧
      clusteringOrderOption definition behind = .ok (next, rest)) ∨
    (acceptWords [.compact, .storage] tokens = .ok (true, rest) ∧
      definition.requestCompactStorage = .ok next) ∨
    (beginsWith [.clustering, .order, .byWord] tokens = false ∧
      beginsWith [.compact, .storage] tokens = false ∧ ∃ update,
        property tokens = .ok (update, rest) ∧ definition.updateSettings update = .ok next) := by
  simp only [tableOption, run_bind_eq_ok_iff, exists_choice_iff, acceptWords_eq_false_iff,
    run_lift_eq_ok_iff] at hok
  obtain ⟨behind, hwords, horder⟩ | ⟨_, ⟨horder, rfl⟩, ⟨_, hwords, hcompact, rfl⟩ |
    ⟨_, ⟨hcompact, rfl⟩, update, _, hproperty, hupdate, rfl⟩⟩ := hok
  · exact .inl ⟨behind, hwords, horder⟩
  · exact .inr (.inl ⟨hwords, hcompact⟩)
  · exact .inr (.inr ⟨horder, hcompact, update, hproperty, hupdate⟩)

theorem withOptions_cases {State : Type} {option : State → Parser State} {state next : State}
    (hok : withOptions option state tokens = .ok (next, rest)) :
    (∃ token behind, tokens = token :: behind ∧ isWord Keyword.withWord.text token = true ∧
      Listed (acceptWord .andWord) option state behind next rest) ∨
    (tokens = rest ∧ state = next) := by
  simp only [withOptions, run_bind_eq_ok_iff, exists_choice_iff, acceptWord_eq_true_iff,
    acceptWord_eq_false_iff, run_pure_eq_ok_iff] at hok
  obtain ⟨behind, ⟨token, rfl, hwith⟩, hoptions⟩ | ⟨_, ⟨-, rfl⟩, rfl, rfl⟩ := hok
  · exact .inl ⟨token, behind, rfl, hwith, .of_separated_and hoptions⟩
  · exact .inr ⟨rfl, rfl⟩

/-! ### Statements -/

theorem ifNotExists_cases {flag : Bool} (hok : ifNotExists tokens = .ok (flag, rest)) :
    (∃ first second third, tokens = first :: second :: third :: rest ∧
      isWord Keyword.ifWord.text first = true ∧ isWord Keyword.notWord.text second = true ∧
      isWord Keyword.existsWord.text third = true ∧ flag = true) ∨
    (tokens = rest ∧ flag = false) := by
  simp only [ifNotExists, run_bind_eq_ok_iff, exists_choice_iff, acceptWord_eq_true_iff,
    acceptWord_eq_false_iff, expectWord_eq_ok_iff, run_pure_eq_ok_iff] at hok
  obtain ⟨_, ⟨first, rfl, hif⟩, _, _, ⟨second, rfl, hnot⟩, _, _, ⟨third, rfl, hexists⟩, rfl, rfl⟩ |
    ⟨_, ⟨-, rfl⟩, rfl, rfl⟩ := hok
  · exact .inl ⟨first, second, third, rfl, hif, hnot, hexists, rfl⟩
  · exact .inr ⟨rfl, rfl⟩

theorem keyspaceStatement_cases {statement : Statement}
    (hok : keyspaceStatement tokens = .ok (statement, rest)) :
    ∃ ifNotExists name keyspace settings behind,
      Grammar.ifNotExists tokens = .ok (ifNotExists, name :: behind) ∧
      nameOf? name = some keyspace ∧
      withOptions keyspaceOption .empty behind = .ok (settings, []) ∧
      statement = .createKeyspace { keyspace, ifNotExists, settings } := by
  simp only [keyspaceStatement, run_bind_eq_ok_iff, identifier_eq_ok_iff, expectEnd_eq_ok_iff,
    run_pure_eq_ok_iff] at hok
  obtain ⟨flag, _, hflag, keyspace, behind, ⟨name, rfl, hname⟩, settings, _, hsettings, _, _,
    ⟨rfl, rfl⟩, rfl, rfl⟩ := hok
  exact ⟨flag, name, keyspace, settings, behind, hflag, hname, hsettings, rfl⟩

theorem tableStatement_cases {statement : Statement}
    (hok : tableStatement tokens = .ok (statement, rest)) :
    ∃ ifNotExists keyspace table definition built names clauses options,
      Grammar.ifNotExists tokens = .ok (ifNotExists, names) ∧
      qualifiedName names = .ok ((keyspace, table), clauses) ∧
      definitionClauses .empty clauses = .ok (built, options) ∧
      withOptions tableOption built options = .ok (definition, []) ∧
      statement = .createTable { keyspace, table, ifNotExists, definition } := by
  simp only [tableStatement, run_bind_eq_ok_iff, expectEnd_eq_ok_iff, run_pure_eq_ok_iff] at hok
  obtain ⟨flag, names, hflag, ⟨keyspace, table⟩, clauses, hname, built, options, hclauses,
    definition, _, hoptions, _, _, ⟨rfl, rfl⟩, rfl, rfl⟩ := hok
  exact ⟨flag, keyspace, table, definition, built, names, clauses, options, hflag, hname, hclauses,
    hoptions, rfl⟩

theorem useStatement_cases {statement : Statement}
    (hok : useStatement tokens = .ok (statement, rest)) : ∃ name keyspace,
      tokens = [name] ∧ nameOf? name = some keyspace ∧ statement = .use keyspace := by
  simp only [useStatement, run_bind_eq_ok_iff, identifier_eq_ok_iff, expectEnd_eq_ok_iff,
    run_pure_eq_ok_iff] at hok
  obtain ⟨keyspace, _, ⟨name, rfl, hname⟩, _, _, ⟨rfl, rfl⟩, rfl, rfl⟩ := hok
  exact ⟨name, keyspace, rfl, hname, rfl⟩

/-- The words that a statement begins with say what kind of statement it is. -/
theorem statement_cases {statement : Statement}
    (hok : Grammar.statement tokens = .ok (statement, rest)) :
    (∃ first behind, tokens = first :: behind ∧ isWord Keyword.use.text first = true ∧
      useStatement behind = .ok (statement, rest)) ∨
    ∃ first second kind behind, tokens = first :: second :: behind ∧
      isWord Keyword.create.text first = true ∧ isWord (Keyword.text kind) second = true ∧
        ((kind ∈ [.keyspace, .schema] ∧ keyspaceStatement behind = .ok (statement, rest)) ∨
          (kind ∈ [.table, .columnFamily] ∧ tableStatement behind = .ok (statement, rest))) := by
  simp only [Grammar.statement, run_bind_eq_ok_iff, exists_choice_iff, acceptWord_eq_true_iff,
    acceptWord_eq_false_iff, reject_ne_ok] at hok
  obtain ⟨behind, ⟨first, rfl, huse⟩, hok⟩ | ⟨_, ⟨-, rfl⟩, hcreate⟩ := hok
  · exact .inl ⟨first, behind, rfl, huse, hok⟩
  refine .inr ?_
  obtain ⟨_, ⟨first, rfl, hcreate⟩, hkind⟩ | ⟨_, -, ⟨⟩⟩ := hcreate
  obtain ⟨behind, ⟨second, rfl, hword⟩, hok⟩ | ⟨_, ⟨-, rfl⟩, hkind⟩ := hkind
  · exact ⟨first, second, .keyspace, behind, rfl, hcreate, hword, .inl ⟨by simp, hok⟩⟩
  obtain ⟨behind, ⟨second, rfl, hword⟩, hok⟩ | ⟨_, ⟨-, rfl⟩, hkind⟩ := hkind
  · exact ⟨first, second, .schema, behind, rfl, hcreate, hword, .inl ⟨by simp, hok⟩⟩
  obtain ⟨behind, ⟨second, rfl, hword⟩, hok⟩ | ⟨_, ⟨-, rfl⟩, hkind⟩ := hkind
  · exact ⟨first, second, .table, behind, rfl, hcreate, hword, .inr ⟨by simp, hok⟩⟩
  obtain ⟨behind, ⟨second, rfl, hword⟩, hok⟩ | ⟨_, -, ⟨⟩⟩ := hkind
  exact ⟨first, second, .columnFamily, behind, rfl, hcreate, hword, .inr ⟨by simp, hok⟩⟩

theorem statementOf_eq_ok_iff {statement : Statement} :
    statementOf tokens = .ok statement ↔
      ∃ rest, Grammar.statement tokens = .ok (statement, rest) := by
  show ((fun read : Statement × List Token ↦ read.1) <$> Grammar.statement tokens) = _ ↔ _
  cases Grammar.statement tokens <;> simp [Functor.map, Except.map, Prod.ext_iff]

end SchemaTemplate.Grammar
