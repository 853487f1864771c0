import SchemaTemplate.Proofs.ClauseBalance
import SchemaTemplate.Proofs.Reports
import SchemaTemplate.Proofs.RoundTrip

/-!
Scripts are read as sound statements. The statements of a script come one from each stretch of
lexemes between semicolons, in their order, and each is sound and has its clauses from the tokens of
its stretch.
-/

set_option autoImplicit false
set_option relaxedAutoImplicit false

namespace SchemaTemplate.Script

open Grammar

/-- A statement that is read was written and passes its check. -/
theorem statementOf_of_readStatement {stretch : List Lexeme} {statement : Statement}
    (hread : (readStatement stretch).outcome = .ok statement) :
    statementOf ((significant stretch).map Lexeme.token) = .ok statement ∧
      statement.check = .ok () := by
  simp only [readStatement, Report.outcome_bind_eq_ok_iff, Report.outcome_ofOutcome,
    Report.outcome_pure] at hread
  obtain ⟨written, hdraft, _, -, _, hcheck, _, -, ⟨⟩⟩ := hread
  constructor
  · unfold draft at hdraft
    cases hwritten : statementOf ((significant stretch).map Lexeme.token) with
    | ok other =>
      rw [hwritten] at hdraft
      cases hdraft
      rfl
    | error =>
      rw [hwritten] at hdraft
      cases hdraft
  · cases hchecked : statement.check with
    | ok => rfl
    | error =>
      rw [hchecked] at hcheck
      cases hcheck

/-- A statement is read exactly if it is written and passes its check. -/
theorem outcome_readStatement_eq_ok_iff {stretch : List Lexeme} {statement : Statement} :
    (readStatement stretch).outcome = .ok statement ↔
      statementOf ((significant stretch).map Lexeme.token) = .ok statement ∧
        statement.check = .ok () := by
  refine ⟨statementOf_of_readStatement, fun ⟨hwritten, hcheck⟩ ↦ ?_⟩
  have hdraft : draft stretch = .ok statement := by
    rw [draft, hwritten]
    rfl
  rw [readStatement, Report.outcome_bind_of_ok hdraft,
    Report.outcome_bind_of_ok (outcome_logDraft statement), hcheck]
  rfl

theorem sound_of_readStatement {stretch : List Lexeme} {statement : Statement}
    (hread : (readStatement stretch).outcome = .ok statement) : statement.Sound := by
  obtain ⟨hwritten, hcheck⟩ := statementOf_of_readStatement hread
  exact sound_of_statementOf hwritten hcheck

/-- Every statement of a script is read from a stretch of its lexemes. -/
theorem exists_readStatement_of_mem {script : String} {statements : List Statement}
    (hread : (read script).outcome = .ok statements) {statement : Statement}
    (hmem : statement ∈ statements) :
    ∃ stretch, (readStatement stretch).outcome = .ok statement := by
  rw [read, Report.outcome_bind_eq_ok_iff] at hread
  obtain ⟨lexemes, -, hlexemes⟩ := hread
  rw [readLexemes, Report.outcome_mapM_eq_ok_iff] at hlexemes
  exact exists_related_of_mem hlexemes hmem

/-- Whether a statement is sound and, if it creates a table, has each clause that may be given once
only exactly as often as its tokens give it, which for the primary key is once. -/
structure SoundlyWritten (tokens : List Token) (statement : Statement) : Prop where
  sound : statement.Sound
  primaryKey_once : ∀ creation, statement = .createTable creation →
    SingleClause.primaryKey.count tokens = 1
  clauses_counted : ∀ creation, statement = .createTable creation →
    ∀ clause : SingleClause, clause.count tokens = (clause.given creation.definition).toNat

/-- Every statement that is read is sound. Each stretch of lexemes between semicolons that is not
blank yields a statement, and its parts agree with each other: in a table the columns are distinct,
the primary key lists some of them without repetition and has a partition key, static columns stand
in the order of the columns, outside of the key, and only beside a clustering key, directions are
given for the first clustering columns, and all types are well formed; the keys of all maps are
distinct, and none of the regular properties has the name of the custom ones. The tokens of a table
give the primary key exactly once, and each other clause that may be given once only exactly as
often as the definition has it. -/
theorem statements_read_are_sound {lexemes : List Lexeme} {statements : List Statement}
    (hread : (readLexemes lexemes).outcome = .ok statements) :
    List.Forall₂ (fun stretch statement ↦
        SoundlyWritten ((significant stretch).map Lexeme.token) statement)
      (statementLexemes lexemes) statements := by
  rw [readLexemes, Report.outcome_mapM_eq_ok_iff] at hread
  refine hread.imp ?_
  intro stretch statement hstatement
  have hsound := sound_of_readStatement hstatement
  have hcount : ∀ creation, statement = .createTable creation → ∀ clause : SingleClause,
      clause.count ((significant stretch).map Lexeme.token) =
        (clause.given creation.definition).toNat := by
    rintro creation rfl clause
    exact SingleClause.count_of_statementOf (statementOf_of_readStatement hstatement).1
  refine ⟨hsound, ?_, hcount⟩
  rintro creation rfl
  rw [hcount creation rfl, SingleClause.given, TableDefinition.Sound.primaryKey_given hsound]
  rfl

/-- A table with its key behind a column, and the selection of a keyspace. -/
def briefLexemes : List Lexeme :=
  spaced [.word "create", .word "table", .quotedWord "events", .symbol .leftParenthesis,
    .quotedWord "id", .word "int", .word "primary", .word "key", .symbol .rightParenthesis,
    .word "with", .word "compact", .word "storage", .symbol .semicolon, .word "use",
    .quotedWord "shop"]

/-- What the table of `briefLexemes` is. -/
def briefTable : TableCreation where
  keyspace := none
  table := ⟨"events"⟩
  ifNotExists := false
  definition := { TableDefinition.empty with
    columns := ⟨[(⟨"id"⟩, .simple "int")]⟩
    partitionKey := [⟨"id"⟩]
    primaryKeyGiven := true
    compactStorage := true }

theorem statements_read_are_sound_briefLexemes :
    (readLexemes briefLexemes).outcome = .ok [.createTable briefTable, .use ⟨"shop"⟩] ∧
      List.Forall₂ (fun stretch statement ↦
          SoundlyWritten ((significant stretch).map Lexeme.token) statement)
        (statementLexemes briefLexemes) [.createTable briefTable, .use ⟨"shop"⟩] :=
  ⟨rfl, statements_read_are_sound rfl⟩

end SchemaTemplate.Script
