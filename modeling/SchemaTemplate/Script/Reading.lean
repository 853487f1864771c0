import SchemaTemplate.Grammar.Statement
import SchemaTemplate.Report
import SchemaTemplate.Token.Lexeme

/-!
Scripts. A script is a row of statements with semicolons behind or between them, and stretches
without any token but blanks count as nothing. `Script.read` gives the statements of a script, or
the failure of the first one that cannot be read; a fault in the spelling of any token comes before
all others.
-/

set_option autoImplicit false
set_option relaxedAutoImplicit false

namespace SchemaTemplate.Script

/-- Cuts lexemes at the semicolons, which are dropped. -/
def splitStatements (lexemes : List Lexeme) : List (List Lexeme) :=
  lexemes.splitOnP fun lexeme ↦ lexeme.token = .symbol .semicolon

/-- The lexemes of a statement that are not blank. -/
def significant (lexemes : List Lexeme) : List Lexeme :=
  lexemes.filter fun lexeme ↦ !lexeme.token.isBlank

/-- The place behind a stretch of lexemes, blanks included. -/
def stop (lexemes : List Lexeme) : Position :=
  (lexemes.getLast?.map Lexeme.stop).getD Position.start

/-- The place of the token in a statement behind which `left` others follow, counting only those
that are not blank, or the place behind the statement if `left` is zero. -/
def placeBefore (lexemes : List Lexeme) (left : Nat) : Position :=
  let tokens := significant lexemes
  match (tokens.drop (tokens.length - left)).head? with
  | some lexeme => lexeme.start
  | none => stop lexemes

/-- The failure that the rejection of a statement leads to. -/
def failureOf (lexemes : List Lexeme) : Grammar.Rejection → Failure
  | .unexpected wanted left =>
    .malformed (placeBefore lexemes left.length) (wanted.complaint left)
  | .faulty fault => .ofFault fault

/-- The statement that a stretch of lexemes writes, whether or not what it defines is complete. -/
def draft (lexemes : List Lexeme) : Except Failure Statement :=
  (Grammar.statementOf ((significant lexemes).map Lexeme.token)).mapError (failureOf lexemes)

/-- What the log says about a table before its definition is found complete. -/
def logDraft : Statement → Report Unit
  | .createTable creation =>
    let table := creation.table
    let count := creation.definition.columns.size
    Report.log .debug s!"Parsed table '{table}' with {count} column(s)"
  | _ => pure ()

/-- The statement that a stretch of lexemes writes. -/
def readStatement (lexemes : List Lexeme) : Report Statement := do
  let statement ← Report.ofOutcome (draft lexemes)
  logDraft statement
  Report.ofOutcome (statement.check.mapError Failure.ofFault)
  let description := statement.describe
  Report.log .debug s!"Parsed {description}"
  return statement

/-- The stretches of lexemes that have to be statements. -/
def statementLexemes (lexemes : List Lexeme) : List (List Lexeme) :=
  (splitStatements lexemes).filter fun stretch ↦ !(significant stretch).isEmpty

/-- The statements that lexemes write. -/
def readLexemes (lexemes : List Lexeme) : Report (List Statement) :=
  (statementLexemes lexemes).mapM readStatement

/-- The statements of a script. -/
def read (script : String) : Report (List Statement) := do
  let lexemes ← Report.ofOutcome (Lexeme.ofText script)
  readLexemes lexemes

end SchemaTemplate.Script
