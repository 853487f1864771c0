import SchemaTemplate.Grammar.Table
import SchemaTemplate.Schema.Statement

/-!
The grammar of statements. `Grammar.statement` reads one and uses up all tokens. It accepts what is
well formed and free of contradictions; whether the definition is complete is for
`Statement.check`.
-/

set_option autoImplicit false
set_option relaxedAutoImplicit false

namespace SchemaTemplate.Grammar

open SchemaTemplate.Grammar.Parser

/-- Reads items with the word `AND` between them, if the word `WITH` introduces them. -/
def withOptions {State : Type} (option : State → Parser State) (state : State) :
    Parser State := do
  if ← acceptWord .withWord then separated (acceptWord .andWord) option state else return state

/-- Whether the words `IF NOT EXISTS` come next, which they have to if the first does. -/
def ifNotExists : Parser Bool := do
  if ← acceptWord .ifWord then
    expectWord .notWord
    expectWord .existsWord
    return true
  else
    return false

/-- Reads what follows the word `USE`. -/
def useStatement : Parser Statement := do
  let keyspace ← identifier
  expectEnd
  return .use keyspace

/-- Reads a property of a keyspace. -/
def keyspaceOption (settings : Settings) : Parser Settings := do
  let update ← property
  lift (update settings)

/-- Reads what follows the words `CREATE KEYSPACE`. -/
def keyspaceStatement : Parser Statement := do
  let ifNotExists ← ifNotExists
  let keyspace ← identifier
  let settings ← withOptions keyspaceOption .empty
  expectEnd
  return .createKeyspace { keyspace, ifNotExists, settings }

/-- Reads what follows the words `CREATE TABLE`. -/
def tableStatement : Parser Statement := do
  let ifNotExists ← ifNotExists
  let (keyspace, table) ← qualifiedName
  let definition ← definitionClauses .empty
  let definition ← withOptions tableOption definition
  expectEnd
  return .createTable { keyspace, table, ifNotExists, definition }

/-- Reads a statement. -/
def statement : Parser Statement := do
  if ← acceptWord .use then useStatement
  else if ← acceptWord .create then
    if ← acceptWord .keyspace then keyspaceStatement
    else if ← acceptWord .schema then keyspaceStatement
    else if ← acceptWord .table then tableStatement
    else if ← acceptWord .columnFamily then tableStatement
    else reject .keyspaceOrTable
  else reject .useOrCreate

/-- The statement that a list of tokens writes. -/
def statementOf (tokens : List Token) : Except Rejection Statement :=
  statement.run' tokens

end SchemaTemplate.Grammar
