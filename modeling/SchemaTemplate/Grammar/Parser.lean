import SchemaTemplate.Schema.Fault
import SchemaTemplate.Token.Basic

/-!
Parsers of statements. A parser reads from the front of a list of tokens, none of them blank, and
leaves the tokens that it did not use. A rejected statement comes with the tokens that were left at
that moment, which tells the place of the rejection without any talk of lines and columns.
-/

set_option autoImplicit false
set_option relaxedAutoImplicit false

namespace SchemaTemplate.Grammar

/-- The words that statements are made of, apart from the names of types. -/
inductive Keyword
  | use
  | create
  | keyspace
  | schema
  | table
  | columnFamily
  | ifWord
  | notWord
  | existsWord
  | withWord
  | andWord
  | primary
  | key
  | static
  | clustering
  | order
  | byWord
  | compact
  | storage
  | asc
  | desc
  deriving DecidableEq, Repr

/-- The spelling of a keyword in capitals. -/
def Keyword.text : Keyword → String
  | use => "USE"
  | create => "CREATE"
  | keyspace => "KEYSPACE"
  | schema => "SCHEMA"
  | table => "TABLE"
  | columnFamily => "COLUMNFAMILY"
  | ifWord => "IF"
  | notWord => "NOT"
  | existsWord => "EXISTS"
  | withWord => "WITH"
  | andWord => "AND"
  | primary => "PRIMARY"
  | key => "KEY"
  | static => "STATIC"
  | clustering => "CLUSTERING"
  | order => "ORDER"
  | byWord => "BY"
  | compact => "COMPACT"
  | storage => "STORAGE"
  | asc => "ASC"
  | desc => "DESC"

/-- What a parser would have accepted. -/
inductive Expectation
  | keyword (spelled : Keyword)
  | symbol (punctuation : Symbol)
  | identifier
  | constant
  | direction
  | endOfStatement
  | keyspaceOrTable
  | useOrCreate
  deriving DecidableEq, Repr

/-- How an error report names an expectation. -/
def Expectation.text : Expectation → String
  | keyword spelled => spelled.text
  | symbol punctuation => "'" ++ punctuation.text ++ "'"
  | identifier => "identifier"
  | constant => "constant"
  | direction => "ASC or DESC"
  | endOfStatement => "end of statement"
  | keyspaceOrTable => "KEYSPACE or TABLE"
  | useOrCreate => "USE or CREATE statement"

/-- Why a list of tokens is not a statement. -/
inductive Rejection
  /-- Something else was expected in front of the tokens that are left. -/
  | unexpected (wanted : Expectation) (left : List Token)
  /-- A clause contradicts the clauses before it. -/
  | faulty (fault : SchemaFault)
  deriving DecidableEq, Repr

/-- The wording of a rejection for want of something expected. -/
def Expectation.complaint (wanted : Expectation) : List Token → String
  | token :: _ => "expected " ++ wanted.text ++ " but found '" ++ token.shown ++ "'"
  | [] => "expected " ++ wanted.text ++ " but reached end of statement"

/-- Reads a value from the front of a list of tokens. -/
abbrev Parser (Value : Type) : Type := StateT (List Token) (Except Rejection) Value

namespace Parser

/-- Rejects the statement because something else was expected here. -/
def reject {Value : Type} (wanted : Expectation) : Parser Value :=
  fun tokens ↦ .error (.unexpected wanted tokens)

/-- Goes on with the outcome of an operation on a definition. -/
def lift {Value : Type} (outcome : Except SchemaFault Value) : Parser Value :=
  fun tokens ↦ match outcome with
    | .ok value => .ok (value, tokens)
    | .error fault => .error (.faulty fault)

/-! ### Symbols -/

/-- Whether a symbol comes next; nothing is used up. -/
def sees (symbol : Symbol) : Parser Bool :=
  fun tokens ↦ .ok (tokens.head? = some (.symbol symbol), tokens)

/-- Uses up a symbol if it comes next. -/
def accept (symbol : Symbol) : Parser Bool
  | .symbol found :: rest =>
    if found = symbol then .ok (true, rest) else .ok (false, .symbol found :: rest)
  | tokens => .ok (false, tokens)

/-- Uses up a symbol, which has to come next. -/
def expect (symbol : Symbol) : Parser Unit := do
  if ← accept symbol then return () else reject (.symbol symbol)

/-- Uses up one closing angle, which may be the first of two written without a gap. -/
def expectClosingAngle : Parser Unit
  | .symbol .greater :: rest => .ok ((), rest)
  | .symbol .shiftRight :: rest => .ok ((), .symbol .greater :: rest)
  | tokens => .error (.unexpected (.symbol .greater) tokens)

/-- Succeeds if no token is left. -/
def expectEnd : Parser Unit
  | [] => .ok ((), [])
  | tokens => .error (.unexpected .endOfStatement tokens)

/-! ### Words -/

/-- Whether two words have the same letters, small and capital ASCII letters taken for the same. -/
def sameLetters (first second : String) : Bool :=
  first.toList.map Char.toLower = second.toList.map Char.toLower

/-- Whether a token is a certain word without quotes, in whatever case it is written. -/
def isWord (spelling : String) : Token → Bool
  | .word text => sameLetters text spelling
  | _ => false

/-- Whether tokens begin with certain words. -/
def beginsWith : (keywords : List Keyword) → List Token → Bool
  | [], _ => true
  | _ :: _, [] => false
  | keyword :: keywords, token :: rest => isWord keyword.text token && beginsWith keywords rest

/-- Uses up certain words if all of them come next, one after the other. -/
def acceptWords (keywords : List Keyword) : Parser Bool :=
  fun tokens ↦
    if beginsWith keywords tokens then .ok (true, tokens.drop keywords.length)
    else .ok (false, tokens)

/-- Uses up a word if it comes next. -/
def acceptWord (keyword : Keyword) : Parser Bool := acceptWords [keyword]

/-- Uses up a word, which has to come next. -/
def expectWord (keyword : Keyword) : Parser Unit := do
  if ← acceptWord keyword then return () else reject (.keyword keyword)

/-! ### Names and constants -/

/-- Reads a name. -/
def identifier : Parser Identifier
  | .word text :: rest => .ok (.unquoted text, rest)
  | .quotedWord text :: rest => .ok (.quoted text, rest)
  | tokens => .error (.unexpected .identifier tokens)

/-- Reads a name that may be preceded by the name of a keyspace and a period. -/
def qualifiedName : Parser (Option Identifier × Identifier) := do
  let first ← identifier
  if ← accept .period then
    let second ← identifier
    return (some first, second)
  else return (none, first)

/-- Reads a constant (a text, a number or a bare word) as its text. Only a number can be
negative. -/
def constant : Parser String
  | .symbol .minus :: .number digits _ :: rest => .ok ("-" ++ digits, rest)
  | .symbol .minus :: rest => .error (.unexpected .constant rest)
  | .string text :: rest => .ok (text, rest)
  | .number digits _ :: rest => .ok (digits, rest)
  | .word text :: rest => .ok (text, rest)
  | tokens => .error (.unexpected .constant tokens)

/-! ### Lists -/

/-- The number of tokens, with two closing angles written without a gap counted as two. -/
def weight (tokens : List Token) : Nat :=
  tokens.length + tokens.count (.symbol .shiftRight)

/-- Reads an item, and one more behind each separator, but at most `more` of those. -/
def listAtMost {State : Type} (separator : Parser Bool) (item : State → Parser State) :
    (more : Nat) → State → Parser State
  | 0, state => item state
  | more + 1, state => do
    let state ← item state
    if ← separator then listAtMost separator item more state else return state

/-- Reads items with a separator between them. Each item changes a state, and there are no more
separators than tokens. -/
def separated {State : Type} (separator : Parser Bool) (item : State → Parser State)
    (state : State) : Parser State :=
  fun tokens ↦ listAtMost separator item (weight tokens) state tokens

/-- Reads items with commas between them. -/
def commaSeparated {State : Type} : (item : State → Parser State) → State → Parser State :=
  separated (accept .comma)

end Parser

end SchemaTemplate.Grammar
