import SchemaTemplate.Grammar.Parser
import SchemaTemplate.Schema.ColumnType

/-!
The grammar of column types. The kind of a composite type is a word of its own only in front of an
opening angle; elsewhere the same word is the name of a type that the schema defines.
-/

set_option autoImplicit false
set_option relaxedAutoImplicit false

namespace SchemaTemplate.Grammar

open SchemaTemplate.Grammar.Parser

/-- The spelling in a list that a token writes as a word without quotes. -/
def spelledIn? (spellings : List String) (token : Token) : Option String :=
  spellings.find? fun spelling ↦ isWord spelling token

/-- Uses up the kind of a composite type and the opening angle behind it, if they come next. -/
def acceptCompositeKind : Parser (Option String)
  | token :: .symbol .less :: rest =>
    match spelledIn? ColumnType.compositeKinds token with
    | some kind => .ok (some kind, rest)
    | none => .ok (none, token :: .symbol .less :: rest)
  | tokens => .ok (none, tokens)

/-- Reads a type that the schema defines. -/
def userType : Parser ColumnType := do
  let (keyspace, name) ← qualifiedName
  return .user keyspace name

/-- Reads a type that is not composite. -/
def plainType : Parser ColumnType
  | .string className :: rest => .ok (.custom className, rest)
  | token :: rest =>
    match spelledIn? ColumnType.simpleNames token with
    | some name => .ok (.simple name, rest)
    | none => userType (token :: rest)
  | [] => userType []

/-- Reads an element type and puts it behind those read before. -/
def elementType (type : Parser ColumnType) (elements : List ColumnType) :
    Parser (List ColumnType) := do
  let element ← type
  return elements ++ [element]

/-- Reads a type in which composite types are nested at most `depth` deep. -/
def typeNested : (depth : Nat) → Parser ColumnType
  | 0 => plainType
  | depth + 1 => do
    match ← acceptCompositeKind with
    | some kind =>
      let elements ← commaSeparated (elementType (typeNested depth)) []
      expectClosingAngle
      return .composite kind elements
    | none => plainType

/-- Reads a column type. Every composite type in it begins with a token of its own, so the number
of tokens bounds the nesting. -/
def columnType : Parser ColumnType :=
  fun tokens ↦ typeNested (weight tokens) tokens

end SchemaTemplate.Grammar
