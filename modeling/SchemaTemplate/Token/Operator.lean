import SchemaTemplate.Token.Basic

/-!
Operators and punctuation. At a place where several spellings fit, the longest one is the operator.
-/

set_option autoImplicit false
set_option relaxedAutoImplicit false

namespace SchemaTemplate.Token

/-- The spellings of the operators, the longest first. The period is not among them because it can
also begin a number. -/
def operatorSpellings : List String :=
  ["!~~*", "->>", "||/", "!~*", "!~~", "<=>", "~~*", "->", "//", "|/", "||", "=>", "==", "!=", "!!",
   "!~", "<=", "<>", "<<", "<@", ">=", ">>", "::", ":=", "&&", "^@", "~*", "~~", "-", "/", "%", "|",
   "=", "!", "<", ">", ":", "&", "^", "~", "(", ")", ",", "+", "*", ";", "\\", "[", "]", "\x7b",
   "\x7d"]

/-- The symbols of schema statements that are operators. -/
def operatorSymbols : List Symbol :=
  [.leftParenthesis, .rightParenthesis, .leftBrace, .rightBrace, .comma, .semicolon, .colon,
   .equals, .minus, .less, .greater, .shiftRight]

/-- The token for an operator. The two spellings of "not equal" are shown alike. -/
def ofOperator (spelling : String) : Token :=
  match operatorSymbols.find? fun punctuation ↦ punctuation.text = spelling with
  | some punctuation => .symbol punctuation
  | none => .other (if spelling = "!=" then "<>" else spelling)

/-- The longest operator at the beginning of a text. -/
def operatorAt? (text : List Char) : Option String :=
  operatorSpellings.find? fun spelling ↦ spelling.toList.isPrefixOf text

end SchemaTemplate.Token
