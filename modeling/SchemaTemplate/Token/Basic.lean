/-!
The tokens of a schema script. The kinds that the grammar of schema statements knows have a
constructor each. All others (operators of other statements, literals of other types, placeholders)
can only turn up in an error report, so they keep nothing but the way they are shown there.
-/

set_option autoImplicit false
set_option relaxedAutoImplicit false

namespace SchemaTemplate

/-- The punctuation of schema statements. -/
inductive Symbol
  | leftParenthesis
  | rightParenthesis
  | leftBrace
  | rightBrace
  | comma
  | semicolon
  | colon
  | period
  | equals
  | minus
  | less
  | greater
  /-- Two closing angles written without a gap. -/
  | shiftRight
  deriving DecidableEq, Repr

/-- The spelling of a symbol. -/
def Symbol.text : Symbol → String
  | leftParenthesis => "("
  | rightParenthesis => ")"
  | leftBrace => "\x7b"
  | rightBrace => "\x7d"
  | comma => ","
  | semicolon => ";"
  | colon => ":"
  | period => "."
  | equals => "="
  | minus => "-"
  | less => "<"
  | greater => ">"
  | shiftRight => ">>"

/-- A token of a script. -/
inductive Token
  /-- White space or a comment. -/
  | blank
  /-- A word without quotes. -/
  | word (text : String)
  /-- A word in double quotes, the quotes left out. -/
  | quotedWord (text : String)
  /-- A text in single quotes, the quotes left out. -/
  | string (text : String)
  /-- A number as it is written, and whether it carries the mark of a long number. -/
  | number (digits : String) (long : Bool)
  /-- A piece of punctuation. -/
  | symbol (punctuation : Symbol)
  /-- A token that no schema statement contains. -/
  | other (shown : String)
  deriving DecidableEq, Repr

namespace Token

/-- How an error report shows a token. -/
def shown : Token → String
  | blank => ""
  | word text => text
  | quotedWord text => "\"" ++ text ++ "\""
  | string text => "'" ++ text ++ "'"
  | number digits long => if long then digits ++ "L" else digits
  | symbol punctuation => punctuation.text
  | other shown => shown

/-- Whether a token is white space or a comment. -/
def isBlank : Token → Bool
  | blank => true
  | _ => false

end Token

end SchemaTemplate
