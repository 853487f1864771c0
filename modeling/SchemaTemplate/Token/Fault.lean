/-!
What can be wrong with the spelling of a token, and how it is put into words.
-/

set_option autoImplicit false
set_option relaxedAutoImplicit false

namespace SchemaTemplate

/-- Why no token can be read at a place. -/
inductive LexicalFault
  | unterminatedString
  | unterminatedEscapeString
  | unterminatedUnicodeString
  | missingHexDigit
  | invalidHexDigit (character : Char)
  | invalidCodePoint (code : Nat)
  | unclosedQuotedWord (delimiter : Char)
  | unclosedComment
  | unterminatedDollarText
  | unterminatedTaggedText
  deriving DecidableEq, Repr

/-- The wording of a fault. -/
def LexicalFault.message : LexicalFault → String
  | unterminatedString => "Unterminated string literal"
  | unterminatedEscapeString => "Unterminated encoded string literal"
  | unterminatedUnicodeString => "Unterminated unicode encoded string literal"
  | missingHexDigit => "Unexpected EOF while parsing hex digit in escaped unicode string."
  | invalidHexDigit character =>
    s!"Invalid hex digit in escaped unicode string: {character}"
  | invalidCodePoint code =>
    "Invalid unicode character: " ++ String.ofList (Nat.toDigits 16 code)
  | unclosedQuotedWord delimiter => s!"Expected close delimiter '{delimiter}' before EOF."
  | unclosedComment => "Unexpected EOF while in a multi-line comment"
  | unterminatedDollarText => "Unterminated dollar-quoted string"
  | unterminatedTaggedText => "Unterminated dollar-quoted, expected $"

/-- A fault with its place, counted in characters from the beginning of the token. -/
structure ScanFault where
  cause : LexicalFault
  offset : Nat
  deriving DecidableEq, Repr

end SchemaTemplate
