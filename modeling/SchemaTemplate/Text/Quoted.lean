import SchemaTemplate.Unicode.Visible

/-!
Texts in quotes for the eyes of a programmer. Quotes, backslashes and the usual control characters
have short escapes, and whatever could not be told apart on a screen is given by its code point.
-/

set_option autoImplicit false
set_option relaxedAutoImplicit false

namespace SchemaTemplate.Text

/-- A character as it stands inside the quotes. -/
def shownCharacter (character : Char) : List Char :=
  if character = Char.ofNat 0 then ['\\', '0']
  else if character = '\t' then ['\\', 't']
  else if character = '\r' then ['\\', 'r']
  else if character = '\n' then ['\\', 'n']
  else if character = '"' then ['\\', '"']
  else if character = '\\' then ['\\', '\\']
  else if Unicode.isVisible character then [character]
  else ['\\', 'u', '\x7b'] ++ Nat.toDigits 16 character.toNat ++ ['\x7d']

/-- A text in quotes. -/
def quoted (text : String) : String :=
  String.ofList ('"' :: text.toList.flatMap shownCharacter ++ ['"'])

end SchemaTemplate.Text
