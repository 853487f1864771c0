/-!
Texts for a terminal. A terminal obeys certain control characters instead of showing them: they
begin a change of colour, move the cursor or sound the bell. `forTerminal` gives these by their code
points and leaves every other character alone, line feeds and tabs among them.
-/

set_option autoImplicit false
set_option relaxedAutoImplicit false

namespace SchemaTemplate.Text

/-- Whether a character belongs to the control characters from U+0080 to U+009F. -/
def isUpperControl (character : Char) : Bool :=
  0x80 ≤ character.toNat && character.toNat < 0xA0

/-- Whether a character is one of the ASCII characters that a terminal obeys: the bell, the
backspace, the form feed, the escape and the delete character. -/
def isTerminalControl (character : Char) : Bool :=
  character.toNat ∈ [0x07, 0x08, 0x0C, 0x1B, 0x7F]

/-- A character as it is sent to a terminal. -/
def terminalForm (character : Char) : List Char :=
  let code := character.toNat
  if isTerminalControl character then
    ['\\', 'x', Nat.digitChar (code / 16), Nat.digitChar (code % 16)]
  else if isUpperControl character then
    ['\\', 'u', '\x7b'] ++ Nat.toDigits 16 code ++ ['\x7d']
  else [character]

/-- A text as it is sent to a terminal. -/
def forTerminal (text : String) : String :=
  String.ofList (text.toList.flatMap terminalForm)

end SchemaTemplate.Text
