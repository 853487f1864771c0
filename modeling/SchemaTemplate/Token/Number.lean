import SchemaTemplate.Token.Basic

/-!
Numbers. A number has digits with at most one point among, before or behind them, then perhaps an
exponent and perhaps the mark of a long number. A point on its own is the period.
-/

set_option autoImplicit false
set_option relaxedAutoImplicit false

namespace SchemaTemplate.Token

/-- The decimal digits at the beginning of a text. -/
def digitsAt (text : List Char) : List Char := text.takeWhile Char.isDigit

/-- Whether a character is a hexadecimal digit. -/
def isHexDigit (character : Char) : Bool :=
  character.isDigit || ('a' ≤ character && character ≤ 'f') || ('A' ≤ character && character ≤ 'F')

/-- The exponent at the beginning of a text: a letter e, perhaps a sign, and at least one digit. -/
def exponentAt (text : List Char) : List Char :=
  match text with
  | [] => []
  | mark :: rest =>
    let sign := match rest with
      | '+' :: _ => ['+']
      | '-' :: _ => ['-']
      | _ => []
    let digits := digitsAt (rest.drop sign.length)
    if (mark = 'e' || mark = 'E') && !digits.isEmpty then mark :: (sign ++ digits) else []

/-- The digits and the point at the beginning of a text. -/
def mantissaAt (text : List Char) : List Char :=
  let whole := digitsAt text
  match text.drop whole.length with
  | '.' :: rest => whole ++ '.' :: digitsAt rest
  | _ => whole

/-- The number, period or hexadecimal literal at the beginning of a text, which begins with a digit
or a point, and the number of characters that it is written with. -/
def numberAt (text : List Char) : Token × Nat :=
  match digitsAt text, text.drop 1 with
  | ['0'], 'x' :: rest =>
    let digits := rest.takeWhile isHexDigit
    (.other ("X'" ++ String.ofList digits ++ "'"), digits.length + 2)
  | _, _ =>
    let mantissa := mantissaAt text
    if mantissa = ['.'] then (.symbol .period, 1)
    else
      let written := mantissa ++ exponentAt (text.drop mantissa.length)
      let long := (text.drop written.length).head? = some 'L'
      (.number (String.ofList written) long, written.length + if long then 1 else 0)

end SchemaTemplate.Token
