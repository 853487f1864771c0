/-!
Whole numbers of 32 bits in decimal: perhaps a sign, at least one digit, and a value in range.
-/

set_option autoImplicit false
set_option relaxedAutoImplicit false

namespace SchemaTemplate.Text

/-- The number that decimal digits write, if there is at least one digit and nothing else. -/
def natural? (digits : List Char) : Option Nat :=
  if !digits.isEmpty && digits.all Char.isDigit then
    some (digits.foldl (fun value digit ↦ 10 * value + (digit.toNat - '0'.toNat)) 0)
  else none

/-- The whole number that a text writes, of whatever size. -/
def integer? (text : List Char) : Option Int :=
  match text with
  | '-' :: digits => (natural? digits).map fun value ↦ -(value : Int)
  | '+' :: digits => (natural? digits).map fun value ↦ (value : Int)
  | digits => (natural? digits).map fun value ↦ (value : Int)

/-- The whole number that a text writes, if 32 bits can hold it. -/
def integer32? (text : String) : Option Int :=
  (integer? text.toList).filter fun value ↦ -2147483648 ≤ value && value < 2147483648

end SchemaTemplate.Text
