/-!
When a text is a JSON text. The rules are those of the format, whatever wrote the text: white space
may stand around every part, a string holds no bare quote, backslash or control character, a number
has no needless zero in front, and items and fields are separated by single commas.
-/

set_option autoImplicit false
set_option relaxedAutoImplicit false

namespace SchemaTemplate.Json

/-! ### Numbers -/

/-- Whether a text is white space. -/
def IsBlank (text : List Char) : Prop :=
  ∀ character ∈ text, character ∈ [' ', '\t', '\n', '\r']

/-- Whether a text consists of digits, at least one. -/
def IsDigits (text : List Char) : Prop := text ≠ [] ∧ ∀ digit ∈ text, digit.isDigit = true

/-- Whether a text is the part of a number in front of the decimal point. -/
def IsWhole (text : List Char) : Prop := text = ['0'] ∨ (IsDigits text ∧ text.head? ≠ some '0')

/-- Whether a text is the part of a number behind the whole part, which may be missing. -/
def IsFraction (text : List Char) : Prop :=
  text = [] ∨ ∃ digits, IsDigits digits ∧ text = '.' :: digits

/-- Whether a text is the exponent of a number, which may be missing. -/
def IsExponent (text : List Char) : Prop :=
  text = [] ∨ ∃ mark ∈ ['e', 'E'], ∃ sign ∈ [[], ['+'], ['-']], ∃ digits,
    IsDigits digits ∧ text = mark :: (sign ++ digits)

/-- Whether a text is a number. -/
def IsNumber (text : List Char) : Prop :=
  ∃ sign ∈ [[], ['-']], ∃ whole fraction exponent,
    IsWhole whole ∧ IsFraction fraction ∧ IsExponent exponent ∧
      text = sign ++ whole ++ fraction ++ exponent

/-! ### Strings -/

/-- Whether a character is a hexadecimal digit. -/
def IsHexDigit (character : Char) : Prop :=
  character.isDigit = true ∨ character ∈ ['a', 'b', 'c', 'd', 'e', 'f'] ∨
    character ∈ ['A', 'B', 'C', 'D', 'E', 'F']

/-- Whether a text stands for one character of a string. -/
inductive IsCharacter : List Char → Prop
  | plain {character : Char} (hcontrol : 0x20 ≤ character.toNat) (hquote : character ≠ '"')
    (hbackslash : character ≠ '\\') : IsCharacter [character]
  | escape {character : Char} (hletter : character ∈ ['"', '\\', '/', 'b', 'f', 'n', 'r', 't']) :
    IsCharacter ['\\', character]
  | code {digits : List Char} (hlength : digits.length = 4)
    (hdigits : ∀ digit ∈ digits, IsHexDigit digit) : IsCharacter ('\\' :: 'u' :: digits)

/-- Whether a text is a string in quotes. -/
def IsString (text : List Char) : Prop :=
  ∃ characters : List (List Char), (∀ character ∈ characters, IsCharacter character) ∧
    text = '"' :: (characters.flatten ++ ['"'])

/-! ### Values -/

mutual

/-- Whether a text is a value, without white space around it. -/
inductive IsValue : List Char → Prop
  | word {word : String} (hword : word ∈ ["null", "true", "false"]) : IsValue word.toList
  | number {text : List Char} (hnumber : IsNumber text) : IsValue text
  | text {text : List Char} (hstring : IsString text) : IsValue text
  | emptyList {blank : List Char} (hblank : IsBlank blank) : IsValue ('[' :: (blank ++ [']']))
  | list {items : List Char} (hitems : IsItems items) : IsValue ('[' :: (items ++ [']']))
  | emptyObject {blank : List Char} (hblank : IsBlank blank) :
    IsValue ('\x7b' :: (blank ++ ['\x7d']))
  | object {fields : List Char} (hfields : IsFields fields) :
    IsValue ('\x7b' :: (fields ++ ['\x7d']))

/-- Whether a text lists values, at least one, with commas between them. -/
inductive IsItems : List Char → Prop
  | last {before value after : List Char} (hbefore : IsBlank before) (hvalue : IsValue value)
    (hafter : IsBlank after) : IsItems (before ++ value ++ after)
  | more {before value after rest : List Char} (hbefore : IsBlank before) (hvalue : IsValue value)
    (hafter : IsBlank after) (hrest : IsItems rest) :
    IsItems (before ++ value ++ after ++ ',' :: rest)

/-- Whether a text lists fields, at least one, with commas between them. -/
inductive IsFields : List Char → Prop
  | last {field : List Char} (hfield : IsField field) : IsFields field
  | more {field rest : List Char} (hfield : IsField field) (hrest : IsFields rest) :
    IsFields (field ++ ',' :: rest)

/-- Whether a text is a name with a value behind a colon, and white space around both. -/
inductive IsField : List Char → Prop
  | field {before name between behind value after : List Char} (hbefore : IsBlank before)
    (hname : IsString name) (hbetween : IsBlank between) (hbehind : IsBlank behind)
    (hvalue : IsValue value) (hafter : IsBlank after) :
    IsField (before ++ name ++ between ++ ':' :: (behind ++ value ++ after))

end

/-- Whether a text is a JSON text: one value with white space around it. -/
def WellFormed (text : String) : Prop :=
  ∃ before value after, IsBlank before ∧ IsValue value ∧ IsBlank after ∧
    text.toList = before ++ value ++ after

end SchemaTemplate.Json
