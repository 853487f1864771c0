/-!
The JSON values that templates consist of, and how they are written. A layout says how the lines are
broken between the items of a list and the fields of an object, and what stands between a name and
its value; `Json.write` writes a value in a layout, in front of whatever text follows it. Strings
are written alike in every layout: only quotes, backslashes and control characters are escaped.
-/

set_option autoImplicit false
set_option relaxedAutoImplicit false

namespace SchemaTemplate

/-- A JSON value with whole numbers only. The fields of an object keep their order. -/
inductive Json
  | text (content : String)
  | number (value : Int)
  | list (items : List Json)
  | object (fields : List (String × Json))
  deriving Repr

namespace Json

/-! ### Strings and numbers -/

/-- The four hexadecimal digits of a control character's escape. -/
def controlDigits (character : Char) : List Char :=
  ['0', '0', Nat.digitChar (character.toNat / 16), Nat.digitChar (character.toNat % 16)]

/-- A character as it stands in a string. -/
def escaped (character : Char) : List Char :=
  if character = '"' then ['\\', '"']
  else if character = '\\' then ['\\', '\\']
  else if character = '\n' then ['\\', 'n']
  else if character = '\r' then ['\\', 'r']
  else if character = '\t' then ['\\', 't']
  else if character = Char.ofNat 0x08 then ['\\', 'b']
  else if character = Char.ofNat 0x0C then ['\\', 'f']
  else if character.toNat < 0x20 then '\\' :: 'u' :: controlDigits character
  else [character]

/-- A text in quotes, in front of `rest`. -/
def writeText (content : String) (rest : List Char) : List Char :=
  '"' :: (content.toList.flatMap escaped ++ '"' :: rest)

/-- A whole number in decimal digits. -/
def decimal : Int → List Char
  | .ofNat value => Nat.toDigits 10 value
  | .negSucc value => '-' :: Nat.toDigits 10 (value + 1)

/-! ### Layouts -/

/-- What a layout adds to the brackets, commas and colons. -/
structure Layout where
  /-- The space in front of an item or a bracket, by the number of brackets around it. -/
  lineBreak : Nat → List Char
  /-- The space between a colon and the value behind it. -/
  afterColon : List Char

/-- The layout without any space. -/
def Layout.compact : Layout := ⟨fun _ ↦ [], []⟩

/-- The layout in which every item stands on a line of its own, two spaces further in than the
brackets around it. -/
def Layout.pretty : Layout := ⟨fun depth ↦ '\n' :: List.replicate (2 * depth) ' ', [' ']⟩

mutual

/-- A value inside `depth` brackets, in front of `rest`. -/
def write (layout : Layout) (depth : Nat) : Json → (rest : List Char) → List Char
  | text content, rest => writeText content rest
  | number value, rest => decimal value ++ rest
  | list [], rest => '[' :: ']' :: rest
  | list items, rest =>
    '[' :: writeItems layout (depth + 1) [] items (layout.lineBreak depth ++ ']' :: rest)
  | object [], rest => '\x7b' :: '\x7d' :: rest
  | object fields, rest =>
    '\x7b' :: writeFields layout (depth + 1) [] fields (layout.lineBreak depth ++ '\x7d' :: rest)

/-- The items of a list, the first of them behind `separator`, in front of `rest`. -/
def writeItems (layout : Layout) (depth : Nat) (separator : List Char) :
    List Json → (rest : List Char) → List Char
  | [], rest => rest
  | item :: items, rest =>
    separator ++ (layout.lineBreak depth ++
      write layout depth item (writeItems layout depth [','] items rest))

/-- The fields of an object, the first of them behind `separator`, in front of `rest`. -/
def writeFields (layout : Layout) (depth : Nat) (separator : List Char) :
    List (String × Json) → (rest : List Char) → List Char
  | [], rest => rest
  | (name, value) :: fields, rest =>
    separator ++ (layout.lineBreak depth ++
      writeText name (':' :: (layout.afterColon ++
        write layout depth value (writeFields layout depth [','] fields rest))))

end

/-- The text of a value in a layout. -/
def render (layout : Layout) (value : Json) : String := String.ofList (write layout 0 value [])

end Json

end SchemaTemplate
