/-!
The encoding UTF-16 in both byte orders. A character below U+10000 is one unit of 16 bits, any other
character is a high surrogate and a low one. `encode` writes a text as bytes and `decode?` reads it
back, refusing half units and surrogates that do not form a pair.
-/

set_option autoImplicit false
set_option relaxedAutoImplicit false

namespace SchemaTemplate.Encoding.Utf16

/-- Which byte of a unit comes first. -/
inductive ByteOrder
  | littleEndian
  | bigEndian
  deriving DecidableEq, Repr

/-! ### Characters and units -/

/-- The units of a character. -/
def unitsOf (character : Char) : List UInt16 :=
  let code := character.toNat
  if code < 0x10000 then [code.toUInt16]
  else [(0xD800 + (code - 0x10000) / 0x400).toUInt16, (0xDC00 + (code - 0x10000) % 0x400).toUInt16]

/-- Whether a unit is the first of a pair. -/
def isHigh (unit : UInt16) : Bool := 0xD800 ≤ unit && unit < 0xDC00

/-- Whether a unit is the second of a pair. -/
def isLow (unit : UInt16) : Bool := 0xDC00 ≤ unit && unit < 0xE000

/-- The character of a pair. -/
def pairCharacter (high low : UInt16) : Char :=
  Char.ofNat (0x10000 + (high.toNat - 0xD800) * 0x400 + (low.toNat - 0xDC00))

/-- Reads units as characters. -/
def charactersOf? : List UInt16 → Option (List Char)
  | [] => some []
  | unit :: rest =>
    if isHigh unit then
      match rest with
      | low :: more =>
        if isLow low then (pairCharacter unit low :: ·) <$> charactersOf? more else none
      | [] => none
    else if isLow unit then none
    else (Char.ofNat unit.toNat :: ·) <$> charactersOf? rest

/-! ### Units and bytes -/

/-- The two bytes of a unit. -/
def bytesOf (order : ByteOrder) (unit : UInt16) : List UInt8 :=
  let high := (unit.toNat / 0x100).toUInt8
  let low := (unit.toNat % 0x100).toUInt8
  match order with
  | .littleEndian => [low, high]
  | .bigEndian => [high, low]

/-- The unit of two bytes. -/
def unitOfBytes (order : ByteOrder) (first second : UInt8) : UInt16 :=
  match order with
  | .littleEndian => (second.toNat * 0x100 + first.toNat).toUInt16
  | .bigEndian => (first.toNat * 0x100 + second.toNat).toUInt16

/-- Groups bytes to units, if their number is even. -/
def units? (order : ByteOrder) : List UInt8 → Option (List UInt16)
  | [] => some []
  | [_] => none
  | first :: second :: rest => (unitOfBytes order first second :: ·) <$> units? order rest

/-! ### Texts -/

/-- The bytes of a text. -/
def encode (order : ByteOrder) (text : String) : List UInt8 :=
  (text.toList.flatMap unitsOf).flatMap (bytesOf order)

/-- The text that bytes encode. -/
def decode? (order : ByteOrder) (bytes : List UInt8) : Option String :=
  ((units? order bytes).bind charactersOf?).map String.ofList

end SchemaTemplate.Encoding.Utf16
