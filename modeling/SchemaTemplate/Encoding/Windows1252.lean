/-!
The single-byte encoding windows-1252. Every byte stands for a character: those from 0x80 to 0x9F
for one of a list (the bytes that the code page leaves open stand for the control characters of the
same number), and all others for the character with the same code point.
-/

set_option autoImplicit false
set_option relaxedAutoImplicit false

namespace SchemaTemplate.Encoding.Windows1252

/-- The code points of the bytes from 0x80 to 0x9F. -/
def upperControls : List Nat :=
  [0x20AC, 0x81, 0x201A, 0x192, 0x201E, 0x2026, 0x2020, 0x2021, 0x2C6, 0x2030, 0x160, 0x2039, 0x152,
   0x8D, 0x17D, 0x8F, 0x90, 0x2018, 0x2019, 0x201C, 0x201D, 0x2022, 0x2013, 0x2014, 0x2DC, 0x2122,
   0x161, 0x203A, 0x153, 0x9D, 0x17E, 0x178]

/-- The character of a byte. -/
def characterOf (byte : UInt8) : Char :=
  if 0x80 ≤ byte && byte < 0xA0 then
    Char.ofNat (upperControls.getD (byte.toNat - 0x80) byte.toNat)
  else Char.ofNat byte.toNat

/-- The text that bytes encode. -/
def decode (bytes : List UInt8) : String := String.ofList (bytes.map characterOf)

end SchemaTemplate.Encoding.Windows1252
