import SchemaTemplate.Unicode.Ranges

/-!
The Unicode property White_Space.
-/

set_option autoImplicit false
set_option relaxedAutoImplicit false

namespace SchemaTemplate.Unicode

/-- The code points that have the property White_Space. -/
def blankRanges : CodeRanges :=
  [(0x9, 0xD), (0x20, 0x20), (0x85, 0x85), (0xA0, 0xA0), (0x1680, 0x1680), (0x2000, 0x200A),
   (0x2028, 0x2029), (0x202F, 0x202F), (0x205F, 0x205F), (0x3000, 0x3000)]

/-- Whether a character is white space. -/
def isBlank (character : Char) : Bool :=
  blankRanges.contains character

end SchemaTemplate.Unicode
