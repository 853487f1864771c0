/-!
Sets of characters given by inclusive ranges of code points. A character property of the Unicode
standard is such a list, kept in increasing order; `CodeRanges.contains` decides membership.
-/

set_option autoImplicit false
set_option relaxedAutoImplicit false

namespace SchemaTemplate.Unicode

/-- A set of code points as a list of inclusive ranges. -/
abbrev CodeRanges : Type := List (Nat × Nat)

/-- Whether the code point of a character lies in one of the ranges. -/
def CodeRanges.contains (ranges : CodeRanges) (character : Char) : Bool :=
  ranges.any fun range ↦ range.1 ≤ character.toNat && character.toNat ≤ range.2

end SchemaTemplate.Unicode
