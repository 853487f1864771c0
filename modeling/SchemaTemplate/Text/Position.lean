/-!
Places in a script. Lines and columns count from one, a column is one character, and the line feed
is the only character that ends a line. `Position.past` moves a place across a stretch of text.
-/

set_option autoImplicit false
set_option relaxedAutoImplicit false

namespace SchemaTemplate

/-- A place in a script, given by its line and its column. -/
structure Position where
  line : Nat
  column : Nat
  deriving DecidableEq, Repr

namespace Position

/-- The place of the first character of a script. -/
def start : Position := ⟨1, 1⟩

/-- The place behind one character. -/
def next (position : Position) (character : Char) : Position :=
  if character = '\n' then ⟨position.line + 1, 1⟩ else ⟨position.line, position.column + 1⟩

/-- The place behind a stretch of text. -/
def past (position : Position) (text : List Char) : Position :=
  text.foldl next position

@[simp] theorem past_nil (position : Position) : position.past [] = position := rfl

@[simp] theorem past_cons (position : Position) (character : Char) (text : List Char) :
    position.past (character :: text) = (position.next character).past text := rfl

/-- Crossing two stretches one after the other is crossing their concatenation. -/
theorem past_append (position : Position) (first second : List Char) :
    position.past (first ++ second) = (position.past first).past second :=
  List.foldl_append

end Position

end SchemaTemplate
