import SchemaTemplate.Token.Fault

/-!
Bodies of quoted literals. A body is read piece by piece: a piece either stands for some characters
of the content or closes the literal. Each kind of literal is a function that says which piece
begins at a character, and `readBody` strings the pieces together.
-/

set_option autoImplicit false
set_option relaxedAutoImplicit false

namespace SchemaTemplate.Token

/-- What begins at a character of a body. The character itself is not counted in `extra`. -/
inductive Piece
  /-- The end of the literal, with `extra` further characters belonging to it. -/
  | closing (extra : Nat)
  /-- Content that is written with `extra` further characters. -/
  | content (text : List Char) (extra : Nat)
  /-- Nothing that a body may hold; the place is counted from the character. -/
  | broken (fault : LexicalFault) (offset : Nat)

/-- The content of a literal and the number of characters up to and including its closing. -/
structure Body where
  content : List Char
  extent : Nat
  deriving DecidableEq, Repr

/-- Reads on in a body of which `extent` characters with the content `content` (reversed) are done.
When the text ends before the literal is closed, the fault is `unclosed`, at the end. -/
def readBodyAfter (piece : Char → List Char → Piece) (unclosed : LexicalFault)
    (content : List Char) (extent : Nat) : List Char → Except ScanFault Body
  | [] => .error ⟨unclosed, extent⟩
  | character :: rest =>
    match piece character rest with
    | .closing extra => .ok ⟨content.reverse, extent + 1 + extra⟩
    | .content text extra =>
      readBodyAfter piece unclosed (text.reverse ++ content) (extent + 1 + extra) (rest.drop extra)
    | .broken fault offset => .error ⟨fault, extent + offset⟩
termination_by text => text.length
decreasing_by simp only [List.length_drop, List.length_cons]; omega

/-- Reads a body from its first character on. -/
def readBody (piece : Char → List Char → Piece) (unclosed : LexicalFault) (text : List Char) :
    Except ScanFault Body :=
  readBodyAfter piece unclosed [] 0 text

/-! ### Kinds of literals -/

/-- The body of a literal that ends at a single quote mark; a doubled mark is one in the content. -/
def doublingPiece (quote : Char) (character : Char) (rest : List Char) : Piece :=
  if character = quote then
    if rest.head? = some quote then .content [quote] 1 else .closing 0
  else .content [character] 0

/-- The character that a letter stands for behind a backslash, where only some letters have a
meaning of their own. -/
def backslashed : Char → Char
  | '0' => Char.ofNat 0x00
  | 'a' => Char.ofNat 0x07
  | 'b' => Char.ofNat 0x08
  | 'f' => Char.ofNat 0x0C
  | 'n' => '\n'
  | 'r' => '\r'
  | 't' => '\t'
  | 'Z' => Char.ofNat 0x1A
  | character => character

/-- As `doublingPiece`, with a backslash that gives the character behind it another meaning. -/
def backslashPiece (quote : Char) (character : Char) (rest : List Char) : Piece :=
  if character = '\\' then
    match rest with
    | [] => .content [] 0
    | letter :: _ => .content [backslashed letter] 1
  else doublingPiece quote character rest

/-- The body of a literal that ends with the first occurrence of a closing text. -/
def untilPiece (closing : List Char) (character : Char) (rest : List Char) : Piece :=
  if closing.isPrefixOf (character :: rest) then .closing (closing.length - 1)
  else .content [character] 0

/-! ### Numeric escapes -/

/-- The value of a hexadecimal digit. -/
def hexDigit? (character : Char) : Option Nat :=
  if character.isDigit then some (character.toNat - '0'.toNat)
  else if 'a' ≤ character ∧ character ≤ 'f' then some (character.toNat - 'a'.toNat + 10)
  else if 'A' ≤ character ∧ character ≤ 'F' then some (character.toNat - 'A'.toNat + 10)
  else none

/-- The value of a digit of the base eight. -/
def octalDigit? (character : Char) : Option Nat :=
  if '0' ≤ character ∧ character ≤ '7' then some (character.toNat - '0'.toNat) else none

/-- The number that a list of digits writes in a base. -/
def valueOf (base : Nat) (digits : List Nat) : Nat :=
  digits.foldl (fun value digit ↦ base * value + digit) 0

/-- The character with a code point, if there is one. -/
def charOfCode? (code : Nat) : Option Char :=
  if code.isValidChar then some (Char.ofNat code) else none

/-- The digits at the beginning of a text, at most `limit` of them. -/
def leadingDigits (digit? : Char → Option Nat) (limit : Nat) (text : List Char) : List Nat :=
  ((text.take limit).takeWhile fun character ↦ (digit? character).isSome).filterMap digit?

/-- The number written by hexadecimal digits, which a plus sign may precede. -/
def hexNumber? (text : List Char) : Option Nat :=
  let digits := match text with
    | '+' :: rest => rest
    | _ => text
  if digits.isEmpty then none else (digits.mapM hexDigit?).map (valueOf 16)

/-! ### Strings with escapes -/

/-- What follows a backslash in an escape string: the character meant, if any, and the number of
characters that it is written with. -/
def escapeMeaning (letter : Char) (rest : List Char) : Option Char × Nat :=
  match letter with
  | 'b' => (some (Char.ofNat 0x08), 1)
  | 'f' => (some (Char.ofNat 0x0C), 1)
  | 'n' => (some '\n', 1)
  | 'r' => (some '\r', 1)
  | 't' => (some '\t', 1)
  | 'u' => (codeOf 4, 5)
  | 'U' => (codeOf 8, 9)
  | 'x' =>
    let digits := leadingDigits hexDigit? 2 rest
    if digits.isEmpty then (some 'x', 1) else (byteOf (valueOf 16 digits), digits.length + 1)
  | _ =>
    if (octalDigit? letter).isSome then
      let digits := leadingDigits octalDigit? 3 (letter :: rest)
      (byteOf (valueOf 8 digits), digits.length)
    else (some letter, 1)
where
  /-- The character whose code point is written with a fixed number of characters. -/
  codeOf (width : Nat) : Option Char :=
    if rest.length < width then none else (hexNumber? (rest.take width)).bind charOfCode?
  /-- The character of a byte, of which only the lower half of the values has one. -/
  byteOf (value : Nat) : Option Char :=
    if value % 256 < 128 then charOfCode? (value % 256) else none

/-- The body of an escape string. An escape must not stand for the character NUL. -/
def escapePiece (character : Char) (rest : List Char) : Piece :=
  if character = '\\' then
    match rest with
    | [] => .broken .unterminatedEscapeString 0
    | letter :: more =>
      match escapeMeaning letter more with
      | (some meant, width) =>
        if meant = Char.ofNat 0 then .broken .unterminatedEscapeString 0
        else .content [meant] width
      | (none, _) => .broken .unterminatedEscapeString 0
  else doublingPiece '\'' character rest

/-- Reads the code point written by `count` more hexadecimal digits, `offset` characters into an
escape, and closes the escape behind them. -/
def codePointPiece (value offset : Nat) : (count : Nat) → List Char → Piece
  | 0, _ =>
    match charOfCode? value with
    | some character => .content [character] (offset - 1)
    | none => .broken (.invalidCodePoint value) offset
  | _ + 1, [] => .broken .missingHexDigit offset
  | count + 1, character :: rest =>
    match hexDigit? character with
    | some digit => codePointPiece (16 * value + digit) (offset + 1) count rest
    | none => .broken (.invalidHexDigit character) (offset + 1)

/-- The body of a Unicode string, where a backslash introduces four hexadecimal digits, six of them
after a plus sign, or a backslash. -/
def unicodePiece (character : Char) (rest : List Char) : Piece :=
  if character = '\\' then
    match rest with
    | '\\' :: _ => .content ['\\'] 1
    | '+' :: digits => codePointPiece 0 2 6 digits
    | digits => codePointPiece 0 1 4 digits
  else doublingPiece '\'' character rest

end SchemaTemplate.Token
