import SchemaTemplate.Token.Body
import SchemaTemplate.Token.Number
import SchemaTemplate.Token.Operator
import SchemaTemplate.Unicode.Alphabetic
import SchemaTemplate.Unicode.Blank
import SchemaTemplate.Unicode.Numeric

/-!
The token at the beginning of a text. `Token.scan` takes the first character apart from the rest
and answers with the token and the number of characters of the rest that belong to it, so what
remains of the text is always shorter.
-/

set_option autoImplicit false
set_option relaxedAutoImplicit false

namespace SchemaTemplate.Token

/-- A token and the number of characters, after the first, that it is written with. -/
abbrev Scanned : Type := Except ScanFault (Token × Nat)

/-! ### Words -/

/-- Whether a word can begin with a character. -/
def startsWord (character : Char) : Bool :=
  character = '_' || Unicode.isAlphabetic character

/-- Whether a word can go on with a character. -/
def continuesWord (character : Char) : Bool :=
  character = '_' || character.isDigit || character = '$' || character = '#' || character = '@' ||
    Unicode.isAlphabetic character

/-- The word that consists of some characters and all that can continue it. -/
def wordFrom (characters rest : List Char) : Token × Nat :=
  let more := rest.takeWhile continuesWord
  (.word (String.ofList (characters ++ more)), characters.length - 1 + more.length)

/-! ### Quoted literals -/

/-- A literal whose first `opening` characters introduce it; they precede `text`. -/
def literal (opening : Nat) (piece : Char → List Char → Piece) (unclosed : LexicalFault)
    (text : List Char) (token : String → Token) : Scanned :=
  match readBody piece unclosed text with
  | .ok body => .ok (token (String.ofList body.content), opening - 1 + body.extent)
  | .error fault => .error ⟨fault.cause, opening + fault.offset⟩

/-- Places every fault of a token at the same distance from its beginning. -/
def blamedAt (offset : Nat) (scanned : Scanned) : Scanned :=
  scanned.mapError fun fault ↦ ⟨fault.cause, offset⟩

/-- A token shown as a quotation behind a mark of its kind. -/
def marked (mark : String) (quote : Char) (content : String) : Token :=
  .other (mark ++ quote.toString ++ content ++ quote.toString)

/-- A raw string, from its first quote mark on. Three quote marks open one that only three close,
and exactly two are the empty string. -/
def rawString (quote : Char) (text : List Char) : Scanned :=
  let shown (quotes content : String) : Token := .other ("R" ++ quotes ++ content ++ quotes)
  let single := String.ofList [quote]
  let triple := String.ofList [quote, quote, quote]
  match (text.take 3).takeWhile (· = quote) with
  | [_, _, _] =>
    blamedAt 4 (literal 4 (untilPiece triple.toList) .unterminatedString (text.drop 3)
      (shown triple))
  | [_, _] => .ok (shown single "", 2)
  | _ =>
    blamedAt 2 (literal 2 (doublingPiece quote) .unterminatedString (text.drop 1) (shown single))

/-- The literal that a letter introduces together with the quote mark behind it, if it does. -/
def markedLiteral? (letter : Char) (rest : List Char) : Option Scanned :=
  match letter.toLower, rest with
  | 'b', '\'' :: text =>
    some (blamedAt 1 (literal 2 (doublingPiece '\'') .unterminatedString text (marked "B" '\'')))
  | 'b', '"' :: text =>
    some (blamedAt 1 (literal 2 (doublingPiece '"') .unterminatedString text (marked "B" '"')))
  | 'r', '\'' :: _ => some (rawString '\'' rest)
  | 'r', '"' :: _ => some (rawString '"' rest)
  | 'n', '\'' :: text =>
    some (blamedAt 1 (literal 2 (backslashPiece '\'') .unterminatedString text (marked "N" '\'')))
  | 'x', '\'' :: text =>
    some (blamedAt 1 (literal 2 (backslashPiece '\'') .unterminatedString text (marked "X" '\'')))
  | 'e', '\'' :: text =>
    some (blamedAt 0 (literal 2 escapePiece .unterminatedEscapeString text (marked "E" '\'')))
  | 'u', '&' :: '\'' :: text =>
    some (literal 3 unicodePiece .unterminatedUnicodeString text (marked "U&" '\''))
  | _, _ => none

/-- A text between dollar signs, or a placeholder; `rest` is what follows the first dollar sign. -/
def dollar (rest : List Char) : Scanned :=
  let tag := rest.takeWhile fun character ↦
    character = '_' || Unicode.isAlphabetic character || Unicode.isNumeric character
  let delimiter := '$' :: tag ++ ['$']
  let shown (content : String) : Token :=
    .other (String.ofList delimiter ++ content ++ String.ofList delimiter)
  match rest.drop tag.length with
  | '$' :: text =>
    let unclosed : LexicalFault :=
      if tag.isEmpty then .unterminatedDollarText else .unterminatedTaggedText
    literal delimiter.length (untilPiece delimiter) unclosed text shown
  | _ => .ok (.other (String.ofList ('$' :: tag)), tag.length)

/-! ### Comments -/

/-- The number of characters up to and including the end of a comment, `extent` of which are done,
while `depth` comments inside it are open. -/
def commentExtent? (depth extent : Nat) : List Char → Option Nat
  | [] => none
  | '/' :: '*' :: rest => commentExtent? (depth + 1) (extent + 2) rest
  | '*' :: '/' :: rest =>
    if depth = 0 then some (extent + 2) else commentExtent? (depth - 1) (extent + 2) rest
  | _ :: rest => commentExtent? depth (extent + 1) rest

/-- The comment between `rest` and the characters `--` or `/*` that end with the first of `rest`,
if there is one. -/
def comment? (first : Char) (rest : List Char) : Option Scanned :=
  match first, rest with
  | '-', '-' :: text =>
    let line := text.takeWhile (· ≠ '\n')
    let lineFeed := if (text.drop line.length).isEmpty then 0 else 1
    some (.ok (.blank, 1 + line.length + lineFeed))
  | '/', '*' :: text =>
    match commentExtent? 0 0 text with
    | some extent => some (.ok (.blank, 1 + extent))
    | none => some (.error ⟨.unclosedComment, 2 + text.length⟩)
  | _, _ => none

/-! ### Words and operators with a leading mark -/

/-- The token that begins with a number sign. -/
def numberSign (rest : List Char) : Token × Nat :=
  match rest with
  | [] => (.other "#", 0)
  | ' ' :: _ => (.other "#", 0)
  | '-' :: _ => (.other "#-", 1)
  | '>' :: '>' :: _ => (.other "#>>", 2)
  | '>' :: _ => (.other "#>", 1)
  | character :: more => wordFrom ['#', character] more

/-- The token that begins with an at sign. -/
def atSign (rest : List Char) : Token × Nat :=
  match rest with
  | [] => (.other "@", 0)
  | ' ' :: _ => (.other "@", 0)
  | '\'' :: _ => (.other "@", 0)
  | '"' :: _ => (.other "@", 0)
  | '\x60' :: _ => (.other "@", 0)
  | '>' :: _ => (.other "@>", 1)
  | '?' :: _ => (.other "@?", 1)
  | ['@'] => (.other "@@", 1)
  | '@' :: ' ' :: _ => (.other "@@", 1)
  | '@' :: character :: more => wordFrom ['@', '@', character] more
  | character :: more => wordFrom ['@', character] more

/-! ### Any token -/

/-- The token that is none of the quoted literals, comments and operators. -/
def plain (first : Char) (rest : List Char) : Token × Nat :=
  if first = '#' then numberSign rest
  else if first = '@' then atSign rest
  else if first = '?' then
    let digits := rest.takeWhile Unicode.isNumeric
    (.other (String.ofList (first :: digits)), digits.length)
  else if startsWord first then wordFrom [first] rest
  else if Unicode.isBlank first then (.blank, 0)
  else (.other first.toString, 0)

/-- The token that begins with `first` and goes on, perhaps, in `rest`. -/
def scan (first : Char) (rest : List Char) : Scanned :=
  if first = ' ' || first = '\t' || first = '\n' || first = '\r' then .ok (.blank, 0)
  else if let some scanned := markedLiteral? first rest then scanned
  else if first = '\'' then
    blamedAt 0 (literal 1 (doublingPiece '\'') .unterminatedString rest .string)
  else if first = '"' then
    blamedAt 0 (literal 1 (doublingPiece '"') (.unclosedQuotedWord '"') rest .quotedWord)
  else if first = '\x60' then
    blamedAt 0
      (literal 1 (doublingPiece '\x60') (.unclosedQuotedWord '\x60') rest (marked "" '\x60'))
  else if first.isDigit || first = '.' then
    let (token, width) := numberAt (first :: rest)
    .ok (token, width - 1)
  else if let some scanned := comment? first rest then scanned
  else if let some spelling := operatorAt? (first :: rest) then
    .ok (ofOperator spelling, spelling.length - 1)
  else if first = '$' then dollar rest
  else .ok (plain first rest)

end SchemaTemplate.Token
