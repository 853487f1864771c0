import SchemaTemplate.Encoding.Utf16
import SchemaTemplate.Encoding.Windows1252

/-!
The text of a script file. A file that is valid UTF-8 is taken as that. Otherwise a byte order mark
decides between UTF-8 and the two kinds of UTF-16, and then the file has to keep to what it
announces; without a mark it is windows-1252, which every file is. A byte order mark is no part of
the text.
-/

set_option autoImplicit false
set_option relaxedAutoImplicit false

namespace SchemaTemplate.Script

open Encoding

/-- The encodings that a byte order mark can announce. -/
inductive AnnouncedEncoding
  | utf8
  | utf16 (order : Utf16.ByteOrder)
  deriving DecidableEq, Repr

/-- The encoding that a byte order mark announces, and the bytes behind the mark. -/
def announced? : List UInt8 → Option (AnnouncedEncoding × List UInt8)
  | 0xEF :: 0xBB :: 0xBF :: rest => some (.utf8, rest)
  | 0xFF :: 0xFE :: rest => some (.utf16 .littleEndian, rest)
  | 0xFE :: 0xFF :: rest => some (.utf16 .bigEndian, rest)
  | _ => none

/-- The text of bytes that are not valid UTF-8. -/
def decodeOther? (bytes : List UInt8) : Option String :=
  match announced? bytes with
  | some (.utf8, _) => none
  | some (.utf16 order, rest) => Utf16.decode? order rest
  | none => some (Windows1252.decode bytes)

/-- A text without the byte order mark that it may begin with. -/
def withoutMark (text : String) : String :=
  match text.toList with
  | [] => text
  | first :: rest => if first = Char.ofNat 0xFEFF then String.ofList rest else text

/-- The text of a script file, unless the file contradicts its byte order mark. -/
def decode? (bytes : ByteArray) : Option String :=
  match String.fromUTF8? bytes with
  | some text => some (withoutMark text)
  | none => (decodeOther? bytes.data.toList).map withoutMark

end SchemaTemplate.Script
