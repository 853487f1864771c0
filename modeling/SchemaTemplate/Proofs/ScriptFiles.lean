import SchemaTemplate.Conversion
import SchemaTemplate.Proofs.Utf16Coding

/-!
What a script file is read as. A text can be kept as UTF-8 with or without a byte order mark and as
UTF-16 in both byte orders with one; each of these files gives the text back. A file that is neither
valid UTF-8 nor marked is read byte by byte, and the one kind of file without a text is marked and
contradicts its mark.
-/

set_option autoImplicit false
set_option relaxedAutoImplicit false

namespace SchemaTemplate.Script

open Encoding

/-! ### Files that announce their encoding -/

/-- The bytes of a text in UTF-8. -/
def utf8 (text : String) : List UInt8 := text.toUTF8.data.toList

/-- The byte order mark of an encoding. -/
def AnnouncedEncoding.mark : AnnouncedEncoding → List UInt8
  | .utf8 => [0xEF, 0xBB, 0xBF]
  | .utf16 .littleEndian => [0xFF, 0xFE]
  | .utf16 .bigEndian => [0xFE, 0xFF]

/-- The bytes of a text in an encoding. -/
def AnnouncedEncoding.encode : AnnouncedEncoding → String → List UInt8
  | .utf8, text => Script.utf8 text
  | .utf16 order, text => Utf16.encode order text

/-- The character whose bytes are the byte order marks. -/
def markCharacter : Char := Char.ofNat 0xFEFF

theorem announced?_mark_append (encoding : AnnouncedEncoding) (rest : List UInt8) :
    announced? (encoding.mark ++ rest) = some (encoding, rest) := by
  rcases encoding with _ | _ | _ <;> rfl

/-- An encoding is announced exactly if the bytes begin with its mark. -/
theorem announced?_eq_some_iff {bytes rest : List UInt8} {encoding : AnnouncedEncoding} :
    announced? bytes = some (encoding, rest) ↔ bytes = encoding.mark ++ rest := by
  constructor
  · intro hannounced
    unfold announced? at hannounced
    split at hannounced <;> cases hannounced <;> rfl
  · rintro rfl
    exact announced?_mark_append encoding rest

theorem announced?_eq_none {bytes : List UInt8}
    (hunmarked : ∀ encoding : AnnouncedEncoding, ¬ encoding.mark <+: bytes) :
    announced? bytes = none := by
  rw [Option.eq_none_iff_forall_ne_some]
  rintro ⟨encoding, rest⟩ hannounced
  exact hunmarked encoding ⟨rest, (announced?_eq_some_iff.1 hannounced).symm⟩

/-! ### Valid UTF-8 -/

theorem fromUTF8?_toUTF8 (text : String) : String.fromUTF8? text.toUTF8 = some text :=
  dif_pos text.isValidUTF8

theorem fromUTF8?_of_not_isValidUTF8 {bytes : ByteArray} (hinvalid : ¬ bytes.IsValidUTF8) :
    String.fromUTF8? bytes = none := dif_neg hinvalid

theorem exists_eq_toUTF8 {bytes : ByteArray} (hvalid : bytes.IsValidUTF8) :
    ∃ text : String, bytes = text.toUTF8 := ⟨String.fromUTF8 bytes hvalid, rfl⟩

theorem eq_toUTF8_of_toList_eq {bytes : ByteArray} {text : String}
    (hbytes : bytes.data.toList = utf8 text) : bytes = text.toUTF8 :=
  ByteArray.ext (Array.toList_inj.1 hbytes)

/-- In UTF-8, the byte order mark is the bytes of a character in front of the text. -/
theorem utf8_markCharacter (text : String) :
    utf8 (String.ofList (markCharacter :: text.toList)) =
      AnnouncedEncoding.utf8.mark ++ utf8 text := by
  have hmark : [markCharacter].utf8Encode.data.toList = AnnouncedEncoding.utf8.mark := by decide
  rw [utf8, utf8, String.toUTF8_eq_toByteArray, String.toUTF8_eq_toByteArray,
    String.toByteArray_ofList, List.utf8Encode_cons, ByteArray.data_append, Array.toList_append,
    hmark, String.utf8Encode_toList]

/-- No text in UTF-8 begins with a mark of UTF-16. -/
theorem not_isValidUTF8_of_mark {bytes : ByteArray} {order : Utf16.ByteOrder} {rest : List UInt8}
    (hbytes : bytes.data.toList = (AnnouncedEncoding.utf16 order).mark ++ rest) :
    ¬ bytes.IsValidUTF8 := by
  obtain ⟨⟨bytes⟩⟩ := bytes
  intro hvalid
  cases order with
  | littleEndian =>
    obtain rfl : bytes = 0xFF :: 0xFE :: rest := hbytes
    have hfirst : UInt8.IsUTF8FirstByte 0xFF :=
      hvalid.isUTF8FirstByte_getElem_zero (Nat.zero_lt_succ _)
    exact absurd hfirst (by decide)
  | bigEndian =>
    obtain rfl : bytes = 0xFE :: 0xFF :: rest := hbytes
    have hfirst : UInt8.IsUTF8FirstByte 0xFE :=
      hvalid.isUTF8FirstByte_getElem_zero (Nat.zero_lt_succ _)
    exact absurd hfirst (by decide)

/-! ### Texts without a mark -/

theorem withoutMark_of_head?_ne {text : String}
    (hhead : text.toList.head? ≠ some markCharacter) : withoutMark text = text := by
  unfold withoutMark
  split
  · rfl
  · next first rest heq =>
    rw [heq] at hhead
    exact if_neg fun hfirst ↦ hhead (congrArg some hfirst)

theorem withoutMark_markCharacter (text : String) :
    withoutMark (String.ofList (markCharacter :: text.toList)) = text := by
  rw [withoutMark, String.toList_ofList]
  exact (if_pos rfl).trans String.ofList_toList

/-- No byte of windows-1252 is the character of the byte order mark. -/
theorem characterOf_ne_markCharacter (byte : UInt8) :
    Windows1252.characterOf byte ≠ markCharacter := by
  have hbyte : byte.toNat < 0x100 := byte.toNat_lt
  have hsmall {code : Nat} (hcode : code < 0xD800) : Char.ofNat code ≠ markCharacter := by
    intro heq
    have hsame := congrArg Char.toNat heq
    rw [Utf16.toNat_ofNat (.inl hcode)] at hsame
    exact absurd (hsame ▸ hcode) (by decide)
  have htable : ∀ code ∈ Windows1252.upperControls, code < 0xD800 := by decide
  unfold Windows1252.characterOf
  split
  · refine hsmall ?_
    rw [List.getD_eq_getElem?_getD]
    cases hentry : Windows1252.upperControls[byte.toNat - 0x80]? with
    | none => exact Nat.lt_trans hbyte (by decide)
    | some code => exact htable code (List.mem_of_getElem? hentry)
  · exact hsmall (Nat.lt_trans hbyte (by decide))

theorem withoutMark_windows1252 (bytes : List UInt8) :
    withoutMark (Windows1252.decode bytes) = Windows1252.decode bytes := by
  refine withoutMark_of_head?_ne ?_
  rw [Windows1252.decode, String.toList_ofList]
  cases bytes with
  | nil => exact nofun
  | cons byte bytes => exact fun hhead ↦ characterOf_ne_markCharacter byte (Option.some.inj hhead)

/-! ### Reading a file -/

variable {bytes : ByteArray} {text : String}

/-- A text that is kept as UTF-8 is read back. -/
theorem decode?_of_utf8 (hhead : text.toList.head? ≠ some markCharacter)
    (hbytes : bytes.data.toList = utf8 text) : decode? bytes = some text := by
  rw [eq_toUTF8_of_toList_eq hbytes, decode?, fromUTF8?_toUTF8]
  exact congrArg some (withoutMark_of_head?_ne hhead)

/-- A text that is kept in an encoding behind its byte order mark is read back. -/
theorem decode?_of_marked (hhead : text.toList.head? ≠ some markCharacter)
    {encoding : AnnouncedEncoding}
    (hbytes : bytes.data.toList = encoding.mark ++ encoding.encode text) :
    decode? bytes = some text := by
  cases encoding with
  | utf8 =>
    have hmarked : bytes.data.toList = utf8 (String.ofList (markCharacter :: text.toList)) :=
      hbytes.trans (utf8_markCharacter text).symm
    rw [eq_toUTF8_of_toList_eq hmarked, decode?, fromUTF8?_toUTF8]
    exact congrArg some (withoutMark_markCharacter text)
  | utf16 order =>
    have hother : decodeOther? bytes.data.toList = some text := by
      rw [decodeOther?, hbytes, announced?_mark_append]
      exact Utf16.decode?_eq_some_iff.2 rfl
    rw [decode?, fromUTF8?_of_not_isValidUTF8 (not_isValidUTF8_of_mark hbytes), hother]
    exact congrArg some (withoutMark_of_head?_ne hhead)

/-- A file that is neither valid UTF-8 nor marked is read as windows-1252. -/
theorem decode?_of_unmarked (hinvalid : ¬ bytes.IsValidUTF8)
    (hunmarked : ∀ encoding : AnnouncedEncoding, ¬ encoding.mark <+: bytes.data.toList) :
    decode? bytes = some (Windows1252.decode bytes.data.toList) := by
  rw [decode?, fromUTF8?_of_not_isValidUTF8 hinvalid, decodeOther?, announced?_eq_none hunmarked]
  exact congrArg some (withoutMark_windows1252 _)

/-- Behind a mark, bytes that are not valid UTF-8 have no text exactly if they are not what the
announced encoding writes for one. -/
theorem decodeOther?_eq_none_iff (hinvalid : ¬ bytes.IsValidUTF8) :
    decodeOther? bytes.data.toList = none ↔ ∃ (encoding : AnnouncedEncoding) (rest : List UInt8),
      bytes.data.toList = encoding.mark ++ rest ∧ ∀ text, rest ≠ encoding.encode text := by
  cases hannounced : announced? bytes.data.toList with
  | none =>
    rw [decodeOther?, hannounced]
    refine iff_of_false nofun ?_
    rintro ⟨encoding, rest, hbytes, -⟩
    rw [hbytes, announced?_mark_append] at hannounced
    cases hannounced
  | some announcement =>
    obtain ⟨encoding, rest⟩ := announcement
    have hbytes := announced?_eq_some_iff.1 hannounced
    have hunique : (∃ (other : AnnouncedEncoding) (behind : List UInt8),
        bytes.data.toList = other.mark ++ behind ∧ ∀ text, behind ≠ other.encode text) ↔
          ∀ text, rest ≠ encoding.encode text := by
      constructor
      · rintro ⟨other, behind, hother, hmalformed⟩
        rw [hother, announced?_mark_append] at hannounced
        cases hannounced
        exact hmalformed
      · exact fun hmalformed ↦ ⟨encoding, rest, hbytes, hmalformed⟩
    rw [hunique, decodeOther?, hannounced]
    cases encoding with
    | utf8 =>
      -- a text behind the mark would make the whole file valid UTF-8
      refine iff_of_true rfl fun text hrest ↦ hinvalid ?_
      subst hrest
      rw [eq_toUTF8_of_toList_eq (hbytes.trans (utf8_markCharacter text).symm)]
      exact String.isValidUTF8 _
    | utf16 order =>
      rw [Option.eq_none_iff_forall_ne_some]
      exact forall_congr' fun text ↦ not_congr Utf16.decode?_eq_some_iff

/-- A file has no text exactly if it is not valid UTF-8, and marked, and contradicts its mark. -/
theorem decode?_eq_none_iff :
    decode? bytes = none ↔ ¬ bytes.IsValidUTF8 ∧
      ∃ (encoding : AnnouncedEncoding) (rest : List UInt8),
        bytes.data.toList = encoding.mark ++ rest ∧ ∀ text, rest ≠ encoding.encode text := by
  by_cases hvalid : bytes.IsValidUTF8
  · obtain ⟨text, rfl⟩ := exists_eq_toUTF8 hvalid
    rw [decode?, fromUTF8?_toUTF8]
    exact iff_of_false nofun fun hrefused ↦ hrefused.1 hvalid
  · rw [decode?, fromUTF8?_of_not_isValidUTF8 hvalid, ← decodeOther?_eq_none_iff hvalid]
    exact Option.map_eq_none_iff.trans (iff_and_self.2 fun _ ↦ hvalid)

end SchemaTemplate.Script

namespace SchemaTemplate

open Encoding Script

variable {Effect : Type → Type} [Monad Effect] [LawfulMonad Effect]

theorem Storage.script_of_load {storage : Storage Effect} {path : String} {bytes : ByteArray}
    (hload : storage.load path = pure (.ok bytes)) :
    storage.script path = pure (match decode? bytes with
      | some text => .ok text
      | none => .error (.unreadable path "File contains invalid characters")) := by
  rw [Storage.script, hload, pure_bind]
  cases hdecode : decode? bytes <;> simp [hdecode]

/-- A script file of certain bytes. Assumes: the file can be loaded. If the bytes are those of a
text in UTF-8, or a byte order mark and behind it the text in the encoding that the mark announces,
it is read as the text, unless the text itself begins with the character of the mark. If they are
neither valid UTF-8 nor marked, it is read as the characters of its bytes in windows-1252. And
invalid characters are found exactly if the bytes are not valid UTF-8, but marked, and nothing that
the announced encoding writes stands behind the mark. -/
theorem Storage.script_decodes {storage : Storage Effect} {path : String} {bytes : ByteArray}
    (hload : storage.load path = pure (.ok bytes)) :
    ∃ outcome : Except Failure String, storage.script path = pure outcome ∧
      (∀ text : String, text.toList.head? ≠ some markCharacter →
        (bytes.data.toList = utf8 text ∨
          ∃ encoding : AnnouncedEncoding,
            bytes.data.toList = encoding.mark ++ encoding.encode text) →
        outcome = .ok text) ∧
      (¬ bytes.IsValidUTF8 →
        (∀ encoding : AnnouncedEncoding, ¬ encoding.mark <+: bytes.data.toList) →
        ∃ text : String, outcome = .ok text ∧
          text.toList = bytes.data.toList.map Windows1252.characterOf) ∧
      (outcome = .error (.unreadable path "File contains invalid characters") ↔
        ¬ bytes.IsValidUTF8 ∧ ∃ (encoding : AnnouncedEncoding) (rest : List UInt8),
          bytes.data.toList = encoding.mark ++ rest ∧
            ∀ text, rest ≠ encoding.encode text) := by
  refine ⟨_, script_of_load hload, ?_, ?_, ?_⟩
  · intro text hhead hwritten
    have hdecode : decode? bytes = some text := by
      obtain hplain | ⟨encoding, hmarked⟩ := hwritten
      · exact decode?_of_utf8 hhead hplain
      · exact decode?_of_marked hhead hmarked
    rw [hdecode]
  · intro hinvalid hunmarked
    refine ⟨Windows1252.decode bytes.data.toList, ?_, String.toList_ofList⟩
    rw [decode?_of_unmarked hinvalid hunmarked]
  · rw [← decode?_eq_none_iff]
    cases decode? bytes with
    | none => exact iff_of_true rfl rfl
    | some text => exact iff_of_false nofun nofun

/-- A text with a character beyond U+FFFF. -/
def clefText : String := "-- é𝄞"

/-- The text in UTF-16, the lower byte of each unit first. -/
def clefFile : ByteArray :=
  ⟨#[0xFF, 0xFE, 0x2D, 0x00, 0x2D, 0x00, 0x20, 0x00, 0xE9, 0x00, 0x34, 0xD8, 0x1E, 0xDD]⟩

/-- A place where every path leads to this file. -/
def clefStorage : Storage Id where
  load _ := .ok clefFile
  save _ _ := .error "read-only"

theorem Storage.script_decodes_clefFile :
    clefStorage.load "clef.cql" = pure (.ok clefFile) ∧
      clefStorage.script "clef.cql" = pure (.ok clefText) := by
  have hload : clefStorage.load "clef.cql" = pure (.ok clefFile) := rfl
  have hbytes : clefFile.data.toList = (AnnouncedEncoding.utf16 .littleEndian).mark ++
      (AnnouncedEncoding.utf16 .littleEndian).encode clefText := by decide
  obtain ⟨outcome, hscript, hread, -⟩ := script_decodes hload
  rw [hscript, hread clefText (by decide) (.inr ⟨.utf16 .littleEndian, hbytes⟩)]
  exact ⟨rfl, rfl⟩

end SchemaTemplate
