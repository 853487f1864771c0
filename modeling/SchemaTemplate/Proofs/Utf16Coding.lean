import SchemaTemplate.Encoding.Utf16

/-!
UTF-16 is read exactly as it is written. Reading the units of a character in front of other units
gives the character, and a unit or a pair that is read as a character is what that character is
written with; likewise for the bytes of a unit. Both directions, carried over whole texts, say that
`decode?` accepts the bytes of texts and no others (`decode?_eq_some_iff`), so every other sequence
of bytes is malformed.
-/

set_option autoImplicit false
set_option relaxedAutoImplicit false

namespace SchemaTemplate.Encoding.Utf16

/-! ### Characters and units -/

theorem isHigh_iff (unit : UInt16) :
    isHigh unit = true ↔ 0xD800 ≤ unit.toNat ∧ unit.toNat < 0xDC00 := by
  simp [isHigh, UInt16.le_iff_toNat_le, UInt16.lt_iff_toNat_lt]

theorem isLow_iff (unit : UInt16) :
    isLow unit = true ↔ 0xDC00 ≤ unit.toNat ∧ unit.toNat < 0xE000 := by
  simp [isLow, UInt16.le_iff_toNat_le, UInt16.lt_iff_toNat_lt]

theorem toNat_toUInt16_of_lt {code : Nat} (hbound : code < 0x10000) :
    code.toUInt16.toNat = code := Nat.mod_eq_of_lt hbound

theorem toNat_ofNat {code : Nat} (hcode : code.isValidChar) : (Char.ofNat code).toNat = code := by
  rw [Char.ofNat, dif_pos hcode]
  rfl

/-- A character below U+10000 is a unit of the same number. -/
theorem unitsOf_of_lt {character : Char} (hbasic : character.toNat < 0x10000) :
    unitsOf character = [character.toNat.toUInt16] := if_pos hbasic

theorem charactersOf?_plain {unit : UInt16} (hhigh : isHigh unit ≠ true) (hlow : isLow unit ≠ true)
    (rest : List UInt16) :
    charactersOf? (unit :: rest) = (Char.ofNat unit.toNat :: ·) <$> charactersOf? rest := by
  rw [charactersOf?.eq_def]
  exact (if_neg hhigh).trans (if_neg hlow)

theorem charactersOf?_pair {high low : UInt16} (hhigh : isHigh high = true)
    (hlow : isLow low = true) (rest : List UInt16) :
    charactersOf? (high :: low :: rest) = (pairCharacter high low :: ·) <$> charactersOf? rest := by
  rw [charactersOf?, if_pos hhigh, if_pos hlow]

/-- A character beyond U+FFFF is a high surrogate and a low one, and the character of this pair. -/
theorem unitsOf_of_le {character : Char} (hbeyond : 0x10000 ≤ character.toNat) :
    ∃ high low, unitsOf character = [high, low] ∧ isHigh high = true ∧ isLow low = true ∧
      pairCharacter high low = character := by
  have hcode : character.toNat.isValidChar := character.valid
  unfold Nat.isValidChar at hcode
  have hhigh := toNat_toUInt16_of_lt
    (show 0xD800 + (character.toNat - 0x10000) / 0x400 < 0x10000 by omega)
  have hlow := toNat_toUInt16_of_lt
    (show 0xDC00 + (character.toNat - 0x10000) % 0x400 < 0x10000 by omega)
  refine ⟨_, _, if_neg (by omega), ?_, ?_, ?_⟩
  · rw [isHigh_iff, hhigh]
    omega
  · rw [isLow_iff, hlow]
    omega
  · have hsame : 0x10000 + (0xD800 + (character.toNat - 0x10000) / 0x400 - 0xD800) * 0x400 +
        (0xDC00 + (character.toNat - 0x10000) % 0x400 - 0xDC00) = character.toNat := by omega
    rw [pairCharacter, hhigh, hlow, hsame, Char.ofNat_toNat]

/-- Reading the units of a character in front of others gives the character. -/
theorem charactersOf?_unitsOf_append (character : Char) (rest : List UInt16) :
    charactersOf? (unitsOf character ++ rest) = (character :: ·) <$> charactersOf? rest := by
  by_cases hbasic : character.toNat < 0x10000
  · have hcode : character.toNat.isValidChar := character.valid
    unfold Nat.isValidChar at hcode
    have hunit := toNat_toUInt16_of_lt hbasic
    have hhigh : isHigh character.toNat.toUInt16 ≠ true := by
      rw [ne_eq, isHigh_iff, hunit]
      omega
    have hlow : isLow character.toNat.toUInt16 ≠ true := by
      rw [ne_eq, isLow_iff, hunit]
      omega
    rw [unitsOf_of_lt hbasic, List.singleton_append, charactersOf?_plain hhigh hlow, hunit,
      Char.ofNat_toNat]
  · obtain ⟨high, low, hunits, hhigh, hlow, hpair⟩ := unitsOf_of_le (Nat.le_of_not_lt hbasic)
    rw [hunits, List.cons_append, List.singleton_append, charactersOf?_pair hhigh hlow, hpair]

/-- A unit that is no surrogate is what its character is written with. -/
theorem unitsOf_plain {unit : UInt16} (hhigh : isHigh unit ≠ true) (hlow : isLow unit ≠ true) :
    unitsOf (Char.ofNat unit.toNat) = [unit] := by
  rw [ne_eq, isHigh_iff] at hhigh
  rw [ne_eq, isLow_iff] at hlow
  have hbound : unit.toNat < 0x10000 := unit.toNat_lt
  have hvalid : unit.toNat.isValidChar := by
    unfold Nat.isValidChar
    omega
  have hcode := toNat_ofNat hvalid
  rw [unitsOf_of_lt (by rwa [hcode]), hcode]
  exact congrArg ([·]) (UInt16.ofNat_toNat)

/-- A pair of surrogates is what its character is written with. -/
theorem unitsOf_pair {high low : UInt16} (hhigh : isHigh high = true) (hlow : isLow low = true) :
    unitsOf (pairCharacter high low) = [high, low] := by
  rw [isHigh_iff] at hhigh
  rw [isLow_iff] at hlow
  have hcode : (pairCharacter high low).toNat =
      0x10000 + (high.toNat - 0xD800) * 0x400 + (low.toNat - 0xDC00) := by
    rw [pairCharacter]
    exact toNat_ofNat (by unfold Nat.isValidChar; omega)
  have hfirst : 0xD800 + ((pairCharacter high low).toNat - 0x10000) / 0x400 = high.toNat := by omega
  have hsecond : 0xDC00 + ((pairCharacter high low).toNat - 0x10000) % 0x400 = low.toNat := by
    omega
  rw [unitsOf, if_neg (by omega), hfirst, hsecond, Nat.toUInt16_eq, UInt16.ofNat_toNat,
    Nat.toUInt16_eq, UInt16.ofNat_toNat]

/-- Units are read as characters exactly if they are what these are written with. -/
theorem charactersOf?_eq_some_iff {units : List UInt16} {text : List Char} :
    charactersOf? units = some text ↔ units = text.flatMap unitsOf := by
  constructor
  · intro hread
    fun_induction charactersOf? units generalizing text with
    | case1 =>
      cases hread
      rfl
    | case2 high hhigh low more hlow ih =>
      obtain ⟨rest, hrest, rfl⟩ := Option.map_eq_some_iff.1 hread
      rw [List.flatMap_cons, unitsOf_pair hhigh hlow, ih hrest]
      rfl
    | case3 | case4 | case5 => cases hread
    | case6 unit more hhigh hlow ih =>
      obtain ⟨rest, hrest, rfl⟩ := Option.map_eq_some_iff.1 hread
      rw [List.flatMap_cons, unitsOf_plain hhigh hlow, ih hrest]
      rfl
  · rintro rfl
    induction text with
    | nil => rfl
    | cons character text ih =>
      rw [List.flatMap_cons, charactersOf?_unitsOf_append, ih]
      rfl

/-! ### Units and bytes -/

/-- The bytes of a unit give the unit. -/
theorem unitOfBytes_bytesOf (order : ByteOrder) (unit : UInt16) :
    ∃ first second, bytesOf order unit = [first, second] ∧
      unitOfBytes order first second = unit := by
  have hbound : unit.toNat < 0x10000 := unit.toNat_lt
  have hhigh : (unit.toNat / 0x100).toUInt8.toNat = unit.toNat / 0x100 :=
    Nat.mod_eq_of_lt (by omega)
  have hlow : (unit.toNat % 0x100).toUInt8.toNat = unit.toNat % 0x100 :=
    Nat.mod_eq_of_lt (by omega)
  have hsame : (unit.toNat / 0x100 * 0x100 + unit.toNat % 0x100).toUInt16 = unit := by
    rw [Nat.div_add_mod']
    exact UInt16.ofNat_toNat
  cases order with
  | littleEndian | bigEndian =>
    refine ⟨_, _, rfl, ?_⟩
    rw [unitOfBytes, hhigh, hlow, hsame]

/-- The unit of two bytes is written with them. -/
theorem bytesOf_unitOfBytes (order : ByteOrder) (first second : UInt8) :
    bytesOf order (unitOfBytes order first second) = [first, second] := by
  have hfirst : first.toNat < 0x100 := first.toNat_lt
  have hsecond : second.toNat < 0x100 := second.toNat_lt
  cases order with
  | littleEndian =>
    have hunit := toNat_toUInt16_of_lt (show second.toNat * 0x100 + first.toNat < 0x10000 by omega)
    have hhigh : (second.toNat * 0x100 + first.toNat) / 0x100 = second.toNat := by omega
    have hlow : (second.toNat * 0x100 + first.toNat) % 0x100 = first.toNat := by omega
    simp only [unitOfBytes, bytesOf, hunit, hhigh, hlow, Nat.toUInt8_eq, UInt8.ofNat_toNat]
  | bigEndian =>
    have hunit := toNat_toUInt16_of_lt (show first.toNat * 0x100 + second.toNat < 0x10000 by omega)
    have hhigh : (first.toNat * 0x100 + second.toNat) / 0x100 = first.toNat := by omega
    have hlow : (first.toNat * 0x100 + second.toNat) % 0x100 = second.toNat := by omega
    simp only [unitOfBytes, bytesOf, hunit, hhigh, hlow, Nat.toUInt8_eq, UInt8.ofNat_toNat]

/-- Bytes are grouped to units exactly if they are what these are written with. -/
theorem units?_eq_some_iff {order : ByteOrder} {bytes : List UInt8} {units : List UInt16} :
    units? order bytes = some units ↔ bytes = units.flatMap (bytesOf order) := by
  constructor
  · intro hread
    fun_induction units? order bytes generalizing units with
    | case1 =>
      cases hread
      rfl
    | case2 => cases hread
    | case3 first second more ih =>
      obtain ⟨rest, hrest, rfl⟩ := Option.map_eq_some_iff.1 hread
      rw [List.flatMap_cons, bytesOf_unitOfBytes, ih hrest]
      rfl
  · rintro rfl
    induction units with
    | nil => rfl
    | cons unit units ih =>
      obtain ⟨first, second, hbytes, hunit⟩ := unitOfBytes_bytesOf order unit
      rw [List.flatMap_cons, hbytes, List.cons_append, List.singleton_append, units?, ih, hunit]
      rfl

/-! ### Texts -/

/-- Bytes are decoded to a text exactly if they are what the text is encoded with. -/
theorem decode?_eq_some_iff {order : ByteOrder} {bytes : List UInt8} {text : String} :
    decode? order bytes = some text ↔ bytes = encode order text := by
  rw [decode?, encode, Option.map_eq_some_iff]
  constructor
  · rintro ⟨characters, hread, rfl⟩
    obtain ⟨units, hunits, hcharacters⟩ := Option.bind_eq_some_iff.1 hread
    rw [String.toList_ofList, ← charactersOf?_eq_some_iff.1 hcharacters]
    exact units?_eq_some_iff.1 hunits
  · intro hbytes
    refine ⟨text.toList, Option.bind_eq_some_iff.2 ⟨text.toList.flatMap unitsOf, ?_, ?_⟩,
      String.ofList_toList⟩
    · exact units?_eq_some_iff.2 hbytes
    · exact charactersOf?_eq_some_iff.2 rfl

end SchemaTemplate.Encoding.Utf16
