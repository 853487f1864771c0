import SchemaTemplate.Proofs.ClosingAngles
import SchemaTemplate.Proofs.LetterCase

/-!
Types as text. The text of a type is made of words, angles, commas and spaces. Two angles in a row
are scanned as one token from the left on, wherever the types end that they close; what a text
scans to is therefore said with every angle as a token of its own (`Token.Scans`), which the parser
of types does not tell from the tokens themselves.
-/

set_option autoImplicit false
set_option relaxedAutoImplicit false

namespace SchemaTemplate

open Grammar

/-! ### Single tokens -/

namespace Token

/-- The characters that stand around the words of a type. -/
def marks : List Char := [' ', ',', '<', '>']

/-- Whether a text can follow a word of a type: there is none or it begins with a mark. -/
def EndsWord (rest : List Char) : Prop := ∀ character ∈ rest.head?, character ∈ marks

theorem endsWord_nil : EndsWord [] := fun _ hmem ↦ by cases hmem

theorem endsWord_cons {mark : Char} (hmark : mark ∈ marks) (rest : List Char) :
    EndsWord (mark :: rest) := by
  rintro character ⟨⟩
  exact hmark

theorem scan_blank (rest : List Char) : scan ' ' rest = .ok (.blank, 0) := rfl

theorem scan_comma (rest : List Char) : scan ',' rest = .ok (.symbol .comma, 0) := rfl

theorem scan_shiftRight (rest : List Char) :
    scan '>' ('>' :: rest) = .ok (.symbol .shiftRight, 1) := rfl

theorem scan_angle {angle : Char} (hangle : angle = '<' ∨ angle = '>') {rest : List Char}
    (hoperator : operatorAt? (angle :: rest) = some angle.toString) :
    scan angle rest = .ok (ofOperator angle.toString, 0) := by
  have hliteral : markedLiteral? angle rest = none := by obtain rfl | rfl := hangle <;> rfl
  have hcomment : comment? angle rest = none := by obtain rfl | rfl := hangle <;> rfl
  rw [scan, hliteral, hcomment, hoperator]
  obtain rfl | rfl := hangle <;> rfl

/-- An opening angle is no part of a longer operator if none of their marks follows. -/
theorem scan_less {rest : List Char}
    (hrest : ∀ character ∈ rest.head?, character ∉ ['=', '<', '>', '@']) :
    scan '<' rest = .ok (.symbol .less, 0) := by
  refine scan_angle (.inl rfl) ?_
  cases rest with
  | nil => rfl
  | cons next rest =>
    have hnext := hrest next rfl
    simp only [List.mem_cons, List.not_mem_nil, or_false, not_or] at hnext
    obtain ⟨hequals, hless, hgreater, hat⟩ := hnext
    simp [operatorAt?, operatorSpellings, List.isPrefixOf, Ne.symm hequals, Ne.symm hless,
      Ne.symm hgreater, Ne.symm hat]

/-- A closing angle is no part of a longer operator if none of their marks follows. -/
theorem scan_greater {rest : List Char}
    (hrest : ∀ character ∈ rest.head?, character ∉ ['=', '>']) :
    scan '>' rest = .ok (.symbol .greater, 0) := by
  refine scan_angle (.inr rfl) ?_
  cases rest with
  | nil => rfl
  | cons next rest =>
    have hnext := hrest next rfl
    simp only [List.mem_cons, List.not_mem_nil, or_false, not_or] at hnext
    simp [operatorAt?, operatorSpellings, List.isPrefixOf, Ne.symm hnext.1, Ne.symm hnext.2]

/-- No operator begins with a letter. -/
theorem operatorAt?_of_isAlpha {first : Char} (hfirst : first.isAlpha = true) (rest : List Char) :
    operatorAt? (first :: rest) = none := by
  have hmarks : ∀ spelling ∈ operatorSpellings,
      (spelling.toList.head?.any fun mark ↦ !mark.isAlpha) = true := by decide
  refine List.find?_eq_none.2 fun spelling hmem ↦ ?_
  have hmark := hmarks spelling hmem
  cases hspelling : spelling.toList with
  | nil => simp [hspelling] at hmark
  | cons mark marks =>
    have hother : mark ≠ first := by
      rintro rfl
      simp [hspelling, hfirst] at hmark
    simp [List.isPrefixOf, hother]

/-- A letter is a mark of a literal only in front of a quote mark or an ampersand. -/
theorem markedLiteral?_eq_none (letter : Char) {rest : List Char}
    (hrest : ∀ character ∈ rest.head?, character ∉ ['\'', '"', '&']) :
    markedLiteral? letter rest = none := by
  unfold markedLiteral?
  split
  any_goals rfl
  all_goals exact absurd (hrest _ rfl) (by decide)

theorem wordFrom_letters {first : Char} {letters behind : List Char}
    (hletters : ∀ character ∈ letters, character.isAlpha = true) (hends : EndsWord behind) :
    wordFrom [first] (letters ++ behind) =
      (.word (String.ofList (first :: letters)), letters.length) := by
  have hcontinues : ∀ character ∈ letters, continuesWord character = true := by
    intro character hmem
    have halpha := hletters character hmem
    simp [continuesWord, Unicode.isAlphabetic, Unicode.toNat_lt_of_isAlpha halpha, halpha]
  have hbehind : behind.takeWhile continuesWord = [] := by
    cases behind with
    | nil => rfl
    | cons mark rest =>
      have hmarks : marks.all (fun mark ↦ !continuesWord mark) = true := by decide
      have hmark := List.all_eq_true.1 hmarks mark (hends mark rfl)
      rw [List.takeWhile_cons_of_neg (by simpa using hmark)]
  rw [wordFrom, List.takeWhile_append_of_pos hcontinues, hbehind]
  simp

/-- Letters are scanned as one word up to the first mark. -/
theorem scan_letters {first : Char} {letters behind : List Char}
    (hletters : ∀ character ∈ first :: letters, character.isAlpha = true)
    (hends : EndsWord behind) : scan first (letters ++ behind) =
      .ok (.word (String.ofList (first :: letters)), letters.length) := by
  obtain ⟨hfirst, hmore⟩ := List.forall_mem_cons.1 hletters
  have hne : ∀ other : Char, other.isAlpha = false → first ≠ other := by
    rintro other hother rfl
    simp [hfirst] at hother
  have hliteral : markedLiteral? first (letters ++ behind) = none := by
    refine markedLiteral?_eq_none first fun character hmem ↦ ?_
    cases letters with
    | nil =>
      have hmarks : marks.all (fun mark ↦ mark ∉ ['\'', '"', '&']) = true := by decide
      simpa using List.all_eq_true.1 hmarks character (hends character hmem)
    | cons letter letters =>
      obtain rfl : letter = character := by simpa using hmem
      exact Unicode.notMem_of_isAlpha (hmore letter List.mem_cons_self) (by decide)
  have hcomment : comment? first (letters ++ behind) = none := by
    unfold comment?
    split
    · exact absurd rfl (hne '-' (by decide))
    · exact absurd rfl (hne '/' (by decide))
    · rfl
  have hstarts : startsWord first = true := by
    simp [startsWord, Unicode.isAlphabetic, Unicode.toNat_lt_of_isAlpha hfirst, hfirst]
  have hplain : plain first (letters ++ behind) = wordFrom [first] (letters ++ behind) := by
    simp [plain, hne, hstarts]
  rw [scan, hliteral, hcomment, operatorAt?_of_isAlpha hfirst]
  simp [hne, Unicode.isDigit_eq_false hfirst, hplain, wordFrom_letters hmore hends]

/-! ### Rows of tokens -/

/-- Whether a text of words, angles, commas and spaces writes certain tokens, where each angle is a
token of its own and spaces are none. -/
inductive Scans : List Char → List Token → Prop
  | nil : Scans [] []
  | blank {text : List Char} {tokens : List Token} (hscans : Scans text tokens) :
    Scans (' ' :: text) tokens
  | comma {text : List Char} {tokens : List Token} (hscans : Scans text tokens) :
    Scans (',' :: text) (.symbol .comma :: tokens)
  | less {text : List Char} {word : String} {tokens : List Token}
    (hscans : Scans text (.word word :: tokens)) :
    Scans ('<' :: text) (.symbol .less :: .word word :: tokens)
  | greater {text : List Char} {tokens : List Token} (hscans : Scans text tokens) :
    Scans ('>' :: text) (.symbol .greater :: tokens)
  | word {first : Char} {letters text : List Char} {tokens : List Token}
    (hletters : ∀ character ∈ first :: letters, character.isAlpha = true) (hends : EndsWord text)
    (hscans : Scans text tokens) :
    Scans (first :: letters ++ text) (.word (String.ofList (first :: letters)) :: tokens)

namespace Scans

variable {text : List Char} {tokens : List Token}

/-- There is nothing in the text of a type but letters and marks. -/
theorem isAlpha_or_mem (hscans : Scans text tokens) : ∀ character ∈ text,
    character.isAlpha = true ∨ character ∈ marks := by
  induction hscans with
  | nil => exact nofun
  | word hletters _ _ ih =>
    exact List.forall_mem_append.2 ⟨fun character hmem ↦ .inl (hletters character hmem), ih⟩
  | blank _ ih | comma _ ih | less _ ih | greater _ ih =>
    exact List.forall_mem_cons.2 ⟨.inr (by decide), ih⟩

theorem notMem (hscans : Scans text tokens) {character : Char}
    (hletter : character.isAlpha = false) (hmark : character ∉ marks) : character ∉ text := by
  intro hmem
  obtain halpha | hmem := hscans.isAlpha_or_mem character hmem
  · rw [hletter] at halpha
    cases halpha
  · exact hmark hmem

/-- In front of a word there is nothing that could belong to an operator. -/
theorem not_mem_of_word {word : String} (hscans : Scans text (.word word :: tokens)) :
    ∀ character ∈ text.head?, character ∉ ['=', '<', '>', '@'] := by
  cases hscans with
  | word hletters =>
    rintro character ⟨⟩
    exact Unicode.notMem_of_isAlpha (hletters _ List.mem_cons_self) (by decide)
  | blank =>
    rintro character ⟨⟩
    decide

/-- Marks have no other case. -/
theorem eq_cons_of_map_toLower {mark : Char} (hmark : mark.isAlpha = false)
    {written : List Char} (hsame : written.map Char.toLower = (mark :: text).map Char.toLower) :
    ∃ rest, written = mark :: rest ∧ rest.map Char.toLower = text.map Char.toLower := by
  obtain ⟨character, rest, rfl, hlower, hrest⟩ := List.map_eq_cons_iff.1 hsame
  obtain rfl := Unicode.eq_of_toLower hlower hmark
  exact ⟨rest, rfl, hrest⟩

theorem endsWord_of_map_toLower {written : List Char}
    (hsame : written.map Char.toLower = text.map Char.toLower) (hends : EndsWord text) :
    EndsWord written := by
  cases text with
  | nil =>
    obtain rfl := List.map_eq_nil_iff.1 hsame
    exact endsWord_nil
  | cons mark rest =>
    have hmarks : marks.all (fun mark ↦ !mark.isAlpha) = true := by decide
    have hmark := hends mark rfl
    have hother : mark.isAlpha = false := by
      simpa using List.all_eq_true.1 hmarks mark hmark
    obtain ⟨_, rfl, -⟩ := eq_cons_of_map_toLower hother hsame
    exact endsWord_cons hmark _

/-- A text in other letters writes the same words in these letters. -/
theorem respelled (hscans : Scans text tokens) {written : List Char}
    (hsame : written.map Char.toLower = text.map Char.toLower) :
    ∃ others, Scans written others ∧ SameSpellings tokens others := by
  induction hscans generalizing written with
  | nil =>
    obtain rfl := List.map_eq_nil_iff.1 hsame
    exact ⟨[], .nil, .nil⟩
  | blank _ ih =>
    obtain ⟨rest, rfl, hrest⟩ := eq_cons_of_map_toLower rfl hsame
    obtain ⟨others, hothers, hspelling⟩ := ih hrest
    exact ⟨others, .blank hothers, hspelling⟩
  | comma _ ih =>
    obtain ⟨rest, rfl, hrest⟩ := eq_cons_of_map_toLower rfl hsame
    obtain ⟨others, hothers, hspelling⟩ := ih hrest
    exact ⟨_, .comma hothers, sameSpellings_cons _ hspelling⟩
  | less _ ih =>
    obtain ⟨rest, rfl, hrest⟩ := eq_cons_of_map_toLower rfl hsame
    obtain ⟨others, hothers, hspelling⟩ := ih hrest
    have hall := sameSpellings_cons (.symbol .less) hspelling
    cases hspelling with
    | cons hword => cases hword with
      | same | word => exact ⟨_, .less hothers, hall⟩
  | greater _ ih =>
    obtain ⟨rest, rfl, hrest⟩ := eq_cons_of_map_toLower rfl hsame
    obtain ⟨others, hothers, hspelling⟩ := ih hrest
    exact ⟨_, .greater hothers, sameSpellings_cons _ hspelling⟩
  | word hletters hends _ ih =>
    rw [List.map_append] at hsame
    obtain ⟨word, rest, rfl, hword, hrest⟩ := List.map_eq_append_iff.1 hsame
    obtain ⟨others, hothers, hspelling⟩ := ih hrest
    have halpha := Unicode.isAlpha_of_map_toLower hword.symm hletters
    obtain ⟨first, letters, rfl, -⟩ := List.map_eq_cons_iff.1 hword
    refine ⟨_, .word halpha (endsWord_of_map_toLower hrest hends) hothers, .cons (.word ?_ ?_)
      hspelling⟩
    · rw [sameLetters_iff, String.toList_ofList, String.toList_ofList]
      exact hword.symm
    · simpa using hletters

end Scans

end Token

/-! ### Lexemes -/

namespace Lexeme

open Token

/-- Whether a text, wherever it stands, is split into lexemes with certain tokens, where each angle
is a token of its own and blanks are none. -/
def Yields (text : List Char) (tokens : List Token) : Prop :=
  ∀ (done : List Lexeme) (position : Position), ∃ lexemes,
    ofTextAfter done position text = .ok (done.reverse ++ lexemes) ∧
      singleAngles ((Script.significant lexemes).map Lexeme.token) = tokens

/-- Assumes: a token is scanned, and what is behind it yields some tokens. -/
theorem Yields.cons {first : Char} {rest : List Char} {token : Token} {extra : Nat}
    {tokens : List Token} (hscan : scan first rest = .ok (token, extra))
    (hyields : Yields (rest.drop extra) tokens) :
    Yields (first :: rest)
      (singleAngles ([token].filter fun token ↦ !token.isBlank) ++ tokens) := by
  intro done position
  let lexeme : Lexeme := ⟨token, first :: rest.take extra, position⟩
  obtain ⟨lexemes, hsplit, htokens⟩ := hyields (lexeme :: done) lexeme.stop
  refine ⟨lexeme :: lexemes, ?_, ?_⟩
  · rw [ofTextAfter, hscan]
    simpa using hsplit
  · rw [← htokens, ← singleAngles_append, Script.significant, List.filter_cons, List.filter_cons]
    show singleAngles (List.map _ (if (!token.isBlank) = true then _ else _)) = _
    cases token.isBlank <;> rfl

/-- What a text scans to is what it yields. Angles are scanned in pairs from the left on, so this is
shown together with the case that another angle stands in front of the text. -/
theorem yields_of_scans {text : List Char} {tokens : List Token} (hscans : Scans text tokens) :
    Yields text tokens ∧ Yields ('>' :: text) (.symbol .greater :: tokens) := by
  -- If no angle follows, the one in front is a token of its own.
  have hangle : ∀ {text tokens}, Scans text tokens → text.head? ≠ some '>' → Yields text tokens →
      Yields ('>' :: text) (.symbol .greater :: tokens) := by
    intro text tokens hscans hother hyields
    refine .cons (scan_greater fun character hmem hmark ↦ ?_) hyields
    simp only [List.mem_cons, List.not_mem_nil, or_false] at hmark
    obtain rfl | rfl := hmark
    · exact hscans.notMem rfl (by decide) (List.mem_of_mem_head? hmem)
    · exact hother hmem
  induction hscans with
  | nil =>
    have hnil : Yields [] [] := fun done _ ↦ ⟨[], by simp [ofTextAfter], rfl⟩
    exact ⟨hnil, hangle .nil (by simp) hnil⟩
  | blank hscans ih =>
    have hyields := Yields.cons (scan_blank _) ih.1
    exact ⟨hyields, hangle (.blank hscans) (by simp) hyields⟩
  | comma hscans ih =>
    have hyields := Yields.cons (scan_comma _) ih.1
    exact ⟨hyields, hangle (.comma hscans) (by simp) hyields⟩
  | less hscans ih =>
    have hyields := Yields.cons (scan_less hscans.not_mem_of_word) ih.1
    exact ⟨hyields, hangle (.less hscans) (by simp) hyields⟩
  | greater hscans ih => exact ⟨ih.2, .cons (scan_shiftRight _) ih.1⟩
  | @word first letters text tokens hletters hends hscans ih =>
    have hdrop : (letters ++ text).drop letters.length = text := by simp
    have hyields := Yields.cons (scan_letters hletters hends) (hdrop.symm ▸ ih.1)
    refine ⟨hyields, hangle (.word hletters hends hscans) ?_ hyields⟩
    rintro ⟨⟩
    cases hletters '>' List.mem_cons_self

/-- A text that writes tokens is split into them, up to angles that are written in pairs. -/
theorem exists_ofText_of_scans {text : String} {tokens : List Token}
    (hscans : Scans text.toList tokens) : ∃ lexemes, ofText text = .ok lexemes ∧
      singleAngles ((Script.significant lexemes).map Lexeme.token) = tokens := by
  obtain ⟨lexemes, hsplit, htokens⟩ := (yields_of_scans hscans).1 [] Position.start
  exact ⟨lexemes, by simpa [ofText] using hsplit, htokens⟩

end Lexeme

/-! ### Types -/

namespace ColumnType

open Token

variable {separator : String} {text : List Char} {tokens : List Token}

/-- Names of types and kinds are made of letters. -/
theorem isAlpha_of_mem_names {name : String} (hname : name ∈ simpleNames ++ compositeKinds) :
    ∀ character ∈ name.toList, character.isAlpha = true := by
  have hletters : ∀ name ∈ simpleNames ++ compositeKinds,
      name.toList.all Char.isAlpha = true := by decide
  exact List.all_eq_true.1 (hletters name hname)

theorem scans_word {name : String} (hname : name ∈ simpleNames ++ compositeKinds)
    (hends : EndsWord text) (hscans : Scans text tokens) :
    Scans (name.toList ++ text) (.word name :: tokens) := by
  have hsome : ∀ name ∈ simpleNames ++ compositeKinds, name.toList ≠ [] := by decide
  have halpha := isAlpha_of_mem_names hname
  obtain ⟨first, letters, hletters⟩ := List.exists_cons_of_ne_nil (hsome name hname)
  rw [hletters] at halpha
  have hword := Scans.word halpha hends hscans
  rwa [← hletters, String.ofList_toList] at hword

/-- Types that are built in begin with a word. -/
theorem exists_typeTokens_eq {type : ColumnType} (hbuilt : type.BuiltIn) :
    ∃ word more, typeTokens type = .word word :: more := by
  cases type with
  | simple name => exact ⟨name, [], rfl⟩
  | composite kind => exact ⟨kind, _, rfl⟩
  | user | custom => exact hbuilt.elim

theorem exists_joined_eq {elements : List ColumnType} (hsome : elements ≠ [])
    (hbuilt : AllBuiltIn elements) :
    ∃ word more, joined (.symbol .comma) (typesTokens elements) = .word word :: more := by
  cases elements with
  | nil => exact absurd rfl hsome
  | cons first rest =>
    obtain ⟨word, more, hfirst⟩ := exists_typeTokens_eq hbuilt.1
    cases rest with
    | nil => exact ⟨word, more, by rw [typesTokens, typesTokens, joined_singleton, hfirst]⟩
    | cons second rest =>
      refine ⟨word,
        more ++ .symbol .comma :: joined (.symbol .comma) (typesTokens (second :: rest)), ?_⟩
      rw [typesTokens, typesTokens, joined_cons_cons, hfirst]
      rfl

/-- The separators that are written between elements, without and with a space. -/
def SeparatesElements (separator : String) : Prop := separator = "," ∨ separator = ", "

theorem SeparatesElements.scans (hseparates : SeparatesElements separator)
    (hscans : Scans text tokens) : Scans (separator.toList ++ text) (.symbol .comma :: tokens) := by
  obtain rfl | rfl := hseparates
  · exact .comma hscans
  · exact .comma (.blank hscans)

theorem SeparatesElements.endsWord (hseparates : SeparatesElements separator) :
    EndsWord (separator.toList ++ text) := by
  obtain rfl | rfl := hseparates <;> exact endsWord_cons (by decide) _

mutual

/-- The text of a type writes its tokens in front of a text that can follow. -/
theorem scans_textWith (hseparates : SeparatesElements separator) :
    ∀ (type : ColumnType), type.WellFormed → type.BuiltIn →
    ∀ {text tokens}, EndsWord text → Scans text tokens →
      Scans ((type.textWith separator).toList ++ text) (typeTokens type ++ tokens)
  | simple name, hwell, _, text, tokens, hends, hscans => by
    rw [textWith, typeTokens]
    exact scans_word (List.mem_append_left _ hwell) hends hscans
  | composite kind elements, ⟨hkind, hsome, hwell⟩, hbuilt, text, tokens, _, hscans => by
    have hinner := scans_textsWith hseparates elements hsome hwell hbuilt
      (endsWord_cons (by decide) text) (.greater hscans)
    obtain ⟨word, more, hword⟩ := exists_joined_eq hsome hbuilt
    rw [hword] at hinner
    have hall := scans_word (List.mem_append_right _ hkind) (endsWord_cons (by decide) _)
      (.less hinner)
    simpa [textWith, typeTokens, hword] using hall

/-- The texts of types with separators between them write their tokens with commas between. -/
theorem scans_textsWith (hseparates : SeparatesElements separator) :
    ∀ (elements : List ColumnType), elements ≠ [] → AllWellFormed elements →
      AllBuiltIn elements → ∀ {text tokens}, EndsWord text → Scans text tokens → Scans
        (separator.toList.intercalate ((textsWith separator elements).map String.toList) ++ text)
        (joined (.symbol .comma) (typesTokens elements) ++ tokens)
  | [], hsome, _, _, _, _, _, _ => absurd rfl hsome
  | [element], _, hwell, hbuilt, text, tokens, hends, hscans => by
    have helement := scans_textWith hseparates element hwell.1 hbuilt.1 hends hscans
    simpa [textsWith, typesTokens, joined_singleton] using helement
  | first :: second :: rest, _, hwell, hbuilt, text, tokens, hends, hscans => by
    have hrest := scans_textsWith hseparates (second :: rest) (List.cons_ne_nil _ _) hwell.2
      hbuilt.2 hends hscans
    have hall := scans_textWith hseparates first hwell.1 hbuilt.1 hseparates.endsWord
      (hseparates.scans hrest)
    simpa [textsWith, typesTokens, joined_cons_cons] using hall

end

theorem scans_toList_textWith (hseparates : SeparatesElements separator) {type : ColumnType}
    (hwell : type.WellFormed) (hbuilt : type.BuiltIn) :
    Scans (type.textWith separator).toList (typeTokens type) := by
  have hscans := scans_textWith hseparates type hwell hbuilt endsWord_nil .nil
  rwa [List.append_nil, List.append_nil] at hscans

/-- Assumes: a built-in type and a text with the letters of its own, in whatever case. The type is
read from the text, and no token is left. -/
theorem exists_ofText_of_sameLetters (hseparates : SeparatesElements separator)
    {type : ColumnType} (hwell : type.WellFormed) (hbuilt : type.BuiltIn) {written : String}
    (hletters : Parser.sameLetters written (type.textWith separator) = true) :
    ∃ lexemes, Lexeme.ofText written = .ok lexemes ∧
      columnType ((Script.significant lexemes).map Lexeme.token) = .ok (type, []) := by
  have hscans := scans_toList_textWith hseparates hwell hbuilt
  obtain ⟨others, hothers, hspelling⟩ := hscans.respelled (sameLetters_iff.1 hletters)
  obtain ⟨lexemes, hsplit, hsingle⟩ := Lexeme.exists_ofText_of_scans hothers
  -- The type is read from its tokens, hence from those in other letters, hence from those in which
  -- angles are paired.
  have hread := columnType_typeTokens hwell (by rfl : Parser.accept .period [] = .ok (false, []))
  rw [List.append_nil] at hread
  obtain ⟨left, hread, hleft⟩ :=
    (respected_spelling.columnType.sameEnd _ _ hspelling).of_ok_left hread
  obtain rfl := List.forall₂_nil_left_iff.1 hleft
  obtain ⟨rest, hread, hrest⟩ :=
    (respected_singled.columnType.sameEnd _ _ hsingle.symm).of_ok_right hread
  obtain rfl := singleAngles_eq_nil hrest.symm
  exact ⟨lexemes, hsplit, hread⟩

/-- The text of a built-in type tells the type. -/
theorem textWith_inj (hseparates : SeparatesElements separator) {first second : ColumnType}
    (hfirst : first.WellFormed) (hsecond : second.WellFormed) (hbuilt : first.BuiltIn)
    (hother : second.BuiltIn) (hsame : first.textWith separator = second.textWith separator) :
    first = second := by
  have hself : ∀ text, Parser.sameLetters text text = true := fun _ ↦ sameLetters_iff.2 rfl
  obtain ⟨lexemes, hsplit, hread⟩ := exists_ofText_of_sameLetters hseparates hfirst hbuilt (hself _)
  obtain ⟨others, hsplit', hread'⟩ :=
    exists_ofText_of_sameLetters hseparates hsecond hother (hself _)
  rw [hsame] at hsplit
  cases hsplit.symm.trans hsplit'
  cases hread.symm.trans hread'
  rfl

/-- A type that is built from the known simple types and the known kinds of composite types is read
back from its text, whatever is nested in it and however many angles close at one place. The words
of the text may be written in small or capital letters, and no token is left behind the type. -/
theorem text_reads_back {type : ColumnType} (hwell : type.WellFormed) (hbuilt : type.BuiltIn)
    {written : String} (hletters : Parser.sameLetters written type.text = true) :
    ∃ lexemes, Lexeme.ofText written = .ok lexemes ∧
      columnType ((Script.significant lexemes).map Lexeme.token) = .ok (type, []) :=
  exists_ofText_of_sameLetters (.inr rfl) hwell hbuilt hletters

/-- A type in which five angles close at one place. -/
def deeplyNested : ColumnType :=
  .composite "map" [.simple "text", .composite "frozen" [.composite "list" [.composite "frozen"
    [.composite "tuple" [.simple "int", .composite "set" [.simple "uuid"]]]]]]

theorem text_reads_back_deeplyNested : ∃ lexemes,
    Lexeme.ofText "MAP<Text, frozen<LIST<Frozen<tuple<int, sEt<UUID>>>>>>" = .ok lexemes ∧
      columnType ((Script.significant lexemes).map Lexeme.token) = .ok (deeplyNested, []) :=
  text_reads_back
    (by simp [deeplyNested, WellFormed, AllWellFormed, compositeKinds, simpleNames])
    (by simp [deeplyNested, BuiltIn, AllBuiltIn]) (by decide)

end ColumnType

end SchemaTemplate
