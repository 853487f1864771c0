import SchemaTemplate.Proofs.AlikeTokens
import SchemaTemplate.Proofs.ClauseCounts

/-!
Words in small and capital letters. Keywords are compared and names are folded in a way that takes
small and capital ASCII letters for the same, also where the folding of other letters looks at them.
A relation of tokens that lets words differ in the case of such letters (`Grammar.CaseBlind`) is
respected by all parsers but those of constants.
-/

set_option autoImplicit false
set_option relaxedAutoImplicit false

namespace SchemaTemplate

/-! ### Letters -/

namespace Unicode

theorem isAlpha_iff {character : Char} : character.isAlpha = true ↔
    (65 ≤ character.toNat ∧ character.toNat ≤ 90) ∨
      (97 ≤ character.toNat ∧ character.toNat ≤ 122) := by
  show (decide ('A'.val ≤ character.val ∧ character.val ≤ 'Z'.val) ||
    decide ('a'.val ≤ character.val) && decide (character.val ≤ 'z'.val)) = true ↔ _
  simp [UInt32.le_iff_toNat_le]

theorem toNat_toLower (character : Char) : character.toLower.toNat =
    if 65 ≤ character.toNat ∧ character.toNat ≤ 90 then character.toNat + 32
    else character.toNat := by
  have hrange : ('A'.val ≤ character.val ∧ character.val ≤ 'Z'.val) ↔
      65 ≤ character.toNat ∧ character.toNat ≤ 90 := by
    simp [UInt32.le_iff_toNat_le]
  by_cases hupper : 'A'.val ≤ character.val ∧ character.val ≤ 'Z'.val
  · have hlower : character.toLower.val = character.val + ('a'.val - 'A'.val) :=
      congrArg Char.val (dif_pos hupper)
    rw [if_pos (hrange.1 hupper), Char.toNat, hlower, UInt32.toNat_add]
    have hle := (hrange.1 hupper).2
    simp
    omega
  · have hlower : character.toLower = character := dif_neg hupper
    rw [if_neg (mt hrange.2 hupper), hlower]

theorem isAlpha_eq_of_toLower {first second : Char} (hlower : first.toLower = second.toLower) :
    first.isAlpha = second.isAlpha := by
  have hnat := congrArg Char.toNat hlower
  rw [toNat_toLower, toNat_toLower] at hnat
  rw [Bool.eq_iff_iff, isAlpha_iff, isAlpha_iff]
  split at hnat <;> split at hnat <;> omega

/-- Characters that are no letters have no other case. -/
theorem eq_of_toLower {first second : Char} (hlower : first.toLower = second.toLower)
    (hother : second.isAlpha = false) : first = second := by
  have hnat := congrArg Char.toNat hlower
  rw [toNat_toLower, toNat_toLower] at hnat
  have hnone := mt isAlpha_iff.2 (Bool.eq_false_iff.1 hother)
  rw [← Char.toNat_inj]
  split at hnat <;> split at hnat <;> omega

theorem isDigit_eq_false {character : Char} (halpha : character.isAlpha = true) :
    character.isDigit = false := by
  rw [isAlpha_iff] at halpha
  simp only [Char.isDigit, Char.reduceVal, ge_iff_le, UInt32.le_iff_toNat_le, UInt32.reduceToNat,
    Char.toNat_val, Bool.and_eq_false_iff, decide_eq_false_iff_not]
  omega

/-- Assumes: characters that are no letters, checked one by one. No letter is among them. -/
theorem notMem_of_isAlpha {letter : Char} (halpha : letter.isAlpha = true) {others : List Char}
    (hothers : others.all (fun other ↦ !other.isAlpha) = true) : letter ∉ others := by
  intro hmem
  have hother := List.all_eq_true.1 hothers letter hmem
  rw [halpha] at hother
  cases hother

/-- Assumes: two texts with the same ASCII letters. If one has nothing but letters, so has the
other. -/
theorem isAlpha_of_map_toLower {first second : List Char}
    (hmap : first.map Char.toLower = second.map Char.toLower)
    (halpha : ∀ character ∈ first, character.isAlpha = true) :
    ∀ character ∈ second, character.isAlpha = true := by
  intro character hmem
  have hlower : character.toLower ∈ first.map Char.toLower := hmap ▸ List.mem_map_of_mem hmem
  obtain ⟨letter, hletter, hlower⟩ := List.mem_map.1 hlower
  rw [← isAlpha_eq_of_toLower hlower]
  exact halpha letter hletter

theorem toNat_lt_of_isAlpha {character : Char} (halpha : character.isAlpha = true) :
    character.toNat < 0x80 := by
  rcases isAlpha_iff.1 halpha with hcapital | hsmall <;> omega

/-- Characters that differ in nothing but the case of an ASCII letter are the same or letters. -/
theorem eq_or_isAlpha_of_toLower {first second : Char} (hlower : first.toLower = second.toLower) :
    first = second ∨ first.isAlpha = true ∧ second.isAlpha = true := by
  cases halpha : second.isAlpha with
  | false => exact .inl (eq_of_toLower hlower halpha)
  | true => exact .inr ⟨(isAlpha_eq_of_toLower hlower).trans halpha, rfl⟩

/-! ### Folding to small letters -/

theorem isCased_of_isAlpha {character : Char} (halpha : character.isAlpha = true) :
    isCased character = true := by
  rcases isAlpha_iff.1 halpha with hcapital | hsmall
  · refine List.any_eq_true.2 ⟨(0x41, 0x5A), List.mem_cons_self, ?_⟩
    simpa using hcapital
  · refine List.any_eq_true.2 ⟨(0x61, 0x7A), List.mem_cons_of_mem _ List.mem_cons_self, ?_⟩
    simpa using hsmall

theorem isCaseIgnorable_of_isAlpha {character : Char} (halpha : character.isAlpha = true) :
    isCaseIgnorable character = false := by
  have hapart : caseIgnorableRanges.all fun range ↦
      (range.2 < 65 || 90 < range.1) && (range.2 < 97 || 122 < range.1) := by decide +kernel
  rw [isCaseIgnorable, CodeRanges.contains, List.any_eq_false]
  intro range hmem
  have hrange := List.all_eq_true.1 hapart range hmem
  simp only [Bool.and_eq_true, Bool.or_eq_true, decide_eq_true_eq] at hrange ⊢
  rcases isAlpha_iff.1 halpha with hcapital | hsmall <;> omega

/-- Whether a cased character is met does not depend on the case of ASCII letters. -/
theorem meetsCased_eq {first second : List Char}
    (hmap : first.map Char.toLower = second.map Char.toLower) :
    meetsCased first = meetsCased second := by
  induction first generalizing second with
  | nil => rw [List.map_eq_nil_iff.1 hmap.symm]
  | cons character rest ih =>
    obtain ⟨other, more, rfl, hlower, hrest⟩ := List.map_eq_cons_iff.1 hmap.symm
    rcases eq_or_isAlpha_of_toLower hlower with rfl | ⟨hother, hcharacter⟩
    · cases hignored : isCaseIgnorable other with
      | true => simpa [meetsCased, List.dropWhile_cons, hignored] using ih hrest.symm
      | false => simp [meetsCased, hignored]
    · simp [meetsCased, isCaseIgnorable_of_isAlpha, isCased_of_isAlpha, hother, hcharacter]

theorem lowerCaseOf_eq {first second : Char} (hlower : first.toLower = second.toLower) :
    lowerCaseOf first = lowerCaseOf second := by
  rcases eq_or_isAlpha_of_toLower hlower with rfl | ⟨hfirst, hsecond⟩
  · rfl
  · rw [lowerCaseOf, lowerCaseOf, if_pos (toNat_lt_of_isAlpha hfirst),
      if_pos (toNat_lt_of_isAlpha hsecond), hlower]

theorem eq_capitalSigma_iff {first second : Char} (hlower : first.toLower = second.toLower) :
    first = capitalSigma ↔ second = capitalSigma := by
  have hother : capitalSigma.isAlpha = false := by decide
  constructor
  · rintro rfl
    exact eq_of_toLower hlower.symm hother
  · rintro rfl
    exact eq_of_toLower hlower hother

/-- Folding does not depend on the case of ASCII letters, even around a sigma. -/
theorem lowerCaseAfter_eq {before otherBefore first second : List Char}
    (hbefore : before.map Char.toLower = otherBefore.map Char.toLower)
    (hmap : first.map Char.toLower = second.map Char.toLower) :
    lowerCaseAfter before first = lowerCaseAfter otherBefore second := by
  induction first generalizing before otherBefore second with
  | nil => rw [List.map_eq_nil_iff.1 hmap.symm, lowerCaseAfter, lowerCaseAfter]
  | cons character rest ih =>
    obtain ⟨other, more, rfl, hlower, hrest⟩ := List.map_eq_cons_iff.1 hmap.symm
    have hbehind : (character :: before).map Char.toLower =
        (other :: otherBefore).map Char.toLower := by
      rw [List.map_cons, List.map_cons, hlower, hbefore]
    rw [lowerCaseAfter, lowerCaseAfter, ih hbehind hrest.symm, meetsCased_eq hbefore,
      meetsCased_eq hrest, lowerCaseOf_eq hlower]
    simp only [eq_capitalSigma_iff hlower]

end Unicode

namespace Grammar

open SchemaTemplate.Grammar.Parser

/-! ### Tokens -/

/-- Whether two tokens are the same, or words with the same ASCII letters in whatever case. -/
inductive SameSpelling : Token → Token → Prop
  | same (token : Token) : SameSpelling token token
  | word {first second : String} (hletters : sameLetters first second = true)
    (halpha : ∀ character ∈ first.toList, character.isAlpha = true) :
    SameSpelling (.word first) (.word second)

/-- Whether two lists of tokens have the same spelling, token by token. -/
abbrev SameSpellings : List Token → List Token → Prop := List.Forall₂ SameSpelling

theorem sameLetters_iff {first second : String} : sameLetters first second = true ↔
    first.toList.map Char.toLower = second.toList.map Char.toLower := decide_eq_true_iff

theorem sameSpellings_cons (token : Token) {rest more : List Token}
    (hrest : SameSpellings rest more) : SameSpellings (token :: rest) (token :: more) :=
  .cons (.same token) hrest

/-- Names that are not in quotes are folded to small letters. -/
theorem lowerCase_eq {first second : String} (hletters : sameLetters first second = true) :
    Unicode.lowerCase first = Unicode.lowerCase second := by
  rw [Unicode.lowerCase, Unicode.lowerCase,
    Unicode.lowerCaseAfter_eq rfl (sameLetters_iff.1 hletters)]

theorem isWord_eq_of_sameLetters {first second : String}
    (hletters : sameLetters first second = true) (spelling : String) :
    isWord spelling (.word first) = isWord spelling (.word second) := by
  rw [isWord, isWord, sameLetters, sameLetters, sameLetters_iff.1 hletters]

theorem spelledIn?_eq_of_sameLetters {first second : String}
    (hletters : sameLetters first second = true) (spellings : List String) :
    spelledIn? spellings (.word first) = spelledIn? spellings (.word second) := by
  rw [spelledIn?, spelledIn?]
  simp only [isWord_eq_of_sameLetters hletters]

/-! ### Relations that are blind to case -/

/-- Whether lists begin with the same token, or with words of the same ASCII letters, and behind it
are alike. -/
inductive SameHead (Alike : List Token → List Token → Prop) : List Token → List Token → Prop
  | nil : SameHead Alike [] []
  | same (token : Token) {rest more : List Token} (hrest : Alike rest more) :
    SameHead Alike (token :: rest) (token :: more)
  | word {first second : String} (hletters : sameLetters first second = true)
    {rest more : List Token} (hrest : Alike rest more) :
    SameHead Alike (.word first :: rest) (.word second :: more)

/-- Whether tokens that are alike differ in the case of words only. Of two closing angles written
without a gap the second may be left. -/
structure CaseBlind (Alike : List Token → List Token → Prop) : Prop where
  sameHead : ∀ {first second}, Alike first second → SameHead Alike first second
  angleLeft : ∀ {rest more}, Alike (.symbol .shiftRight :: rest) (.symbol .shiftRight :: more) →
    Alike (.symbol .greater :: rest) (.symbol .greater :: more)

namespace CaseBlind

variable {Alike : List Token → List Token → Prop} (hblind : CaseBlind Alike)

include hblind

theorem weight_eq {first second : List Token} (halike : Alike first second) :
    weight first = weight second := by
  induction first generalizing second with
  | nil =>
    cases hblind.sameHead halike
    rfl
  | cons token rest ih =>
    cases hblind.sameHead halike with
    | same _ hrest =>
      have hsame := ih hrest
      simp only [weight, List.length_cons, List.count_cons] at hsame ⊢
      omega
    | word _ hrest =>
      have hsame := ih hrest
      simp only [weight, List.length_cons, List.count_cons] at hsame ⊢
      simp
      omega

section

variable {Value : Type} {parser : Parser Value}

/-- Assumes: a parser comes to the same end where tokens are alike behind the same one, and where
the next token is a word in another case. It respects the relation. -/
theorem respects (hnil : Alike [] [] → SameEnd Alike (parser []) (parser []))
    (hsame : ∀ token {rest more}, Alike (token :: rest) (token :: more) → Alike rest more →
      SameEnd Alike (parser (token :: rest)) (parser (token :: more)))
    (hword : ∀ {first second rest more}, sameLetters first second = true →
      Alike (.word first :: rest) (.word second :: more) → Alike rest more →
      SameEnd Alike (parser (.word first :: rest)) (parser (.word second :: more))) :
    Respects Alike parser where
  sameEnd first second halike := by
    cases hblind.sameHead halike with
    | nil => exact hnil halike
    | same token hrest => exact hsame token halike hrest
    | word hletters hrest => exact hword hletters halike hrest

end

theorem accept (symbol : Symbol) : Respects Alike (accept symbol) := by
  refine hblind.respects (.read false) (fun token _ _ halike hrest ↦ ?_)
    fun _ halike _ ↦ .read false halike
  cases token with
  | symbol found =>
    by_cases hfound : found = symbol
    · subst hfound
      rw [accept_self, accept_self]
      exact .read true hrest
    · rw [accept_of_ne hfound, accept_of_ne hfound]
      exact .read false halike
  | blank | word | quotedWord | string | number | other => exact .read false halike

theorem closingAngle : Respects Alike expectClosingAngle := by
  refine hblind.respects (.unexpected _) (fun token _ _ halike hrest ↦ ?_)
    fun _ halike _ ↦ .unexpected _ halike
  cases token with
  | symbol found =>
    cases found with
    | greater => exact .read () hrest
    | shiftRight => exact .read () (hblind.angleLeft halike)
    | _ => exact .unexpected _ halike
  | blank | word | quotedWord | string | number | other => exact .unexpected _ halike

theorem ended : Respects Alike expectEnd :=
  hblind.respects (.read ()) (fun _ _ _ halike _ ↦ .unexpected _ halike)
    fun _ halike _ ↦ .unexpected _ halike

theorem identifier : Respects Alike identifier := by
  refine hblind.respects (.unexpected _) (fun token _ _ halike hrest ↦ ?_)
    fun hletters _ hrest ↦ ?_
  · cases token with
    | word | quotedWord => exact .read _ hrest
    | blank | string | number | symbol | other => exact .unexpected _ halike
  · rw [Parser.identifier, Parser.identifier, Identifier.unquoted, Identifier.unquoted,
      lowerCase_eq hletters]
    exact .read _ hrest

/-- Tokens that are alike begin with the same keywords, and are alike behind them. -/
theorem beginsWith_eq (keywords : List Keyword) {first second : List Token}
    (halike : Alike first second) :
    beginsWith keywords first = beginsWith keywords second ∧
      (beginsWith keywords first = true →
        Alike (first.drop keywords.length) (second.drop keywords.length)) := by
  induction keywords generalizing first second with
  | nil => exact ⟨rfl, fun _ ↦ halike⟩
  | cons keyword keywords ih =>
    cases hblind.sameHead halike with
    | nil => exact ⟨rfl, nofun⟩
    | same token hrest =>
      obtain ⟨hsame, hbehind⟩ := ih hrest
      simp only [beginsWith, Bool.and_eq_true, hsame]
      exact ⟨trivial, fun hbegins ↦ hbehind (hsame.trans hbegins.2)⟩
    | word hletters hrest =>
      obtain ⟨hsame, hbehind⟩ := ih hrest
      simp only [beginsWith, Bool.and_eq_true, hsame, isWord_eq_of_sameLetters hletters]
      exact ⟨trivial, fun hbegins ↦ hbehind (hsame.trans hbegins.2)⟩

theorem words (keywords : List Keyword) : Respects Alike (acceptWords keywords) where
  sameEnd first second halike := by
    obtain ⟨hsame, hbehind⟩ := hblind.beginsWith_eq keywords halike
    unfold acceptWords
    rw [← hsame]
    split
    next hbegins => exact .read true (hbehind hbegins)
    next => exact .read false halike

/-- Behind the kind of a composite type it is the next token that has to be an opening angle. -/
theorem compositeKind : Respects Alike acceptCompositeKind := by
  have hnext : ∀ {rest more}, Alike rest more →
      (∃ behind left, rest = .symbol .less :: behind ∧ more = .symbol .less :: left ∧
        Alike behind left) ∨
      (rest.head? ≠ some (.symbol .less) ∧ more.head? ≠ some (.symbol .less)) := by
    intro rest more hrest
    cases hblind.sameHead hrest with
    | nil => exact .inr ⟨nofun, nofun⟩
    | same token hbehind =>
      by_cases hless : token = .symbol .less
      · subst hless
        exact .inl ⟨_, _, rfl, rfl, hbehind⟩
      · exact .inr ⟨by simpa using hless, by simpa using hless⟩
    | word => exact .inr ⟨by simp, by simp⟩
  exact hblind.respects (.read none)
    (fun _ _ _ halike hrest ↦ sameEnd_acceptCompositeKind rfl halike (hnext hrest))
    fun hletters halike hrest ↦
      sameEnd_acceptCompositeKind (spelledIn?_eq_of_sameLetters hletters _) halike (hnext hrest)

theorem plainType : Respects Alike plainType := by
  have huser := Respects.userType hblind.identifier (hblind.accept .period)
  refine hblind.respects (.unexpected _) (fun token _ _ halike hrest ↦ ?_)
    fun hletters halike hrest ↦ ?_
  · by_cases hstring : ∃ className, token = .string className
    · obtain ⟨className, rfl⟩ := hstring
      exact .read _ hrest
    · have hnone := not_exists.1 hstring
      exact sameEnd_plainType hnone hnone rfl huser halike hrest
  · exact sameEnd_plainType nofun nofun (spelledIn?_eq_of_sameLetters hletters _) huser halike hrest

/-- No parser but those of constants sees in which case words are written. -/
theorem respected : RespectedInClauses Alike where
  weight_eq _ _ := hblind.weight_eq
  compositeKind := hblind.compositeKind
  comma := hblind.accept .comma
  closingAngle := hblind.closingAngle
  plainType := hblind.plainType
  accept symbol _ := hblind.accept symbol
  words := hblind.words
  identifier := hblind.identifier
  ended := hblind.ended

end CaseBlind

theorem caseBlind_sameSpellings : CaseBlind SameSpellings where
  sameHead halike := by
    cases halike with
    | nil => exact .nil
    | cons htoken hrest =>
      cases htoken with
      | same => exact .same _ hrest
      | word hletters => exact .word hletters hrest
  angleLeft halike := sameSpellings_cons _ (List.forall₂_cons.1 halike).2

/-- No parser of types sees in which case words are written. -/
theorem respected_spelling : RespectedInTypes SameSpellings :=
  caseBlind_sameSpellings.respected.toRespectedInTypes

end Grammar

end SchemaTemplate
