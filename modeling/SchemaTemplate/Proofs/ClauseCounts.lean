import Mathlib.Data.List.Nodup
import SchemaTemplate.Proofs.TableAcceptance

/-!
How often the clauses that a table may have once only are given. `Grammar.SingleClause.count` finds
a clause in the tokens of a statement without reading the statement: by the two words of a primary
key, wherever they stand, and by the beginning of an option behind `WITH` or `AND`. Names may be
spelled like the words of a clause, so it matters what stands behind a name:
`Grammar.SingleClause.Closed` holds of tokens in front of which no clause can begin.
-/

set_option autoImplicit false
set_option relaxedAutoImplicit false

namespace SchemaTemplate

/-! ### Letters of keywords -/

namespace Unicode

theorem toNat_lt_of_toLower {character : Char} (hlower : character.toLower.toNat < 0x80) :
    character.toNat < 0x80 := by
  unfold Char.toLower at hlower
  split at hlower
  next hupper =>
    have hle := hupper.2
    simp only [Char.toNat, UInt32.le_iff_toNat_le] at hle ⊢
    exact Nat.lt_of_le_of_lt hle (by decide)
  next => exact hlower

/-- Among ASCII characters only letters have a lower case of their own. -/
theorem lowerCaseAfter_eq_map {before characters : List Char}
    (hascii : ∀ character ∈ characters, character.toNat < 0x80) :
    lowerCaseAfter before characters = characters.map Char.toLower := by
  induction characters generalizing before with
  | nil => rfl
  | cons character rest ih =>
    obtain ⟨hfirst, hrest⟩ := List.forall_mem_cons.1 hascii
    have hsigma : character ≠ capitalSigma := by
      rintro rfl
      exact absurd hfirst (by decide)
    rw [lowerCaseAfter, if_neg hsigma, lowerCaseOf, if_pos hfirst, ih hrest]
    rfl

end Unicode

namespace Grammar

open SchemaTemplate.Grammar.Parser

/-- All keywords. -/
def keywords : List Keyword :=
  [.use, .create, .keyspace, .schema, .table, .columnFamily, .ifWord, .notWord, .existsWord,
    .withWord, .andWord, .primary, .key, .static, .clustering, .order, .byWord, .compact, .storage,
    .asc, .desc]

theorem mem_keywords (keyword : Keyword) : keyword ∈ keywords := by
  cases keyword <;> decide

/-- No token is two keywords. -/
theorem keyword_eq_of_isWord {keyword other : Keyword} {token : Token}
    (hword : isWord keyword.text token = true) (hother : isWord other.text token = true) :
    keyword = other := by
  cases token with
  | word text =>
    simp only [isWord, sameLetters, decide_eq_true_eq] at hword hother
    have hdistinct :
        (keywords.map fun keyword ↦ keyword.text.toList.map Char.toLower).Nodup := by decide
    exact List.inj_on_of_nodup_map hdistinct (mem_keywords keyword) (mem_keywords other)
      (hword.symm.trans hother)
  | _ => cases hword

theorem isWord_eq_false {keyword other : Keyword} {token : Token}
    (hword : isWord keyword.text token = true) (hother : other ≠ keyword) :
    isWord other.text token = false := by
  rw [Bool.eq_false_iff]
  exact fun hsame ↦ hother (keyword_eq_of_isWord hsame hword)

section

variable {keyword other : Keyword} {token : Token}

theorem lacks_of_isWord (hword : isWord keyword.text token = true) (hother : other ≠ keyword)
    (rest : List Token) : Lacks other (token :: rest) := by
  rintro _ ⟨⟩
  exact isWord_eq_false hword hother

theorem beginsWith_of_isWord (hword : isWord keyword.text token = true) (hother : other ≠ keyword)
    (keywords : List Keyword) (rest : List Token) :
    beginsWith (other :: keywords) (token :: rest) = false := by
  rw [beginsWith, isWord_eq_false hword hother, Bool.false_and]

end

/-- Keywords are spelled in ASCII. It is checked with `List.all`, since a statement about all
characters would be decided for each character there is. -/
theorem toNat_lt_of_mem_text {keyword : Keyword} {character : Char}
    (hmem : character ∈ keyword.text.toList.map Char.toLower) : character.toNat < 0x80 := by
  have hall : (keyword.text.toList.map Char.toLower).all (·.toNat < 0x80) = true := by
    cases keyword <;> decide
  simpa using List.all_eq_true.1 hall character hmem

/-- A name without quotes that is spelled like a keyword is folded to its small letters. -/
theorem nameOf?_of_isWord {keyword : Keyword} {token : Token}
    (hword : isWord keyword.text token = true) :
    nameOf? token = some ⟨String.ofList (keyword.text.toList.map Char.toLower)⟩ := by
  cases token with
  | word text =>
    simp only [isWord, sameLetters, decide_eq_true_eq] at hword
    rw [nameOf?, Identifier.unquoted, Unicode.lowerCase, Unicode.lowerCaseAfter_eq_map, hword]
    intro character hmem
    exact Unicode.toNat_lt_of_toLower (toNat_lt_of_mem_text (hword ▸ List.mem_map_of_mem hmem))
  | _ => cases hword

theorem nameOf?_ne_custom {keyword : Keyword} {token : Token}
    (hword : isWord keyword.text token = true) :
    nameOf? token ≠ some ⟨Settings.customPropertiesName⟩ := by
  have hother : ∀ keyword ∈ keywords,
      String.ofList (keyword.text.toList.map Char.toLower) ≠ Settings.customPropertiesName := by
    decide
  rw [nameOf?_of_isWord hword]
  simpa using hother keyword (mem_keywords keyword)

/-! ### Occurrences -/

/-- The number of places in a list of tokens from which on the tokens have a property. -/
def occurrences (begins : List Token → Bool) : List Token → Nat
  | [] => 0
  | token :: rest => (begins (token :: rest)).toNat + occurrences begins rest

/-- Whether tokens begin with a word that introduces an option, and this with the given option. -/
def introduces (option : List Token → Bool) : List Token → Bool
  | [] => false
  | token :: rest =>
    (isWord Keyword.withWord.text token || isWord Keyword.andWord.text token) && option rest

/-- Whether tokens begin with the block of custom properties. -/
def beginsCustom : List Token → Bool
  | token :: .symbol .equals :: _ => nameOf? token = some ⟨Settings.customPropertiesName⟩
  | _ => false

/-- The clauses that a table may have once only. -/
inductive SingleClause
  | primaryKey
  | clusteringOrder
  | compactStorage
  | customProperties
  deriving DecidableEq, Repr

namespace SingleClause

/-- Whether tokens begin with a clause, or with the word that introduces it. -/
def begins : SingleClause → List Token → Bool
  | primaryKey => beginsWith [.primary, .key]
  | clusteringOrder => introduces (beginsWith [.clustering, .order, .byWord])
  | compactStorage => introduces (beginsWith [.compact, .storage])
  | customProperties => introduces beginsCustom

/-- Whether a definition has a clause. -/
def given : SingleClause → TableDefinition → Bool
  | primaryKey, definition => definition.primaryKeyGiven
  | clusteringOrder, definition => definition.clusteringOrderGiven
  | compactStorage, definition => definition.compactStorage
  | customProperties, definition => definition.settings.custom.isSome

/-- How often a clause is given in a list of tokens. -/
def count (clause : SingleClause) : List Token → Nat := occurrences clause.begins

variable (clause : SingleClause) {first second : Token} {tokens rest : List Token}
  {keyword : Keyword}

/-! ### Where no clause begins -/

theorem introduces_eq (hword : isWord keyword.text first = true) (option : List Token → Bool) :
    introduces option (first :: rest) =
      (decide (keyword ∈ [Keyword.withWord, .andWord]) && option rest) := by
  have hsame : ∀ other : Keyword, isWord other.text first = decide (keyword = other) := by
    intro other
    by_cases hother : keyword = other
    · rw [← hother, hword, decide_eq_true rfl]
    · rw [isWord_eq_false hword (Ne.symm hother), decide_eq_false hother]
  simp [introduces, hsame]

/-- No clause begins with a word other than those of a primary key or of options. -/
theorem begins_of_isWord (hword : isWord keyword.text first = true)
    (hother : keyword ∉ [Keyword.primary, .withWord, .andWord]) :
    clause.begins (first :: rest) = false := by
  simp only [List.mem_cons, List.not_mem_nil, or_false, not_or] at hother
  cases clause with
  | primaryKey => rw [begins, beginsWith, isWord_eq_false hword (Ne.symm hother.1), Bool.false_and]
  | clusteringOrder | compactStorage | customProperties =>
    simp [begins, introduces_eq hword, hother.2.1, hother.2.2]

theorem begins_symbol (symbol : Symbol) : clause.begins (.symbol symbol :: rest) = false := by
  cases clause <;> rfl

/-- The second token of a clause is one of its words or the name of the custom properties. -/
theorem second_of_begins (hbegins : clause.begins (first :: second :: rest) = true) :
    (∃ keyword ∈ [Keyword.key, .clustering, .compact], isWord keyword.text second = true) ∨
      nameOf? second = some ⟨Settings.customPropertiesName⟩ := by
  cases clause with
  | primaryKey =>
    simp only [begins, beginsWith, Bool.and_eq_true] at hbegins
    exact .inl ⟨.key, by simp, hbegins.2.1⟩
  | clusteringOrder =>
    simp only [begins, introduces, beginsWith, Bool.and_eq_true] at hbegins
    exact .inl ⟨.clustering, by simp, hbegins.2.1⟩
  | compactStorage =>
    simp only [begins, introduces, beginsWith, Bool.and_eq_true] at hbegins
    exact .inl ⟨.compact, by simp, hbegins.2.1⟩
  | customProperties =>
    simp only [begins, introduces, Bool.and_eq_true] at hbegins
    refine .inr ?_
    unfold beginsCustom at hbegins
    split at hbegins
    · cases ‹second :: rest = _›
      simpa using hbegins.2
    · simp at hbegins

/-- Whether a clause cannot begin with the token in front of certain tokens. -/
def Closed (rest : List Token) : Prop := ∀ first, clause.begins (first :: rest) = false

theorem closed_nil : clause.Closed [] := by
  intro first
  cases clause <;> simp [begins, introduces, beginsWith, beginsCustom]

theorem closed_symbol (symbol : Symbol) : clause.Closed (.symbol symbol :: rest) := by
  intro first
  rw [Bool.eq_false_iff]
  intro hbegins
  obtain ⟨_, -, hword⟩ | hname := clause.second_of_begins hbegins
  · cases hword
  · cases hname

theorem closed_of_isWord (hword : isWord keyword.text first = true)
    (hother : keyword ∉ [Keyword.key, .clustering, .compact]) : clause.Closed (first :: rest) := by
  intro front
  rw [Bool.eq_false_iff]
  intro hbegins
  obtain ⟨other, hmem, hsame⟩ | hname := clause.second_of_begins hbegins
  · exact hother (keyword_eq_of_isWord hword hsame ▸ hmem)
  · exact nameOf?_ne_custom hword hname

variable {clause}

theorem count_of_closed (hclosed : clause.Closed rest) (first : Token) :
    clause.count (first :: rest) = clause.count rest := by
  rw [count, occurrences, hclosed first, Bool.toNat_false, Nat.zero_add]

theorem count_of_isWord (hword : isWord keyword.text first = true)
    (hother : keyword ∉ [Keyword.primary, .withWord, .andWord]) :
    clause.count (first :: rest) = clause.count rest := by
  rw [count, occurrences, clause.begins_of_isWord hword hother, Bool.toNat_false, Nat.zero_add]

@[simp] theorem count_symbol (symbol : Symbol) :
    clause.count (.symbol symbol :: rest) = clause.count rest := by
  rw [count, occurrences, clause.begins_symbol, Bool.toNat_false, Nat.zero_add]

end SingleClause

end Grammar

end SchemaTemplate
