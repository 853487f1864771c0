import SchemaTemplate.Proofs.SettingsWriting
import SchemaTemplate.Proofs.TokenSources

/-!
Constants keep their source text. The constants at their places in a script are those of its
settings, none more and none less (`Script.collected_of_readLexemes`), and each text is the source
of the tokens that write it: of a constant in quotes what is between them, and of any other every
character but the mark behind a long number, which is dropped. So scripts that differ in one
constant only, and not just by that mark, are never read as the same statements.
-/

set_option autoImplicit false
set_option relaxedAutoImplicit false

namespace SchemaTemplate

/-! ### The constants of settings -/

/-- The constants in a map: each key, and those in the value under it. -/
def OrderedMap.constants {Value : Type} (constantsOf : Value → List String)
    (map : OrderedMap String Value) : List String :=
  map.entries.flatMap fun (key, value) ↦ key :: constantsOf value

/-- The constants in the options of a property. -/
def optionConstants : Options → List String := OrderedMap.constants fun text ↦ [text]

/-- The constants in the value of a regular property. -/
def PropertyValue.constants : PropertyValue → List String
  | text content => [content]
  | options entries => optionConstants entries

namespace Settings

/-- The constants in settings, those of the custom properties last. -/
def constants (settings : Settings) : List String :=
  (settings.regular.entries.flatMap fun (_, value) ↦ value.constants) ++
    settings.custom.elim [] (OrderedMap.constants optionConstants)

theorem constants_regular (settings : Settings) (name : Identifier) (value : PropertyValue) :
    (settings.constants ++ value.constants).Perm (constants
      { settings with regular := ⟨settings.regular.entries ++ [(name, value)]⟩ }) := by
  simp only [constants, List.flatMap_append, List.flatMap_singleton, List.append_assoc]
  exact List.perm_append_comm.append_left _

theorem constants_custom {settings : Settings} (hfirst : settings.custom = none)
    (custom : CustomProperties) : settings.constants ++ custom.constants optionConstants =
      constants { settings with custom := some custom } := by
  simp [constants, hfirst]

end Settings

namespace Grammar

open SchemaTemplate.Grammar.Parser

variable {Value : Type} {used behind tokens : List Token}

/-! ### Collecting what is written -/

/-- A constant is found at its place, which is behind a mark or in front of a colon. -/
theorem constantTexts_of_writesConstant {text : String} (hwrites : WritesConstant used text)
    {introduced : Bool} (hplace : (introduced || colonFirst behind) = true) :
    constantTexts introduced (used ++ behind) = text :: constantTexts false behind := by
  cases hwrites with
  | quoted | word | number =>
    rw [List.singleton_append, constantTexts_cons introduced (fun hminus ↦ by cases hminus),
      if_pos hplace]
    rfl
  | negative =>
    rw [List.cons_append, List.singleton_append, constantTexts, if_pos hplace]
    rfl

/-- Whether the constants of values are found behind a mark in the tokens that write them. -/
def Collects (Writes : List Token → Value → Prop) (constantsOf : Value → List String) : Prop :=
  ∀ ⦃used value⦄, Writes used value → ∀ behind,
    constantTexts true (used ++ behind) = constantsOf value ++ constantTexts false behind

theorem collects_constant : Collects WritesConstant fun text ↦ [text] :=
  fun _ _ hwrites _ ↦ constantTexts_of_writesConstant hwrites rfl

theorem constantTexts_of_writesEntries {Writes : List Token → Value → Prop}
    {constantsOf : Value → List String} (hvalue : Collects Writes constantsOf)
    {entries : List (String × Value)} (hwrites : WritesEntries Writes used entries)
    (behind : List Token) : constantTexts false (used ++ behind) =
      (entries.flatMap fun (key, value) ↦ key :: constantsOf value) ++
        constantTexts false behind := by
  induction hwrites with
  | last hkey hwritten =>
    rw [List.append_assoc, List.cons_append, constantTexts_of_writesConstant hkey rfl,
      constantTexts_introducing (by decide), hvalue hwritten]
    simp
  | more hkey hwritten _ ih =>
    rw [List.append_assoc, List.cons_append, constantTexts_of_writesConstant hkey rfl,
      constantTexts_introducing (by decide), List.append_assoc, hvalue hwritten, List.cons_append,
      constantTexts_plain (by decide), ih]
    simp

theorem collects_map {Writes : List Token → Value → Prop} {constantsOf : Value → List String}
    (hvalue : Collects Writes constantsOf) :
    Collects (WritesMap Writes) (OrderedMap.constants constantsOf) := by
  intro used map hwrites behind
  cases hwrites with
  | empty =>
    rw [List.cons_append, constantTexts_plain (by decide), List.cons_append,
      constantTexts_plain (by decide)]
    rfl
  | entries hentries =>
    rw [List.cons_append, constantTexts_plain (by decide), List.append_assoc,
      constantTexts_of_writesEntries hvalue hentries, List.singleton_append,
      constantTexts_plain (by decide)]
    rfl

theorem collects_value : Collects WritesValue PropertyValue.constants := by
  intro used value hwrites behind
  cases hwrites with
  | text hconstant => exact collects_constant hconstant behind
  | options hentries => exact collects_map collects_constant hentries behind

/-! ### Items and statements -/

theorem constantTexts_of_named {token : Token} {name : Identifier}
    (hname : nameOf? token = some name) (rest : List Token) :
    constantTexts false (token :: .symbol .equals :: rest) = constantTexts true rest := by
  have hplain := introducesConstant_of_nameOf? hname
  rw [constantTexts_cons false (by rintro rfl; cases hname), hplain,
    constantTexts_introducing (by decide)]
  rfl

/-- An item adds the constants that are found in it, in front of the end or of a word. -/
theorem exists_constants_of_writesItem {settings next : Settings}
    (hwrites : WritesItem used settings next) (hcolon : colonFirst behind = false)
    (hnumber : ¬ NumberFirst behind) :
    ∃ texts, constantTexts false (used ++ behind) = texts ++ constantTexts false behind ∧
      (settings.constants ++ texts).Perm next.constants := by
  cases hwrites with
  | @regular token name used value _ hname _ hvalue =>
    refine ⟨value.constants, ?_, settings.constants_regular name value⟩
    rw [List.cons_append, List.cons_append, constantTexts_of_named hname, collects_value hvalue]
  | @custom token name used custom _ hname _ hblock hfirst =>
    refine ⟨custom.constants optionConstants, ?_, .of_eq (Settings.constants_custom hfirst custom)⟩
    rw [List.cons_append, List.cons_append, constantTexts_of_named hname]
    exact collects_map (collects_map collects_constant) hblock behind
  | other hunmarked =>
    refine ⟨[], constantTexts_append_of_unmarked hunmarked hcolon hnumber, ?_⟩
    rw [List.append_nil]

theorem colonFirst_of_writesItem {settings next : Settings}
    (hwrites : WritesItem used settings next) (hcolon : colonFirst behind = false) :
    colonFirst (used ++ behind) = false := by
  cases hwrites with
  | regular hname | custom hname =>
    rw [List.cons_append, colonFirst, decide_eq_false_iff_not]
    rintro ⟨⟩
    cases hname
  | other hunmarked =>
    cases used with
    | nil => exact hcolon
    | cons token used => exact hunmarked.colonFirst

/-- A word is in front of a statement's items or between them, so it is no constant. -/
theorem constantTexts_of_isWord {token : Token} {spelling : String}
    (hword : isWord spelling token = true) {rest : List Token} (hcolon : colonFirst rest = false) :
    constantTexts false (token :: rest) = constantTexts false rest := by
  rw [constantTexts_cons false (by rintro rfl; cases hword), hcolon,
    introducesConstant_of_isWord hword]
  rfl

theorem apart_of_isWord {token : Token} {spelling : String} (hword : isWord spelling token = true)
    (rest : List Token) : colonFirst (token :: rest) = false ∧ ¬ NumberFirst (token :: rest) := by
  cases token with
  | word => exact ⟨rfl, nofun⟩
  | blank | quotedWord | string | number | symbol | other => cases hword

theorem colonFirst_of_writesItems {settings next : Settings}
    (hwrites : WritesItems tokens settings next) : colonFirst tokens = false := by
  cases hwrites with
  | last hitem =>
    rw [← List.append_nil tokens]
    exact colonFirst_of_writesItem hitem rfl
  | more hitem hand => exact colonFirst_of_writesItem hitem (apart_of_isWord hand _).1

theorem constants_of_writesItems {settings next : Settings}
    (hwrites : WritesItems tokens settings next) :
    (settings.constants ++ constantTexts false tokens).Perm next.constants := by
  induction hwrites with
  | last hitem =>
    obtain ⟨texts, htexts, hperm⟩ :=
      exists_constants_of_writesItem hitem (rfl : colonFirst [] = false) not_numberFirst_nil
    rw [List.append_nil, constantTexts, List.append_nil] at htexts
    rwa [htexts]
  | @more used others token settings between next hitem hand hitems ih =>
    -- The item is looked at apart from the word behind it, and the word is no constant.
    obtain ⟨hcolon, hnumber⟩ := apart_of_isWord hand others
    obtain ⟨texts, htexts, hperm⟩ := exists_constants_of_writesItem hitem hcolon hnumber
    rw [htexts, constantTexts_of_isWord hand (colonFirst_of_writesItems hitems),
      ← List.append_assoc]
    exact (hperm.append_right _).trans ih

/-- The constants at their places in a statement are those of its settings. -/
theorem constants_of_writesSettings {settings : Settings}
    (hwrites : WritesSettings tokens settings) :
    (constantTexts false tokens).Perm settings.constants := by
  cases hwrites with
  | none hunmarked =>
    rw [constantTexts_of_unmarked hunmarked]
    rfl
  | behind hunmarked hwith hitems =>
    obtain ⟨hcolon, hnumber⟩ := apart_of_isWord hwith _
    rw [constantTexts_append_of_unmarked hunmarked hcolon hnumber,
      constantTexts_of_isWord hwith (colonFirst_of_writesItems hitems)]
    exact constants_of_writesItems hitems

/-! ### One constant and the others -/

/-- Whether a constant may stand between two rows of tokens: behind an equals sign or a colon, or in
front of a colon and behind a mark that is not the sign of a number. -/
def HoldsConstant (front back : List Token) : Prop :=
  ∃ before symbol, front = before ++ [.symbol symbol] ∧ symbol ≠ .minus ∧
    (introducesConstant (.symbol symbol) || colonFirst back) = true

/-- Whether tokens are a constant without quotes. -/
def Unquoted (tokens : List Token) : Prop :=
  ∃ text, WritesConstant tokens text ∧ tokens ≠ [.string text]

/-- What else is found beside a constant does not depend on it. -/
theorem exists_constantTexts_around {front back : List Token} (hplace : HoldsConstant front back) :
    ∃ before behind, ∀ used text, WritesConstant used text →
      constantTexts false (front ++ used ++ back) = before ++ text :: behind := by
  obtain ⟨before, symbol, rfl, hminus, hplace⟩ := hplace
  obtain ⟨texts, htexts⟩ :=
    exists_constantTexts_append false (colonFirst [.symbol symbol]) before
  refine ⟨texts, constantTexts false back, fun used text hwrites ↦ ?_⟩
  have hfound := htexts (.symbol symbol :: (used ++ back)) rfl (not_numberFirst_symbol symbol _)
  rw [constantTexts_symbol hminus, constantTexts_of_writesConstant hwrites hplace] at hfound
  simpa using hfound

end Grammar

namespace Script

open Grammar

variable {lexemes others used more : List Lexeme} {statements : List Statement}

/-! ### Scripts -/

theorem tokensIn_append (first second : List Lexeme) :
    tokensIn (first ++ second) = tokensIn first ++ tokensIn second := by
  simp [tokensIn, significant]

theorem tokensIn_cons_of_ends {semicolon : Lexeme} (hends : Ends semicolon) (rest : List Lexeme) :
    tokensIn (semicolon :: rest) = .symbol .semicolon :: tokensIn rest := by
  rw [tokensIn_cons_of_not_blank (by rw [hends]; rfl), hends]

theorem constantTexts_divided (first : List Lexeme) {others : List (Lexeme × List Lexeme)}
    (hends : ∀ other ∈ others, Ends other.1) :
    constantTexts false (tokensIn (divided first others)) =
      (first :: others.map Prod.snd).flatMap fun stretch ↦ constantTexts false (tokensIn stretch)
      := by
  induction others generalizing first with
  | nil => simp [divided]
  | cons other others ih =>
    obtain ⟨hother, hothers⟩ := List.forall_mem_cons.1 hends
    rw [divided_cons, tokensIn_append, tokensIn_cons_of_ends hother,
      constantTexts_append false _ rfl (not_numberFirst_symbol _ _),
      constantTexts_plain (by decide), ih other.2 hothers]
    rfl

/-- The constants of a script are those of its statements. -/
theorem constantTexts_statementLexemes (lexemes : List Lexeme) :
    constantTexts false (tokensIn lexemes) =
      (statementLexemes lexemes).flatMap fun stretch ↦ constantTexts false (tokensIn stretch) := by
  obtain ⟨first, others, rfl, hfirst, hothers⟩ := exists_divided lexemes
  rw [constantTexts_divided first fun other hmem ↦ (hothers other hmem).1,
    statementLexemes_divided hfirst hothers]
  generalize first :: others.map Prod.snd = stretches
  induction stretches with
  | nil => rfl
  | cons stretch stretches ih =>
    by_cases hblank : significant stretch = []
    · rw [List.filter_cons_of_neg (by simp [hblank]), ← ih, List.flatMap_cons, tokensIn, hblank]
      rfl
    · rw [List.filter_cons_of_pos (by simpa using hblank), List.flatMap_cons, List.flatMap_cons, ih]

theorem written_of_readLexemes (hread : (readLexemes lexemes).outcome = .ok statements) :
    List.Forall₂ (fun stretch statement ↦ WritesSettings (tokensIn stretch) statement.settings)
      (statementLexemes lexemes) statements := by
  rw [readLexemes, Report.outcome_mapM_eq_ok_iff] at hread
  exact hread.imp fun stretch statement hstatement ↦
    writesSettings_of_statementOf (statementOf_of_readStatement hstatement).1

/-- The constants at their places in a script are those of the settings of its statements. -/
theorem collected_of_readLexemes (hread : (readLexemes lexemes).outcome = .ok statements) :
    (constantTexts false (tokensIn lexemes)).Perm
      (statements.flatMap fun statement ↦ statement.settings.constants) := by
  rw [constantTexts_statementLexemes]
  have hwritten := written_of_readLexemes hread
  clear hread
  generalize statementLexemes lexemes = stretches at hwritten
  induction hwritten with
  | nil => rfl
  | cons hstatement _ ih => exact (constants_of_writesSettings hstatement).append ih

/-! ### Sources -/

/-- The characters of lexemes that are not blank. -/
def sourceIn (lexemes : List Lexeme) : List Char := (significant lexemes).flatMap Lexeme.source

/-- The mark of a long number, if tokens end with one. -/
def longMark (tokens : List Token) : List Char :=
  match tokens.getLast? with
  | some (.number _ true) => ['L']
  | _ => []

theorem sourceIn_eq (hspelled : ∀ lexeme ∈ used, lexeme.Spelled)
    (htold : ∀ token ∈ tokensIn used, token.spelling?.isSome) :
    sourceIn used = (tokensIn used).flatMap fun token ↦ token.spelling?.getD [] := by
  rw [sourceIn, tokensIn, List.flatMap_map]
  refine List.flatMap_congr fun lexeme hmem ↦ ?_
  obtain ⟨characters, hcharacters⟩ :=
    Option.isSome_iff_exists.1 (htold lexeme.token (List.mem_map_of_mem hmem))
  rw [hspelled lexeme (List.mem_filter.1 hmem).1 characters hcharacters, hcharacters]
  rfl

theorem sourceIn_of_quoted (hspelled : ∀ lexeme ∈ used, lexeme.Spelled) {text : String}
    (hquoted : tokensIn used = [.string text]) :
    sourceIn used = Token.quotedSource '\'' text.toList := by
  rw [sourceIn_eq hspelled (by simp [hquoted, Token.spelling?]), hquoted]
  exact List.append_nil _

theorem sourceIn_of_unquoted (hspelled : ∀ lexeme ∈ used, lexeme.Spelled) {text : String}
    (hwrites : WritesConstant (tokensIn used) text) (hunquoted : tokensIn used ≠ [.string text]) :
    sourceIn used = text.toList ++ longMark (tokensIn used) := by
  have htold : ∀ token ∈ tokensIn used, token.spelling?.isSome := by
    generalize tokensIn used = tokens at hwrites
    cases hwrites <;> simp [Token.spelling?]
  rw [sourceIn_eq hspelled htold]
  generalize tokensIn used = tokens at hwrites hunquoted
  cases hwrites with
  | quoted => exact absurd rfl hunquoted
  | word => rfl
  | number digits long => cases long <;> simp [Token.spelling?, longMark]
  | negative digits long => cases long <;> simp [Token.spelling?, longMark, Symbol.text]

/-! ### Constants and their sources -/

/-- Whether statements keep the constants that lexemes write. -/
structure ConstantsKept (lexemes : List Lexeme) (statements : List Statement) : Prop where
  /-- The tokens of each statement write its settings, constant by constant. -/
  written : List.Forall₂
    (fun stretch statement ↦ WritesSettings (tokensIn stretch) statement.settings)
    (statementLexemes lexemes) statements
  /-- The constants at their places are those of the settings. -/
  collected : (constantTexts false (tokensIn lexemes)).Perm
    (statements.flatMap fun statement ↦ statement.settings.constants)
  /-- A constant in quotes is kept as what is between them. -/
  quoted : ∀ used ⊆ lexemes, ∀ text, tokensIn used = [.string text] →
    sourceIn used = Token.quotedSource '\'' text.toList
  /-- Any other constant is kept as its source, without the mark of a long number. -/
  unquoted : ∀ used ⊆ lexemes, ∀ text, WritesConstant (tokensIn used) text →
    tokensIn used ≠ [.string text] → sourceIn used = text.toList ++ longMark (tokensIn used)

/-- Whether two scripts have the same tokens but for one constant without quotes. -/
inductive OneConstantApart : (lexemes others used more : List Lexeme) → Prop
  | intro {front frontToo back backToo used more : List Lexeme}
    (hfront : tokensIn front = tokensIn frontToo) (hback : tokensIn back = tokensIn backToo)
    (hplace : HoldsConstant (tokensIn front) (tokensIn back))
    (hused : Unquoted (tokensIn used)) (hmore : Unquoted (tokensIn more)) :
    OneConstantApart (front ++ used ++ back) (frontToo ++ more ++ backToo) used more

theorem OneConstantApart.used_subset (hapart : OneConstantApart lexemes others used more) :
    used ⊆ lexemes := by
  obtain ⟨-, -, -, -, -⟩ := hapart
  simp

theorem OneConstantApart.more_subset (hapart : OneConstantApart lexemes others used more) :
    more ⊆ others := by
  obtain ⟨-, -, -, -, -⟩ := hapart
  simp

/-- Assumes: scripts with one constant apart, of which the same constants are collected. This
constant has the same text in both. -/
theorem OneConstantApart.exists_text (hapart : OneConstantApart lexemes others used more)
    (hperm : (constantTexts false (tokensIn lexemes)).Perm
      (constantTexts false (tokensIn others))) :
    ∃ text, (WritesConstant (tokensIn used) text ∧ tokensIn used ≠ [.string text]) ∧
      WritesConstant (tokensIn more) text ∧ tokensIn more ≠ [.string text] := by
  obtain ⟨hfront, hback, hplace, ⟨text, hused⟩, ⟨other, hmore⟩⟩ := hapart
  obtain ⟨before, behind, haround⟩ := exists_constantTexts_around hplace
  rw [tokensIn_append, tokensIn_append, tokensIn_append, tokensIn_append, ← hfront, ← hback,
    haround _ text hused.1, haround _ other hmore.1, List.perm_append_left_iff,
    ← List.singleton_append, ← @List.singleton_append _ other, List.perm_append_right_iff,
    List.singleton_perm_singleton] at hperm
  exact ⟨text, hused, hperm ▸ hmore⟩

/-- A script that is read is split into lexemes, which are read as its statements. -/
theorem exists_readLexemes_of_read {script : String}
    (hread : (read script).outcome = .ok statements) :
    ∃ lexemes, Lexeme.ofText script = .ok lexemes ∧
      (readLexemes lexemes).outcome = .ok statements := by
  rwa [read, Report.outcome_bind_eq_ok_iff] at hread

/-- Constants keep their source text but for the mark of a long number. The tokens of each statement
of a script that is read write its settings: each constant that they hold, as the value of a
property, as a key or a value of its options, or as the name of a custom property, is at the same
place in the settings, and no constant is lost. A constant in quotes is kept as what is between
them, and any other as the characters that its tokens are written with, from which nothing is
dropped but the mark behind a long number. So if two scripts are read as the same statements and
differ in one constant without quotes at most, then this has the same source in both but for such a
mark. -/
theorem constants_keep_their_source {script : String} {statements : List Statement}
    (hread : (read script).outcome = .ok statements) :
    ∃ lexemes, Lexeme.ofText script = .ok lexemes ∧ ConstantsKept lexemes statements ∧
      ∀ another others used more, Lexeme.ofText another = .ok others →
        (read another).outcome = .ok statements → OneConstantApart lexemes others used more →
          ∃ text : String, sourceIn used = text.toList ++ longMark (tokensIn used) ∧
            sourceIn more = text.toList ++ longMark (tokensIn more) := by
  obtain ⟨lexemes, hsplit, hlexemes⟩ := exists_readLexemes_of_read hread
  have hspelled := Lexeme.spelled_of_ofText hsplit
  refine ⟨lexemes, hsplit,
    { written := written_of_readLexemes hlexemes
      collected := collected_of_readLexemes hlexemes
      quoted := fun used hsubset text ↦
        sourceIn_of_quoted fun lexeme hmem ↦ hspelled lexeme (hsubset hmem)
      unquoted := fun used hsubset text ↦
        sourceIn_of_unquoted fun lexeme hmem ↦ hspelled lexeme (hsubset hmem) }, ?_⟩
  intro another others used more hsplitToo hreadToo hapart
  obtain ⟨found, hfound, hothers⟩ := exists_readLexemes_of_read hreadToo
  obtain rfl : found = others := Except.ok.inj (hfound.symm.trans hsplitToo)
  -- All constants of both scripts are those of the statements, so what they have apart is the same.
  have hperm := (collected_of_readLexemes hlexemes).trans (collected_of_readLexemes hothers).symm
  obtain ⟨text, ⟨hused, hunquoted⟩, hmore, hunquotedToo⟩ := hapart.exists_text hperm
  have hspelledToo := Lexeme.spelled_of_ofText hsplitToo
  refine ⟨text, sourceIn_of_unquoted (fun lexeme hmem ↦ hspelled lexeme ?_) hused hunquoted,
    sourceIn_of_unquoted (fun lexeme hmem ↦ hspelledToo lexeme ?_) hmore hunquotedToo⟩
  · exact hapart.used_subset hmem
  · exact hapart.more_subset hmem

/-- A keyspace with a negative number and a quote mark among its constants. -/
def ownedScript : String :=
  "CREATE KEYSPACE k WITH a = - 10L AND custom_properties = \x7b'b' : \x7bC : 'it''s'\x7d\x7d"

/-- What `ownedScript` creates. -/
def owned : KeyspaceCreation where
  keyspace := ⟨"k"⟩
  ifNotExists := false
  settings :=
    { regular := ⟨[(⟨"a"⟩, .text "-10")]⟩
      custom := some ⟨[("b", ⟨[("C", "it's")]⟩)]⟩ }

theorem constants_keep_their_source_ownedScript :
    (read ownedScript).outcome = .ok [.createKeyspace owned] ∧
      ∃ lexemes, Lexeme.ofText ownedScript = .ok lexemes ∧
        ConstantsKept lexemes [.createKeyspace owned] := by
  have hread : (read ownedScript).outcome = .ok [.createKeyspace owned] := by decide +kernel
  obtain ⟨lexemes, hsplit, hkept, -⟩ := constants_keep_their_source hread
  exact ⟨hread, lexemes, hsplit, hkept⟩

/-- The lexemes of a keyspace with one property, in front of its value. -/
def frontLexemes : List Lexeme :=
  [⟨.word "CREATE", ['C', 'R', 'E', 'A', 'T', 'E'], ⟨1, 1⟩⟩, ⟨.blank, [' '], ⟨1, 7⟩⟩,
    ⟨.word "KEYSPACE", ['K', 'E', 'Y', 'S', 'P', 'A', 'C', 'E'], ⟨1, 8⟩⟩, ⟨.blank, [' '], ⟨1, 16⟩⟩,
    ⟨.word "k", ['k'], ⟨1, 17⟩⟩, ⟨.blank, [' '], ⟨1, 18⟩⟩,
    ⟨.word "WITH", ['W', 'I', 'T', 'H'], ⟨1, 19⟩⟩, ⟨.blank, [' '], ⟨1, 23⟩⟩,
    ⟨.word "a", ['a'], ⟨1, 24⟩⟩, ⟨.blank, [' '], ⟨1, 25⟩⟩, ⟨.symbol .equals, ['='], ⟨1, 26⟩⟩,
    ⟨.blank, [' '], ⟨1, 27⟩⟩]

/-- A long number, as the value behind `frontLexemes`. -/
def longLexemes : List Lexeme := [⟨.number "10" true, ['1', '0', 'L'], ⟨1, 28⟩⟩]

/-- The same number without the mark of a long one. -/
def plainLexemes : List Lexeme := [⟨.number "10" false, ['1', '0'], ⟨1, 28⟩⟩]

/-- What is created with either number. -/
def tenfold : KeyspaceCreation where
  keyspace := ⟨"k"⟩
  ifNotExists := false
  settings := { regular := ⟨[(⟨"a"⟩, .text "10")]⟩, custom := none }

/-- The mark of a long number is lost: with it and without it a number is kept as the same text, so
these scripts, which differ in their only constant, are read as the same statement. -/
theorem long_mark_is_lost :
    Lexeme.ofText "CREATE KEYSPACE k WITH a = 10L" = .ok (frontLexemes ++ longLexemes ++ []) ∧
      Lexeme.ofText "CREATE KEYSPACE k WITH a = 10" = .ok (frontLexemes ++ plainLexemes ++ []) ∧
      OneConstantApart (frontLexemes ++ longLexemes ++ []) (frontLexemes ++ plainLexemes ++ [])
        longLexemes plainLexemes ∧
      sourceIn longLexemes ≠ sourceIn plainLexemes ∧
      (read "CREATE KEYSPACE k WITH a = 10L").outcome = .ok [.createKeyspace tenfold] ∧
      (read "CREATE KEYSPACE k WITH a = 10").outcome = .ok [.createKeyspace tenfold] := by
  have hplace : HoldsConstant (tokensIn frontLexemes) (tokensIn []) :=
    ⟨[.word "CREATE", .word "KEYSPACE", .word "k", .word "WITH", .word "a"], .equals, rfl,
      by decide, rfl⟩
  have hlong : Unquoted (tokensIn longLexemes) := ⟨"10", .number "10" true, nofun⟩
  have hplain : Unquoted (tokensIn plainLexemes) := ⟨"10", .number "10" false, nofun⟩
  exact ⟨by decide +kernel, by decide +kernel, .intro rfl rfl hplace hlong hplain, by decide,
    by decide +kernel, by decide +kernel⟩

end Script

end SchemaTemplate
