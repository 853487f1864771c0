import SchemaTemplate.Proofs.LetterCase
import SchemaTemplate.Proofs.ScriptComposition

/-!
Case and layout do not matter outside of constants and quotes. `Grammar.Recased` says of two lists
of tokens that they differ in the case of words that cannot be constants: a word behind an equals
sign or a colon is guarded, and so is a word in front of a colon. Constants are the one thing that
is read with its case. Where one is read behind an equals sign or a colon it is the same in both
lists. As the key of a map it may differ only where no colon follows, and there both lists are
rejected behind it.
-/

set_option autoImplicit false
set_option relaxedAutoImplicit false

namespace SchemaTemplate

/-- Assumes: two lists of items that are related one by one, and steps that have the same result for
related items or fail in ways that are alike. Going through both lists has the same results, or
fails in such ways at items with the same number. -/
theorem Report.mapM_cases {Item Other Result : Type} {Related : Item → Other → Prop}
    {Alike : Item → Other → Failure → Failure → Prop} {step : Item → Report Result}
    {stepOther : Other → Report Result}
    (hstep : ∀ item other, Related item other →
      (∃ result, (step item).outcome = .ok result ∧ (stepOther other).outcome = .ok result) ∨
        ∃ failure otherFailure, Alike item other failure otherFailure ∧
          (step item).outcome = .error failure ∧ (stepOther other).outcome = .error otherFailure)
    {items : List Item} {others : List Other} (hrelated : List.Forall₂ Related items others) :
    (∃ results, (items.mapM step).outcome = .ok results ∧
        (others.mapM stepOther).outcome = .ok results) ∨
      ∃ (number : Nat) (item : Item) (other : Other), items[number]? = some item ∧
        others[number]? = some other ∧ Related item other ∧
        ∃ failure otherFailure, Alike item other failure otherFailure ∧
          (items.mapM step).outcome = .error failure ∧
          (others.mapM stepOther).outcome = .error otherFailure := by
  induction hrelated with
  | nil => exact .inl ⟨[], rfl, rfl⟩
  | @cons item other items others hitem _ ih =>
    rw [List.mapM_cons, List.mapM_cons]
    obtain ⟨result, hresult, hother⟩ | ⟨failure, otherFailure, halike, hfailed, hother⟩ :=
      hstep item other hitem
    · rw [outcome_bind_of_ok hresult, outcome_bind_of_ok hother]
      obtain ⟨results, hresults, hothers⟩ |
        ⟨number, last, lastOther, hlast, hlastOther, hlastItem, failure, otherFailure, halike,
          hfailed, hothers⟩ := ih
      · refine .inl ⟨result :: results, ?_, ?_⟩
        · rw [outcome_bind_of_ok hresults, outcome_pure]
        · rw [outcome_bind_of_ok hothers, outcome_pure]
      · exact .inr ⟨number + 1, last, lastOther, hlast, hlastOther, hlastItem, failure,
          otherFailure, halike, outcome_bind_of_error hfailed _, outcome_bind_of_error hothers _⟩
    · exact .inr ⟨0, item, other, rfl, rfl, hitem, failure, otherFailure, halike,
        outcome_bind_of_error hfailed _, outcome_bind_of_error hother _⟩

namespace Grammar

open SchemaTemplate.Grammar.Parser

/-! ### Words in another case -/

/-- Whether a constant may stand behind a token. -/
def introducesConstant (token : Token) : Bool :=
  token = .symbol .equals || token = .symbol .colon

/-- Whether two lists of tokens are the same but for the case of ASCII letters in words without
quotes. Words are the same behind a token that may introduce a constant, as the first is if the list
is guarded, and in front of a colon. -/
inductive Recased : (guarded : Bool) → List Token → List Token → Prop
  | nil (guarded : Bool) : Recased guarded [] []
  | same (guarded : Bool) (token : Token) {rest more : List Token}
    (hrest : Recased (introducesConstant token) rest more) :
    Recased guarded (token :: rest) (token :: more)
  | word {first second : String} (hletters : sameLetters first second = true)
    {rest more : List Token} (hplain : rest.head? ≠ some (.symbol .colon))
    (hrest : Recased false rest more) :
    Recased false (.word first :: rest) (.word second :: more)

namespace Recased

variable {guarded : Bool} {first second : List Token}

theorem unguarded (hrecased : Recased guarded first second) : Recased false first second := by
  cases hrecased with
  | nil => exact .nil false
  | same _ token hrest => exact .same false token hrest
  | word hletters hplain hrest => exact .word hletters hplain hrest

theorem length_eq (hrecased : Recased guarded first second) : first.length = second.length := by
  induction hrecased with
  | nil => rfl
  | same _ _ _ ih | word _ _ _ ih => rw [List.length_cons, List.length_cons, ih]

/-- Both lists begin with a symbol or neither does. -/
theorem head?_symbol_iff (hrecased : Recased guarded first second) (symbol : Symbol) :
    first.head? = some (.symbol symbol) ↔ second.head? = some (.symbol symbol) := by
  cases hrecased with
  | nil | same => rfl
  | word => simp

end Recased

theorem caseBlind_recased : CaseBlind (Recased false) where
  sameHead hrecased := by
    cases hrecased with
    | nil => exact .nil
    | same _ token hrest => exact .same token hrest.unguarded
    | word hletters _ hrest => exact .word hletters hrest
  angleLeft hrecased := by
    cases hrecased with
    | same _ _ hrest => exact .same false _ hrest

/-! ### Constants -/

theorem expect_of_head?_ne {symbol : Symbol} {tokens : List Token}
    (hother : tokens.head? ≠ some (.symbol symbol)) :
    expect symbol tokens = .error (.unexpected (.symbol symbol) tokens) := by
  have haccept : accept symbol tokens = .ok (false, tokens) := by
    unfold accept
    split
    next found rest =>
      rw [if_neg fun hsame ↦ hother (by rw [hsame]; rfl)]
    next => rfl
  rw [expect, run_bind haccept]
  rfl

/-- Whether a parser comes to the same end on lists that differ in case, where they begin with what
may be a constant. -/
def RespectsConstants {Value : Type} (parser : Parser Value) : Prop :=
  ∀ first second, Recased true first second → SameEnd (Recased false) (parser first) (parser second)

section

variable {Value Result : Type} {parser : Parser Value}

theorem RespectsConstants.of_respects (hparser : Respects (Recased false) parser) :
    RespectsConstants parser :=
  fun first second hrecased ↦ hparser.sameEnd first second hrecased.unguarded

theorem RespectsConstants.bind (hparser : RespectsConstants parser) {next : Value → Parser Result}
    (hnext : ∀ value, Respects (Recased false) (next value)) :
    RespectsConstants (parser >>= next) :=
  fun first second hrecased ↦
    (hparser first second hrecased).bind fun value ↦ (hnext value).sameEnd

theorem RespectsConstants.map (hparser : RespectsConstants parser) (change : Value → Result) :
    RespectsConstants (change <$> parser) := by
  rw [map_eq_pure_bind]
  exact hparser.bind fun value ↦ .pure (change value)

/-- Assumes: a parser that comes to the same end where a constant may stand. So do an equals sign or
a colon and it. -/
theorem recased_expect_bind {symbol : Symbol}
    (hintroduces : introducesConstant (.symbol symbol) = true)
    (hparser : RespectsConstants parser) :
    Respects (Recased false) (expect symbol >>= fun _ ↦ parser) where
  sameEnd first second hrecased := by
    by_cases hnext : first.head? = some (.symbol symbol)
    · cases hrecased with
      | nil => cases hnext
      | word => cases hnext
      | same _ token hrest =>
        obtain rfl : token = .symbol symbol := by simpa using hnext
        rw [hintroduces] at hrest
        rw [run_bind (expect_self symbol _), run_bind (expect_self symbol _)]
        exact hparser _ _ hrest
    · have hnextToo := mt (hrecased.head?_symbol_iff symbol).2 hnext
      show SameEnd _ (expect symbol first >>= _) (expect symbol second >>= _)
      rw [expect_of_head?_ne hnext, expect_of_head?_ne hnextToo]
      exact .unexpected _ hrecased

end

/-- Where a constant may stand it is read with its case, which is the same in both lists. -/
theorem recased_constant : RespectsConstants constant := by
  intro first second hrecased
  have hleft := hrecased.unguarded
  cases hrecased with
  | nil => exact .unexpected _ hleft
  | same _ token hrest =>
    have hunguarded := hrest.unguarded
    cases token with
    | string | number | word => exact .read _ hunguarded
    | blank | quotedWord | other => exact .unexpected _ hleft
    | symbol found =>
      by_cases hminus : found = .minus
      · subst hminus
        cases hrest with
        | nil => exact .unexpected _ (.nil false)
        | word => exact .unexpected _ hunguarded
        | same _ next hbehind =>
          cases next with
          | number => exact .read _ hbehind.unguarded
          | blank | word | quotedWord | string | symbol | other => exact .unexpected _ hunguarded
      · have hreject : ∀ tokens, constant (.symbol found :: tokens) =
            .error (.unexpected .constant (.symbol found :: tokens)) := by
          intro tokens
          cases found with
          | minus => exact absurd rfl hminus
          | _ => rfl
        rw [hreject, hreject]
        exact .unexpected _ hleft

/-- Assumes: values that are read alike where a constant may stand. Entries of maps are read alike.
A key in another case is no constant: no colon follows it. -/
theorem recased_mapEntry {Value : Type} {value : Parser Value} (hvalue : RespectsConstants value)
    (map : OrderedMap String Value) : Respects (Recased false) (mapEntry value map) where
  sameEnd first second hrecased := by
    have hbehind : ∀ key, Respects (Recased false)
        (expect .colon >>= fun _ ↦ value >>= fun value ↦ lift (map.define key value)) :=
      fun key ↦ recased_expect_bind rfl (hvalue.bind fun _ ↦ .lift _)
    show SameEnd _ (constant first >>= _) (constant second >>= _)
    cases hrecased with
    | nil => exact (recased_constant [] [] (.nil true)).bind fun key ↦ (hbehind key).sameEnd
    | same _ token hrest =>
      exact (recased_constant _ _ (.same true token hrest)).bind fun key ↦ (hbehind key).sameEnd
    | @word key other hletters rest more hplain hrest =>
      have hplainToo := mt (hrest.head?_symbol_iff .colon).2 hplain
      show SameEnd _ (expect .colon rest >>= _) (expect .colon more >>= _)
      rw [expect_of_head?_ne hplain, expect_of_head?_ne hplainToo]
      exact .unexpected _ hrest

theorem recased_options : Respects (Recased false) options :=
  caseBlind_recased.respected.mapOf (recased_mapEntry recased_constant)

theorem recased_propertyValue : RespectsConstants propertyValue := by
  intro first second hrecased
  have hchoice : ∀ tokens, propertyValue tokens =
      if tokens.head? = some (.symbol .leftBrace) then (PropertyValue.options <$> options) tokens
      else (PropertyValue.text <$> constant) tokens := by
    intro tokens
    rw [propertyValue, run_bind (rfl : sees .leftBrace tokens = _)]
    simp only [decide_eq_true_eq]
    split <;> rfl
  rw [hchoice, hchoice]
  simp only [hrecased.head?_symbol_iff]
  split
  · exact (RespectsConstants.of_respects (recased_options.map _)) first second hrecased
  · exact (recased_constant.map _) first second hrecased

theorem recased_property : Respects (Recased false) property := by
  refine caseBlind_recased.identifier.bind fun name ↦ recased_expect_bind rfl ?_
  split
  · exact .of_respects ((caseBlind_recased.respected.mapOf
      (recased_mapEntry (.of_respects recased_options))).bind fun _ ↦ .pure _)
  · exact recased_propertyValue.bind fun _ ↦ .pure _

/-- Statements do not depend on the case of words that cannot be constants. -/
theorem recased_statement : Respects (Recased false) statement :=
  caseBlind_recased.respected.statement recased_property

/-- Lists that differ in case write the same statement, are rejected at the same place for want of
the same, or contradict themselves in the same way. -/
theorem Recased.statementOf_cases {first second : List Token}
    (hrecased : Recased false first second) :
    (∃ statement, statementOf first = .ok statement ∧ statementOf second = .ok statement) ∨
      (∃ wanted left behind, Recased false left behind ∧
        statementOf first = .error (.unexpected wanted left) ∧
        statementOf second = .error (.unexpected wanted behind)) ∨
      ∃ fault, statementOf first = .error (.faulty fault) ∧
        statementOf second = .error (.faulty fault) := by
  have hsame := recased_statement.sameEnd first second hrecased
  have hrun : ∀ tokens, statementOf tokens = (statement tokens).map Prod.fst := fun _ ↦ rfl
  rw [hrun, hrun]
  generalize statement first = read at hsame
  generalize statement second = readToo at hsame
  cases hsame with
  | read value halike => exact .inl ⟨value, rfl, rfl⟩
  | unexpected wanted halike => exact .inr (.inl ⟨wanted, _, _, halike, rfl, rfl⟩)
  | faulty fault => exact .inr (.inr ⟨fault, rfl, rfl⟩)

/-! ### Semicolons -/

/-- Whether a token ends a statement. -/
def isSemicolon (token : Token) : Bool := token = .symbol .semicolon

/-- Assumes: lists that differ in case. So do the pieces between their semicolons, one by one, and
the first of them is guarded as they are. -/
theorem Recased.splitOnP {guarded : Bool} {first second : List Token}
    (hrecased : Recased guarded first second) :
    ∃ head rest other more, first.splitOnP isSemicolon = head :: rest ∧
      second.splitOnP isSemicolon = other :: more ∧ Recased guarded head other ∧
      (∀ symbol, head.head? = some (.symbol symbol) → first.head? = some (.symbol symbol)) ∧
      List.Forall₂ (Recased false) rest more := by
  induction hrecased with
  | nil guarded => exact ⟨[], [], [], [], rfl, rfl, .nil guarded, fun _ ↦ id, .nil⟩
  | same guarded token hrest ih =>
    obtain ⟨head, rest, other, more, hfirst, hsecond, hhead, -, hpieces⟩ := ih
    rw [List.splitOnP_cons_eq_if_modifyHead, List.splitOnP_cons_eq_if_modifyHead, hfirst, hsecond]
    cases hends : isSemicolon token with
    | true =>
      exact ⟨[], _, [], _, rfl, rfl, .nil guarded, nofun, .cons hhead.unguarded hpieces⟩
    | false =>
      exact ⟨token :: head, rest, token :: other, more, rfl, rfl, .same guarded token hhead,
        fun _ ↦ id, hpieces⟩
  | @word word recased hletters rest more hplain hrest ih =>
    obtain ⟨head, pieces, other, others, hfirst, hsecond, hhead, hbegin, hpieces⟩ := ih
    rw [List.splitOnP_cons_eq_if_modifyHead, List.splitOnP_cons_eq_if_modifyHead, hfirst, hsecond]
    exact ⟨.word word :: head, pieces, .word recased :: other, others, rfl, rfl,
      .word hletters (mt (hbegin .colon) hplain) hhead, fun _ ↦ id, hpieces⟩

end Grammar

namespace Script

open Grammar

/-! ### Statements -/

/-- The tokens of lexemes that are not blank. -/
def tokensIn (lexemes : List Lexeme) : List Token := (significant lexemes).map Lexeme.token

@[simp] theorem length_tokensIn (lexemes : List Lexeme) :
    (tokensIn lexemes).length = (significant lexemes).length := List.length_map _

theorem tokensIn_cons_of_blank {lexeme : Lexeme} (hblank : lexeme.token.isBlank = true)
    (rest : List Lexeme) : tokensIn (lexeme :: rest) = tokensIn rest := by
  rw [tokensIn, significant, List.filter_cons_of_neg (by simp [hblank])]
  rfl

theorem tokensIn_cons_of_not_blank {lexeme : Lexeme} (hblank : lexeme.token.isBlank = false)
    (rest : List Lexeme) : tokensIn (lexeme :: rest) = lexeme.token :: tokensIn rest := by
  rw [tokensIn, significant, List.filter_cons_of_pos (by simp [hblank])]
  rfl

/-- Blanks may be dropped before the lexemes are cut at the semicolons or behind it. -/
theorem map_tokensIn_splitStatements (lexemes : List Lexeme) :
    (splitStatements lexemes).map tokensIn = (tokensIn lexemes).splitOnP isSemicolon := by
  induction lexemes with
  | nil => rfl
  | cons lexeme rest ih =>
    have hsplit : splitStatements (lexeme :: rest) =
        if isSemicolon lexeme.token then [] :: splitStatements rest
        else (splitStatements rest).modifyHead (List.cons lexeme) :=
      List.splitOnP_cons_eq_if_modifyHead lexeme rest
    cases hblank : lexeme.token.isBlank with
    | true =>
      have hother : isSemicolon lexeme.token = false := by
        cases htoken : lexeme.token with
        | blank => rfl
        | word | quotedWord | string | number | symbol | other =>
          rw [htoken] at hblank
          cases hblank
      rw [tokensIn_cons_of_blank hblank, ← ih, hsplit, hother, if_neg Bool.false_ne_true]
      cases splitStatements rest with
      | nil => rfl
      | cons head pieces =>
        rw [List.modifyHead_cons, List.map_cons, tokensIn_cons_of_blank hblank, List.map_cons]
    | false =>
      rw [tokensIn_cons_of_not_blank hblank, List.splitOnP_cons_eq_if_modifyHead, ← ih, hsplit]
      split
      · rfl
      · cases splitStatements rest with
        | nil => rfl
        | cons head pieces =>
          rw [List.modifyHead_cons, List.map_cons, tokensIn_cons_of_not_blank hblank, List.map_cons,
            List.modifyHead_cons]

/-- Whether two stretches of lexemes differ in blanks and in the case of words that cannot be
constants. -/
def Relaid (stretch other : List Lexeme) : Prop := Recased false (tokensIn stretch) (tokensIn other)

/-- Scripts that differ so have as many statements, which differ so one by one. -/
theorem Relaid.statementLexemes {lexemes others : List Lexeme} (hrelaid : Relaid lexemes others) :
    List.Forall₂ Relaid (statementLexemes lexemes) (statementLexemes others) := by
  obtain ⟨head, rest, other, more, hfirst, hsecond, hhead, -, hpieces⟩ := hrelaid.splitOnP
  rw [← map_tokensIn_splitStatements] at hfirst hsecond
  have hsplit : List.Forall₂ Relaid (splitStatements lexemes) (splitStatements others) := by
    have hall : List.Forall₂ (Recased false) (head :: rest) (other :: more) := .cons hhead hpieces
    rw [← hfirst, ← hsecond, List.forall₂_map_left_iff, List.forall₂_map_right_iff] at hall
    exact hall
  refine List.rel_filter (fun stretch other hpair ↦ ?_) hsplit
  have hlength := hpair.length_eq
  rw [length_tokensIn, length_tokensIn] at hlength
  simp only [Bool.not_eq_true', ← Bool.not_eq_true, List.isEmpty_iff, ← List.length_eq_zero_iff,
    hlength]

/-- The place of a token of a statement, by its number among those that are not blank, or the place
behind the statement if there are no more of these. -/
def placeOf (stretch : List Lexeme) (number : Nat) : Position :=
  match (significant stretch)[number]? with
  | some lexeme => lexeme.start
  | none => stop stretch

theorem placeBefore_eq_placeOf (stretch : List Lexeme) (left : Nat) :
    placeBefore stretch left = placeOf stretch ((tokensIn stretch).length - left) := by
  show (match ((significant stretch).drop ((significant stretch).length - left)).head? with
    | some lexeme => lexeme.start
    | none => stop stretch) = _
  rw [List.head?_drop, ← length_tokensIn]
  rfl

/-- Whether two statements fail alike: their definitions have the same fault, or the same is wanted
in place of the token with the same number. -/
inductive FailAlike (stretch other : List Lexeme) : Failure → Failure → Prop
  | schema (detail : String) : FailAlike stretch other (.schema detail) (.schema detail)
  | malformed (wanted : Expectation) (number : Nat) (left behind : List Token)
    (hleft : Recased false left behind) :
    FailAlike stretch other (.malformed (placeOf stretch number) (wanted.complaint left))
      (.malformed (placeOf other number) (wanted.complaint behind))

theorem outcome_readStatement_of_error {stretch : List Lexeme} {rejection : Rejection}
    (herror : statementOf (tokensIn stretch) = .error rejection) :
    (readStatement stretch).outcome = .error (failureOf stretch rejection) := by
  have hdraft : draft stretch = .error (failureOf stretch rejection) := by
    rw [draft, ← tokensIn, herror]
    rfl
  exact Report.outcome_bind_of_error hdraft _

theorem outcome_readStatement_of_fault {stretch : List Lexeme} {statement : Statement}
    {fault : SchemaFault} (hwritten : statementOf (tokensIn stretch) = .ok statement)
    (hfault : statement.check = .error fault) :
    (readStatement stretch).outcome = .error (.ofFault fault) := by
  have hdraft : draft stretch = .ok statement := by
    rw [draft, ← tokensIn, hwritten]
    rfl
  rw [readStatement, Report.outcome_bind_of_ok hdraft,
    Report.outcome_bind_of_ok (outcome_logDraft statement), hfault]
  rfl

/-- A statement in another case and layout is the same statement or fails alike. -/
theorem Relaid.readStatement_cases {stretch other : List Lexeme} (hrelaid : Relaid stretch other) :
    (∃ statement, (readStatement stretch).outcome = .ok statement ∧
        (readStatement other).outcome = .ok statement) ∨
      ∃ failure otherFailure, FailAlike stretch other failure otherFailure ∧
        (readStatement stretch).outcome = .error failure ∧
        (readStatement other).outcome = .error otherFailure := by
  obtain ⟨statement, hfirst, hsecond⟩ | ⟨wanted, left, behind, hleft, hfirst, hsecond⟩ |
    ⟨fault, hfirst, hsecond⟩ := Recased.statementOf_cases hrelaid
  · cases hcheck : statement.check with
    | ok =>
      exact .inl ⟨statement, outcome_readStatement_eq_ok_iff.2 ⟨hfirst, hcheck⟩,
        outcome_readStatement_eq_ok_iff.2 ⟨hsecond, hcheck⟩⟩
    | error fault =>
      exact .inr ⟨_, _, .schema _, outcome_readStatement_of_fault hfirst hcheck,
        outcome_readStatement_of_fault hsecond hcheck⟩
  · refine .inr ⟨_, _, ?_, outcome_readStatement_of_error hfirst,
      outcome_readStatement_of_error hsecond⟩
    rw [failureOf, failureOf, placeBefore_eq_placeOf, placeBefore_eq_placeOf, hleft.length_eq,
      Recased.length_eq hrelaid]
    exact .malformed wanted _ left behind hleft
  · exact .inr ⟨_, _, .schema _, outcome_readStatement_of_error hfirst,
      outcome_readStatement_of_error hsecond⟩

/-- Case and layout do not matter outside of constants and quotes. Take two lists of lexemes that
have the same tokens one by one, semicolons included, but for blanks and for the case of ASCII
letters in words that are not in quotes, do not follow an equals sign or a colon and do not precede
a colon. Either both are read as the same statements, or both fail at the statement with the same
number and alike: with the same fault of the definition, or with a complaint about the token with
the same number in the statement, or about its end. -/
theorem case_and_layout_do_not_matter {lexemes others : List Lexeme}
    (hrecased : Recased false (tokensIn lexemes) (tokensIn others)) :
    (∃ statements, (readLexemes lexemes).outcome = .ok statements ∧
        (readLexemes others).outcome = .ok statements) ∨
      ∃ (number : Nat) (stretch other : List Lexeme) (failure otherFailure : Failure),
        (statementLexemes lexemes)[number]? = some stretch ∧
        (statementLexemes others)[number]? = some other ∧
        Recased false (tokensIn stretch) (tokensIn other) ∧
        FailAlike stretch other failure otherFailure ∧
        (readLexemes lexemes).outcome = .error failure ∧
        (readLexemes others).outcome = .error otherFailure := by
  obtain hread | ⟨number, stretch, other, hstretch, hother, hrelaid, failure, otherFailure,
      hfailed⟩ :=
    Report.mapM_cases (fun stretch other (hrelaid : Relaid stretch other) ↦
      hrelaid.readStatement_cases) (Relaid.statementLexemes hrecased)
  · exact .inl hread
  · exact .inr ⟨number, stretch, other, failure, otherFailure, hstretch, hother, hrelaid, hfailed⟩

/-- A keyspace with a bare word for a constant. -/
def cramped : List Lexeme :=
  [.word "create", .word "keyspace", .word "Shop", .word "with", .word "replication",
    .symbol .equals, .symbol .leftBrace, .string "class", .symbol .colon, .word "Simple",
    .symbol .rightBrace].map fun token ↦ ⟨token, [], Position.start⟩

/-- The same keyspace in capitals, with the constant as it is and with blanks everywhere. -/
def stretched : List Lexeme :=
  spaced [.word "CREATE", .word "Keyspace", .word "SHOP", .word "WITH", .word "Replication",
    .symbol .equals, .symbol .leftBrace, .string "class", .symbol .colon, .word "Simple",
    .symbol .rightBrace]

theorem recased_cramped : Recased false (tokensIn cramped) (tokensIn stretched) :=
  .word rfl (by decide) <| .word rfl (by decide) <| .word rfl (by decide) <|
    .word rfl (by decide) <| .word rfl (by decide) <| .same false _ <| .same true _ <|
    .same false _ <| .same false _ <| .same true _ <| .same false _ <| .nil false

theorem case_and_layout_do_not_matter_cramped :
    Recased false (tokensIn cramped) (tokensIn stretched) ∧
      ∃ statements, (readLexemes cramped).outcome = .ok statements ∧
        (readLexemes stretched).outcome = .ok statements := by
  refine ⟨recased_cramped, ?_⟩
  obtain hread | ⟨_, _, _, failure, _, _, _, _, _, hfailed, _⟩ :=
    case_and_layout_do_not_matter recased_cramped
  · exact hread
  · have hok : ∃ statements, (readLexemes cramped).outcome = .ok statements := ⟨_, rfl⟩
    rw [hfailed] at hok
    obtain ⟨_, hok⟩ := hok
    cases hok

end Script

end SchemaTemplate
