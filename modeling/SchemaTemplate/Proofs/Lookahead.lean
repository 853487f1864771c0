import SchemaTemplate.Proofs.AlikeTokens
import SchemaTemplate.Proofs.ClauseCounts

/-!
How far parsers look ahead. A parser that has come to an end of its own, such as a closing bracket,
reads the same whatever stands behind it (`Grammar.Parser.Settled`). Others have to look at the next
token to know that they are done, so they read the same only if that token is there
(`Grammar.Parser.SettledBefore`). The bounds on lists and on nested types grow with the number of
tokens, so it matters as well that no parser goes on behind its end because it may.
-/

set_option autoImplicit false
set_option relaxedAutoImplicit false

namespace SchemaTemplate.Grammar

namespace Parser

variable {Value Result State : Type} {Between Ends : List Token → Prop} {tokens rest : List Token}

/-- Whether what a parser reads does not depend on what stands further behind, provided that the
tokens it leaves meet a condition. -/
def SettledBefore (Ends : List Token → Prop) (parser : Parser Value) : Prop :=
  ∀ ⦃tokens value rest⦄, parser tokens = .ok (value, rest) → Ends rest → ∀ more,
    parser (tokens ++ more) = .ok (value, rest ++ more)

/-- Whether what a parser reads does not depend on what stands behind it. -/
def Settled (parser : Parser Value) : Prop := SettledBefore (fun _ ↦ True) parser

/-- Whether tokens begin with one of several symbols. -/
def Stops (symbols : List Symbol) (tokens : List Token) : Prop :=
  ∃ symbol ∈ symbols, ∃ behind, tokens = .symbol symbol :: behind

/-! ### Steps -/

theorem Settled.before {parser : Parser Value} (hsettled : Settled parser) :
    SettledBefore Ends parser :=
  fun _ _ _ hok _ ↦ hsettled hok trivial

theorem settled_pure (value : Value) : Settled (pure value) := by
  intro tokens result rest hok _ more
  obtain ⟨rfl, rfl⟩ := run_pure_eq_ok_iff.1 hok
  rfl

theorem Settled.map {parser : Parser Value} (hparser : Settled parser) (change : Value → Result) :
    Settled (change <$> parser) := by
  intro tokens result rest hok _ more
  obtain ⟨value, hread, rfl⟩ := run_map_eq_ok_iff.1 hok
  exact run_map (hparser hread trivial more) change

theorem settled_reject (wanted : Expectation) : Settled (reject wanted : Parser Value) := nofun

theorem settled_lift (outcome : Except SchemaFault Value) : Settled (lift outcome) := by
  intro tokens result rest hok _ more
  obtain ⟨hvalue, rfl⟩ := run_lift_eq_ok_iff.1 hok
  exact run_lift hvalue _

/-- Assumes: a parser that is settled before the tokens from which the next one goes on. Both
together are settled before the tokens before which the next one is. -/
theorem SettledBefore.bind {parser : Parser Value} {next : Value → Parser Result}
    (hparser : SettledBefore Between parser) (hnext : ∀ value, SettledBefore Ends (next value))
    (hbetween : ∀ {value left result rest}, next value left = .ok (result, rest) → Ends rest →
      Between left) : SettledBefore Ends (parser >>= next) := by
  intro tokens result rest hok hends more
  obtain ⟨value, left, hread, hgoes⟩ := run_bind_eq_ok_iff.1 hok
  rw [run_bind (hparser hread (hbetween hgoes hends) more)]
  exact hnext value hgoes hends more

theorem Settled.bind {parser : Parser Value} {next : Value → Parser Result}
    (hparser : Settled parser) (hnext : ∀ value, SettledBefore Ends (next value)) :
    SettledBefore Ends (parser >>= next) :=
  SettledBefore.bind hparser hnext fun _ _ ↦ trivial

/-! ### Choices -/

/-- Words that tokens begin with are no more than these. -/
theorem length_le_of_beginsWith {keywords : List Keyword}
    (hbegins : beginsWith keywords tokens = true) : keywords.length ≤ tokens.length := by
  induction keywords generalizing tokens with
  | nil => exact Nat.zero_le _
  | cons keyword keywords ih =>
    obtain ⟨token, behind, rfl, -, hbehind⟩ := beginsWith_cons_iff.1 hbegins
    exact Nat.succ_le_succ (ih hbehind)

/-- Assumes: as many tokens as words. Whether they begin with the words does not depend on more. -/
theorem beginsWith_append {keywords : List Keyword} (hlength : keywords.length ≤ tokens.length)
    (more : List Token) : beginsWith keywords (tokens ++ more) = beginsWith keywords tokens := by
  induction keywords generalizing tokens with
  | nil => rfl
  | cons keyword keywords ih =>
    cases tokens with
    | nil => cases hlength
    | cons token behind =>
      rw [List.cons_append, beginsWith, beginsWith, ih (Nat.le_of_succ_le_succ hlength)]

/-- Words that were used up are used up as well if there is more behind. -/
theorem acceptWords_append {keywords : List Keyword}
    (hwords : acceptWords keywords tokens = .ok (true, rest)) (more : List Token) :
    acceptWords keywords (tokens ++ more) = .ok (true, rest ++ more) := by
  obtain ⟨hbegins, rfl⟩ := acceptWords_eq_true_iff.1 hwords
  have hlength := length_le_of_beginsWith hbegins
  exact acceptWords_eq_true_iff.2 ⟨(beginsWith_append hlength more).trans hbegins,
    List.drop_append_of_le_length hlength⟩

/-- Assumes: two branches, and a condition that is met again with more behind the tokens, and is not
met again if it was not and the second branch goes on. The choice is settled as the branches are. -/
theorem SettledBefore.choice {condition : Parser Bool} {first second : Parser Value}
    (hfirst : SettledBefore Ends first) (hsecond : SettledBefore Ends second)
    (hmet : ∀ {tokens rest}, condition tokens = .ok (true, rest) → ∀ more,
      condition (tokens ++ more) = .ok (true, rest ++ more))
    (hunmet : ∀ {tokens left value rest}, condition tokens = .ok (false, left) →
      second left = .ok (value, rest) → Ends rest → ∀ more,
        condition (tokens ++ more) = .ok (false, left ++ more)) :
    SettledBefore Ends (condition >>= fun met ↦ if met = true then first else second) := by
  intro tokens value rest hok hends more
  obtain ⟨met, left, hcondition, hok⟩ := run_bind_eq_ok_iff.1 hok
  cases met with
  | true =>
    rw [run_bind (hmet hcondition more)]
    exact hfirst hok hends more
  | false =>
    rw [run_bind (hunmet hcondition hok hends more)]
    exact hsecond hok hends more

/-- Assumes: two branches of which the second does not read on at the end of the tokens. The choice
between them by the next symbol is settled as they are. -/
theorem SettledBefore.accept {symbol : Symbol} {first second : Parser Value}
    (hfirst : SettledBefore Ends first) (hsecond : SettledBefore Ends second)
    (hempty : ∀ {value rest}, second [] = .ok (value, rest) → ¬ Ends rest) :
    SettledBefore Ends
      (Parser.accept symbol >>= fun met ↦ if met = true then first else second) := by
  refine hfirst.choice hsecond ?_ ?_
  · intro tokens rest hmet more
    obtain rfl := accept_eq_true_iff.1 hmet
    exact accept_self symbol _
  · intro tokens left value rest hunmet hok hends more
    obtain ⟨hhead, rfl⟩ := accept_eq_false_iff.1 hunmet
    cases tokens with
    | nil => exact absurd hends (hempty hok)
    | cons token behind => exact accept_eq_false_iff.2 ⟨hhead, rfl⟩

/-- Assumes: two branches of which the second does not read on at the end of the tokens. The choice
between them by a look at the next symbol is settled as they are. -/
theorem SettledBefore.sees {symbol : Symbol} {first second : Parser Value}
    (hfirst : SettledBefore Ends first) (hsecond : SettledBefore Ends second)
    (hempty : ∀ {value rest}, second [] = .ok (value, rest) → ¬ Ends rest) :
    SettledBefore Ends
      (Parser.sees symbol >>= fun met ↦ if met = true then first else second) := by
  refine hfirst.choice hsecond ?_ ?_
  · intro tokens rest hmet more
    obtain ⟨hseen, rfl⟩ := sees_eq_ok_iff.1 hmet
    obtain ⟨behind, rfl⟩ := List.head?_eq_some_iff.1 (of_decide_eq_true hseen)
    exact sees_eq_ok_iff.2 ⟨hseen, rfl⟩
  · intro tokens left value rest hunmet hok hends more
    obtain ⟨hseen, rfl⟩ := sees_eq_ok_iff.1 hunmet
    cases tokens with
    | nil => exact absurd hends (hempty hok)
    | cons token behind => exact sees_eq_ok_iff.2 ⟨hseen, rfl⟩

/-- Assumes: two branches of which the second reads tokens that do not begin with certain words even
if there are more of them. The choice between them by these words is settled as they are. -/
theorem SettledBefore.acceptWords {keywords : List Keyword} {first second : Parser Value}
    (hfirst : SettledBefore Ends first) (hsecond : SettledBefore Ends second)
    (hother : ∀ {left value rest}, second left = .ok (value, rest) → Ends rest →
      beginsWith keywords left = false → ∀ more, beginsWith keywords (left ++ more) = false) :
    SettledBefore Ends
      (Parser.acceptWords keywords >>= fun met ↦ if met = true then first else second) := by
  refine hfirst.choice hsecond acceptWords_append ?_
  intro tokens left value rest hunmet hok hends more
  obtain ⟨hbegins, rfl⟩ := acceptWords_eq_false_iff.1 hunmet
  exact acceptWords_eq_false_iff.2 ⟨hother hok hends hbegins more, rfl⟩

/-- Assumes: two branches of which the second reads at least one token. The choice between them by
the next word is settled as they are. -/
theorem SettledBefore.acceptWord {keyword : Keyword} {first second : Parser Value}
    (hfirst : SettledBefore Ends first) (hsecond : SettledBefore Ends second)
    (hempty : ∀ {value rest}, second [] = .ok (value, rest) → ¬ Ends rest) :
    SettledBefore Ends
      (Parser.acceptWord keyword >>= fun met ↦ if met = true then first else second) := by
  refine hfirst.acceptWords hsecond fun {left _ _} hok hends hbegins more ↦ ?_
  cases left with
  | nil => exact absurd hends (hempty hok)
  | cons token behind =>
    have hlength : [keyword].length ≤ (token :: behind).length := by simp
    rwa [beginsWith_append hlength]

/-! ### Symbols, words and names -/

theorem settled_expect (symbol : Symbol) : Settled (expect symbol) := by
  intro tokens value rest hok _ more
  obtain rfl := expect_eq_ok_iff.1 hok
  exact expect_self symbol _

theorem settled_expectWord (keyword : Keyword) : Settled (expectWord keyword) := by
  intro tokens value rest hok _ more
  obtain ⟨token, rfl, hword⟩ := expectWord_eq_ok_iff.1 hok
  exact expectWord_eq_ok_iff.2 ⟨token, rfl, hword⟩

theorem settled_expectClosingAngle : Settled expectClosingAngle := by
  intro tokens value rest hok _ more
  obtain rfl | ⟨behind, rfl, rfl⟩ := expectClosingAngle_eq_ok_iff.1 hok <;> rfl

theorem settled_identifier : Settled identifier := by
  intro tokens name rest hok _ more
  obtain ⟨token, rfl, hname⟩ := identifier_eq_ok_iff.1 hok
  exact identifier_eq_ok_iff.2 ⟨token, rfl, hname⟩

/-- A period behind a name would be part of it. -/
theorem settledBefore_qualifiedName : SettledBefore (· ≠ []) qualifiedName := by
  refine settled_identifier.bind fun first ↦
    (settled_identifier.bind fun second ↦ (settled_pure _).before).accept
      (settled_pure _).before ?_
  rintro _ _ ⟨⟩ hnonempty
  exact hnonempty rfl

/-- Behind a minus sign there is a number, or no constant. -/
theorem settled_constant : Settled constant := by
  intro tokens text rest hok _ more
  refine constant_eq_ok_iff.2 ?_
  obtain ⟨digits, long, rfl, htext⟩ | ⟨token, rfl, htext⟩ := constant_eq_ok_iff.1 hok
  · exact .inl ⟨digits, long, rfl, htext⟩
  · exact .inr ⟨token, rfl, htext⟩

/-! ### Lists -/

theorem weight_le_weight_append (tokens more : List Token) :
    weight tokens ≤ weight (tokens ++ more) := by
  simp only [weight, List.length_append, List.count_append]
  omega

/-- Assumes: items that are read in front of a separator or of what ends the list, and are read
again with more behind them. So is the list, with as many separators or more allowed for. -/
theorem listAtMost_append {separator : Parser Bool} {item again : State → Parser State}
    (hitem : ∀ ⦃state tokens next rest⦄, item state tokens = .ok (next, rest) → Ends rest →
      ∀ more, again state (tokens ++ more) = .ok (next, rest ++ more))
    (haccepted : ∀ ⦃left behind⦄, separator left = .ok (true, behind) →
      Ends left ∧ ∀ more, separator (left ++ more) = .ok (true, behind ++ more))
    (hkeeps : ∀ ⦃left behind⦄, separator left = .ok (false, behind) → left = behind)
    {fewer most : Nat} (hle : fewer ≤ most) {state next : State}
    (hok : listAtMost separator item fewer state tokens = .ok (next, rest)) (hends : Ends rest)
    {more : List Token} (hlast : separator (rest ++ more) = .ok (false, rest ++ more)) :
    listAtMost separator again most state (tokens ++ more) = .ok (next, rest ++ more) := by
  have hstops : ∀ {state tokens most}, item state tokens = .ok (next, rest) →
      listAtMost separator again most state (tokens ++ more) = .ok (next, rest ++ more) := by
    intro state tokens most hok
    have hagain := hitem hok hends more
    cases most with
    | zero => exact hagain
    | succ most =>
      rw [listAtMost, run_bind hagain, run_bind hlast]
      rfl
  induction fewer generalizing most state tokens with
  | zero => exact hstops hok
  | succ fewer ih =>
    obtain ⟨most, rfl⟩ : ∃ less, most = less + 1 := ⟨most - 1, by omega⟩
    simp only [listAtMost, run_bind_eq_ok_iff, exists_choice_iff, run_pure_eq_ok_iff] at hok
    obtain ⟨between, left, hfirst, ⟨behind, htrue, hmore⟩ | ⟨behind, hfalse, rfl, rfl⟩⟩ := hok
    · obtain ⟨hleft, hseparator⟩ := haccepted htrue
      rw [listAtMost, run_bind (hitem hfirst hleft more), run_bind (hseparator more)]
      exact ih (Nat.le_of_succ_le_succ hle) hmore
    · obtain rfl := hkeeps hfalse
      exact hstops hfirst

/-- Assumes: items that are read in front of a comma or a bracket, and are read again with more
behind them. So is the list with commas between the items, in front of a bracket. -/
theorem commaSeparated_append {brackets : List Symbol} (hcomma : .comma ∉ brackets)
    {item again : State → Parser State}
    (hitem : ∀ ⦃state tokens next rest⦄, item state tokens = .ok (next, rest) →
      Stops (.comma :: brackets) rest →
        ∀ more, again state (tokens ++ more) = .ok (next, rest ++ more)) {state next : State}
    (hok : commaSeparated item state tokens = .ok (next, rest)) (hstops : Stops brackets rest)
    (more : List Token) :
    commaSeparated again state (tokens ++ more) = .ok (next, rest ++ more) := by
  obtain ⟨bracket, hbracket, behind, rfl⟩ := hstops
  refine listAtMost_append hitem ?_ ?_ (weight_le_weight_append tokens more) hok
    ⟨bracket, List.mem_cons_of_mem _ hbracket, behind, rfl⟩ ?_
  · intro left behind htrue
    obtain rfl := accept_eq_true_iff.1 htrue
    exact ⟨⟨.comma, List.mem_cons_self, behind, rfl⟩, fun more ↦ accept_self .comma _⟩
  · exact fun _ _ hfalse ↦ (accept_eq_false_iff.1 hfalse).2
  · refine accept_of_ne ?_ _
    rintro rfl
    exact hcomma hbracket

theorem SettledBefore.commaSeparated {brackets : List Symbol} {item : State → Parser State}
    (hitem : ∀ state, SettledBefore (Stops (.comma :: brackets)) (item state))
    (hcomma : .comma ∉ brackets) (state : State) :
    SettledBefore (Stops brackets) (commaSeparated item state) :=
  fun _ _ _ hok ↦ commaSeparated_append hcomma (fun _ _ _ _ hok ↦ hitem _ hok) hok

/-- Assumes: items that are settled before a comma or a bracket. The list of them is settled behind
the bracket. -/
theorem settled_enclosed {bracket : Symbol} (hcomma : .comma ≠ bracket)
    {item : State → Parser State}
    (hitem : ∀ state, SettledBefore (Stops [.comma, bracket]) (item state)) (state : State) :
    Settled (do
      let items ← commaSeparated item state
      expect bracket
      return items) := by
  refine (SettledBefore.commaSeparated hitem (by simpa using hcomma) state).bind
    (fun items ↦ (settled_expect bracket).bind fun _ ↦ settled_pure items) ?_
  intro items left result rest hok _
  obtain ⟨_, behind, hbracket, -⟩ := run_bind_eq_ok_iff.1 hok
  exact ⟨bracket, List.mem_singleton_self _, behind, expect_eq_ok_iff.1 hbracket⟩

end Parser

open SchemaTemplate.Grammar.Parser

variable {Value : Type} {tokens rest : List Token}

/-! ### Properties -/

theorem settled_mapEntry {value : Parser Value} (hvalue : Settled value)
    (map : OrderedMap String Value) : Settled (mapEntry value map) :=
  settled_constant.bind fun _ ↦ (settled_expect _).bind fun _ ↦ hvalue.bind fun _ ↦ settled_lift _

theorem settled_mapOf {value : Parser Value} (hvalue : Settled value) : Settled (mapOf value) := by
  refine (settled_expect _).bind fun _ ↦ (settled_pure _).accept
    (settled_enclosed (by decide) (fun map ↦ (settled_mapEntry hvalue map).before) _) ?_
  exact nofun

theorem settled_options : Settled options := settled_mapOf settled_constant

theorem settled_propertyValue : Settled propertyValue :=
  (settled_options.map _).sees (settled_constant.map _) nofun

theorem settled_property : Settled property := by
  refine settled_identifier.bind fun name ↦ (settled_expect _).bind fun _ ↦ ?_
  split
  · exact (settled_mapOf settled_options).bind fun _ ↦ settled_pure _
  · exact settled_propertyValue.bind fun _ ↦ settled_pure _

/-! ### Types -/

/-- Whether tokens can stand behind a type: there are any, and no opening angle comes first. -/
def BehindType (tokens : List Token) : Prop :=
  ∃ token behind, tokens = token :: behind ∧ token ≠ .symbol .less

theorem BehindType.of_stops {symbols : List Symbol} (hless : .less ∉ symbols)
    (hstops : Stops symbols tokens) : BehindType tokens := by
  obtain ⟨symbol, hsymbol, behind, rfl⟩ := hstops
  refine ⟨_, behind, rfl, ?_⟩
  rintro ⟨⟩
  exact hless hsymbol

theorem settledBefore_userType : SettledBefore (· ≠ []) userType := by
  refine settledBefore_qualifiedName.bind (fun name ↦ (settled_pure _).before) ?_
  rintro _ _ _ _ ⟨⟩ hnonempty
  exact hnonempty

theorem settledBefore_plainType : SettledBefore (· ≠ []) plainType := by
  intro tokens type rest hok hnonempty more
  cases tokens with
  | nil => cases hok
  | cons token behind =>
    by_cases hstring : ∃ className, token = .string className
    · obtain ⟨className, rfl⟩ := hstring
      cases hok
      rfl
    have hother : ∀ className, token ≠ .string className :=
      fun className htoken ↦ hstring ⟨className, htoken⟩
    rw [plainType_eq hother] at hok
    rw [List.cons_append, plainType_eq hother]
    split at hok
    · cases hok
      rfl
    · exact settledBefore_userType hok hnonempty more

/-- Assumes: a type that is not composite, with no opening angle behind it. It is read again however
deep types may be nested. -/
theorem typeNested_append_of_plainType {type : ColumnType}
    (hok : plainType tokens = .ok (type, rest)) (hbehind : BehindType rest) (depth : Nat)
    (more : List Token) : typeNested depth (tokens ++ more) = .ok (type, rest ++ more) := by
  obtain ⟨next, left, rfl, hless⟩ := hbehind
  have hagain := settledBefore_plainType hok (List.cons_ne_nil _ _) more
  cases depth with
  | zero => exact hagain
  | succ depth =>
    have hkind : acceptCompositeKind (tokens ++ more) = .ok (none, tokens ++ more) := by
      have hhead : (next :: left ++ more).head? ≠ some (.symbol .less) := by simpa using hless
      obtain ⟨token, _, rfl, -, -⟩ | ⟨className, rfl, -⟩ | ⟨keyspace, name, hname, -⟩ :=
        plainType_cases hok
      · exact acceptCompositeKind_of_head?_ne hhead
      · exact acceptCompositeKind_of_head?_ne hhead
      · obtain ⟨token, _, rfl, -⟩ | ⟨first, _, second, _, rfl, -⟩ := qualifiedName_eq_ok_iff.1 hname
        · exact acceptCompositeKind_of_head?_ne hhead
        · exact acceptCompositeKind_of_head?_ne (by simp)
    rw [typeNested, run_bind hkind]
    exact hagain

/-- Assumes: a type with no opening angle behind it. It is read again if types may be nested deeper,
as no element of it could go on with an opening angle either. -/
theorem typeNested_append {fewer most : Nat} (hle : fewer ≤ most) {type : ColumnType}
    (hok : typeNested fewer tokens = .ok (type, rest)) (hbehind : BehindType rest)
    (more : List Token) : typeNested most (tokens ++ more) = .ok (type, rest ++ more) := by
  induction fewer generalizing most tokens type rest more with
  | zero => exact typeNested_append_of_plainType hok hbehind most more
  | succ fewer ih =>
    obtain ⟨most, rfl⟩ : ∃ less, most = less + 1 := ⟨most - 1, by omega⟩
    simp only [typeNested, run_bind_eq_ok_iff] at hok
    obtain ⟨_ | kind, left, haccept, hok⟩ := hok
    · obtain rfl := eq_of_acceptCompositeKind_none haccept
      exact typeNested_append_of_plainType hok hbehind _ more
    obtain ⟨token, rfl, hspelled⟩ := acceptCompositeKind_eq_some_iff.1 haccept
    simp only [run_bind_eq_ok_iff, run_pure_eq_ok_iff] at hok
    obtain ⟨elements, closing, helements, _, _, hclosing, rfl, rfl⟩ := hok
    have hitem : ∀ ⦃state tokens next rest⦄,
        elementType (typeNested fewer) state tokens = .ok (next, rest) →
          Stops [.comma, .greater, .shiftRight] rest → ∀ more,
            elementType (typeNested most) state (tokens ++ more) = .ok (next, rest ++ more) := by
      intro state tokens next rest hok hstops more
      obtain ⟨element, left, helement, hpure⟩ := run_bind_eq_ok_iff.1 hok
      obtain ⟨rfl, rfl⟩ := run_pure_eq_ok_iff.1 hpure
      have hagain := ih (Nat.le_of_succ_le_succ hle) helement (.of_stops (by decide) hstops) more
      exact run_bind hagain _
    have hstops : Stops [.greater, .shiftRight] closing := by
      obtain rfl | ⟨behind, rfl, -⟩ := expectClosingAngle_eq_ok_iff.1 hclosing
      · exact ⟨.greater, by simp, _, rfl⟩
      · exact ⟨.shiftRight, by simp, _, rfl⟩
    have hagain := commaSeparated_append (by decide) hitem helements hstops more
    have hkind : acceptCompositeKind (token :: .symbol .less :: left ++ more) =
        .ok (some kind, left ++ more) := acceptCompositeKind_eq_some_iff.2 ⟨token, rfl, hspelled⟩
    rw [typeNested, run_bind hkind]
    show (commaSeparated _ _ >>= _) _ = _
    rw [run_bind hagain, run_bind (settled_expectClosingAngle hclosing trivial more)]
    rfl

theorem settledBefore_columnType : SettledBefore BehindType columnType :=
  fun _ _ _ hok hbehind more ↦
    typeNested_append (weight_le_weight_append _ more) hok hbehind more

/-! ### Columns and the primary key -/

variable {definition next : TableDefinition} {column : Identifier}

/-- The symbols that stand behind a column or a primary key. -/
def clauseEnds : List Symbol := [.comma, .rightParenthesis]

theorem settledBefore_staticMark : SettledBefore (· ≠ []) (staticMark column definition) := by
  refine (settled_lift _).before.acceptWord (settled_pure _).before ?_
  rintro _ _ ⟨⟩ hnonempty
  exact hnonempty rfl

theorem settledBefore_keyMark :
    SettledBefore (Stops clauseEnds) (keyMark column definition) := by
  refine SettledBefore.acceptWords ((settled_lift _).bind fun _ ↦ (settled_lift _).before)
    (settled_pure _).before ?_
  rintro left _ _ hok ⟨symbol, -, behind, rfl⟩ - more
  obtain ⟨-, rfl⟩ := run_pure_eq_ok_iff.1 hok
  rfl

/-- Behind the type of a column there is a mark or the end of the clause, and no opening angle. -/
theorem behindType_of_marks {marked : TableDefinition} {left behind : List Token}
    (hstatic : staticMark column definition left = .ok (marked, behind))
    (hkey : keyMark column marked behind = .ok (next, rest)) (hstops : Stops clauseEnds rest) :
    BehindType left := by
  have hword : ∀ {keyword : Keyword} {token : Token},
      isWord keyword.text token = true → token ≠ .symbol .less := by
    rintro keyword token hword rfl
    cases hword
  obtain ⟨token, rfl, htoken, -⟩ | ⟨-, rfl, rfl⟩ := staticMark_cases hstatic
  · exact ⟨token, behind, rfl, hword htoken⟩
  obtain ⟨_, hwords, -⟩ | ⟨-, rfl, -⟩ := keyMark_cases hkey
  · obtain ⟨first, second, rfl, hfirst, -⟩ := acceptWords_primaryKey_iff.1 hwords
    exact ⟨first, second :: rest, rfl, hword hfirst⟩
  · exact .of_stops (by decide) hstops

theorem settledBefore_columnClause :
    SettledBefore (Stops clauseEnds) (columnClause definition) := by
  refine settled_identifier.bind fun column ↦ settledBefore_columnType.bind (fun type ↦
    (settled_lift _).bind fun declared ↦ settledBefore_staticMark.bind
      (fun _ ↦ settledBefore_keyMark) ?_) ?_
  · rintro marked _ result rest hkey ⟨symbol, -, behind, rfl⟩ rfl
    obtain ⟨_, hwords, -⟩ | ⟨-, ⟨⟩, -⟩ := keyMark_cases hkey
    obtain ⟨_, _, ⟨⟩, -⟩ := acceptWords_primaryKey_iff.1 hwords
  · intro type left result rest hok hstops
    simp only [run_bind_eq_ok_iff, run_lift_eq_ok_iff] at hok
    obtain ⟨declared, _, ⟨-, rfl⟩, marked, behind, hstatic, hkey⟩ := hok
    exact behindType_of_marks hstatic hkey hstops

/-- A column of a key is settled behind its name, given how it is added. -/
theorem settled_keyColumn (add : Identifier → Except SchemaFault TableDefinition) :
    Settled (identifier >>= fun column ↦ lift (add column)) :=
  settled_identifier.bind fun _ ↦ settled_lift _

theorem settled_partitionKey : Settled (partitionKey definition) :=
  SettledBefore.accept
    (settled_enclosed (by decide) (fun _ ↦ (settled_keyColumn _).before) definition)
    (settled_keyColumn _) nofun

theorem settledBefore_clusteringKey :
    SettledBefore (Stops [.rightParenthesis]) (clusteringKey definition) := by
  refine SettledBefore.accept
    (SettledBefore.commaSeparated (fun _ ↦ (settled_keyColumn _).before) (by decide) definition)
    (settled_pure _).before ?_
  rintro _ _ ⟨⟩ ⟨_, -, _, ⟨⟩⟩

theorem settled_primaryKeyClause : Settled (primaryKeyClause definition) := by
  refine (settled_lift _).bind fun definition ↦ (settled_expect _).bind fun _ ↦
    settled_partitionKey.bind fun definition ↦ settledBefore_clusteringKey.bind
      (fun definition ↦ (settled_expect _).bind fun _ ↦ settled_pure definition) ?_
  intro _ left _ _ hok _
  obtain ⟨_, behind, hbracket, -⟩ := run_bind_eq_ok_iff.1 hok
  exact ⟨_, List.mem_singleton_self _, behind, expect_eq_ok_iff.1 hbracket⟩

/-- A column has a name and a type, hence more than one token. -/
theorem two_le_length_of_columnClause (hok : columnClause definition tokens = .ok (next, rest)) :
    2 ≤ tokens.length := by
  obtain ⟨_, _, behind, _, _, _, _, _, rfl, -, htype, -⟩ := columnClause_cases hok
  cases behind with
  | nil => cases htype
  | cons second behind => simp

theorem settledBefore_definitionClause :
    SettledBefore (Stops clauseEnds) (definitionClause definition) := by
  refine settled_primaryKeyClause.before.acceptWords settledBefore_columnClause ?_
  intro left _ _ hok _ hbegins more
  have hlength : [Keyword.primary, .key].length ≤ left.length := two_le_length_of_columnClause hok
  rwa [beginsWith_append hlength]

/-- What stands in the parentheses of a table does not depend on what stands behind them. -/
theorem settled_definitionClauses : Settled (definitionClauses definition) :=
  (settled_expect _).bind fun _ ↦
    settled_enclosed (by decide) (fun _ ↦ settledBefore_definitionClause) definition

/-! ### Options -/

theorem settled_direction : Settled direction :=
  (settled_pure _).acceptWord ((settled_pure _).acceptWord (settled_reject _) nofun) nofun

theorem settled_orderedColumn : Settled (orderedColumn definition) :=
  settled_identifier.bind fun _ ↦ settled_direction.bind fun _ ↦ settled_lift _

theorem settled_clusteringOrderOption : Settled (clusteringOrderOption definition) :=
  (settled_lift _).bind fun definition ↦ (settled_expect _).bind fun _ ↦
    settled_enclosed (by decide) (fun _ ↦ settled_orderedColumn.before) definition

/-- A property has a name, an equals sign and a value, hence more than two tokens. -/
theorem three_le_length_of_property {update : Settings → Except SchemaFault Settings}
    (hok : property tokens = .ok (update, rest)) : 3 ≤ tokens.length := by
  obtain ⟨token, name, behind, rfl, -, ⟨-, custom, hvalue, -⟩ | ⟨-, value, hvalue, -⟩⟩ :=
    property_cases hok
  all_goals
    cases behind with
    | nil => cases hvalue
    | cons third behind => simp

/-- A property is long enough to tell that it begins with no option's words. -/
theorem beginsWith_append_of_property {keywords : List Keyword} (hcount : keywords.length ≤ 3)
    {update : Settings → Except SchemaFault Settings}
    (hok : property tokens = .ok (update, rest)) (more : List Token) :
    beginsWith keywords (tokens ++ more) = beginsWith keywords tokens :=
  beginsWith_append (Nat.le_trans hcount (three_le_length_of_property hok)) more

/-- Tokens that begin with one keyword do not begin with another. -/
theorem beginsWith_eq_false {keyword other : Keyword} {keywords others : List Keyword}
    (hbegins : beginsWith (keyword :: keywords) tokens = true) (hother : other ≠ keyword) :
    beginsWith (other :: others) tokens = false := by
  obtain ⟨token, behind, rfl, hword, -⟩ := beginsWith_cons_iff.1 hbegins
  exact beginsWith_of_isWord hword hother others behind

/-- No words make another option of one with more behind it: compact storage begins with a word of
its own, and a property has as many tokens as there are words. -/
theorem settled_tableOption : Settled (tableOption definition) := by
  refine settled_clusteringOrderOption.acceptWords ((settled_lift _).acceptWords
    (settled_property.bind fun update ↦ settled_lift _) ?_) ?_
  · intro left _ _ hok _ hbegins more
    obtain ⟨update, _, hread, -⟩ := run_bind_eq_ok_iff.1 hok
    rwa [beginsWith_append_of_property (by decide) hread]
  · intro left value rest hok _ hbegins more
    simp only [run_bind_eq_ok_iff, exists_choice_iff, acceptWords_eq_true_iff,
      acceptWords_eq_false_iff] at hok
    obtain ⟨_, ⟨hcompact, rfl⟩, -⟩ | ⟨_, ⟨-, rfl⟩, hok⟩ := hok
    · have hagain : beginsWith [.compact, .storage] (left ++ more) = true := by
        rwa [beginsWith_append (length_le_of_beginsWith hcompact)]
      exact beginsWith_eq_false hagain (by decide)
    · obtain ⟨update, _, hread, -⟩ := hok
      rwa [beginsWith_append_of_property (by decide) hread]

/-! ### Tables -/

theorem settledBefore_ifNotExists : SettledBefore (· ≠ []) ifNotExists := by
  refine SettledBefore.acceptWord ((settled_expectWord _).bind fun _ ↦
    (settled_expectWord _).bind fun _ ↦ (settled_pure true).before) (settled_pure _).before ?_
  rintro _ _ ⟨⟩ hnonempty
  exact hnonempty rfl

end SchemaTemplate.Grammar
