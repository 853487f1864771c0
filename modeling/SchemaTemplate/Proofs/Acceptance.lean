import SchemaTemplate.Proofs.ClauseReading

/-!
What a parser that succeeds has read. For each of the parsers that all others are made of there is
one statement of what success means: which tokens were used up and what is left. A parser of a
statement succeeds exactly if its parts do, one behind the other, so its success is opened by
rewriting with these. For lists, `Grammar.Listed` holds the items that were read, however the
parser counted them, and properties of the whole list follow by induction on it.
-/

set_option autoImplicit false
set_option relaxedAutoImplicit false

namespace SchemaTemplate.Grammar

/-- The name that a token gives, if it gives one. -/
def nameOf? : Token → Option Identifier
  | .word text => some (.unquoted text)
  | .quotedWord text => some (.quoted text)
  | _ => none

/-- The text of the constant that a token is, if it is one. -/
def constantOf? : Token → Option String
  | .string text => some text
  | .number digits _ => some digits
  | .word text => some text
  | _ => none

namespace Parser

variable {Value Result : Type} {tokens rest : List Token}

/-! ### Steps -/

theorem run_bind_eq_ok_iff {parser : Parser Value} {next : Value → Parser Result}
    {result : Result} : (parser >>= next) tokens = .ok (result, rest) ↔
      ∃ value left, parser tokens = .ok (value, left) ∧ next value left = .ok (result, rest) := by
  show (parser tokens >>= fun read ↦ next read.1 read.2) = _ ↔ _
  rw [bind_eq_ok_iff, Prod.exists]

theorem run_pure_eq_ok_iff {value result : Value} :
    (pure value : Parser Value) tokens = .ok (result, rest) ↔ value = result ∧ tokens = rest := by
  show Except.ok (value, tokens) = _ ↔ _
  rw [Except.ok.injEq, Prod.mk.injEq]

theorem run_map_eq_ok_iff {parser : Parser Value} {change : Value → Result} {result : Result} :
    (change <$> parser) tokens = .ok (result, rest) ↔
      ∃ value, parser tokens = .ok (value, rest) ∧ change value = result := by
  simp only [map_eq_pure_bind, run_bind_eq_ok_iff, run_pure_eq_ok_iff]
  constructor
  · rintro ⟨value, left, hread, hchange, rfl⟩
    exact ⟨value, hread, hchange⟩
  · rintro ⟨value, hread, hchange⟩
    exact ⟨value, rest, hread, hchange, rfl⟩

theorem run_lift_eq_ok_iff {outcome : Except SchemaFault Value} {value : Value} :
    lift outcome tokens = .ok (value, rest) ↔ outcome = .ok value ∧ tokens = rest := by
  cases outcome <;> simp [lift]

/-- A choice goes on with its first branch if its condition is met, and otherwise with its
second. -/
theorem exists_choice_iff {condition : Bool → List Token → Prop} {first second : Parser Result}
    {outcome : Except Rejection (Result × List Token)} :
    (∃ met left, condition met left ∧ (if met = true then first else second) left = outcome) ↔
      (∃ left, condition true left ∧ first left = outcome) ∨
        ∃ left, condition false left ∧ second left = outcome := by
  rw [Bool.exists_bool, or_comm]
  rfl

@[simp] theorem reject_ne_ok {wanted : Expectation} {result : Value} :
    (reject wanted : Parser Value) tokens ≠ .ok (result, rest) := nofun

/-! ### Symbols -/

theorem accept_eq_true_iff {symbol : Symbol} :
    accept symbol tokens = .ok (true, rest) ↔ tokens = .symbol symbol :: rest := by
  unfold accept
  split
  next found behind =>
    by_cases hfound : found = symbol <;> simp [hfound]
  next hother =>
    have hnone : tokens ≠ .symbol symbol :: rest := fun htokens ↦ hother _ _ htokens
    simp [hnone]

theorem accept_eq_false_iff {symbol : Symbol} : accept symbol tokens = .ok (false, rest) ↔
    tokens.head? ≠ some (.symbol symbol) ∧ tokens = rest := by
  unfold accept
  split
  next found behind =>
    by_cases hfound : found = symbol <;> simp [hfound]
  next hother =>
    have hhead : tokens.head? ≠ some (.symbol symbol) := by
      intro hhead
      obtain ⟨behind, rfl⟩ := List.head?_eq_some_iff.1 hhead
      exact hother symbol behind rfl
    simp [hhead]

theorem expect_eq_ok_iff {symbol : Symbol} {result : Unit} :
    expect symbol tokens = .ok (result, rest) ↔ tokens = .symbol symbol :: rest := by
  simp [expect, run_bind_eq_ok_iff, run_pure_eq_ok_iff, accept_eq_true_iff]

theorem sees_eq_ok_iff {symbol : Symbol} {seen : Bool} : sees symbol tokens = .ok (seen, rest) ↔
    decide (tokens.head? = some (.symbol symbol)) = seen ∧ tokens = rest := by
  rw [sees, Except.ok.injEq, Prod.mk.injEq]

theorem expectClosingAngle_eq_ok_iff {result : Unit} :
    expectClosingAngle tokens = .ok (result, rest) ↔ tokens = .symbol .greater :: rest ∨
      ∃ behind, tokens = .symbol .shiftRight :: behind ∧ rest = .symbol .greater :: behind := by
  unfold expectClosingAngle
  split
  next => simp
  next => simp [eq_comm]
  next hgreater hshift =>
    have hnone : tokens ≠ .symbol .greater :: rest := fun htokens ↦ hgreater _ htokens
    have hnever : ∀ behind, tokens ≠ .symbol .shiftRight :: behind :=
      fun _ htokens ↦ hshift _ htokens
    simp [hnone, hnever]

theorem expectEnd_eq_ok_iff {result : Unit} :
    expectEnd tokens = .ok (result, rest) ↔ tokens = [] ∧ rest = [] := by
  cases tokens <;> simp [expectEnd, eq_comm]

/-! ### Words -/

theorem acceptWords_eq_true_iff {keywords : List Keyword} :
    acceptWords keywords tokens = .ok (true, rest) ↔
      beginsWith keywords tokens = true ∧ tokens.drop keywords.length = rest := by
  cases hbegins : beginsWith keywords tokens <;> simp [acceptWords, hbegins]

theorem acceptWords_eq_false_iff {keywords : List Keyword} :
    acceptWords keywords tokens = .ok (false, rest) ↔
      beginsWith keywords tokens = false ∧ tokens = rest := by
  cases hbegins : beginsWith keywords tokens <;> simp [acceptWords, hbegins]

theorem beginsWith_cons_iff {keyword : Keyword} {keywords : List Keyword} :
    beginsWith (keyword :: keywords) tokens = true ↔ ∃ token behind, tokens = token :: behind ∧
      isWord keyword.text token = true ∧ beginsWith keywords behind = true := by
  cases tokens <;> simp [beginsWith, and_assoc]

theorem acceptWord_eq_true_iff {keyword : Keyword} : acceptWord keyword tokens = .ok (true, rest) ↔
    ∃ token, tokens = token :: rest ∧ isWord keyword.text token = true := by
  cases tokens <;> simp [acceptWord, acceptWords_eq_true_iff, beginsWith, and_assoc, and_comm]

theorem acceptWord_eq_false_iff {keyword : Keyword} :
    acceptWord keyword tokens = .ok (false, rest) ↔ Lacks keyword tokens ∧ tokens = rest := by
  cases tokens <;> simp [acceptWord, acceptWords_eq_false_iff, beginsWith, Lacks]

theorem expectWord_eq_ok_iff {keyword : Keyword} {result : Unit} :
    expectWord keyword tokens = .ok (result, rest) ↔
      ∃ token, tokens = token :: rest ∧ isWord keyword.text token = true := by
  simp [expectWord, run_bind_eq_ok_iff, run_pure_eq_ok_iff, acceptWord_eq_true_iff]

/-! ### Names and constants -/

theorem identifier_eq_ok_iff {name : Identifier} : identifier tokens = .ok (name, rest) ↔
    ∃ token, tokens = token :: rest ∧ nameOf? token = some name := by
  rcases tokens with _ | ⟨token, behind⟩
  · simp [identifier]
  · cases token <;> simp [identifier, nameOf?, and_assoc, and_comm]

theorem qualifiedName_eq_ok_iff {names : Option Identifier × Identifier} :
    qualifiedName tokens = .ok (names, rest) ↔
      (∃ token name, tokens = token :: rest ∧ nameOf? token = some name ∧
        rest.head? ≠ some (.symbol .period) ∧ names = (none, name)) ∨
      ∃ first keyspace second name, tokens = first :: .symbol .period :: second :: rest ∧
        nameOf? first = some keyspace ∧ nameOf? second = some name ∧
          names = (some keyspace, name) := by
  simp only [qualifiedName, run_bind_eq_ok_iff, identifier_eq_ok_iff, exists_choice_iff,
    accept_eq_true_iff, accept_eq_false_iff, run_pure_eq_ok_iff]
  constructor
  · rintro ⟨first, _, ⟨token, rfl, hfirst⟩, ⟨_, rfl, second, _, ⟨_, rfl, hsecond⟩, rfl, rfl⟩ |
      ⟨_, ⟨hperiod, rfl⟩, rfl, rfl⟩⟩
    · exact .inr ⟨_, _, _, _, rfl, hfirst, hsecond, rfl⟩
    · exact .inl ⟨_, _, rfl, hfirst, hperiod, rfl⟩
  · rintro (⟨token, name, rfl, hname, hperiod, rfl⟩ |
      ⟨first, keyspace, second, name, rfl, hfirst, hsecond, rfl⟩)
    · exact ⟨_, _, ⟨_, rfl, hname⟩, .inr ⟨_, ⟨hperiod, rfl⟩, rfl, rfl⟩⟩
    · exact ⟨_, _, ⟨_, rfl, hfirst⟩, .inl ⟨_, rfl, _, _, ⟨_, rfl, hsecond⟩, rfl, rfl⟩⟩

theorem constant_eq_ok_iff {text : String} : constant tokens = .ok (text, rest) ↔
    (∃ digits long, tokens = .symbol .minus :: .number digits long :: rest ∧
      text = "-" ++ digits) ∨ ∃ token, tokens = token :: rest ∧ constantOf? token = some text := by
  unfold constant
  split
  next =>
    constructor
    · rintro ⟨⟩
      exact .inl ⟨_, _, rfl, rfl⟩
    · rintro (⟨digits, long, ⟨⟩, rfl⟩ | ⟨token, ⟨⟩, hconstant⟩)
      · rfl
      · cases hconstant
  next hnumber =>
    refine iff_of_false nofun ?_
    rintro (⟨digits, long, htokens, -⟩ | ⟨token, htokens, hconstant⟩)
    · exact hnumber _ _ _ (List.cons.inj htokens).2
    · cases htokens
      cases hconstant
  next => simp [constantOf?, and_assoc, and_comm]
  next => simp [constantOf?, and_assoc, and_comm]
  next => simp [constantOf?, and_assoc, and_comm]
  next hnegative hminus hstring hnumber hword =>
    refine iff_of_false nofun ?_
    rintro (⟨digits, long, htokens, -⟩ | ⟨token, htokens, hconstant⟩)
    · exact hminus _ htokens
    · cases token with
      | string text => exact hstring _ _ htokens
      | number digits long => exact hnumber _ _ _ htokens
      | word text => exact hword _ _ htokens
      | blank | quotedWord | symbol | other => cases hconstant

/-! ### Lists -/

end Parser

variable {State : Type}

/-- Items that a parser read one behind the other, with something between them that a separator
accepted: the state and the tokens before the first item and behind the last. -/
inductive Listed (separator : Parser Bool) (item : State → Parser State) :
    State → List Token → State → List Token → Prop
  | last {state next : State} {tokens rest : List Token}
    (hitem : item state tokens = .ok (next, rest)) : Listed separator item state tokens next rest
  | more {state between next : State} {tokens left behind rest : List Token}
    (hitem : item state tokens = .ok (between, left))
    (hseparator : separator left = .ok (true, behind))
    (hlisted : Listed separator item between behind next rest) :
    Listed separator item state tokens next rest

namespace Listed

open SchemaTemplate.Grammar.Parser

variable {separator : Parser Bool} {item : State → Parser State} {state next : State}
  {tokens rest : List Token}

/-- Assumes: a separator that uses up nothing unless it accepts. -/
theorem of_listAtMost
    (hkeeps : ∀ {left behind}, separator left = .ok (false, behind) → left = behind) {more : Nat}
    (hok : listAtMost separator item more state tokens = .ok (next, rest)) :
    Listed separator item state tokens next rest := by
  induction more generalizing state tokens with
  | zero => exact .last hok
  | succ more ih =>
    simp only [listAtMost, run_bind_eq_ok_iff, exists_choice_iff, run_pure_eq_ok_iff] at hok
    obtain ⟨between, left, hitem, ⟨behind, hseparator, hmore⟩ | ⟨behind, hnone, rfl, rfl⟩⟩ := hok
    · exact .more hitem hseparator (ih hmore)
    · exact .last (hkeeps hnone ▸ hitem)

theorem of_commaSeparated (hok : commaSeparated item state tokens = .ok (next, rest)) :
    Listed (accept .comma) item state tokens next rest :=
  of_listAtMost (fun hnone ↦ (accept_eq_false_iff.1 hnone).2) hok

theorem of_separated_and
    (hok : separated (acceptWord .andWord) item state tokens = .ok (next, rest)) :
    Listed (acceptWord .andWord) item state tokens next rest :=
  of_listAtMost (fun hnone ↦ (acceptWord_eq_false_iff.1 hnone).2) hok

/-- Assumes: a property that every item establishes if another holds before it, which the first then
implies again. The items together establish it. -/
theorem establishes (Before After : State → Prop) (hback : ∀ {state}, After state → Before state)
    (hitem : ∀ {state next tokens rest}, Before state → item state tokens = .ok (next, rest) →
      After next)
    (hlisted : Listed separator item state tokens next rest) (hbefore : Before state) :
    After next := by
  induction hlisted with
  | last hok => exact hitem hbefore hok
  | more hok _ _ ih => exact ih (hback (hitem hbefore hok))

/-- Assumes: a property that every item keeps. The items together keep it. -/
theorem keeps (Holds : State → Prop)
    (hitem : ∀ {state next tokens rest}, Holds state → item state tokens = .ok (next, rest) →
      Holds next)
    (hlisted : Listed separator item state tokens next rest) (hholds : Holds state) : Holds next :=
  hlisted.establishes Holds Holds id hitem hholds

end Listed

open SchemaTemplate.Grammar.Parser

variable {tokens rest : List Token}

/-! ### Types -/

theorem acceptCompositeKind_eq_some_iff {kind : String} :
    acceptCompositeKind tokens = .ok (some kind, rest) ↔ ∃ token,
      tokens = token :: .symbol .less :: rest ∧
        spelledIn? ColumnType.compositeKinds token = some kind := by
  unfold acceptCompositeKind
  split
  next token behind =>
    cases hspelled : spelledIn? ColumnType.compositeKinds token with
    | none => simp [hspelled, and_assoc, and_comm]
    | some spelled => simp [hspelled, and_assoc, and_comm]
  next hother => exact iff_of_false nofun fun ⟨token, htokens, _⟩ ↦ hother token _ htokens

theorem eq_of_acceptCompositeKind_none (hok : acceptCompositeKind tokens = .ok (none, rest)) :
    tokens = rest := by
  unfold acceptCompositeKind at hok
  split at hok
  next token behind =>
    split at hok
    · cases hok
    · cases hok
      rfl
  next =>
    cases hok
    rfl

/-- Where a type that is not composite ends: behind the only token, or behind a name. -/
theorem plainType_cases {type : ColumnType} (hok : plainType tokens = .ok (type, rest)) :
    (∃ token name, tokens = token :: rest ∧ spelledIn? ColumnType.simpleNames token = some name ∧
      type = .simple name) ∨
    (∃ className, tokens = .string className :: rest ∧ type = .custom className) ∨
    ∃ keyspace name, qualifiedName tokens = .ok ((keyspace, name), rest) ∧
      type = .user keyspace name := by
  unfold plainType at hok
  split at hok
  next className behind =>
    cases hok
    exact .inr (.inl ⟨_, rfl, rfl⟩)
  next token behind hcustom =>
    split at hok
    next name hspelled =>
      cases hok
      exact .inl ⟨_, _, rfl, hspelled, rfl⟩
    next =>
      simp only [userType, run_bind_eq_ok_iff, run_pure_eq_ok_iff] at hok
      obtain ⟨⟨keyspace, name⟩, left, hname, rfl, rfl⟩ := hok
      exact .inr (.inr ⟨_, _, hname, rfl⟩)
  next => cases hok

theorem typeNested_cases {type : ColumnType} {depth : Nat}
    (hok : typeNested (depth + 1) tokens = .ok (type, rest)) :
    plainType tokens = .ok (type, rest) ∨
      ∃ token kind behind elements left, tokens = token :: .symbol .less :: behind ∧
        spelledIn? ColumnType.compositeKinds token = some kind ∧
        Listed (accept .comma) (elementType (typeNested depth)) [] behind elements left ∧
        expectClosingAngle left = .ok ((), rest) ∧ type = .composite kind elements := by
  simp only [typeNested, run_bind_eq_ok_iff] at hok
  obtain ⟨found, left, haccept, hok⟩ := hok
  cases found with
  | none =>
    obtain rfl := eq_of_acceptCompositeKind_none haccept
    exact .inl hok
  | some kind =>
    obtain ⟨token, rfl, hspelled⟩ := acceptCompositeKind_eq_some_iff.1 haccept
    simp only [run_bind_eq_ok_iff, run_pure_eq_ok_iff] at hok
    obtain ⟨elements, _, helements, _, _, hclosing, rfl, rfl⟩ := hok
    exact .inr ⟨_, _, _, _, _, rfl, hspelled, .of_commaSeparated helements, hclosing, rfl⟩

/-! ### Properties -/

variable {Value : Type}

theorem mapEntry_eq_ok_iff {value : Parser Value} {map next : OrderedMap String Value} :
    mapEntry value map tokens = .ok (next, rest) ↔ ∃ key behind entry,
      constant tokens = .ok (key, .symbol .colon :: behind) ∧ value behind = .ok (entry, rest) ∧
        map.define key entry = .ok next := by
  simp only [mapEntry, run_bind_eq_ok_iff, expect_eq_ok_iff, run_lift_eq_ok_iff]
  constructor
  · rintro ⟨key, _, hkey, _, behind, rfl, entry, _, hentry, hdefine, rfl⟩
    exact ⟨key, behind, entry, hkey, hentry, hdefine⟩
  · rintro ⟨key, behind, entry, hkey, hentry, hdefine⟩
    exact ⟨key, _, hkey, (), behind, rfl, entry, rest, hentry, hdefine, rfl⟩

theorem mapOf_cases {value : Parser Value} {map : OrderedMap String Value}
    (hok : mapOf value tokens = .ok (map, rest)) :
    (tokens = .symbol .leftBrace :: .symbol .rightBrace :: rest ∧ map = .empty) ∨
      ∃ behind, tokens = .symbol .leftBrace :: behind ∧ Listed (accept .comma) (mapEntry value)
        .empty behind map (.symbol .rightBrace :: rest) := by
  simp only [mapOf, run_bind_eq_ok_iff, exists_choice_iff, expect_eq_ok_iff, accept_eq_true_iff,
    accept_eq_false_iff, run_pure_eq_ok_iff] at hok
  obtain ⟨_, _, rfl, ⟨_, rfl, rfl, rfl⟩ |
    ⟨behind, ⟨-, rfl⟩, _, _, hentries, _, _, rfl, rfl, rfl⟩⟩ := hok
  · exact .inl ⟨rfl, rfl⟩
  · exact .inr ⟨_, rfl, .of_commaSeparated hentries⟩

theorem propertyValue_cases {value : PropertyValue}
    (hok : propertyValue tokens = .ok (value, rest)) :
    (∃ entries, options tokens = .ok (entries, rest) ∧ value = .options entries) ∨
      ∃ text, constant tokens = .ok (text, rest) ∧ value = .text text := by
  simp only [propertyValue, run_bind_eq_ok_iff, exists_choice_iff, sees_eq_ok_iff,
    run_map_eq_ok_iff] at hok
  obtain ⟨_, ⟨-, rfl⟩, entries, hentries, rfl⟩ | ⟨_, ⟨-, rfl⟩, text, htext, rfl⟩ := hok
  · exact .inl ⟨entries, hentries, rfl⟩
  · exact .inr ⟨text, htext, rfl⟩

/-- What a property is: the block of custom properties if its name says so, and otherwise a regular
property. -/
theorem property_cases {update : Settings → Except SchemaFault Settings}
    (hok : property tokens = .ok (update, rest)) : ∃ token name behind,
      tokens = token :: .symbol .equals :: behind ∧ nameOf? token = some name ∧
        ((name.text = Settings.customPropertiesName ∧ ∃ custom,
          customProperties behind = .ok (custom, rest) ∧
            update = fun settings ↦ settings.defineCustom custom) ∨
        (name.text ≠ Settings.customPropertiesName ∧ ∃ value,
          propertyValue behind = .ok (value, rest) ∧
            update = fun settings ↦ settings.addProperty name value)) := by
  simp only [property, run_bind_eq_ok_iff, identifier_eq_ok_iff, expect_eq_ok_iff] at hok
  obtain ⟨name, _, ⟨token, rfl, hname⟩, _, behind, rfl, hvalue⟩ := hok
  refine ⟨token, name, behind, rfl, hname, ?_⟩
  split at hvalue
  next hcustom =>
    simp only [run_bind_eq_ok_iff, run_pure_eq_ok_iff] at hvalue
    obtain ⟨custom, _, hread, rfl, rfl⟩ := hvalue
    exact .inl ⟨hcustom, custom, hread, rfl⟩
  next hregular =>
    simp only [run_bind_eq_ok_iff, run_pure_eq_ok_iff] at hvalue
    obtain ⟨value, _, hread, rfl, rfl⟩ := hvalue
    exact .inr ⟨hregular, value, hread, rfl⟩

end SchemaTemplate.Grammar
