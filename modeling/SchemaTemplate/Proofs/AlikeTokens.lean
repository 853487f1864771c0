import SchemaTemplate.Proofs.Acceptance
import SchemaTemplate.Proofs.ClauseReading

/-!
Parsers that do not see a difference between tokens. A relation says which lists of tokens are
alike, and a parser respects it if on lists that are alike it comes to the same end: the same value
in front of tokens that are alike again, or the same rejection at such a place
(`Grammar.Parser.Respects`). Whatever is put together from parsers that respect a relation does so
as well, so it is enough to look at those parsers that look at tokens themselves.
-/

set_option autoImplicit false
set_option relaxedAutoImplicit false

namespace SchemaTemplate.Grammar

variable {Value Result State : Type} {Alike : List Token → List Token → Prop}

/-- Whether two parsers have come to the same end, up to tokens that are alike. -/
inductive SameEnd (Alike : List Token → List Token → Prop) :
    Except Rejection (Value × List Token) → Except Rejection (Value × List Token) → Prop
  | read (value : Value) {first second : List Token} (halike : Alike first second) :
    SameEnd Alike (.ok (value, first)) (.ok (value, second))
  | unexpected (wanted : Expectation) {first second : List Token} (halike : Alike first second) :
    SameEnd Alike (.error (.unexpected wanted first)) (.error (.unexpected wanted second))
  | faulty (fault : SchemaFault) : SameEnd Alike (.error (.faulty fault)) (.error (.faulty fault))

namespace SameEnd

variable {first second : Except Rejection (Value × List Token)} {value : Value} {rest : List Token}

/-- Assumes: the same end, with a value in the first case. The second ends with this value. -/
theorem of_ok_left (hsame : SameEnd Alike first second) (hok : first = .ok (value, rest)) :
    ∃ left, second = .ok (value, left) ∧ Alike rest left := by
  cases hsame with
  | read value halike =>
    cases hok
    exact ⟨_, rfl, halike⟩
  | unexpected | faulty => cases hok

/-- Assumes: the same end, with a value in the second case. The first ends with this value. -/
theorem of_ok_right (hsame : SameEnd Alike first second) (hok : second = .ok (value, rest)) :
    ∃ left, first = .ok (value, left) ∧ Alike left rest := by
  cases hsame with
  | read value halike =>
    cases hok
    exact ⟨_, rfl, halike⟩
  | unexpected | faulty => cases hok

/-- Assumes: the same end, and the same end up to another likeness of what comes after each value.
The end is the same behind both, up to the other likeness, if that follows from the first. -/
theorem bind_of_imp {Other : List Token → List Token → Prop}
    (himp : ∀ first second, Alike first second → Other first second)
    (hsame : SameEnd Alike first second)
    {next : Value × List Token → Except Rejection (Result × List Token)}
    (hnext : ∀ value first second, Alike first second →
      SameEnd Other (next (value, first)) (next (value, second))) :
    SameEnd Other (first >>= next) (second >>= next) := by
  cases hsame with
  | read value halike => exact hnext value _ _ halike
  | unexpected wanted halike => exact .unexpected wanted (himp _ _ halike)
  | faulty fault => exact .faulty fault

/-- Assumes: the same end, and the same end of what comes after each value, on tokens that are
alike. The end is the same behind both. -/
theorem bind (hsame : SameEnd Alike first second)
    {next : Value × List Token → Except Rejection (Result × List Token)}
    (hnext : ∀ value first second, Alike first second →
      SameEnd Alike (next (value, first)) (next (value, second))) :
    SameEnd Alike (first >>= next) (second >>= next) :=
  hsame.bind_of_imp (fun _ _ halike ↦ halike) hnext

end SameEnd

namespace Parser

/-- Whether a parser comes to the same end on all tokens that are alike. -/
structure Respects (Alike : List Token → List Token → Prop) (parser : Parser Value) : Prop where
  sameEnd : ∀ first second, Alike first second → SameEnd Alike (parser first) (parser second)

namespace Respects

/-! ### Steps -/

theorem pure (value : Value) : Respects Alike (pure value) where
  sameEnd _ _ halike := .read value halike

theorem reject (wanted : Expectation) : Respects Alike (reject wanted : Parser Value) where
  sameEnd _ _ halike := .unexpected wanted halike

theorem lift (outcome : Except SchemaFault Value) : Respects Alike (lift outcome) where
  sameEnd first second halike := by
    cases outcome with
    | ok value => exact .read value halike
    | error fault => exact .faulty fault

/-- Assumes: a parser, and what comes after each value of it, respect a relation. So do both
together. -/
theorem bind {parser : Parser Value} {next : Value → Parser Result}
    (hparser : Respects Alike parser) (hnext : ∀ value, Respects Alike (next value)) :
    Respects Alike (parser >>= next) where
  sameEnd first second halike :=
    (hparser.sameEnd first second halike).bind fun value ↦ (hnext value).sameEnd

theorem map {parser : Parser Value} (hparser : Respects Alike parser) (change : Value → Result) :
    Respects Alike (change <$> parser) := by
  rw [map_eq_pure_bind]
  exact hparser.bind fun value ↦ .pure (change value)

/-- Assumes: a condition and both branches behind it respect a relation. So does the choice. -/
theorem choice {condition : Parser Bool} {first second : Parser Value}
    (hcondition : Respects Alike condition) (hfirst : Respects Alike first)
    (hsecond : Respects Alike second) :
    Respects Alike (condition >>= fun met ↦ if met = true then first else second) := by
  refine hcondition.bind fun met ↦ ?_
  cases met with
  | true => exact hfirst
  | false => exact hsecond

/-! ### Symbols, words and names -/

theorem expect {symbol : Symbol} (haccept : Respects Alike (accept symbol)) :
    Respects Alike (expect symbol) := haccept.choice (.pure ()) (.reject _)

theorem expectWord {keyword : Keyword} (haccept : Respects Alike (acceptWord keyword)) :
    Respects Alike (expectWord keyword) := haccept.choice (.pure ()) (.reject _)

theorem qualifiedName (hidentifier : Respects Alike identifier)
    (hperiod : Respects Alike (accept .period)) : Respects Alike qualifiedName :=
  hidentifier.bind fun first ↦
    hperiod.choice (hidentifier.bind fun second ↦ .pure (some first, second)) (.pure (none, first))

/-! ### Lists -/

theorem listAtMost {separator : Parser Bool} (hseparator : Respects Alike separator)
    {item : State → Parser State} (hitem : ∀ state, Respects Alike (item state)) (more : Nat)
    (state : State) : Respects Alike (listAtMost separator item more state) := by
  induction more generalizing state with
  | zero => exact hitem state
  | succ more ih =>
    exact (hitem state).bind fun next ↦ hseparator.choice (ih next) (.pure next)

/-- Assumes: a separator and items that respect a relation of tokens with the same weight. Lists of
such items respect it. -/
theorem separated (hweight : ∀ first second, Alike first second → weight first = weight second)
    {separator : Parser Bool} (hseparator : Respects Alike separator)
    {item : State → Parser State} (hitem : ∀ state, Respects Alike (item state)) (state : State) :
    Respects Alike (separated separator item state) where
  sameEnd first second halike := by
    show SameEnd Alike (Parser.listAtMost separator item (weight first) state first)
      (Parser.listAtMost separator item (weight second) state second)
    rw [hweight first second halike]
    exact (listAtMost hseparator hitem _ state).sameEnd first second halike

end Respects

/-! ### Types -/

theorem Respects.userType (hidentifier : Respects Alike identifier)
    (hperiod : Respects Alike (accept .period)) : Respects Alike userType :=
  (Respects.qualifiedName hidentifier hperiod).bind fun name ↦
    .pure (ColumnType.user name.1 name.2)

theorem spelledIn?_symbol (spellings : List String) (symbol : Symbol) :
    spelledIn? spellings (.symbol symbol) = none := by
  simp [spelledIn?, isWord]

/-- A token without an opening angle behind it begins no composite type. -/
theorem acceptCompositeKind_of_head?_ne {token : Token} {rest : List Token}
    (hless : rest.head? ≠ some (.symbol .less)) :
    acceptCompositeKind (token :: rest) = .ok (none, token :: rest) := by
  unfold acceptCompositeKind
  split
  next heq =>
    cases heq
    exact absurd rfl hless
  next => rfl

theorem plainType_eq {token : Token} (hstring : ∀ className, token ≠ .string className)
    (rest : List Token) : plainType (token :: rest) =
      match spelledIn? ColumnType.simpleNames token with
      | some name => .ok (.simple name, rest)
      | none => userType (token :: rest) := by
  cases token with
  | string className => exact absurd rfl (hstring className)
  | blank | word | quotedWord | number | symbol | other => rfl

section

variable {first second : Token} {rest more : List Token}

/-- Assumes: two tokens that write the same kind of a composite type, or none, and that have an
opening angle behind both or behind neither. -/
theorem sameEnd_acceptCompositeKind
    (hspelled : spelledIn? ColumnType.compositeKinds first =
      spelledIn? ColumnType.compositeKinds second) (halike : Alike (first :: rest) (second :: more))
    (hless : (∃ behind left, rest = .symbol .less :: behind ∧ more = .symbol .less :: left ∧
        Alike behind left) ∨
      (rest.head? ≠ some (.symbol .less) ∧ more.head? ≠ some (.symbol .less))) :
    SameEnd Alike (acceptCompositeKind (first :: rest)) (acceptCompositeKind (second :: more)) := by
  obtain ⟨behind, left, rfl, rfl, hbehind⟩ | ⟨hrest, hmore⟩ := hless
  · cases hkind : spelledIn? ColumnType.compositeKinds first with
    | none =>
      rw [acceptCompositeKind_of_none hkind, acceptCompositeKind_of_none (hspelled ▸ hkind)]
      exact .read none halike
    | some kind =>
      rw [acceptCompositeKind_eq_some_iff.2 ⟨first, rfl, hkind⟩,
        acceptCompositeKind_eq_some_iff.2 ⟨second, rfl, hspelled ▸ hkind⟩]
      exact .read (some kind) hbehind
  · rw [acceptCompositeKind_of_head?_ne hrest, acceptCompositeKind_of_head?_ne hmore]
    exact .read none halike

/-- Assumes: two tokens that write no class and the same simple type, or none. -/
theorem sameEnd_plainType (hfirst : ∀ className, first ≠ .string className)
    (hsecond : ∀ className, second ≠ .string className)
    (hspelled : spelledIn? ColumnType.simpleNames first =
      spelledIn? ColumnType.simpleNames second) (huser : Respects Alike userType)
    (halike : Alike (first :: rest) (second :: more)) (hbehind : Alike rest more) :
    SameEnd Alike (plainType (first :: rest)) (plainType (second :: more)) := by
  rw [plainType_eq hfirst, plainType_eq hsecond, ← hspelled]
  cases spelledIn? ColumnType.simpleNames first with
  | some name => exact .read _ hbehind
  | none => exact huser.sameEnd _ _ halike

end

/-- Whether a relation of tokens is respected where a type that is not composite is read and where
the parts of a composite type are taken apart. -/
structure RespectedInTypes (Alike : List Token → List Token → Prop) : Prop where
  weight_eq : ∀ first second, Alike first second → weight first = weight second
  compositeKind : Respects Alike acceptCompositeKind
  comma : Respects Alike (accept .comma)
  closingAngle : Respects Alike expectClosingAngle
  plainType : Respects Alike plainType

namespace RespectedInTypes

variable (hrespected : RespectedInTypes Alike)

include hrespected

theorem commaSeparated {item : State → Parser State} (hitem : ∀ state, Respects Alike (item state))
    (state : State) : Respects Alike (commaSeparated item state) :=
  .separated hrespected.weight_eq hrespected.comma hitem state

theorem typeNested (depth : Nat) : Respects Alike (typeNested depth) := by
  induction depth with
  | zero => exact hrespected.plainType
  | succ depth ih =>
    refine hrespected.compositeKind.bind fun kind ↦ ?_
    cases kind with
    | none => exact hrespected.plainType
    | some kind =>
      have helement : ∀ elements,
          Respects Alike (elementType (Grammar.typeNested depth) elements) :=
        fun elements ↦ ih.bind fun element ↦ .pure (elements ++ [element])
      exact (hrespected.commaSeparated helement []).bind fun elements ↦
        hrespected.closingAngle.bind fun _ ↦ .pure (ColumnType.composite kind elements)

/-- The number of tokens that bounds the nesting is the same for tokens that are alike. -/
theorem columnType : Respects Alike columnType where
  sameEnd first second halike := by
    show SameEnd Alike (Grammar.typeNested (weight first) first)
      (Grammar.typeNested (weight second) second)
    rw [hrespected.weight_eq first second halike]
    exact (hrespected.typeNested _).sameEnd first second halike

end RespectedInTypes

/-! ### Statements -/

theorem Respects.keyspaceOption (hproperty : Respects Alike property) (settings : Settings) :
    Respects Alike (keyspaceOption settings) := hproperty.bind fun update ↦ .lift (update settings)

/-- The symbols that are read as closing angles and nowhere else. -/
def closingAngles : List Symbol := [.greater, .shiftRight]

/-- The symbols that stand around the parts of a statement and between them. -/
def enclosing : List Symbol :=
  [.leftParenthesis, .rightParenthesis, .leftBrace, .rightBrace, .comma, .period]

/-- The symbols that stand in front of constants and nowhere else. -/
def introducing : List Symbol := [.equals, .colon]

theorem notMem_closingAngles_of_enclosing : ∀ symbol ∈ enclosing, symbol ∉ closingAngles := by
  decide

theorem notMem_closingAngles_of_introducing : ∀ symbol ∈ introducing, symbol ∉ closingAngles := by
  decide

/-- Whether a relation of tokens is respected by those parsers that look at tokens themselves and
read no constants. -/
structure RespectedInClauses (Alike : List Token → List Token → Prop) : Prop
    extends RespectedInTypes Alike where
  accept : ∀ symbol ∈ enclosing, Respects Alike (accept symbol)
  words : ∀ keywords, Respects Alike (acceptWords keywords)
  identifier : Respects Alike identifier
  ended : Respects Alike expectEnd

/-- Whether a relation of tokens is respected by all parsers that look at tokens themselves. -/
structure Respected (Alike : List Token → List Token → Prop) : Prop
    extends RespectedInClauses Alike where
  introduced : ∀ symbol ∈ introducing, Respects Alike (Parser.accept symbol)
  sees : ∀ symbol ∉ closingAngles, Respects Alike (sees symbol)
  constant : Respects Alike constant

namespace RespectedInClauses

variable (hrespected : RespectedInClauses Alike)

include hrespected

theorem expect {symbol : Symbol} (hsymbol : symbol ∈ enclosing) :
    Respects Alike (expect symbol) := (hrespected.accept symbol hsymbol).expect

/-- Assumes: the entries of a map are read alike. So is the map. -/
theorem mapOf {value : Parser Value}
    (hentry : ∀ map : OrderedMap String Value, Respects Alike (mapEntry value map)) :
    Respects Alike (mapOf value) :=
  (hrespected.expect (by decide)).bind fun _ ↦
    (hrespected.accept .rightBrace (by decide)).choice (.pure _)
      ((hrespected.commaSeparated hentry _).bind fun map ↦
        (hrespected.expect (by decide)).bind fun _ ↦ .pure map)

/-- Assumes: a name is given to an operation. It is read and the operation carried out. -/
theorem named (operation : Identifier → Except SchemaFault State) :
    Respects Alike (Grammar.Parser.identifier >>= fun name ↦ Parser.lift (operation name)) :=
  hrespected.identifier.bind fun name ↦ .lift (operation name)

theorem staticMark (column : Identifier) (definition : TableDefinition) :
    Respects Alike (staticMark column definition) :=
  (hrespected.words [.static]).choice (.lift _) (.pure definition)

theorem keyMark (column : Identifier) (definition : TableDefinition) :
    Respects Alike (keyMark column definition) :=
  (hrespected.words [.primary, .key]).choice ((Respects.lift _).bind fun _ ↦ .lift _)
    (.pure definition)

theorem columnClause (definition : TableDefinition) : Respects Alike (columnClause definition) :=
  hrespected.identifier.bind fun column ↦ hrespected.columnType.bind fun _ ↦
    (Respects.lift _).bind fun definition ↦
      (hrespected.staticMark column definition).bind fun definition ↦
        hrespected.keyMark column definition

theorem partitionKey (definition : TableDefinition) : Respects Alike (partitionKey definition) :=
  (hrespected.accept .leftParenthesis (by decide)).choice
    ((hrespected.commaSeparated (fun _ ↦ hrespected.named _) definition).bind fun definition ↦
      (hrespected.expect (by decide)).bind fun _ ↦ .pure definition) (hrespected.named _)

theorem clusteringKey (definition : TableDefinition) : Respects Alike (clusteringKey definition) :=
  hrespected.comma.choice
    (hrespected.commaSeparated (fun _ ↦ hrespected.named _) definition) (.pure definition)

theorem primaryKeyClause (definition : TableDefinition) :
    Respects Alike (primaryKeyClause definition) :=
  (Respects.lift _).bind fun definition ↦ (hrespected.expect (by decide)).bind fun _ ↦
    (hrespected.partitionKey definition).bind fun definition ↦
      (hrespected.clusteringKey definition).bind fun definition ↦
        (hrespected.expect (by decide)).bind fun _ ↦ .pure definition

theorem definitionClause (definition : TableDefinition) :
    Respects Alike (definitionClause definition) :=
  (hrespected.words [.primary, .key]).choice (hrespected.primaryKeyClause definition)
    (hrespected.columnClause definition)

theorem definitionClauses (definition : TableDefinition) :
    Respects Alike (definitionClauses definition) :=
  (hrespected.expect (by decide)).bind fun _ ↦
    (hrespected.commaSeparated hrespected.definitionClause definition).bind fun definition ↦
      (hrespected.expect (by decide)).bind fun _ ↦ .pure definition

theorem direction : Respects Alike direction :=
  (hrespected.words [.asc]).choice (.pure _)
    ((hrespected.words [.desc]).choice (.pure _) (.reject _))

theorem orderedColumn (definition : TableDefinition) :
    Respects Alike (orderedColumn definition) :=
  hrespected.identifier.bind fun _ ↦ hrespected.direction.bind fun _ ↦ .lift _

theorem clusteringOrderOption (definition : TableDefinition) :
    Respects Alike (clusteringOrderOption definition) :=
  (Respects.lift _).bind fun definition ↦ (hrespected.expect (by decide)).bind fun _ ↦
    (hrespected.commaSeparated hrespected.orderedColumn definition).bind fun definition ↦
      (hrespected.expect (by decide)).bind fun _ ↦ .pure definition

/-- Assumes: properties are read alike. So are options of tables. -/
theorem tableOption (hproperty : Respects Alike property) (definition : TableDefinition) :
    Respects Alike (tableOption definition) :=
  (hrespected.words [.clustering, .order, .byWord]).choice
    (hrespected.clusteringOrderOption definition)
    ((hrespected.words [.compact, .storage]).choice (.lift _)
      (hproperty.bind fun _ ↦ .lift _))

theorem withOptions {option : State → Parser State}
    (hoption : ∀ state, Respects Alike (option state)) (state : State) :
    Respects Alike (withOptions option state) :=
  (hrespected.words [.withWord]).choice
    (.separated hrespected.weight_eq (hrespected.words [.andWord]) hoption state) (.pure state)

theorem ifNotExists : Respects Alike ifNotExists :=
  (hrespected.words [.ifWord]).choice
    ((Respects.expectWord (hrespected.words _)).bind fun _ ↦
      (Respects.expectWord (hrespected.words _)).bind fun _ ↦ .pure true) (.pure false)

theorem useStatement : Respects Alike useStatement :=
  hrespected.identifier.bind fun _ ↦ hrespected.ended.bind fun _ ↦ .pure _

theorem keyspaceStatement (hproperty : Respects Alike property) :
    Respects Alike keyspaceStatement :=
  hrespected.ifNotExists.bind fun _ ↦ hrespected.identifier.bind fun _ ↦
    (hrespected.withOptions hproperty.keyspaceOption .empty).bind fun _ ↦
      hrespected.ended.bind fun _ ↦ .pure _

theorem tableStatement (hproperty : Respects Alike property) :
    Respects Alike tableStatement := by
  have hname := Respects.qualifiedName hrespected.identifier
    (hrespected.accept .period (by decide))
  exact hrespected.ifNotExists.bind fun _ ↦ hname.bind fun _ ↦
    (hrespected.definitionClauses .empty).bind fun definition ↦
      (hrespected.withOptions (hrespected.tableOption hproperty) definition).bind fun _ ↦
        hrespected.ended.bind fun _ ↦ .pure _

/-- Assumes: properties are read alike. So are statements. -/
theorem statement (hproperty : Respects Alike property) : Respects Alike statement :=
  (hrespected.words [.use]).choice hrespected.useStatement
    ((hrespected.words [.create]).choice
      ((hrespected.words [.keyspace]).choice (hrespected.keyspaceStatement hproperty)
        ((hrespected.words [.schema]).choice (hrespected.keyspaceStatement hproperty)
          ((hrespected.words [.table]).choice (hrespected.tableStatement hproperty)
            ((hrespected.words [.columnFamily]).choice (hrespected.tableStatement hproperty)
              (.reject _)))))
      (.reject _))

end RespectedInClauses

namespace Respected

variable (hrespected : Respected Alike)

include hrespected

theorem mapEntry {value : Parser Value} (hvalue : Respects Alike value)
    (map : OrderedMap String Value) : Respects Alike (mapEntry value map) :=
  hrespected.constant.bind fun _ ↦ (hrespected.introduced .colon (by decide)).expect.bind fun _ ↦
    hvalue.bind fun _ ↦ .lift _

theorem options : Respects Alike options :=
  hrespected.mapOf (hrespected.mapEntry hrespected.constant)

theorem propertyValue : Respects Alike propertyValue :=
  (hrespected.sees .leftBrace (by decide)).choice (hrespected.options.map _)
    (hrespected.constant.map _)

theorem property : Respects Alike property := by
  refine hrespected.identifier.bind fun name ↦
    (hrespected.introduced .equals (by decide)).expect.bind fun _ ↦ ?_
  split
  · exact (hrespected.mapOf (hrespected.mapEntry hrespected.options)).bind fun _ ↦ .pure _
  · exact hrespected.propertyValue.bind fun _ ↦ .pure _

/-- A relation of tokens that is respected wherever tokens are looked at is respected by the grammar
of statements. -/
theorem statement : Respects Alike statement :=
  hrespected.toRespectedInClauses.statement hrespected.property

end Respected

/-! ### What is left -/

/-- The tokens that are left where a parser comes to an end. A contradiction between clauses tells
no place. -/
def leftBy : Except Rejection (Value × List Token) → Option (List Token)
  | .ok (_, rest) => some rest
  | .error (.unexpected _ left) => some left
  | .error (.faulty _) => none

/-- Whether the tokens that a parser leaves, wherever it comes to an end, are related to those that
it began with. -/
def Leaves (Related : List Token → List Token → Prop) (parser : Parser Value) : Prop :=
  ∀ tokens rest, leftBy (parser tokens) = some rest → Related tokens rest

theorem Leaves.of_ok {Related : List Token → List Token → Prop} {parser : Parser Value}
    (hleaves : Leaves Related parser) {tokens rest : List Token} {value : Value}
    (hok : parser tokens = .ok (value, rest)) : Related tokens rest :=
  hleaves tokens rest (by rw [hok]; rfl)

/-- Whether these are the same tokens, and related to others. Parsers that leave related tokens
respect this likeness, which makes `Respected` a statement about what is left. -/
def LeftOf (Related : List Token → List Token → Prop) (origin first second : List Token) : Prop :=
  first = second ∧ Related origin first

/-- Whether a token is none of the symbols that introduce constants. -/
def Plain (token : Token) : Prop := ∀ symbol ∈ introducing, token ≠ .symbol symbol

theorem plain_symbol {symbol : Symbol} (hsymbol : symbol ∉ introducing) :
    Plain (.symbol symbol) := by
  rintro other hother ⟨⟩
  exact hsymbol hother

theorem plain_of_isWord {token : Token} {spelling : String} (hword : isWord spelling token = true) :
    Plain token := by
  rintro symbol - rfl
  cases hword

theorem plain_of_spelledIn? {token : Token} {spellings : List String} {spelling : String}
    (hspelled : spelledIn? spellings token = some spelling) : Plain token := by
  have hword : isWord spelling token = true := by simpa using List.find?_some hspelled
  exact plain_of_isWord hword

/-- Whether tokens are related to what is left of them if nothing is used up, if a token is that
introduces no constants, if one closing angle of two is, and from step to step. -/
structure Leftover (Related : List Token → List Token → Prop) : Prop where
  refl : ∀ tokens, Related tokens tokens
  trans : ∀ {first second third}, Related first second → Related second third →
    Related first third
  use : ∀ {token}, Plain token → ∀ rest, Related (token :: rest) rest
  cut : ∀ rest, Related (.symbol .shiftRight :: rest) (.symbol .greater :: rest)

namespace Leftover

variable {Related : List Token → List Token → Prop} {parser : Parser Value}
  (hleftover : Leftover Related)

include hleftover

theorem respects (hleaves : Leaves Related parser) (origin : List Token) :
    Respects (LeftOf Related origin) parser where
  sameEnd first second hleft := by
    obtain ⟨rfl, horigin⟩ := hleft
    have hagain : ∀ left, leftBy (parser first) = some left → LeftOf Related origin left left :=
      fun left hleft ↦ ⟨rfl, hleftover.trans horigin (hleaves first left hleft)⟩
    rcases hend : parser first with (⟨wanted, left⟩ | fault) | ⟨value, left⟩
    · exact .unexpected wanted (hagain left (by rw [hend]; rfl))
    · exact .faulty fault
    · exact .read value (hagain left (by rw [hend]; rfl))

theorem leaves (hrespects : ∀ origin, Respects (LeftOf Related origin) parser) :
    Leaves Related parser := by
  intro tokens rest hleft
  have hsame := (hrespects tokens).sameEnd tokens tokens ⟨rfl, hleftover.refl tokens⟩
  generalize parser tokens = ending at hleft hsame
  cases hsame with
  | read value hrelated | unexpected wanted hrelated =>
    cases hleft
    exact hrelated.2
  | faulty => cases hleft

theorem sees (symbol : Symbol) : Leaves Related (sees symbol) := by
  rintro tokens _ ⟨⟩
  exact hleftover.refl tokens

theorem accept {symbol : Symbol} (huse : ∀ rest, Related (.symbol symbol :: rest) rest) :
    Leaves Related (accept symbol) := by
  intro tokens rest hleft
  unfold Parser.accept at hleft
  split at hleft
  next found behind =>
    split at hleft
    next hfound =>
      cases hleft
      rw [hfound]
      exact huse rest
    next =>
      cases hleft
      exact hleftover.refl _
  next =>
    cases hleft
    exact hleftover.refl tokens

theorem expectClosingAngle : Leaves Related expectClosingAngle := by
  intro tokens rest hleft
  unfold Parser.expectClosingAngle at hleft
  split at hleft <;> cases hleft
  · exact hleftover.use (plain_symbol (by decide)) rest
  · exact hleftover.cut _
  · exact hleftover.refl _

theorem expectEnd : Leaves Related expectEnd := by
  intro tokens rest hleft
  unfold Parser.expectEnd at hleft
  split at hleft <;> cases hleft <;> exact hleftover.refl _

theorem drop {keywords : List Keyword} {tokens : List Token}
    (hbegins : beginsWith keywords tokens = true) :
    Related tokens (tokens.drop keywords.length) := by
  induction keywords generalizing tokens with
  | nil => exact hleftover.refl tokens
  | cons keyword keywords ih =>
    obtain ⟨token, behind, rfl, hword, hbehind⟩ := beginsWith_cons_iff.1 hbegins
    exact hleftover.trans (hleftover.use (plain_of_isWord hword) behind) (ih hbehind)

theorem acceptWords (keywords : List Keyword) : Leaves Related (acceptWords keywords) := by
  intro tokens rest hleft
  unfold Parser.acceptWords at hleft
  split at hleft
  next hbegins =>
    cases hleft
    exact hleftover.drop hbegins
  next =>
    cases hleft
    exact hleftover.refl tokens

theorem identifier : Leaves Related identifier := by
  intro tokens rest hleft
  unfold Parser.identifier at hleft
  split at hleft <;> cases hleft
  · exact hleftover.use (by nofun) rest
  · exact hleftover.use (by nofun) rest
  · exact hleftover.refl _

theorem constant : Leaves Related constant := by
  have hminus : Plain (.symbol .minus) := plain_symbol (by decide)
  intro tokens rest hleft
  unfold Parser.constant at hleft
  split at hleft <;> cases hleft
  · exact hleftover.trans (hleftover.use hminus _) (hleftover.use (by nofun) rest)
  · exact hleftover.use hminus rest
  · exact hleftover.use (by nofun) rest
  · exact hleftover.use (by nofun) rest
  · exact hleftover.use (by nofun) rest
  · exact hleftover.refl _

theorem acceptCompositeKind : Leaves Related acceptCompositeKind := by
  intro tokens rest hleft
  unfold Grammar.acceptCompositeKind at hleft
  split at hleft
  next token behind =>
    split at hleft
    next kind hspelled =>
      cases hleft
      exact hleftover.trans (hleftover.use (plain_of_spelledIn? hspelled) _)
        (hleftover.use (plain_symbol (by decide)) rest)
    next =>
      cases hleft
      exact hleftover.refl _
  next =>
    cases hleft
    exact hleftover.refl _

theorem qualifiedName : Leaves Related qualifiedName :=
  hleftover.leaves fun origin ↦ .qualifiedName (hleftover.respects hleftover.identifier origin)
    (hleftover.respects (hleftover.accept (hleftover.use (plain_symbol (by decide)))) origin)

theorem plainType : Leaves Related plainType := by
  have huser : Leaves Related userType := hleftover.leaves fun origin ↦
    (hleftover.respects hleftover.qualifiedName origin).bind fun _ ↦ .pure _
  intro tokens rest hleft
  unfold Grammar.plainType at hleft
  split at hleft
  next className behind =>
    cases hleft
    exact hleftover.use (by nofun) rest
  next token behind _ =>
    split at hleft
    next name hspelled =>
      cases hleft
      exact hleftover.use (plain_of_spelledIn? hspelled) rest
    next => exact huser _ rest hleft
  next => exact huser [] rest hleft

theorem respectedInClauses (origin : List Token) : RespectedInClauses (LeftOf Related origin) := by
  have haccept : ∀ symbol ∈ enclosing, Leaves Related (Parser.accept symbol) := by
    intro symbol hsymbol
    have hall : ∀ symbol ∈ enclosing, symbol ∉ introducing := by decide
    exact hleftover.accept (hleftover.use (plain_symbol (hall symbol hsymbol)))
  exact
    { weight_eq := fun first second hleft ↦ by rw [hleft.1]
      compositeKind := hleftover.respects hleftover.acceptCompositeKind origin
      comma := hleftover.respects (haccept .comma (by decide)) origin
      closingAngle := hleftover.respects hleftover.expectClosingAngle origin
      plainType := hleftover.respects hleftover.plainType origin
      accept := fun symbol hsymbol ↦ hleftover.respects (haccept symbol hsymbol) origin
      words := fun keywords ↦ hleftover.respects (hleftover.acceptWords keywords) origin
      identifier := hleftover.respects hleftover.identifier origin
      ended := hleftover.respects hleftover.expectEnd origin }

/-- Assumes: what introduces constants may be used up as well. The relation is respected wherever
tokens are looked at. -/
theorem respected
    (hintroduced : ∀ symbol ∈ introducing, ∀ rest, Related (.symbol symbol :: rest) rest)
    (origin : List Token) : Respected (LeftOf Related origin) where
  toRespectedInClauses := hleftover.respectedInClauses origin
  introduced symbol hsymbol :=
    hleftover.respects (hleftover.accept (hintroduced symbol hsymbol)) origin
  sees symbol _ := hleftover.respects (hleftover.sees symbol) origin
  constant := hleftover.respects hleftover.constant origin

end Leftover

end Parser

end SchemaTemplate.Grammar
