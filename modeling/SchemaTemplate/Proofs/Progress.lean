import SchemaTemplate.Proofs.ClosingAngles
import SchemaTemplate.Proofs.Lookahead

/-!
Parsers make progress. Wherever a parser comes to an end, with a value or for want of something
expected, what is left is what is behind the tokens that it used up (`Grammar.Parser.Advances`), so
a cursor in front of it never moves back, and no token changes but two closing angles without a gap,
of which one may be left. The weight of the tokens falls by one for each token or angle used up, and
the parsers on which loops and the recursion of types turn use up at least one
(`Grammar.Parser.Progresses`).

The loops and the recursion are written with bounds. These are never reached: with the weight as the
bound, each reads as it would without one (`Grammar.EndsByItself`, `Grammar.columnType_eq`).
-/

set_option autoImplicit false
set_option relaxedAutoImplicit false

namespace SchemaTemplate.Grammar

open SchemaTemplate.Grammar.Parser

variable {Value Result State : Type} {tokens rest behind : List Token}

/-! ### What is left -/

theorem weight_append (first second : List Token) :
    weight (first ++ second) = weight first + weight second := by
  simp only [weight, List.length_append, List.count_append]
  omega

theorem weight_lt_weight_append (used rest : List Token) (hused : used ≠ []) :
    weight rest < weight (used ++ rest) := by
  have hpositive := List.length_pos_iff.2 hused
  rw [weight_append, weight.eq_def used]
  omega

theorem weight_lt_weight_cons (token : Token) (rest : List Token) :
    weight rest < weight (token :: rest) :=
  weight_lt_weight_append [token] rest (List.cons_ne_nil token [])

theorem length_singleAngles (tokens : List Token) :
    (singleAngles tokens).length = weight tokens := by
  induction tokens with
  | nil => rfl
  | cons token rest ih =>
    by_cases hshift : token = .symbol .shiftRight
    · subst hshift
      simp only [weight, singleAngles_shiftRight, List.length_cons, List.count_cons_self] at ih ⊢
      omega
    · rw [singleAngles_cons_of_ne hshift, List.length_cons, ih, weight, weight, List.length_cons,
        List.count_cons_of_ne hshift]
      omega

/-- Whether a cursor at a position has these tokens in front of it. Two closing angles without a gap
at the very position may have become one, and all else is as it was. -/
def CursorAt (tokens : List Token) (position : Nat) (rest : List Token) : Prop :=
  position ≤ tokens.length ∧
    (rest = tokens.drop position ∨ (tokens[position]? = some (.symbol .shiftRight) ∧
      rest = (tokens.set position (.symbol .greater)).drop position))

namespace UsesUp

variable {used : List Token}

theorem refl (tokens : List Token) : UsesUp tokens [] tokens := .whole [] tokens

/-- The weight falls by one for each token or closing angle used up. -/
theorem weight_eq (huses : UsesUp tokens used rest) :
    weight tokens = used.length + weight rest := by
  cases huses with
  | whole used rest => rw [weight_append, length_singleAngles]
  | cut used rest =>
    rw [weight_append, List.length_append, length_singleAngles, List.length_singleton, weight,
      weight, weight, List.length_cons, List.length_cons, List.count_cons_self,
      List.count_cons_of_ne (by decide)]
    omega

theorem weight_le (huses : UsesUp tokens used rest) : weight rest ≤ weight tokens := by
  rw [huses.weight_eq]
  exact Nat.le_add_left _ _

/-- The cursor is where as many tokens are left, so it moves on when more is used up. -/
theorem cursorAt (huses : UsesUp tokens used rest) :
    CursorAt tokens (tokens.length - rest.length) rest := by
  cases huses with
  | whole used rest => simp [CursorAt]
  | cut used rest => simp [CursorAt]

end UsesUp

namespace Parser

/-- Whether rest is what is behind some tokens that are used up. -/
def LeftBehind (tokens rest : List Token) : Prop := ∃ used, UsesUp tokens used rest

/-- Whether a parser leaves what is behind the tokens that it uses up, wherever it comes to an
end. -/
def Advances (parser : Parser Value) : Prop := Leaves LeftBehind parser

/-- Whether a parser that succeeds has used up at least one token or closing angle. -/
def Progresses (parser : Parser Value) : Prop :=
  ∀ tokens value rest, parser tokens = .ok (value, rest) → weight rest < weight tokens

theorem Advances.weight_le {parser : Parser Value} (hadvances : Advances parser) {value : Value}
    (hok : parser tokens = .ok (value, rest)) : weight rest ≤ weight tokens := by
  obtain ⟨used, hused⟩ := Leaves.of_ok hadvances hok
  exact hused.weight_le

theorem LeftBehind.trans {first second third : List Token} (hfirst : LeftBehind first second)
    (hsecond : LeftBehind second third) : LeftBehind first third := by
  obtain ⟨used, hused⟩ := hfirst
  obtain ⟨more, hmore⟩ := hsecond
  exact ⟨used ++ more, hused.trans hmore⟩

theorem leftBehind_cons (token : Token) (rest : List Token) : LeftBehind (token :: rest) rest :=
  ⟨_, .whole [token] rest⟩

theorem leftover_leftBehind : Leftover LeftBehind where
  refl tokens := ⟨[], .refl tokens⟩
  trans := LeftBehind.trans
  use _ rest := leftBehind_cons _ rest
  cut rest := ⟨_, .cut [] rest⟩

/-! ### Parsers that look at tokens -/

theorem advances_sees (symbol : Symbol) : Advances (sees symbol) := leftover_leftBehind.sees symbol

theorem advances_accept (symbol : Symbol) : Advances (accept symbol) :=
  leftover_leftBehind.accept (leftBehind_cons _)

theorem advances_expectClosingAngle : Advances expectClosingAngle :=
  leftover_leftBehind.expectClosingAngle

theorem advances_expectEnd : Advances expectEnd := leftover_leftBehind.expectEnd

/-- Words that are used up are there, so the cursor does not move behind the last token. -/
theorem advances_acceptWords (keywords : List Keyword) : Advances (acceptWords keywords) :=
  leftover_leftBehind.acceptWords keywords

theorem advances_identifier : Advances identifier := leftover_leftBehind.identifier

theorem advances_qualifiedName : Advances qualifiedName := leftover_leftBehind.qualifiedName

theorem advances_constant : Advances constant := leftover_leftBehind.constant

/-! ### Parsers that are put together -/

theorem Advances.respects {parser : Parser Value} (hadvances : Advances parser)
    (origin : List Token) : Respects (LeftOf LeftBehind origin) parser :=
  leftover_leftBehind.respects hadvances origin

theorem advances_of_respects {parser : Parser Value}
    (hrespects : ∀ origin, Respects (LeftOf LeftBehind origin) parser) : Advances parser :=
  leftover_leftBehind.leaves hrespects

theorem advances_expect (symbol : Symbol) : Advances (expect symbol) :=
  advances_of_respects fun origin ↦ ((advances_accept symbol).respects origin).expect

theorem advances_expectWord (keyword : Keyword) : Advances (expectWord keyword) :=
  advances_of_respects fun origin ↦ ((advances_acceptWords [keyword]).respects origin).expectWord

theorem respected_behind (origin : List Token) : Respected (LeftOf LeftBehind origin) :=
  leftover_leftBehind.respected (fun symbol _ rest ↦ leftBehind_cons (.symbol symbol) rest) origin

end Parser

theorem advances_commaSeparated {item : State → Parser State}
    (hitem : ∀ state, Advances (item state)) (state : State) :
    Advances (commaSeparated item state) :=
  advances_of_respects fun origin ↦ (respected_behind origin).commaSeparated
    (fun state ↦ (hitem state).respects origin) state

/-! ### Loops -/

/-- Whether a separator uses up something if it comes next, and nothing otherwise. -/
def Divides (separator : Parser Bool) : Prop :=
  ∀ tokens, separator tokens = .ok (false, tokens) ∨
    ∃ rest, separator tokens = .ok (true, rest) ∧ weight rest < weight tokens

theorem divides_accept (symbol : Symbol) : Divides (accept symbol) := by
  intro tokens
  by_cases hhead : tokens.head? = some (.symbol symbol)
  · obtain ⟨rest, rfl⟩ := List.head?_eq_some_iff.1 hhead
    exact .inr ⟨rest, accept_self symbol rest, weight_lt_weight_cons _ rest⟩
  · exact .inl (accept_eq_false_iff.2 ⟨hhead, rfl⟩)

theorem divides_acceptWord (keyword : Keyword) : Divides (acceptWord keyword) := by
  intro tokens
  cases hbegins : beginsWith [keyword] tokens with
  | false => exact .inl (acceptWords_eq_false_iff.2 ⟨hbegins, rfl⟩)
  | true =>
    obtain ⟨token, rest, rfl, -⟩ := beginsWith_cons_iff.1 hbegins
    exact .inr ⟨rest, acceptWords_eq_true_iff.2 ⟨hbegins, rfl⟩, weight_lt_weight_cons token rest⟩

theorem Divides.weight_lt {separator : Parser Bool} (hdivides : Divides separator)
    (hok : separator tokens = .ok (true, rest)) : weight rest < weight tokens := by
  obtain hnone | ⟨left, hsome, hlt⟩ := hdivides tokens
  · cases hok.symm.trans hnone
  · cases hok.symm.trans hsome
    exact hlt

/-- Assumes: what comes after a parser is the same for every value that it reads from some tokens.
Both together are the same on them. -/
theorem run_bind_congr {parser : Parser Value} {first second : Value → Parser Result}
    (hsame : ∀ value rest, parser tokens = .ok (value, rest) →
      first value rest = second value rest) :
    (parser >>= first) tokens = (parser >>= second) tokens := by
  show (parser tokens >>= fun read ↦ first read.1 read.2) =
    (parser tokens >>= fun read ↦ second read.1 read.2)
  cases hend : parser tokens with
  | error rejection => rfl
  | ok read => exact hsame read.1 read.2 hend

section

variable {separator : Parser Bool} {item other : State → Parser State} {state : State}

/-- One more separator allows nothing more if the bound is the weight of the tokens or above. -/
theorem listAtMost_succ (hdivides : Divides separator) (hitem : ∀ state, Advances (item state))
    {more : Nat} (hle : weight tokens ≤ more) :
    listAtMost separator item (more + 1) state tokens = listAtMost separator item more state tokens
      := by
  induction more generalizing state tokens with
  | zero =>
    rw [listAtMost, listAtMost, ← bind_pure (item state)]
    simp only [bind_assoc, pure_bind]
    refine run_bind_congr fun next left hok ↦ ?_
    obtain hnone | ⟨behind, -, hlt⟩ := hdivides left
    · rw [run_bind hnone]
      rfl
    · have hbound := (hitem state).weight_le hok
      omega
  | succ more ih =>
    rw [listAtMost, listAtMost]
    refine run_bind_congr fun next left hok ↦ run_bind_congr fun met behind hmet ↦ ?_
    cases met with
    | false => rfl
    | true =>
      have hbound := (hitem state).weight_le hok
      have hlt := hdivides.weight_lt hmet
      exact ih (by omega)

theorem listAtMost_of_le (hdivides : Divides separator) (hitem : ∀ state, Advances (item state))
    {more : Nat} (hle : weight tokens ≤ more) :
    listAtMost separator item more state tokens = separated separator item state tokens := by
  induction hle with
  | refl => rfl
  | step hle ih => rw [listAtMost_succ hdivides hitem hle, ih]

/-- Assumes: items that are read alike from tokens up to some weight. So are lists of them. -/
theorem listAtMost_congr (hdivides : Divides separator) (hitem : ∀ state, Advances (item state))
    {limit : Nat} (hsame : ∀ state tokens, weight tokens ≤ limit →
      item state tokens = other state tokens) {more : Nat} (hle : weight tokens ≤ limit) :
    listAtMost separator item more state tokens = listAtMost separator other more state tokens := by
  induction more generalizing state tokens with
  | zero => exact hsame state tokens hle
  | succ more ih =>
    rw [listAtMost, listAtMost]
    have hfirst : ∀ next : State → Parser State,
        (item state >>= next) tokens = (other state >>= next) tokens := by
      intro next
      show (item state tokens >>= _) = (other state tokens >>= _)
      rw [hsame state tokens hle]
    rw [← hfirst]
    refine run_bind_congr fun next left hok ↦ run_bind_congr fun met behind hmet ↦ ?_
    cases met with
    | false => rfl
    | true =>
      have hbound := (hitem state).weight_le hok
      have hlt := hdivides.weight_lt hmet
      exact ih (by omega)

/-- Whether a loop ends by itself: every round of it uses up something, and it goes on exactly as
long as there are separators, as if no bound were set. -/
structure EndsByItself (separator : Parser Bool) (item : State → Parser State) : Prop where
  round : ∀ {state next tokens left behind}, item state tokens = .ok (next, left) →
    separator left = .ok (true, behind) → weight behind < weight tokens
  unbounded : ∀ state, separated separator item state = do
    let next ← item state
    if ← separator then separated separator item next else return next

theorem endsByItself (hdivides : Divides separator) (hitem : ∀ state, Advances (item state)) :
    EndsByItself separator item where
  round hok hmore := by
    have hbound := (hitem _).weight_le hok
    have hlt := hdivides.weight_lt hmore
    omega
  unbounded state := by
    funext tokens
    rw [← listAtMost_of_le hdivides hitem (Nat.le_succ (weight tokens)), listAtMost]
    refine run_bind_congr fun next left hok ↦ run_bind_congr fun met behind hmet ↦ ?_
    cases met with
    | false => rfl
    | true =>
      have hbound := (hitem state).weight_le hok
      have hlt := hdivides.weight_lt hmet
      exact listAtMost_of_le hdivides hitem (by omega)

end

/-! ### Types -/

theorem advances_typeNested (depth : Nat) : Advances (typeNested depth) :=
  advances_of_respects fun origin ↦ (respected_behind origin).typeNested depth

theorem advances_columnType : Advances columnType :=
  advances_of_respects fun origin ↦ (respected_behind origin).columnType

theorem advances_elementType {type : Parser ColumnType} (htype : Advances type)
    (elements : List ColumnType) : Advances (elementType type elements) :=
  advances_of_respects fun origin ↦ (htype.respects origin).bind fun element ↦
    .pure (elements ++ [element])

theorem weight_lt_of_acceptCompositeKind {kind : String}
    (hok : acceptCompositeKind tokens = .ok (some kind, rest)) : weight rest < weight tokens := by
  obtain ⟨token, rfl, -⟩ := acceptCompositeKind_eq_some_iff.1 hok
  exact Nat.lt_trans (weight_lt_weight_cons _ rest) (weight_lt_weight_cons token _)

/-- A type with the types of its elements read by `type`. -/
def typeOver (type : Parser ColumnType) : Parser ColumnType := do
  match ← acceptCompositeKind with
  | some kind =>
    let elements ← commaSeparated (elementType type) []
    expectClosingAngle
    return .composite kind elements
  | none => plainType

theorem typeNested_eq_typeOver (depth : Nat) :
    typeNested (depth + 1) = typeOver (typeNested depth) := rfl

/-- Assumes: two parsers of element types that read alike what weighs less than the tokens. So do
the types over them read the tokens. -/
theorem typeOver_congr {first second : Parser ColumnType} (hfirst : Advances first)
    (hsame : ∀ left, weight left < weight tokens → first left = second left) :
    typeOver first tokens = typeOver second tokens := by
  refine run_bind_congr fun found left hok ↦ ?_
  cases found with
  | none => rfl
  | some kind =>
    have hlt := weight_lt_of_acceptCompositeKind hok
    have helement : ∀ elements more, weight more ≤ weight left →
        elementType first elements more = elementType second elements more := by
      intro elements more hle
      show (first more >>= _) = (second more >>= _)
      rw [hsame more (by omega)]
    have helements : commaSeparated (elementType first) [] left =
        commaSeparated (elementType second) [] left :=
      listAtMost_congr (divides_accept .comma) (advances_elementType hfirst) helement
        (Nat.le_refl _)
    show (commaSeparated (elementType first) [] left >>= _) =
      (commaSeparated (elementType second) [] left >>= _)
    rw [helements]

/-- Deeper nesting allows nothing more if the bound is the weight of the tokens or above. -/
theorem typeNested_succ {depth : Nat} (hle : weight tokens ≤ depth) :
    typeNested (depth + 1) tokens = typeNested depth tokens := by
  induction depth generalizing tokens with
  | zero =>
    cases tokens with
    | nil => rfl
    | cons token rest =>
      have hlt := weight_lt_weight_cons token rest
      omega
  | succ depth ih =>
    show typeOver (typeNested (depth + 1)) tokens = typeOver (typeNested depth) tokens
    exact typeOver_congr (advances_typeNested _) fun left hlt ↦ ih (by omega)

theorem typeNested_of_le {depth : Nat} (hle : weight tokens ≤ depth) :
    typeNested depth tokens = columnType tokens := by
  induction hle with
  | refl => rfl
  | step hle ih => rw [typeNested_succ hle, ih]

/-- The types of elements are types, with no bound on how deep they are nested. -/
theorem columnType_eq : columnType = typeOver columnType := by
  funext tokens
  rw [← typeNested_of_le (Nat.le_succ (weight tokens)), typeNested_eq_typeOver]
  exact typeOver_congr (advances_typeNested _) fun left hlt ↦ typeNested_of_le (Nat.le_of_lt hlt)

/-- Whether the reading of a type from some tokens goes on to the type of an element from others. -/
inductive ReadsElement (tokens : List Token) : List Token → Prop
  | first {kind : String} {behind : List Token}
    (hkind : acceptCompositeKind tokens = .ok (some kind, behind)) : ReadsElement tokens behind
  | next {type : ColumnType} {element behind : List Token} (hbefore : ReadsElement tokens element)
    (helement : columnType element = .ok (type, .symbol .comma :: behind)) :
    ReadsElement tokens behind

theorem ReadsElement.weight_lt {element : List Token} (hreads : ReadsElement tokens element) :
    weight element < weight tokens := by
  induction hreads with
  | first hkind => exact weight_lt_of_acceptCompositeKind hkind
  | @next type element behind _ helement ih =>
    have hbound := advances_columnType.weight_le helement
    have hlt := weight_lt_weight_cons (.symbol .comma) behind
    omega

/-! ### Clauses -/

theorem advances_property : Advances property :=
  advances_of_respects fun origin ↦ (respected_behind origin).property

theorem advances_propertyValue : Advances propertyValue :=
  advances_of_respects fun origin ↦ (respected_behind origin).propertyValue

theorem advances_staticMark (column : Identifier) (definition : TableDefinition) :
    Advances (staticMark column definition) :=
  advances_of_respects fun origin ↦ (respected_behind origin).staticMark column definition

theorem advances_keyMark (column : Identifier) (definition : TableDefinition) :
    Advances (keyMark column definition) :=
  advances_of_respects fun origin ↦ (respected_behind origin).keyMark column definition

theorem advances_partitionKey (definition : TableDefinition) : Advances (partitionKey definition) :=
  advances_of_respects fun origin ↦ (respected_behind origin).partitionKey definition

theorem advances_clusteringKey (definition : TableDefinition) :
    Advances (clusteringKey definition) :=
  advances_of_respects fun origin ↦ (respected_behind origin).clusteringKey definition

theorem advances_columnClause (definition : TableDefinition) : Advances (columnClause definition) :=
  advances_of_respects fun origin ↦ (respected_behind origin).columnClause definition

theorem advances_primaryKeyClause (definition : TableDefinition) :
    Advances (primaryKeyClause definition) :=
  advances_of_respects fun origin ↦ (respected_behind origin).primaryKeyClause definition

theorem advances_definitionClause (definition : TableDefinition) :
    Advances (definitionClause definition) :=
  advances_of_respects fun origin ↦ (respected_behind origin).definitionClause definition

theorem advances_definitionClauses (definition : TableDefinition) :
    Advances (definitionClauses definition) :=
  advances_of_respects fun origin ↦ (respected_behind origin).definitionClauses definition

theorem advances_orderedColumn (definition : TableDefinition) :
    Advances (orderedColumn definition) :=
  advances_of_respects fun origin ↦ (respected_behind origin).orderedColumn definition

theorem advances_clusteringOrderOption (definition : TableDefinition) :
    Advances (clusteringOrderOption definition) :=
  advances_of_respects fun origin ↦ (respected_behind origin).clusteringOrderOption definition

theorem advances_tableOption (definition : TableDefinition) : Advances (tableOption definition) :=
  advances_of_respects fun origin ↦
    (respected_behind origin).tableOption (respected_behind origin).property definition

theorem advances_keyspaceOption (settings : Settings) : Advances (keyspaceOption settings) :=
  advances_of_respects fun origin ↦ (respected_behind origin).property.keyspaceOption settings

theorem advances_statement : Advances statement :=
  advances_of_respects fun origin ↦ (respected_behind origin).statement

theorem advances_mapEntry {value : Parser Value} (hvalue : Advances value)
    (map : OrderedMap String Value) : Advances (mapEntry value map) :=
  advances_of_respects fun origin ↦ (respected_behind origin).mapEntry (hvalue.respects origin) map

theorem advances_mapOf {value : Parser Value} (hvalue : Advances value) : Advances (mapOf value) :=
  advances_of_respects fun origin ↦ (respected_behind origin).mapOf fun map ↦
    (advances_mapEntry hvalue map).respects origin

theorem advances_options : Advances options := advances_mapOf advances_constant

theorem advances_named (operation : Identifier → Except SchemaFault State) :
    Advances (identifier >>= fun name ↦ lift (operation name)) :=
  advances_of_respects fun origin ↦ (respected_behind origin).named operation

theorem progresses_plainType : Progresses plainType := by
  intro tokens type rest hok
  obtain ⟨token, _, rfl, -⟩ | ⟨className, rfl, -⟩ | ⟨_, _, hname, -⟩ := plainType_cases hok
  · exact weight_lt_weight_cons token rest
  · exact weight_lt_weight_cons _ rest
  · obtain ⟨token, _, rfl, -⟩ | ⟨first, _, second, _, rfl, -⟩ := qualifiedName_eq_ok_iff.1 hname
    · exact weight_lt_weight_cons token rest
    · exact weight_lt_weight_append [first, .symbol .period, second] rest (by simp)

theorem progresses_columnType : Progresses columnType := by
  intro tokens type rest hok
  rw [columnType_eq] at hok
  simp only [typeOver, run_bind_eq_ok_iff] at hok
  obtain ⟨_ | kind, behind, hkind, hok⟩ := hok
  · obtain rfl := eq_of_acceptCompositeKind_none hkind
    exact progresses_plainType tokens type rest hok
  · simp only [run_bind_eq_ok_iff, run_pure_eq_ok_iff] at hok
    obtain ⟨elements, left, helements, _, _, hclosing, -, rfl⟩ := hok
    calc weight _ ≤ weight left := advances_expectClosingAngle.weight_le hclosing
      _ ≤ weight behind := (advances_commaSeparated
          (advances_elementType advances_columnType) []).weight_le helements
      _ < weight tokens := weight_lt_of_acceptCompositeKind hkind

theorem progresses_property : Progresses property := by
  intro tokens update rest hok
  obtain ⟨token, _, behind, rfl, -, hvalue⟩ := property_cases hok
  refine Nat.lt_of_le_of_lt ?_ (weight_lt_weight_append [token, .symbol .equals] behind (by simp))
  obtain ⟨-, custom, hread, -⟩ | ⟨-, value, hread, -⟩ := hvalue
  · exact (advances_mapOf (advances_mapOf advances_constant)).weight_le hread
  · exact advances_propertyValue.weight_le hread

theorem progresses_columnClause (definition : TableDefinition) :
    Progresses (columnClause definition) := by
  intro tokens next rest hok
  obtain ⟨token, column, behind, type, left, declared, marked, more, rfl, -, htype, -, hstatic,
    hkey⟩ := columnClause_cases hok
  calc weight rest ≤ weight more := (advances_keyMark column marked).weight_le hkey
    _ ≤ weight left := (advances_staticMark column declared).weight_le hstatic
    _ < weight behind := progresses_columnType behind type left htype
    _ < weight (token :: behind) := weight_lt_weight_cons token behind

theorem progresses_primaryKeyClause (definition : TableDefinition) :
    Progresses (primaryKeyClause definition) := by
  intro tokens next rest hok
  obtain ⟨begun, behind, partitioned, left, rfl, -, hpartition, hclustering⟩ :=
    primaryKeyClause_cases hok
  calc weight rest < weight (.symbol .rightParenthesis :: rest) := weight_lt_weight_cons _ rest
    _ ≤ weight left := (advances_clusteringKey partitioned).weight_le hclustering
    _ ≤ weight behind := (advances_partitionKey begun).weight_le hpartition
    _ < weight (.symbol .leftParenthesis :: behind) := weight_lt_weight_cons _ behind

/-- Words that are used up leave less. -/
theorem weight_lt_of_acceptWords {keyword : Keyword} {keywords : List Keyword}
    (hok : acceptWords (keyword :: keywords) tokens = .ok (true, rest)) :
    weight rest < weight tokens := by
  obtain ⟨hbegins, rfl⟩ := acceptWords_eq_true_iff.1 hok
  obtain ⟨token, behind, rfl, -, hbehind⟩ := beginsWith_cons_iff.1 hbegins
  have hrest := (advances_acceptWords keywords).weight_le
    (acceptWords_eq_true_iff.2 ⟨hbehind, rfl⟩)
  exact Nat.lt_of_le_of_lt hrest (weight_lt_weight_cons token behind)

theorem progresses_tableOption (definition : TableDefinition) :
    Progresses (tableOption definition) := by
  intro tokens next rest hok
  obtain ⟨behind, hwords, horder⟩ | ⟨hwords, -⟩ | ⟨-, -, update, hproperty, -⟩ :=
    tableOption_cases hok
  · exact Nat.lt_of_le_of_lt ((advances_clusteringOrderOption definition).weight_le horder)
      (weight_lt_of_acceptWords hwords)
  · exact weight_lt_of_acceptWords hwords
  · exact progresses_property tokens update rest hproperty

/-- Parsing makes progress and ends. Whatever the tokens are, well formed or not, each helper, each
clause and the whole statement leave only what is behind the tokens that they use up, also where
they find something unexpected. Using up tokens or closing angles lowers the weight of what is left
by their number, and it moves the cursor on, at most to the end of the tokens, of which none changes
but two closing angles without a gap at the cursor that become one. Words are used up only if all of
them are there. Types, properties, columns, primary keys and table options that are read lower the
weight. So every round of every loop lowers it, as does every step into an element type, and the
loops and the types are read as they would be without any bound. -/
theorem parsing_progresses :
    (∀ tokens used rest, UsesUp tokens used rest → weight tokens = used.length + weight rest ∧
      CursorAt tokens (tokens.length - rest.length) rest) ∧
    ((∀ symbol, Advances (sees symbol) ∧ Advances (accept symbol) ∧ Advances (expect symbol)) ∧
      Advances expectClosingAngle ∧ Advances expectEnd ∧
      (∀ keywords, Advances (acceptWords keywords)) ∧
      (∀ keyword, Advances (expectWord keyword)) ∧
      Advances identifier ∧ Advances qualifiedName ∧ Advances constant) ∧
    (∀ keywords tokens rest, acceptWords keywords tokens = .ok (true, rest) →
      keywords.length ≤ tokens.length ∧ rest = tokens.drop keywords.length) ∧
    (Advances columnType ∧ Advances options ∧ Advances customProperties ∧ Advances propertyValue ∧
      Advances property ∧ ∀ definition, Advances (definitionClauses definition) ∧
        Advances (columnClause definition) ∧ Advances (primaryKeyClause definition) ∧
        Advances (tableOption definition)) ∧
    Advances statement ∧
    (Progresses columnType ∧ Progresses property ∧
      ∀ definition, Progresses (columnClause definition) ∧
        Progresses (primaryKeyClause definition) ∧ Progresses (tableOption definition)) ∧
    (EndsByItself (accept .comma) (elementType columnType) ∧
      EndsByItself (accept .comma) (mapEntry constant) ∧
      EndsByItself (accept .comma) (mapEntry options) ∧
      EndsByItself (accept .comma) definitionClause ∧
      EndsByItself (accept .comma) partitionColumn ∧
      EndsByItself (accept .comma) clusteringColumn ∧
      EndsByItself (accept .comma) orderedColumn ∧
      EndsByItself (acceptWord .andWord) keyspaceOption ∧
      EndsByItself (acceptWord .andWord) tableOption) ∧
    columnType = typeOver columnType ∧
    ∀ tokens element, ReadsElement tokens element → weight element < weight tokens := by
  refine ⟨fun tokens used rest huses ↦ ⟨huses.weight_eq, huses.cursorAt⟩, ⟨fun symbol ↦
    ⟨advances_sees symbol, advances_accept symbol, advances_expect symbol⟩,
      advances_expectClosingAngle, advances_expectEnd, advances_acceptWords, advances_expectWord,
      advances_identifier, advances_qualifiedName, advances_constant⟩, ?_,
    ⟨advances_columnType, advances_options, advances_mapOf advances_options,
      advances_propertyValue, advances_property, fun definition ↦
        ⟨advances_definitionClauses definition, advances_columnClause definition,
          advances_primaryKeyClause definition, advances_tableOption definition⟩⟩,
    advances_statement,
    ⟨progresses_columnType, progresses_property, fun definition ↦
      ⟨progresses_columnClause definition, progresses_primaryKeyClause definition,
        progresses_tableOption definition⟩⟩, ?_, columnType_eq,
    fun tokens element hreads ↦ hreads.weight_lt⟩
  · intro keywords tokens rest hok
    obtain ⟨hbegins, rfl⟩ := acceptWords_eq_true_iff.1 hok
    exact ⟨length_le_of_beginsWith hbegins, rfl⟩
  · have hcomma := divides_accept .comma
    have hand := divides_acceptWord .andWord
    exact ⟨endsByItself hcomma (advances_elementType advances_columnType),
      endsByItself hcomma (advances_mapEntry advances_constant),
      endsByItself hcomma (advances_mapEntry advances_options),
      endsByItself hcomma advances_definitionClause,
      endsByItself hcomma fun definition ↦ advances_named definition.addPartitionColumn,
      endsByItself hcomma fun definition ↦ advances_named definition.addClusteringColumn,
      endsByItself hcomma advances_orderedColumn, endsByItself hand advances_keyspaceOption,
      endsByItself hand advances_tableOption⟩

end SchemaTemplate.Grammar
