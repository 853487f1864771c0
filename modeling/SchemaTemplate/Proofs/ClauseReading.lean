import SchemaTemplate.Grammar.Statement
import SchemaTemplate.Grammar.Writing
import SchemaTemplate.Schema.Soundness

/-!
How the parsers read what `Grammar.tokensOf` writes. A statement is made of clauses, runs of tokens
that stand for operations on what is being defined. `Grammar.Clause` holds such a run with its
operation, and `Grammar.Clause.ReadBy` says that a parser reads the run by carrying the operation
out. Lists of clauses are read by carrying their operations out one after the other, whatever these
are, so that nothing here depends on whether a definition is free of contradictions.
-/

set_option autoImplicit false
set_option relaxedAutoImplicit false

namespace SchemaTemplate.Grammar

/-- Two operations in a row succeed exactly if the first does and then the second. -/
theorem bind_eq_ok_iff {Fault First Second : Type} {outcome : Except Fault First}
    {next : First → Except Fault Second} {result : Second} :
    (outcome >>= next) = .ok result ↔ ∃ value, outcome = .ok value ∧ next value = .ok result := by
  cases outcome <;> simp [bind, Except.bind]

namespace Parser

variable {Value Result : Type} {tokens rest : List Token}

/-! ### Steps -/

/-- Assumes: a parser that reads a value. What comes after it goes on with the value and the tokens
that are left. -/
theorem run_bind {parser : Parser Value} {value : Value}
    (hread : parser tokens = .ok (value, rest)) (next : Value → Parser Result) :
    (parser >>= next) tokens = next value rest := by
  show (parser tokens >>= fun read ↦ next read.1 read.2) = _
  rw [hread]
  rfl

/-- Assumes: a parser that reads a value. Changing the value leaves the tokens. -/
theorem run_map {parser : Parser Value} {value : Value}
    (hread : parser tokens = .ok (value, rest)) (change : Value → Result) :
    (change <$> parser) tokens = .ok (change value, rest) := by
  rw [map_eq_pure_bind, run_bind hread]
  rfl

theorem run_lift {outcome : Except SchemaFault Value} {value : Value}
    (hok : outcome = .ok value) (tokens : List Token) :
    lift outcome tokens = .ok (value, tokens) := by
  rw [hok]
  rfl

/-! ### Symbols -/

theorem accept_self (symbol : Symbol) (rest : List Token) :
    accept symbol (.symbol symbol :: rest) = .ok (true, rest) := by
  simp [accept]

theorem accept_of_ne {symbol found : Symbol} (hother : found ≠ symbol) (rest : List Token) :
    accept symbol (.symbol found :: rest) = .ok (false, .symbol found :: rest) := by
  simp [accept, hother]

theorem expect_self (symbol : Symbol) (rest : List Token) :
    expect symbol (.symbol symbol :: rest) = .ok ((), rest) := by
  rw [expect, run_bind (accept_self symbol rest)]
  rfl

/-! ### Words -/

theorem isWord_self (spelling : String) : isWord spelling (.word spelling) = true := by
  simp [isWord, sameLetters]

theorem beginsWith_wordsOf (keywords : List Keyword) (rest : List Token) :
    beginsWith keywords (wordsOf keywords ++ rest) = true := by
  induction keywords with
  | nil => rfl
  | cons keyword keywords ih =>
    show (isWord keyword.text (.word keyword.text) && _) = true
    rw [isWord_self, Bool.true_and]
    exact ih

/-- Words are read as they are written. -/
theorem acceptWords_wordsOf (keywords : List Keyword) (rest : List Token) :
    acceptWords keywords (wordsOf keywords ++ rest) = .ok (true, rest) := by
  have hlength : (wordsOf keywords).length = keywords.length := by simp [wordsOf]
  rw [acceptWords, if_pos (beginsWith_wordsOf keywords rest), ← hlength, List.drop_left]

theorem acceptWord_self (keyword : Keyword) (rest : List Token) :
    acceptWord keyword (.word keyword.text :: rest) = .ok (true, rest) :=
  acceptWords_wordsOf [keyword] rest

theorem expectWord_self (keyword : Keyword) (rest : List Token) :
    expectWord keyword (.word keyword.text :: rest) = .ok ((), rest) := by
  rw [expectWord, run_bind (acceptWord_self keyword rest)]
  rfl

/-- Whether a word does not come next. -/
def Lacks (keyword : Keyword) (tokens : List Token) : Prop :=
  ∀ token ∈ tokens.head?, isWord keyword.text token = false

/-- Assumes: tokens that do not begin with a word. No words beginning with that are used up. -/
theorem acceptWords_of_lacks {keyword : Keyword} (hlacks : Lacks keyword tokens)
    (keywords : List Keyword) :
    acceptWords (keyword :: keywords) tokens = .ok (false, tokens) := by
  cases tokens with
  | nil => rfl
  | cons token rest =>
    rw [acceptWords, beginsWith, hlacks token rfl, Bool.false_and, if_neg Bool.false_ne_true]

theorem acceptWord_of_lacks {keyword : Keyword} (hlacks : Lacks keyword tokens) :
    acceptWord keyword tokens = .ok (false, tokens) := acceptWords_of_lacks hlacks []

/-- A name in quotes is no word, whatever it says. -/
theorem lacks_nameToken (keyword : Keyword) (name : Identifier) (rest : List Token) :
    Lacks keyword (nameToken name :: rest) := by
  rintro _ ⟨⟩
  rfl

/-! ### Names -/

theorem identifier_nameToken (name : Identifier) (rest : List Token) :
    identifier (nameToken name :: rest) = .ok (name, rest) := rfl

theorem constant_string (text : String) (rest : List Token) :
    constant (.string text :: rest) = .ok (text, rest) := rfl

/-- Assumes: tokens that do not begin with a period. A name in front of them is read with the
keyspace that is given. -/
theorem qualifiedName_qualifiedTokens (hperiod : accept .period rest = .ok (false, rest))
    (keyspace : Option Identifier) (name : Identifier) :
    qualifiedName (qualifiedTokens keyspace name ++ rest) = .ok ((keyspace, name), rest) := by
  cases keyspace with
  | none =>
    show qualifiedName (nameToken name :: rest) = _
    rw [qualifiedName, run_bind (identifier_nameToken name rest), run_bind hperiod]
    rfl
  | some keyspace =>
    show qualifiedName (nameToken keyspace :: .symbol .period :: nameToken name :: rest) = _
    rw [qualifiedName, run_bind (identifier_nameToken keyspace _), run_bind (accept_self _ _)]
    show (identifier >>= _) _ = _
    rw [run_bind (identifier_nameToken name rest)]
    rfl

end Parser

open SchemaTemplate.Grammar.Parser

/-! ### Clauses -/

/-- Whether tokens can stand behind a clause: they begin with a separator or a closing bracket, or
there are none. -/
def Behind (tokens : List Token) : Prop :=
  ∀ token ∈ tokens.head?, token ∈ [.symbol .comma, .symbol .rightParenthesis,
    .symbol .rightBrace, .symbol .greater, .word Keyword.andWord.text]

/-- Behind a clause no period follows. -/
theorem Behind.accept_period {tokens : List Token} (hbehind : Behind tokens) :
    accept .period tokens = .ok (false, tokens) := by
  cases tokens with
  | nil => rfl
  | cons token rest =>
    have htoken := hbehind token rfl
    simp only [List.mem_cons, List.not_mem_nil, or_false] at htoken
    rcases htoken with rfl | rfl | rfl | rfl | rfl <;> rfl

/-- Behind a clause no word but `AND` follows. -/
theorem Behind.lacks {tokens : List Token} (hbehind : Behind tokens) {keyword : Keyword}
    (hother : keyword ≠ .andWord) : Lacks keyword tokens := by
  intro token hmem
  have htoken := hbehind token hmem
  simp only [List.mem_cons, List.not_mem_nil, or_false] at htoken
  rcases htoken with rfl | rfl | rfl | rfl | rfl
  any_goals rfl
  cases keyword <;> first | exact absurd rfl hother | decide

/-- A run of tokens with the operation that it stands for. -/
structure Clause (State : Type) where
  tokens : List Token
  effect : State → Except SchemaFault State

variable {State : Type}

/-- Whether a parser reads a clause by carrying out its operation. -/
def Clause.ReadBy (clause : Clause State) (item : State → Parser State) : Prop :=
  ∀ {state next rest}, clause.effect state = .ok next → Behind rest →
    item state (clause.tokens ++ rest) = .ok (next, rest)

/-- Whether a parser reads a clause by carrying out its operation, and in no other way. -/
def Clause.ReadExactlyBy (clause : Clause State) (item : State → Parser State) : Prop :=
  ∀ ⦃state next rest left⦄, item state (clause.tokens ++ rest) = .ok (next, left) ↔
    clause.effect state = .ok next ∧ left = rest

theorem Clause.ReadExactlyBy.readBy {clause : Clause State} {item : State → Parser State}
    (hexact : clause.ReadExactlyBy item) : clause.ReadBy item :=
  fun heffect _ ↦ hexact.2 ⟨heffect, rfl⟩

/-- Carries out the operations of clauses one after the other. -/
def applyAll (clauses : List (Clause State)) (state : State) : Except SchemaFault State :=
  clauses.foldlM (fun state clause ↦ clause.effect state) state

@[simp] theorem applyAll_nil (state : State) : applyAll [] state = .ok state := rfl

@[simp] theorem applyAll_singleton (clause : Clause State) (state : State) :
    applyAll [clause] state = clause.effect state := by
  simp [applyAll]

/-- Operations can be carried out exactly if the first can be and then the others. -/
theorem applyAll_cons_eq_ok_iff {clause : Clause State} {clauses : List (Clause State)}
    {state next : State} : applyAll (clause :: clauses) state = .ok next ↔
      ∃ between, clause.effect state = .ok between ∧ applyAll clauses between = .ok next := by
  rw [applyAll, List.foldlM_cons, bind_eq_ok_iff]
  rfl

theorem applyAll_append {firsts seconds : List (Clause State)} {state between next : State}
    (hfirst : applyAll firsts state = .ok between)
    (hsecond : applyAll seconds between = .ok next) :
    applyAll (firsts ++ seconds) state = .ok next := by
  rw [applyAll, List.foldlM_append, bind_eq_ok_iff]
  exact ⟨between, hfirst, hsecond⟩

/-- Assumes: a state for every list of items, and that the clause of an item leads from the state
for the items before it to the state with it. The clauses of all items lead to the state for all. -/
theorem applyAll_map {Item : Type} {clause : Item → Clause State} (reached : List Item → State)
    {items : List Item} (hstep : ∀ before item after, items = before ++ item :: after →
      (clause item).effect (reached before) = .ok (reached (before ++ [item]))) :
    applyAll (items.map clause) (reached []) = .ok (reached items) := by
  suffices hall : ∀ before after, items = before ++ after →
      applyAll (after.map clause) (reached before) = .ok (reached items) from hall [] items rfl
  intro before after hsplit
  induction after generalizing before with
  | nil =>
    rw [hsplit, List.append_nil]
    rfl
  | cons item after ih =>
    rw [List.map_cons, applyAll_cons_eq_ok_iff]
    exact ⟨reached (before ++ [item]), hstep before item after hsplit,
      ih (before ++ [item]) (by rw [hsplit, List.append_assoc, List.singleton_append])⟩

/-- Whether a parser uses up one token between clauses and nothing else. -/
structure Separates (separator : Parser Bool) (mark : Token) : Prop where
  accepts : ∀ rest, separator (mark :: rest) = .ok (true, rest)
  behind : ∀ rest, Behind (mark :: rest)

theorem separates_comma : Separates (accept .comma) (.symbol .comma) where
  accepts := accept_self .comma
  behind := by
    rintro rest _ ⟨⟩
    simp

theorem separates_and : Separates (acceptWord .andWord) (.word Keyword.andWord.text) where
  accepts := acceptWord_self .andWord
  behind := by
    rintro rest _ ⟨⟩
    simp

theorem joined_singleton (separator : Token) (run : List Token) : joined separator [run] = run := by
  simp [joined, List.intercalate]

theorem joined_cons_cons (separator : Token) (run next : List Token) (runs : List (List Token)) :
    joined separator (run :: next :: runs) =
      run ++ separator :: joined separator (next :: runs) := by
  simp [joined, List.intercalate]

theorem parenthesized_append (runs : List (List Token)) (rest : List Token) :
    parenthesized runs ++ rest = .symbol .leftParenthesis ::
      (joined (.symbol .comma) runs ++ .symbol .rightParenthesis :: rest) := by
  simp [parenthesized]

/-- There are no more separators between runs than tokens. -/
theorem length_le_length_joined (separator : Token) (run : List Token)
    (runs : List (List Token)) : runs.length ≤ (joined separator (run :: runs)).length := by
  induction runs generalizing run with
  | nil => exact Nat.zero_le _
  | cons next runs ih =>
    rw [joined_cons_cons, List.length_append, List.length_cons, List.length_cons]
    have := ih next
    omega

/-- No run is longer than all runs together. -/
theorem length_le_length_joined_of_mem (separator : Token) {run : List Token}
    {runs : List (List Token)} (hmem : run ∈ runs) :
    run.length ≤ (joined separator runs).length := by
  cases runs with
  | nil => cases hmem
  | cons first runs =>
    induction runs generalizing first with
    | nil =>
      obtain rfl := List.mem_singleton.1 hmem
      exact Nat.le_of_eq (by rw [joined_singleton])
    | cons next runs ih =>
      rw [joined_cons_cons, List.length_append, List.length_cons]
      rcases List.mem_cons.1 hmem with rfl | hmem
      · omega
      · have := ih next hmem
        omega

/-- Assumes: clauses that a parser reads and whose operations can be carried out. They are read with
a separator between them if no separator follows and there are not too many of them. -/
theorem listAtMost_clauses {separator : Parser Bool} {mark : Token}
    (hseparates : Separates separator mark) {item : State → Parser State} {clause : Clause State}
    {clauses : List (Clause State)} (hread : ∀ other ∈ clause :: clauses, other.ReadBy item)
    {more : Nat} (hmore : clauses.length ≤ more) {state next : State}
    (happly : applyAll (clause :: clauses) state = .ok next) {rest : List Token}
    (hbehind : Behind rest) (hlast : separator rest = .ok (false, rest)) :
    listAtMost separator item more state
        (joined mark ((clause :: clauses).map Clause.tokens) ++ rest) = .ok (next, rest) := by
  induction clauses generalizing clause more state with
  | nil =>
    have heffect : clause.effect state = .ok next := by
      simpa using happly
    have hclause := hread clause List.mem_cons_self heffect hbehind
    rw [List.map_singleton, joined_singleton]
    cases more with
    | zero => exact hclause
    | succ more =>
      rw [listAtMost, run_bind hclause, run_bind hlast]
      rfl
  | cons following clauses ih =>
    rw [applyAll_cons_eq_ok_iff] at happly
    obtain ⟨between, heffect, happly⟩ := happly
    obtain ⟨more, rfl⟩ : ∃ fewer, more = fewer + 1 := ⟨more - 1, by simp at hmore; omega⟩
    have hclause := hread clause List.mem_cons_self heffect (hseparates.behind
      (joined mark ((following :: clauses).map Clause.tokens) ++ rest))
    rw [List.map_cons, List.map_cons, joined_cons_cons, List.append_assoc, List.cons_append,
      ← List.map_cons, listAtMost, run_bind hclause, run_bind (hseparates.accepts _)]
    exact ih (fun other hmem ↦ hread other (List.mem_cons_of_mem _ hmem))
      (Nat.le_of_succ_le_succ hmore) happly

/-- Assumes: clauses that a parser reads and whose operations can be carried out. They are read with
a separator between them if no separator follows. -/
theorem separated_clauses {separator : Parser Bool} {mark : Token}
    (hseparates : Separates separator mark) {item : State → Parser State}
    {clauses : List (Clause State)} (hread : ∀ clause ∈ clauses, clause.ReadBy item)
    (hnonempty : clauses ≠ []) {state next : State} (happly : applyAll clauses state = .ok next)
    {rest : List Token} (hbehind : Behind rest) (hlast : separator rest = .ok (false, rest)) :
    separated separator item state (joined mark (clauses.map Clause.tokens) ++ rest) =
      .ok (next, rest) := by
  obtain ⟨clause, clauses, rfl⟩ := List.exists_cons_of_ne_nil hnonempty
  refine listAtMost_clauses hseparates hread ?_ happly hbehind hlast
  have hcount := length_le_length_joined mark clause.tokens (clauses.map Clause.tokens)
  rw [List.length_map] at hcount
  rw [List.map_cons, weight, List.length_append]
  omega

/-- Assumes: clauses that a parser reads and whose operations can be carried out. They are read with
commas between them in front of a closing bracket. -/
theorem commaSeparated_clauses {item : State → Parser State} {clauses : List (Clause State)}
    (hread : ∀ clause ∈ clauses, clause.ReadBy item) (hnonempty : clauses ≠ [])
    {state next : State} (happly : applyAll clauses state = .ok next) (bracket : Symbol)
    (hbracket : bracket ∈ [.rightParenthesis, .rightBrace, .greater]) (rest : List Token) :
    commaSeparated item state
        (joined (.symbol .comma) (clauses.map Clause.tokens) ++ .symbol bracket :: rest) =
      .ok (next, .symbol bracket :: rest) := by
  refine separated_clauses separates_comma hread hnonempty happly ?_ ?_
  · rintro _ ⟨⟩
    simp only [List.mem_cons, List.not_mem_nil, or_false] at hbracket
    rcases hbracket with rfl | rfl | rfl <;> simp
  · refine accept_of_ne ?_ rest
    rintro rfl
    simp at hbracket

/-! ### Types -/

theorem typesTokens_eq_map (elements : List ColumnType) :
    typesTokens elements = elements.map typeTokens := by
  induction elements with
  | nil => rfl
  | cons first rest ih => rw [typesTokens, ih, List.map_cons]

theorem allWellFormed_iff (elements : List ColumnType) :
    ColumnType.AllWellFormed elements ↔ ∀ element ∈ elements, element.WellFormed := by
  induction elements with
  | nil => simp [ColumnType.AllWellFormed]
  | cons first rest ih => simp [ColumnType.AllWellFormed, ih]

/-- An element of a composite type. -/
def Clause.element (element : ColumnType) : Clause (List ColumnType) where
  tokens := typeTokens element
  effect elements := .ok (elements ++ [element])

theorem applyAll_map_element (elements : List ColumnType) :
    applyAll (elements.map Clause.element) [] = .ok elements :=
  applyAll_map id fun _ _ _ _ ↦ rfl

/-- The name of a built-in type is no kind of composite types and is spelled in one way. -/
theorem spelledIn?_simpleNames : ∀ name ∈ ColumnType.simpleNames,
    spelledIn? ColumnType.compositeKinds (.word name) = none ∧
      spelledIn? ColumnType.simpleNames (.word name) = some name := by
  decide

theorem spelledIn?_compositeKinds : ∀ kind ∈ ColumnType.compositeKinds,
    spelledIn? ColumnType.compositeKinds (.word kind) = some kind := by
  decide

/-- A token that spells no kind begins no composite type. -/
theorem acceptCompositeKind_of_none {token : Token}
    (hnone : spelledIn? ColumnType.compositeKinds token = none) (rest : List Token) :
    acceptCompositeKind (token :: rest) = .ok (none, token :: rest) := by
  unfold acceptCompositeKind
  split
  next first _ heq =>
    cases heq
    rw [hnone]
  next => rfl

theorem length_typeTokens_pos (type : ColumnType) : 0 < (typeTokens type).length := by
  cases type with
  | user keyspace name => cases keyspace <;> exact Nat.zero_lt_succ _
  | simple | composite | custom => exact Nat.zero_lt_succ _

/-- Assumes: elements that are read back under one bracket less, at least one. The composite type
of them is read back. -/
theorem typeNested_composite {depth : Nat} {kind : String}
    (hkind : kind ∈ ColumnType.compositeKinds) {elements : List ColumnType}
    (hnonempty : elements ≠ [])
    (helement : ∀ element ∈ elements, ∀ {rest}, accept .period rest = .ok (false, rest) →
      typeNested depth (typeTokens element ++ rest) = .ok (element, rest)) (rest : List Token) :
    typeNested (depth + 1) (typeTokens (.composite kind elements) ++ rest) =
      .ok (.composite kind elements, rest) := by
  have hread : ∀ clause ∈ elements.map Clause.element,
      clause.ReadBy (elementType (typeNested depth)) := by
    intro clause hmem built next rest heffect hbehind
    obtain ⟨element, hin, rfl⟩ := List.mem_map.1 hmem
    cases heffect
    rw [elementType, Clause.element, run_bind (helement element hin hbehind.accept_period)]
    rfl
  have helements := commaSeparated_clauses hread (by simpa using hnonempty)
    (applyAll_map_element elements) .greater (by simp) rest
  have htokens : typeTokens (.composite kind elements) ++ rest =
      .word kind :: .symbol .less ::
        (joined (.symbol .comma) ((elements.map Clause.element).map Clause.tokens) ++
          .symbol .greater :: rest) := by
    rw [typeTokens, typesTokens_eq_map, List.map_map]
    simp [Function.comp_def, Clause.element]
  have haccept : ∀ more, acceptCompositeKind (.word kind :: .symbol .less :: more) =
      .ok (some kind, more) := by
    intro more
    rw [acceptCompositeKind, spelledIn?_compositeKinds kind hkind]
  rw [htokens, typeNested, run_bind (haccept _)]
  show (commaSeparated _ _ >>= _) _ = _
  rw [run_bind helements]
  rfl

/-- Assumes: an element of a composite type. It has fewer tokens than the type. -/
theorem length_typeTokens_lt (kind : String) {elements : List ColumnType} {element : ColumnType}
    (hmem : element ∈ elements) :
    (typeTokens element).length < (typeTokens (.composite kind elements)).length := by
  have hpart := length_le_length_joined_of_mem (.symbol .comma)
    (List.mem_map_of_mem hmem : typeTokens element ∈ elements.map typeTokens)
  rw [typeTokens, typesTokens_eq_map]
  simp only [List.length_cons, List.length_append, List.length_nil]
  omega

/-- Assumes: a well-formed type with no more tokens than `depth`, and no period behind it. It is
read back. -/
theorem typeNested_typeTokens {depth : Nat} {type : ColumnType} (hwell : type.WellFormed)
    (hlength : (typeTokens type).length ≤ depth) {rest : List Token}
    (hperiod : accept .period rest = .ok (false, rest)) :
    typeNested depth (typeTokens type ++ rest) = .ok (type, rest) := by
  -- Every bracket costs a token, so the bound on the nesting is not reached before the tokens end.
  induction depth generalizing type rest with
  | zero =>
    have := length_typeTokens_pos type
    omega
  | succ depth ih =>
    cases type with
    | simple name =>
      obtain ⟨hkind, hname⟩ := spelledIn?_simpleNames name hwell
      show typeNested (depth + 1) (.word name :: rest) = _
      rw [typeNested, run_bind (acceptCompositeKind_of_none hkind rest)]
      simp only [plainType, hname]
    | composite kind elements =>
      obtain ⟨hkind, hnonempty, hall⟩ := hwell
      rw [allWellFormed_iff] at hall
      refine typeNested_composite hkind hnonempty ?_ rest
      intro element hmem rest hperiod
      have hless := length_typeTokens_lt kind hmem
      exact ih (hall element hmem) (by omega) hperiod
    | user keyspace name =>
      have hplain : plainType (qualifiedTokens keyspace name ++ rest) =
          .ok (.user keyspace name, rest) := by
        have hname := qualifiedName_qualifiedTokens hperiod keyspace name
        cases keyspace <;> exact run_bind hname _
      have hkind : acceptCompositeKind (qualifiedTokens keyspace name ++ rest) =
          .ok (none, qualifiedTokens keyspace name ++ rest) := by
        cases keyspace <;> exact acceptCompositeKind_of_none rfl _
      rw [typeTokens, typeNested, run_bind hkind]
      exact hplain
    | custom className =>
      show typeNested (depth + 1) (.string className :: rest) = _
      rw [typeNested, run_bind (acceptCompositeKind_of_none rfl rest)]
      rfl

/-- Assumes: a well-formed type, and no period behind it. It is read back. -/
theorem columnType_typeTokens {type : ColumnType} (hwell : type.WellFormed) {rest : List Token}
    (hperiod : accept .period rest = .ok (false, rest)) :
    columnType (typeTokens type ++ rest) = .ok (type, rest) := by
  refine typeNested_typeTokens hwell ?_ hperiod
  rw [weight, List.length_append]
  omega

/-! ### Properties -/

/-- An entry of a map, given how its value is written. -/
def Clause.entry {Value : Type} (write : Value → List Token) (entry : String × Value) :
    Clause (OrderedMap String Value) where
  tokens := .string entry.1 :: .symbol .colon :: write entry.2
  effect map := map.define entry.1 entry.2

/-- Assumes: a parser that reads the value of an entry back. The entry is read back. -/
theorem Clause.readBy_entry {Value : Type} {write : Value → List Token} {value : Parser Value}
    {entry : String × Value}
    (hread : ∀ rest, value (write entry.2 ++ rest) = .ok (entry.2, rest)) :
    (Clause.entry write entry).ReadBy (mapEntry value) := by
  intro map next rest heffect _
  show mapEntry value map (.string entry.1 :: .symbol .colon :: (write entry.2 ++ rest)) = _
  rw [mapEntry, run_bind (constant_string _ _), run_bind (expect_self _ _),
    run_bind (hread rest)]
  exact run_lift heffect rest

/-- A map is built from its entries if its keys are distinct. -/
theorem applyAll_map_entry {Value : Type} (write : Value → List Token)
    {map : OrderedMap String Value} (hdistinct : map.Distinct) :
    applyAll (map.entries.map (Clause.entry write)) .empty = .ok map := by
  refine applyAll_map OrderedMap.mk fun before entry after hsplit ↦ ?_
  exact OrderedMap.define_of_distinct hdistinct hsplit

/-- The tokens of a map are those of its entries in braces. -/
theorem mapTokens_append {Value : Type} (write : Value → List Token)
    (map : OrderedMap String Value) (rest : List Token) :
    mapTokens write map ++ rest = .symbol .leftBrace ::
      (joined (.symbol .comma) ((map.entries.map (Clause.entry write)).map Clause.tokens) ++
        .symbol .rightBrace :: rest) := by
  rw [mapTokens, List.map_map]
  simp [Function.comp_def, Clause.entry, OrderedMap.toList]

/-- Assumes: a map with distinct keys, and a parser that reads its values back. The map is read
back, even if it has no entries. -/
theorem mapOf_mapTokens {Value : Type} {write : Value → List Token} {value : Parser Value}
    {map : OrderedMap String Value} (hdistinct : map.Distinct)
    (hread : ∀ entry ∈ map.entries, ∀ rest, value (write entry.2 ++ rest) = .ok (entry.2, rest))
    (rest : List Token) : mapOf value (mapTokens write map ++ rest) = .ok (map, rest) := by
  rw [mapTokens_append, mapOf, run_bind (expect_self _ _)]
  have happly := applyAll_map_entry write hdistinct
  cases hentries : map.entries with
  | nil =>
    obtain rfl : map = .empty := by
      cases map
      exact congrArg OrderedMap.mk hentries
    rfl
  | cons entry entries =>
    rw [hentries] at happly
    have hclauses : ∀ clause ∈ (entry :: entries).map (Clause.entry write),
        clause.ReadBy (mapEntry value) := by
      intro clause hmem
      obtain ⟨item, hitem, rfl⟩ := List.mem_map.1 hmem
      exact Clause.readBy_entry (hread item (hentries ▸ hitem))
    have hitems := commaSeparated_clauses hclauses (by simp) happly .rightBrace
      (by simp) rest
    have hopen : ∀ {tokens}, tokens = joined (.symbol .comma)
        (((entry :: entries).map (Clause.entry write)).map Clause.tokens) ++
          .symbol .rightBrace :: rest → accept .rightBrace tokens = .ok (false, tokens) := by
      rintro _ rfl
      cases entries <;> rfl
    rw [run_bind (hopen rfl)]
    show (commaSeparated _ _ >>= _) _ = _
    rw [run_bind hitems, run_bind (expect_self _ _)]
    rfl

theorem options_optionsTokens {entries : Options} (hdistinct : entries.Distinct)
    (rest : List Token) : options (optionsTokens entries ++ rest) = .ok (entries, rest) :=
  mapOf_mapTokens hdistinct (fun _ _ _ ↦ rfl) rest

theorem customProperties_mapTokens {custom : CustomProperties} (hdistinct : custom.Distinct)
    (hvalues : ∀ property ∈ custom.toList, property.2.Distinct) (rest : List Token) :
    customProperties (mapTokens optionsTokens custom ++ rest) = .ok (custom, rest) :=
  mapOf_mapTokens hdistinct (fun entry hmem _ ↦ options_optionsTokens (hvalues entry hmem) _) rest

theorem propertyValue_valueTokens {value : PropertyValue} (hdistinct : value.Distinct)
    (rest : List Token) : propertyValue (valueTokens value ++ rest) = .ok (value, rest) := by
  cases value with
  | text content => rfl
  | options entries =>
    have hsees : sees .leftBrace (optionsTokens entries ++ rest) =
        .ok (true, optionsTokens entries ++ rest) := rfl
    rw [valueTokens, propertyValue, run_bind hsees]
    exact run_map (options_optionsTokens hdistinct rest) _

/-- A regular property. -/
def Clause.regular (property : Identifier × PropertyValue) : Clause Settings where
  tokens := propertyTokens property
  effect settings := settings.addProperty property.1 property.2

/-- The block of custom properties. -/
def Clause.custom (custom : CustomProperties) : Clause Settings where
  tokens := customTokens custom
  effect settings := settings.defineCustom custom

/-- The properties of a keyspace or a table. -/
def settingsClauses (settings : Settings) : List (Clause Settings) :=
  settings.regular.toList.map Clause.regular ++ (settings.custom.map Clause.custom).toList

theorem tokens_settingsClauses (settings : Settings) :
    (settingsClauses settings).map Clause.tokens = settingsRuns settings := by
  rw [settingsClauses, settingsRuns, List.map_append, List.map_map]
  cases settings.custom <;> rfl

/-- Whether a clause is read as a property, which begins with its name. -/
structure Clause.IsProperty (clause : Clause Settings) : Prop where
  begins : ∃ name more, clause.tokens = nameToken name :: more
  property_eq : ∀ rest, property (clause.tokens ++ rest) = .ok (clause.effect, rest)

theorem isProperty_regular {entry : Identifier × PropertyValue}
    (hname : entry.1.text ≠ Settings.customPropertiesName) (hdistinct : entry.2.Distinct) :
    (Clause.regular entry).IsProperty where
  begins := ⟨_, _, rfl⟩
  property_eq rest := by
    show property (nameToken entry.1 :: .symbol .equals :: (valueTokens entry.2 ++ rest)) = _
    rw [property, run_bind (identifier_nameToken _ _), run_bind (expect_self _ _), if_neg hname,
      run_bind (propertyValue_valueTokens hdistinct rest)]
    rfl

theorem isProperty_custom {custom : CustomProperties} (hdistinct : custom.Distinct)
    (hvalues : ∀ property ∈ custom.toList, property.2.Distinct) :
    (Clause.custom custom).IsProperty where
  begins := ⟨_, _, rfl⟩
  property_eq rest := by
    show property (nameToken ⟨Settings.customPropertiesName⟩ :: .symbol .equals ::
      (mapTokens optionsTokens custom ++ rest)) = _
    rw [property, run_bind (identifier_nameToken _ _), run_bind (expect_self _ _), if_pos rfl,
      run_bind (customProperties_mapTokens hdistinct hvalues rest)]
    rfl

/-- Sound settings consist of properties. -/
theorem isProperty_of_mem_settingsClauses {settings : Settings} (hsound : settings.Sound)
    {clause : Clause Settings} (hmem : clause ∈ settingsClauses settings) : clause.IsProperty := by
  rcases List.mem_append.1 hmem with hregular | hcustom
  · obtain ⟨entry, hentry, rfl⟩ := List.mem_map.1 hregular
    exact isProperty_regular (hsound.regular_name _ (List.mem_map_of_mem hentry))
      (hsound.regular_value entry hentry)
  · obtain ⟨custom, hgiven, rfl⟩ : ∃ custom, settings.custom = some custom ∧
        Clause.custom custom = clause := by
      simpa using hcustom
    exact isProperty_custom (hsound.custom_distinct custom hgiven)
      (hsound.custom_value custom hgiven)

/-- Assumes: a clause that is read as a property. A keyspace may have it. -/
theorem Clause.IsProperty.readBy_keyspaceOption {clause : Clause Settings}
    (hproperty : clause.IsProperty) : clause.ReadBy keyspaceOption := by
  intro settings next rest heffect _
  rw [keyspaceOption, run_bind (hproperty.property_eq rest)]
  exact run_lift heffect rest

/-- A property as an option of a table. -/
def Clause.onTable (clause : Clause Settings) : Clause TableDefinition where
  tokens := clause.tokens
  effect definition := definition.updateSettings clause.effect

/-- Assumes: a clause that is read as a property. A table may have it, even if its name in quotes
says what another option begins with. -/
theorem Clause.IsProperty.readBy_tableOption {clause : Clause Settings}
    (hproperty : clause.IsProperty) : (Clause.onTable clause).ReadBy tableOption := by
  intro definition next rest heffect _
  obtain ⟨name, more, htokens⟩ := hproperty.begins
  have hlacks : ∀ keyword, Lacks keyword (clause.tokens ++ rest) := by
    intro keyword
    rw [htokens]
    exact lacks_nameToken keyword name (more ++ rest)
  rw [Clause.onTable, tableOption, run_bind (acceptWords_of_lacks (hlacks .clustering) _),
    if_neg Bool.false_ne_true, run_bind (acceptWords_of_lacks (hlacks .compact) _),
    if_neg Bool.false_ne_true, run_bind (hproperty.property_eq rest)]
  exact run_lift heffect rest

end SchemaTemplate.Grammar
