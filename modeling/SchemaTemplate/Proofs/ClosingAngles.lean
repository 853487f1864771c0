import SchemaTemplate.Proofs.AlikeTokens
import SchemaTemplate.Proofs.ScriptSoundness

/-!
Closing angles written without a gap. Two of them are one token, of which the first closes a type
and the second is left for the type around it. `Grammar.singleAngles` takes every such token apart
ahead of the reading, and no parser sees a difference.
-/

set_option autoImplicit false
set_option relaxedAutoImplicit false

namespace SchemaTemplate

namespace Grammar

open SchemaTemplate.Grammar.Parser

/-- A token as it is, or two closing angles if they were written without a gap. -/
def singleAnglesOf : Token → List Token
  | .symbol .shiftRight => [.symbol .greater, .symbol .greater]
  | token => [token]

/-- The tokens with every closing angle as a token of its own. -/
def singleAngles (tokens : List Token) : List Token := tokens.flatMap singleAnglesOf

@[simp] theorem singleAngles_nil : singleAngles [] = [] := rfl

@[simp] theorem singleAngles_shiftRight (rest : List Token) :
    singleAngles (.symbol .shiftRight :: rest) =
      .symbol .greater :: .symbol .greater :: singleAngles rest := rfl

theorem singleAnglesOf_of_ne {token : Token} (hother : token ≠ .symbol .shiftRight) :
    singleAnglesOf token = [token] := by
  unfold singleAnglesOf
  split
  next => exact absurd rfl hother
  next => rfl

theorem singleAngles_cons_of_ne {token : Token} (hother : token ≠ .symbol .shiftRight)
    (rest : List Token) : singleAngles (token :: rest) = token :: singleAngles rest := by
  rw [singleAngles, List.flatMap_cons, singleAnglesOf_of_ne hother]
  rfl

theorem singleAngles_append (first second : List Token) :
    singleAngles (first ++ second) = singleAngles first ++ singleAngles second :=
  List.flatMap_append

theorem singleAngles_eq_nil {tokens : List Token} (hnil : singleAngles tokens = []) :
    tokens = [] := by
  cases tokens with
  | nil => rfl
  | cons token rest =>
    by_cases hshift : token = .symbol .shiftRight
    · subst hshift
      cases hnil
    · rw [singleAngles_cons_of_ne hshift] at hnil
      cases hnil

/-- Taking closing angles apart keeps the number of angles and of all other tokens. -/
theorem weight_singleAngles (tokens : List Token) :
    weight (singleAngles tokens) = weight tokens := by
  induction tokens with
  | nil => rfl
  | cons token rest ih =>
    by_cases hshift : token = .symbol .shiftRight
    · subst hshift
      simp only [weight, singleAngles_shiftRight, List.length_cons, List.count_cons] at ih ⊢
      simp
      omega
    · rw [singleAngles_cons_of_ne hshift]
      simp only [weight, List.length_cons, List.count_cons] at ih ⊢
      omega

/-- A token that is no closing angle comes next exactly if it came next before. -/
theorem head?_singleAngles_iff {token : Token} (hgreater : token ≠ .symbol .greater)
    (hshift : token ≠ .symbol .shiftRight) (tokens : List Token) :
    (singleAngles tokens).head? = some token ↔ tokens.head? = some token := by
  cases tokens with
  | nil => rfl
  | cons first rest =>
    by_cases hfirst : first = .symbol .shiftRight
    · subst hfirst
      simp [hgreater.symm, hshift.symm]
    · simp [singleAngles_cons_of_ne hfirst]

/-! ### Parsers that look at tokens -/

/-- Whether tokens are others with the closing angles taken apart. -/
def Singled (tokens single : List Token) : Prop := single = singleAngles tokens

theorem singled_cons_of_ne {token : Token} (hother : token ≠ .symbol .shiftRight)
    (rest : List Token) : Singled (token :: rest) (token :: singleAngles rest) :=
  (singleAngles_cons_of_ne hother rest).symm

section

variable {Value : Type} {parser : Parser Value}

/-- Assumes: a parser comes to the same end with and without single angles, where two closing angles
come next and where another token does. It respects single angles. -/
theorem respects_singled (hnil : SameEnd Singled (parser []) (parser []))
    (hother : ∀ token rest, token ≠ .symbol .shiftRight →
      SameEnd Singled (parser (token :: rest)) (parser (token :: singleAngles rest)))
    (hshift : ∀ rest, SameEnd Singled (parser (.symbol .shiftRight :: rest))
      (parser (.symbol .greater :: .symbol .greater :: singleAngles rest))) :
    Respects Singled parser where
  sameEnd tokens single hsingle := by
    obtain rfl := hsingle
    rcases tokens with _ | ⟨token, rest⟩
    · exact hnil
    by_cases htoken : token = .symbol .shiftRight
    · subst htoken
      exact hshift rest
    · rw [singleAngles_cons_of_ne htoken]
      exact hother token rest htoken

end

theorem singled_accept {symbol : Symbol} (hangle : symbol ∉ closingAngles) :
    Respects Singled (accept symbol) := by
  simp only [closingAngles, List.mem_cons, List.not_mem_nil, or_false, not_or] at hangle
  refine respects_singled (.read false rfl) (fun token rest hother ↦ ?_) fun rest ↦ ?_
  · cases token with
    | symbol found =>
      by_cases hfound : found = symbol
      · subst hfound
        rw [accept_self, accept_self]
        exact .read true rfl
      · rw [accept_of_ne hfound, accept_of_ne hfound]
        exact .read false (singled_cons_of_ne hother rest)
    | blank | word | quotedWord | string | number | other =>
      exact .read false (singled_cons_of_ne hother rest)
  · rw [accept_of_ne (Ne.symm hangle.2), accept_of_ne (Ne.symm hangle.1)]
    exact .read false rfl

theorem singled_sees {symbol : Symbol} (hangle : symbol ∉ closingAngles) :
    Respects Singled (sees symbol) := by
  simp only [closingAngles, List.mem_cons, List.not_mem_nil, or_false, not_or] at hangle
  refine respects_singled (.read _ rfl) (fun token rest hother ↦ ?_) fun rest ↦ ?_
  · exact .read _ (singled_cons_of_ne hother rest)
  · simp only [sees, List.head?_cons, Option.some.injEq, Token.symbol.injEq, Ne.symm hangle.1,
      Ne.symm hangle.2]
    exact .read _ rfl

/-- One closing angle is used up in both cases, and in both cases one is left of two. -/
theorem singled_expectClosingAngle : Respects Singled expectClosingAngle := by
  refine respects_singled (.unexpected _ rfl) (fun token rest hother ↦ ?_) fun rest ↦ .read () rfl
  unfold expectClosingAngle
  split
  next hgreater =>
    cases hgreater
    exact .read () rfl
  next hshift =>
    cases hshift
    exact absurd rfl hother
  next hgreater hshift =>
    split
    next hsame =>
      cases hsame
      exact absurd rfl (hgreater rest)
    next hsame =>
      cases hsame
      exact absurd rfl hother
    next => exact .unexpected _ (singled_cons_of_ne hother rest)

theorem singled_expectEnd : Respects Singled expectEnd :=
  respects_singled (.read () rfl)
    (fun _ rest hother ↦ .unexpected _ (singled_cons_of_ne hother rest))
    fun _ ↦ .unexpected _ rfl

theorem beginsWith_singleAngles (keywords : List Keyword) (tokens : List Token) :
    beginsWith keywords (singleAngles tokens) = beginsWith keywords tokens := by
  induction keywords generalizing tokens with
  | nil => rfl
  | cons keyword keywords ih =>
    rcases tokens with _ | ⟨token, rest⟩
    · rfl
    by_cases hshift : token = .symbol .shiftRight
    · subst hshift
      rfl
    · rw [singleAngles_cons_of_ne hshift, beginsWith, beginsWith, ih]

theorem drop_singleAngles {keywords : List Keyword} {tokens : List Token}
    (hbegins : beginsWith keywords tokens = true) :
    (singleAngles tokens).drop keywords.length = singleAngles (tokens.drop keywords.length) := by
  induction keywords generalizing tokens with
  | nil => rfl
  | cons keyword keywords ih =>
    obtain ⟨token, rest, rfl, hword, hbegins⟩ := beginsWith_cons_iff.1 hbegins
    have hshift : token ≠ .symbol .shiftRight := by
      rintro rfl
      cases hword
    rw [singleAngles_cons_of_ne hshift]
    exact ih hbegins

theorem singled_acceptWords (keywords : List Keyword) :
    Respects Singled (acceptWords keywords) where
  sameEnd tokens single hsingle := by
    obtain rfl := hsingle
    rw [acceptWords, acceptWords, beginsWith_singleAngles]
    split
    next hbegins => exact .read true (drop_singleAngles hbegins)
    next => exact .read false rfl

theorem singled_identifier : Respects Singled identifier := by
  refine respects_singled (.unexpected _ rfl) (fun token rest hother ↦ ?_) fun rest ↦
    .unexpected _ rfl
  cases token with
  | word | quotedWord => exact .read _ rfl
  | blank | string | number | symbol | other =>
    exact .unexpected _ (singled_cons_of_ne hother rest)

/-- Behind a minus sign it is the next token that has to be a number. -/
theorem singled_constant : Respects Singled constant := by
  refine respects_singled (.unexpected _ rfl) (fun token rest hother ↦ ?_) fun rest ↦
    .unexpected _ rfl
  cases token with
  | string | number | word => exact .read _ rfl
  | blank | quotedWord | other => exact .unexpected _ (singled_cons_of_ne hother rest)
  | symbol found =>
    cases found with
    | minus =>
      rcases rest with _ | ⟨second, more⟩
      · exact .unexpected _ rfl
      by_cases hshift : second = .symbol .shiftRight
      · subst hshift
        exact .unexpected _ rfl
      · rw [singleAngles_cons_of_ne hshift]
        cases second with
        | number => exact .read _ rfl
        | blank | word | quotedWord | string | symbol | other =>
          exact .unexpected _ (singled_cons_of_ne hshift more)
    | _ => exact .unexpected _ (singled_cons_of_ne hother rest)

/-- Behind the kind of a composite type it is the next token that has to be an opening angle. -/
theorem singled_acceptCompositeKind : Respects Singled acceptCompositeKind := by
  refine respects_singled (.read _ rfl) (fun token rest hother ↦ ?_) fun rest ↦ ?_
  · have hsame := head?_singleAngles_iff
      (by decide : Token.symbol .less ≠ .symbol .greater) (by decide) rest
    refine sameEnd_acceptCompositeKind rfl (singled_cons_of_ne hother rest) ?_
    by_cases hless : rest.head? = some (.symbol .less)
    · obtain ⟨behind, rfl⟩ := List.head?_eq_some_iff.1 hless
      exact .inl ⟨behind, _, rfl, singleAngles_cons_of_ne (by decide) behind, rfl⟩
    · exact .inr ⟨hless, mt hsame.1 hless⟩
  · rw [acceptCompositeKind_of_none (spelledIn?_symbol _ _),
      acceptCompositeKind_of_none (spelledIn?_symbol _ _)]
    exact .read none rfl

theorem singled_plainType : Respects Singled plainType := by
  have huser := Respects.userType singled_identifier (singled_accept (by decide))
  refine respects_singled (.unexpected _ rfl) (fun token rest hother ↦ ?_) fun rest ↦ ?_
  · by_cases hstring : ∃ className, token = .string className
    · obtain ⟨className, rfl⟩ := hstring
      exact .read _ rfl
    · have hnone := not_exists.1 hstring
      exact sameEnd_plainType hnone hnone rfl huser (singled_cons_of_ne hother rest) rfl
  · rw [plainType_eq (by simp), plainType_eq (by simp), spelledIn?_symbol, spelledIn?_symbol]
    exact huser.sameEnd _ _ rfl

/-- No parser that looks at tokens sees whether closing angles are written without a gap. -/
theorem respected_singled : Respected Singled where
  weight_eq tokens single hsingle := by
    rw [hsingle, weight_singleAngles]
  compositeKind := singled_acceptCompositeKind
  comma := singled_accept (by decide)
  closingAngle := singled_expectClosingAngle
  plainType := singled_plainType
  accept symbol hsymbol := singled_accept (notMem_closingAngles_of_enclosing symbol hsymbol)
  introduced symbol hsymbol := singled_accept (notMem_closingAngles_of_introducing symbol hsymbol)
  sees _ := singled_sees
  words := singled_acceptWords
  identifier := singled_identifier
  constant := singled_constant
  ended := singled_expectEnd

/-! ### What a type uses up -/

theorem singleAngles_singleAngles (tokens : List Token) :
    singleAngles (singleAngles tokens) = singleAngles tokens := by
  induction tokens with
  | nil => rfl
  | cons token rest ih =>
    by_cases hshift : token = .symbol .shiftRight
    · subst hshift
      rw [singleAngles_shiftRight, singleAngles_cons_of_ne (by decide),
        singleAngles_cons_of_ne (by decide), ih]
    · rw [singleAngles_cons_of_ne hshift, singleAngles_cons_of_ne hshift, ih]

/-- Whether `rest` is left of tokens when `used`, closing angles taken one by one, are used up. All
that may happen to the tokens that are left is that two angles written without a gap are cut in two
and the second is left. -/
inductive UsesUp : (tokens used rest : List Token) → Prop
  | whole (used rest : List Token) : UsesUp (used ++ rest) (singleAngles used) rest
  | cut (used rest : List Token) :
    UsesUp (used ++ .symbol .shiftRight :: rest) (singleAngles used ++ [.symbol .greater])
      (.symbol .greater :: rest)

namespace UsesUp

variable {tokens used between more rest : List Token}

/-- The tokens used up are the same if all closing angles are taken apart before. -/
theorem singleAngles (huses : UsesUp tokens used rest) :
    UsesUp (singleAngles tokens) used (singleAngles rest) := by
  cases huses with
  | whole used rest =>
    have hwhole := whole (Grammar.singleAngles used) (Grammar.singleAngles rest)
    rwa [singleAngles_singleAngles, ← singleAngles_append] at hwhole
  | cut used rest =>
    have hwhole := whole (Grammar.singleAngles used ++ [.symbol .greater])
      (.symbol .greater :: Grammar.singleAngles rest)
    rw [singleAngles_append, singleAngles_singleAngles, List.append_assoc] at hwhole
    rwa [singleAngles_append]

/-- What is used up one after the other is used up together, even if the two halves of a token are
used up apart. -/
theorem trans (hfirst : UsesUp tokens used between) (hsecond : UsesUp between more rest) :
    UsesUp tokens (used ++ more) rest := by
  cases hfirst with
  | whole used between =>
    cases hsecond with
    | whole more rest =>
      rw [← List.append_assoc, ← singleAngles_append]
      exact .whole (used ++ more) rest
    | cut more rest =>
      rw [← List.append_assoc, ← List.append_assoc, ← singleAngles_append]
      exact .cut (used ++ more) rest
  | cut used behind =>
    generalize hbetween : Token.symbol .greater :: behind = between at hsecond
    cases hsecond with
    | whole more rest =>
      rcases List.cons_eq_append_iff.1 hbetween with ⟨rfl, rfl⟩ | ⟨more, rfl, rfl⟩
      · rw [singleAngles_nil, List.append_nil]
        exact .cut used behind
      · have hwhole := whole (used ++ .symbol .shiftRight :: more) rest
        simpa [singleAngles_append, singleAngles_cons_of_ne] using hwhole
    | cut more rest =>
      rcases List.cons_eq_append_iff.1 hbetween with ⟨-, hhead⟩ | ⟨more, rfl, rfl⟩
      · cases hhead
      · have hcut := cut (used ++ .symbol .shiftRight :: more) rest
        simpa [singleAngles_append, singleAngles_cons_of_ne] using hcut

theorem of_expectClosingAngle (hok : expectClosingAngle tokens = .ok ((), rest)) :
    UsesUp tokens [.symbol .greater] rest := by
  obtain rfl | ⟨behind, rfl, rfl⟩ := expectClosingAngle_eq_ok_iff.1 hok
  · exact .whole [.symbol .greater] rest
  · exact .cut [] behind

end UsesUp

variable {tokens rest : List Token}

theorem exists_usesUp_plainType {type : ColumnType} (hok : plainType tokens = .ok (type, rest)) :
    ∃ used, UsesUp tokens used rest := by
  obtain ⟨token, _, rfl, -⟩ | ⟨className, rfl, -⟩ | ⟨_, _, hname, -⟩ := plainType_cases hok
  · exact ⟨_, .whole [token] rest⟩
  · exact ⟨_, .whole [.string className] rest⟩
  · obtain ⟨token, _, rfl, -⟩ | ⟨first, _, second, _, rfl, -⟩ := qualifiedName_eq_ok_iff.1 hname
    · exact ⟨_, .whole [token] rest⟩
    · exact ⟨_, .whole [first, .symbol .period, second] rest⟩

/-- Assumes: a parser of items of which each uses up some tokens. So does a list of them. -/
theorem exists_usesUp_listed {State : Type} {item : State → Parser State} {state next : State}
    (hitem : ∀ {state next tokens rest}, item state tokens = .ok (next, rest) →
      ∃ used, UsesUp tokens used rest)
    (hlisted : Listed (accept .comma) item state tokens next rest) :
    ∃ used, UsesUp tokens used rest := by
  induction hlisted with
  | last hok => exact hitem hok
  | more hok hcomma _ ih =>
    obtain ⟨used, hused⟩ := hitem hok
    obtain ⟨more, hmore⟩ := ih
    obtain rfl := accept_eq_true_iff.1 hcomma
    exact ⟨_, hused.trans (.trans (.whole [.symbol .comma] _) hmore)⟩

/-- Whether a type that begins at `tokens` and ends in front of `rest` uses up some tokens, of which
the last is the closing angle of the type if it is composite. -/
def EndsAtAngle (tokens : List Token) (type : ColumnType) (rest : List Token) : Prop :=
  ∃ used, UsesUp tokens used rest ∧
    ∀ kind elements, type = .composite kind elements → used.getLast? = some (.symbol .greater)

theorem endsAtAngle_of_plainType {type : ColumnType} (hok : plainType tokens = .ok (type, rest)) :
    EndsAtAngle tokens type rest := by
  obtain ⟨used, hused⟩ := exists_usesUp_plainType hok
  refine ⟨used, hused, ?_⟩
  rintro kind elements rfl
  obtain ⟨_, _, -, -, ⟨⟩⟩ | ⟨_, -, ⟨⟩⟩ | ⟨_, _, -, ⟨⟩⟩ := plainType_cases hok

theorem endsAtAngle_of_typeNested {depth : Nat} {type : ColumnType}
    (hok : typeNested depth tokens = .ok (type, rest)) : EndsAtAngle tokens type rest := by
  induction depth generalizing tokens type rest with
  | zero => exact endsAtAngle_of_plainType hok
  | succ depth ih =>
    obtain hok | ⟨token, _, behind, elements, left, rfl, -, helements, hclosing, rfl⟩ :=
      typeNested_cases hok
    · exact endsAtAngle_of_plainType hok
    have helement : ∀ {state next tokens rest},
        elementType (typeNested depth) state tokens = .ok (next, rest) →
          ∃ used, UsesUp tokens used rest := by
      intro state next tokens rest hitem
      simp only [elementType, run_bind_eq_ok_iff, run_pure_eq_ok_iff] at hitem
      obtain ⟨_, _, htype, -, rfl⟩ := hitem
      obtain ⟨used, hused, -⟩ := ih htype
      exact ⟨used, hused⟩
    obtain ⟨used, hused⟩ := exists_usesUp_listed helement helements
    refine ⟨_, ((UsesUp.whole [token, .symbol .less] behind).trans hused).trans
      (.of_expectClosingAngle hclosing), fun _ _ _ ↦ ?_⟩
    rw [List.getLast?_concat]

/-! ### Types within a statement -/

/-- Whether clauses of a table, none or more, are read from `tokens` on, each with a comma behind
it, and `clause` comes next. The definitions are those before and after these clauses. -/
inductive ClausesLead : (definition : TableDefinition) → (tokens : List Token) →
    (reached : TableDefinition) → (clause : List Token) → Prop
  | here (definition : TableDefinition) (clause : List Token) :
    ClausesLead definition clause definition clause
  | behind {definition between reached : TableDefinition} {tokens left clause : List Token}
    (hclause : definitionClause definition tokens = .ok (between, .symbol .comma :: left))
    (hlead : ClausesLead between left reached clause) :
    ClausesLead definition tokens reached clause

/-- Whether the type of a column comes next, from `type` on, after part of a statement was read. -/
inductive ComesToType : (tokens type : List Token) → Prop
  | column {first second : Token} {kind : Keyword} {header name clauses clause type : List Token}
    {flag : Bool} {names : Option Identifier × Identifier} {reached : TableDefinition}
    {column : Identifier} (hcreate : isWord Keyword.create.text first = true)
    (hkind : kind = .table ∨ kind = .columnFamily) (hsecond : isWord kind.text second = true)
    (hflag : ifNotExists header = .ok (flag, name))
    (hname : qualifiedName name = .ok (names, .symbol .leftParenthesis :: clauses))
    (hlead : ClausesLead .empty clauses reached clause)
    (hkey : beginsWith [.primary, .key] clause = false)
    (hcolumn : identifier clause = .ok (column, type)) :
    ComesToType (first :: second :: header) type

/-- Assumes: a parser that respects single angles. What it leaves is left as single angles. -/
theorem ok_singleAngles {Value : Type} {parser : Parser Value} (hparser : Respects Singled parser)
    {value : Value} (hok : parser tokens = .ok (value, rest)) :
    parser (singleAngles tokens) = .ok (value, singleAngles rest) := by
  obtain ⟨_, hsingle, rfl⟩ := (hparser.sameEnd tokens _ rfl).of_ok_left hok
  exact hsingle

theorem ClausesLead.singleAngles {definition reached : TableDefinition} {clause : List Token}
    (hlead : ClausesLead definition tokens reached clause) :
    ClausesLead definition (Grammar.singleAngles tokens) reached (Grammar.singleAngles clause) := by
  induction hlead with
  | here definition clause => exact .here definition _
  | behind hclause _ ih =>
    have hsingle := ok_singleAngles (respected_singled.definitionClause _) hclause
    rw [singleAngles_cons_of_ne (by decide)] at hsingle
    exact .behind hsingle ih

theorem ne_shiftRight_of_isWord {spelling : String} {token : Token}
    (hword : isWord spelling token = true) : token ≠ .symbol .shiftRight := by
  rintro rfl
  cases hword

/-- With single angles the reading comes to the same types. -/
theorem ComesToType.singleAngles {type : List Token} (hcomes : ComesToType tokens type) :
    ComesToType (Grammar.singleAngles tokens) (Grammar.singleAngles type) := by
  obtain ⟨hcreate, hkind, hsecond, hflag, hname, hlead, hkey, hcolumn⟩ := hcomes
  have hqualified := Respects.qualifiedName singled_identifier (singled_accept (by decide))
  have hclauses := ok_singleAngles hqualified hname
  rw [singleAngles_cons_of_ne (by decide)] at hclauses
  rw [singleAngles_cons_of_ne (ne_shiftRight_of_isWord hcreate),
    singleAngles_cons_of_ne (ne_shiftRight_of_isWord hsecond)]
  rw [← beginsWith_singleAngles] at hkey
  exact .column hcreate hkind hsecond (ok_singleAngles respected_singled.ifNotExists hflag) hclauses
    hlead.singleAngles hkey (ok_singleAngles singled_identifier hcolumn)

/-- Clauses that lead to another one are the first of all clauses. -/
theorem ClausesLead.listed {definition reached built : TableDefinition} {clause : List Token}
    (hlead : ClausesLead definition tokens reached clause)
    (hlisted : Listed (accept .comma) definitionClause definition tokens built
      (.symbol .rightParenthesis :: rest)) :
    Listed (accept .comma) definitionClause reached clause built
      (.symbol .rightParenthesis :: rest) := by
  induction hlead with
  | here => exact hlisted
  | behind hclause _ ih =>
    cases hlisted with
    | last hok => cases hclause.symm.trans hok
    | more hok hcomma hlisted =>
      cases hclause.symm.trans hok
      obtain rfl := List.cons.inj (accept_eq_true_iff.1 hcomma) |>.2
      exact ih hlisted

/-- The clause of a column ends with its type if a symbol comes next. -/
theorem rest_of_definitionClause {definition next : TableDefinition} {column : Identifier}
    {behind left more : List Token} {type : ColumnType} {symbol : Symbol}
    (hkey : beginsWith [.primary, .key] tokens = false)
    (hcolumn : identifier tokens = .ok (column, behind))
    (htype : columnType behind = .ok (type, .symbol symbol :: more))
    (hok : definitionClause definition tokens = .ok (next, left)) :
    left = .symbol symbol :: more := by
  obtain ⟨_, hwords, -⟩ | ⟨-, hclause⟩ := definitionClause_cases hok
  · rw [acceptWords_eq_true_iff, hkey] at hwords
    cases hwords.1
  obtain ⟨_, _, _, _, _, _, _, _, rfl, hname, hread, -, hstatic, hkey⟩ := columnClause_cases hclause
  cases hcolumn.symm.trans (identifier_eq_ok_iff.2 ⟨_, rfl, hname⟩)
  cases htype.symm.trans hread
  obtain ⟨token, ⟨⟩, ⟨⟩, -⟩ | ⟨-, rfl, -⟩ := staticMark_cases hstatic
  obtain ⟨_, hwords, -⟩ | ⟨-, rfl, -⟩ := keyMark_cases hkey
  · obtain ⟨_, _, ⟨⟩, ⟨⟩, -⟩ := acceptWords_primaryKey_iff.1 hwords
  · rfl

/-- A closing angle that is left behind the type of a column lets the statement fail, whether or not
another angle follows without a gap. -/
theorem statementOf_ne_ok_of_angle {behind more : List Token} {type : ColumnType} {angle : Symbol}
    (hcomes : ComesToType tokens behind) (hangle : angle ∈ closingAngles)
    (htype : columnType behind = .ok (type, .symbol angle :: more)) (statement : Statement) :
    statementOf tokens ≠ .ok statement := by
  intro hok
  obtain ⟨hcreate, hkind, hsecond, hflag, hname, hlead, hkey, hcolumn⟩ := hcomes
  obtain ⟨_, hok⟩ := statementOf_eq_ok_iff.1 hok
  obtain ⟨_, _, ⟨⟩, huse, -⟩ | ⟨_, _, other, _, ⟨⟩, -, hother, hbehind⟩ := statement_cases hok
  · cases keyword_eq_of_isWord hcreate huse
  obtain rfl := keyword_eq_of_isWord hsecond hother
  obtain ⟨hkeyspace, -⟩ | ⟨-, htable⟩ := hbehind
  · rcases hkind with rfl | rfl <;> simp at hkeyspace
  obtain ⟨_, _, _, _, _, _, _, _, hflag', hname', hclauses, -⟩ := tableStatement_cases htable
  cases hflag.symm.trans hflag'
  cases hname.symm.trans hname'
  obtain ⟨_, ⟨⟩, hlisted⟩ := definitionClauses_cases hclauses
  -- Behind this clause there has to be a comma or the closing parenthesis.
  cases hlead.listed hlisted with
  | last hclause =>
    cases rest_of_definitionClause hkey hcolumn htype hclause
    revert hangle
    decide
  | more hclause hcomma =>
    cases rest_of_definitionClause hkey hcolumn htype hclause
    cases accept_eq_true_iff.1 hcomma
    revert hangle
    decide

/-- A statement is read alike with and without single angles. -/
theorem statementOf_singleAngles_eq_ok_iff {tokens : List Token} {statement : Statement} :
    statementOf (singleAngles tokens) = .ok statement ↔ statementOf tokens = .ok statement := by
  have hsame := respected_singled.statement.sameEnd tokens _ rfl
  rw [statementOf_eq_ok_iff, statementOf_eq_ok_iff]
  constructor
  · rintro ⟨rest, hok⟩
    obtain ⟨left, hok, -⟩ := hsame.of_ok_right hok
    exact ⟨left, hok⟩
  · rintro ⟨rest, hok⟩
    obtain ⟨left, hok, -⟩ := hsame.of_ok_left hok
    exact ⟨left, hok⟩

end Grammar

namespace Script

open Grammar Grammar.Parser

/-- Two closing angles without a gap are read as two. If lexemes are taken apart so that every angle
is a token of its own, the same statement is read, or none as before. A type that begins anywhere is
read alike, too, and uses up the same tokens in both cases, of which the last is its own closing
angle if it is composite; behind it nothing is left but what is behind this angle, the second of two
included. If an angle is left behind the type of a column, there is no statement in both cases. -/
theorem outcome_readStatement_singleAngles {lexemes single : List Lexeme} {tokens : List Token}
    (htokens : (significant lexemes).map Lexeme.token = tokens)
    (hsingle : (significant single).map Lexeme.token = singleAngles tokens) :
    (∀ statement, (readStatement single).outcome = .ok statement ↔
      (readStatement lexemes).outcome = .ok statement) ∧
    (∀ behind type rest, columnType behind = .ok (type, rest) →
      columnType (singleAngles behind) = .ok (type, singleAngles rest) ∧
      ∃ used, UsesUp behind used rest ∧ UsesUp (singleAngles behind) used (singleAngles rest) ∧
        ∀ kind elements, type = .composite kind elements →
          used.getLast? = some (.symbol .greater)) ∧
    (∀ behind type left, columnType (singleAngles behind) = .ok (type, left) →
      ∃ rest, left = singleAngles rest ∧ columnType behind = .ok (type, rest)) ∧
    ∀ behind, ComesToType tokens behind →
      ComesToType (singleAngles tokens) (singleAngles behind) ∧
      ∀ type, ∀ angle ∈ closingAngles, ∀ more,
        columnType behind = .ok (type, .symbol angle :: more) → ∀ statement,
          (readStatement lexemes).outcome ≠ .ok statement ∧
            (readStatement single).outcome ≠ .ok statement := by
  have hsame : ∀ statement, (readStatement single).outcome = .ok statement ↔
      (readStatement lexemes).outcome = .ok statement := by
    intro statement
    rw [outcome_readStatement_eq_ok_iff, outcome_readStatement_eq_ok_iff, htokens, hsingle,
      statementOf_singleAngles_eq_ok_iff]
  refine ⟨hsame, fun behind type rest hok ↦ ?_, fun behind type left hok ↦ ?_, fun behind hcomes ↦
    ⟨hcomes.singleAngles, fun type angle hangle more htype statement ↦ ?_⟩⟩
  · obtain ⟨used, hused, hlast⟩ := endsAtAngle_of_typeNested hok
    exact ⟨ok_singleAngles respected_singled.columnType hok, used, hused, hused.singleAngles, hlast⟩
  · obtain ⟨rest, hrest, rfl⟩ :=
      (respected_singled.columnType.sameEnd behind _ rfl).of_ok_right hok
    exact ⟨rest, rfl, hrest⟩
  · have hnone : (readStatement lexemes).outcome ≠ .ok statement := by
      rw [Ne, outcome_readStatement_eq_ok_iff, htokens]
      exact fun hread ↦ statementOf_ne_ok_of_angle hcomes hangle htype statement hread.1
    exact ⟨hnone, mt (hsame statement).1 hnone⟩

/-- A table with one closing angle too many behind the type of its second column. -/
def overclosedTokens : List Token :=
  [.word "create", .word "table", .word "events", .symbol .leftParenthesis, .word "id", .word "int",
    .symbol .comma, .word "tags", .word "list", .symbol .less, .word "int", .symbol .shiftRight,
    .symbol .rightParenthesis]

theorem comesToType_overclosedTokens :
    ComesToType overclosedTokens (overclosedTokens.drop 8) :=
  .column rfl (.inl rfl) rfl rfl rfl (.behind rfl (.here _ _)) rfl rfl

/-- The list is read as far as the first of the two angles, and the second is left. -/
theorem outcome_readStatement_singleAngles_overclosedTokens :
    (∃ used, UsesUp (overclosedTokens.drop 8) used [.symbol .greater, .symbol .rightParenthesis] ∧
      used.getLast? = some (.symbol .greater)) ∧
    ∀ statement, (readStatement (spaced overclosedTokens)).outcome ≠ .ok statement ∧
      (readStatement (spaced (singleAngles overclosedTokens))).outcome ≠ .ok statement := by
  have htype : columnType (overclosedTokens.drop 8) =
      .ok (.composite "list" [.simple "int"], [.symbol .greater, .symbol .rightParenthesis]) := rfl
  obtain ⟨-, hforth, -, hwithin⟩ := outcome_readStatement_singleAngles
    (by rfl : (significant (spaced overclosedTokens)).map Lexeme.token = overclosedTokens)
    (by rfl : (significant (spaced (singleAngles overclosedTokens))).map Lexeme.token = _)
  obtain ⟨-, used, hused, -, hlast⟩ := hforth _ _ _ htype
  exact ⟨⟨used, hused, hlast _ _ rfl⟩,
    (hwithin _ comesToType_overclosedTokens).2 _ .greater (by decide) _ htype⟩

end Script

end SchemaTemplate
