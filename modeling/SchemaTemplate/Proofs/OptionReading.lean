import SchemaTemplate.Proofs.Lookahead
import SchemaTemplate.Proofs.StatementReading

/-!
What the options of a table are, run by run. A run of tokens that is one complete option always
stands for the same operation on definitions, whatever the definition and whatever stands behind the
run: it is read exactly if the operation can be carried out, and then up to its end
(`Grammar.Clause.ReadExactlyBy`). This holds although a constant may be any word, `AND` included,
since a run ends where its value does and not at the next such word.
-/

set_option autoImplicit false
set_option relaxedAutoImplicit false

namespace SchemaTemplate.Grammar

open SchemaTemplate.Grammar.Parser

variable {State : Type} {tokens run rest left : List Token}

/-! ### Clauses and nothing else -/

/-- Assumes: clauses that a parser reads exactly. If they are read with a separator between them,
their operations were carried out, and the tokens behind them are left. -/
theorem applyAll_of_listAtMost {separator : Parser Bool} {mark : Token}
    (hseparates : Separates separator mark) {item : State → Parser State} {clause : Clause State}
    {clauses : List (Clause State)} (hexact : ∀ other ∈ clause :: clauses, other.ReadExactlyBy item)
    {more : Nat} (hmore : clauses.length ≤ more) {state next : State}
    (hlast : separator rest = .ok (false, rest))
    (hok : listAtMost separator item more state
      (joined mark ((clause :: clauses).map Clause.tokens) ++ rest) = .ok (next, left)) :
    applyAll (clause :: clauses) state = .ok next ∧ left = rest := by
  induction clauses generalizing clause more state with
  | nil =>
    rw [List.map_singleton, joined_singleton] at hok
    rw [applyAll_singleton]
    have hclause := hexact clause List.mem_cons_self
    cases more with
    | zero => exact hclause.1 hok
    | succ more =>
      obtain ⟨between, behind, hitem, hends⟩ := run_bind_eq_ok_iff.1 hok
      obtain ⟨heffect, rfl⟩ := hclause.1 hitem
      rw [run_bind hlast] at hends
      obtain ⟨rfl, rfl⟩ := run_pure_eq_ok_iff.1 hends
      exact ⟨heffect, rfl⟩
  | cons following clauses ih =>
    obtain ⟨more, rfl⟩ : ∃ fewer, more = fewer + 1 := ⟨more - 1, by simp at hmore; omega⟩
    rw [List.map_cons, List.map_cons, joined_cons_cons, List.append_assoc, List.cons_append,
      ← List.map_cons] at hok
    obtain ⟨between, behind, hitem, hgoes⟩ := run_bind_eq_ok_iff.1 hok
    obtain ⟨heffect, rfl⟩ := (hexact clause List.mem_cons_self).1 hitem
    rw [run_bind (hseparates.accepts _)] at hgoes
    obtain ⟨happly, hleft⟩ := ih (fun other hmem ↦ hexact other (List.mem_cons_of_mem _ hmem))
      (Nat.le_of_succ_le_succ hmore) hgoes
    exact ⟨applyAll_cons_eq_ok_iff.2 ⟨between, heffect, happly⟩, hleft⟩

/-- Assumes: clauses that a parser reads exactly. They are read with a separator between them
exactly if their operations can be carried out. -/
theorem separated_eq_ok_iff {separator : Parser Bool} {mark : Token}
    (hseparates : Separates separator mark) {item : State → Parser State}
    {clauses : List (Clause State)} (hexact : ∀ clause ∈ clauses, clause.ReadExactlyBy item)
    (hnonempty : clauses ≠ []) {state next : State} (hbehind : Behind rest)
    (hlast : separator rest = .ok (false, rest)) :
    separated separator item state (joined mark (clauses.map Clause.tokens) ++ rest) =
      .ok (next, left) ↔ applyAll clauses state = .ok next ∧ left = rest := by
  constructor
  · intro hok
    obtain ⟨clause, clauses, rfl⟩ := List.exists_cons_of_ne_nil hnonempty
    refine applyAll_of_listAtMost hseparates hexact ?_ hlast hok
    have hcount := length_le_length_joined mark clause.tokens (clauses.map Clause.tokens)
    rw [List.length_map] at hcount
    rw [List.map_cons, weight, List.length_append]
    omega
  · rintro ⟨happly, rfl⟩
    exact separated_clauses hseparates (fun clause hmem ↦ (hexact clause hmem).readBy) hnonempty
      happly hbehind hlast

/-- Assumes: options that are read exactly. Behind the word `WITH`, or without it if there are none,
they are read exactly if their operations can be carried out. -/
theorem withOptions_withTokens_eq_ok_iff {option : State → Parser State}
    {clauses : List (Clause State)} (hexact : ∀ clause ∈ clauses, clause.ReadExactlyBy option)
    {state next : State} :
    withOptions option state (withTokens (clauses.map Clause.tokens)) = .ok (next, left) ↔
      applyAll clauses state = .ok next ∧ left = [] := by
  constructor
  · intro hok
    cases clauses with
    | nil =>
      cases hok
      exact ⟨rfl, rfl⟩
    | cons clause clauses =>
      have hwith : withTokens ((clause :: clauses).map Clause.tokens) =
          .word Keyword.withWord.text :: (joined (.word Keyword.andWord.text)
            ((clause :: clauses).map Clause.tokens) ++ []) := by
        simp [withTokens]
      rw [hwith, withOptions, run_bind (acceptWord_self _ _), if_pos rfl] at hok
      exact (separated_eq_ok_iff separates_and hexact (List.cons_ne_nil _ _) (by simp [Behind])
        rfl).1 hok
  · rintro ⟨happly, rfl⟩
    exact withOptions_withTokens (fun clause hmem ↦ (hexact clause hmem).readBy) happly

/-! ### Options -/

/-- An option of a table. -/
inductive TableOption
  | clusteringOrder (orders : List (Identifier × Direction))
  | compactStorage
  | customProperties (custom : CustomProperties)
  | property (name : Identifier) (value : PropertyValue)

/-- What an option is about. -/
inductive OptionSubject
  | clusteringOrder
  | compactStorage
  | customProperties
  | property (name : Identifier)
  deriving DecidableEq

namespace TableOption

/-- What an option is about. -/
def subject : TableOption → OptionSubject
  | clusteringOrder _ => .clusteringOrder
  | compactStorage => .compactStorage
  | customProperties _ => .customProperties
  | property name _ => .property name

/-- What an option does to a definition. -/
def effect : TableOption → TableDefinition → Except SchemaFault TableDefinition
  | clusteringOrder orders => (Clause.clusteringOrder orders).effect
  | compactStorage => Clause.compactStorage.effect
  | customProperties custom => (Clause.custom custom).onTable.effect
  | property name value => (Clause.regular (name, value)).onTable.effect

/-- An option, spelled in some way. -/
def spelled (option : TableOption) (run : List Token) : Clause TableDefinition where
  tokens := run
  effect := option.effect

end TableOption

/-- What a run of tokens is about if it is an option. -/
def subjectOf? (run : List Token) : Option OptionSubject :=
  if beginsWith [.clustering, .order, .byWord] run then some .clusteringOrder
  else if beginsWith [.compact, .storage] run then some .compactStorage
  else (run.head?.bind nameOf?).map fun name ↦
    if name.text = Settings.customPropertiesName then .customProperties else .property name

/-- Whether a run of tokens is one complete option, which some definition may have. -/
def CompleteOption (run : List Token) : Prop :=
  ∃ definition next, tableOption definition run = .ok (next, [])

/-- Whether a run of tokens stands for an option, whatever the definition and the tokens behind. -/
structure StandsFor (run : List Token) (option : TableOption) : Prop where
  readExactlyBy : (option.spelled run).ReadExactlyBy tableOption
  subjectOf?_eq : subjectOf? run = some option.subject

/-! ### The clustering order -/

theorem applyAll_spelledOrder (spelled : List (List Token × Identifier × Direction))
    (definition : TableDefinition) : applyAll (spelled.map Clause.spelledOrder) definition =
      applyAll ((spelled.map Prod.snd).map Clause.order) definition := by
  simp only [applyAll, List.foldlM_map]
  rfl

/-- Directions that are read with commas between them. -/
theorem exists_spelledOrders {definition next : TableDefinition}
    (hlisted : Listed (accept .comma) orderedColumn definition tokens next rest) :
    ∃ spelled, spelled ≠ [] ∧
      (∀ order ∈ spelled, (Clause.spelledOrder order).ReadExactlyBy orderedColumn) ∧
      tokens = joined (.symbol .comma) ((spelled.map Clause.spelledOrder).map Clause.tokens) ++
        rest := by
  induction hlisted with
  | last hitem =>
    obtain ⟨first, second, column, direction, rfl, hname, hword, -⟩ := orderedColumn_cases hitem
    exact ⟨[([first, second], column, direction)], List.cons_ne_nil _ _,
      List.forall_mem_singleton.2 (readExactlyBy_spelledOrder hname hword), rfl⟩
  | more hitem hcomma _ ih =>
    obtain ⟨first, second, column, direction, rfl, hname, hword, -⟩ := orderedColumn_cases hitem
    obtain rfl := accept_eq_true_iff.1 hcomma
    obtain ⟨spelled, hnonempty, hexact, rfl⟩ := ih
    obtain ⟨following, spelled, rfl⟩ := List.exists_cons_of_ne_nil hnonempty
    refine ⟨([first, second], column, direction) :: following :: spelled, List.cons_ne_nil _ _,
      List.forall_mem_cons.2 ⟨readExactlyBy_spelledOrder hname hword, hexact⟩, ?_⟩
    simp [joined_cons_cons, Clause.spelledOrder]

/-- Directions in parentheses are read as a clustering order, exactly if they can be given. -/
theorem clusteringOrderOption_eq_ok_iff {definition next : TableDefinition}
    {spelled : List (List Token × Identifier × Direction)} (hnonempty : spelled ≠ [])
    (hexact : ∀ order ∈ spelled, (Clause.spelledOrder order).ReadExactlyBy orderedColumn) :
    clusteringOrderOption definition (.symbol .leftParenthesis ::
        (joined (.symbol .comma) ((spelled.map Clause.spelledOrder).map Clause.tokens) ++
          .symbol .rightParenthesis :: rest)) = .ok (next, left) ↔
      (TableOption.clusteringOrder (spelled.map Prod.snd)).effect definition = .ok next ∧
        left = rest := by
  have horders : ∀ {begun built : TableDefinition} {behind : List Token},
      commaSeparated orderedColumn begun
          (joined (.symbol .comma) ((spelled.map Clause.spelledOrder).map Clause.tokens) ++
            .symbol .rightParenthesis :: rest) = .ok (built, behind) ↔
        applyAll (spelled.map Clause.spelledOrder) begun = .ok built ∧
          behind = .symbol .rightParenthesis :: rest := by
    intro begun built behind
    refine separated_eq_ok_iff separates_comma ?_ (by simpa using hnonempty) ?_ rfl
    · intro clause hmem
      obtain ⟨order, horder, rfl⟩ := List.mem_map.1 hmem
      exact hexact order horder
    · rintro _ ⟨⟩
      simp
  rw [TableOption.effect, Clause.clusteringOrder, bind_eq_ok_iff]
  simp only [clusteringOrderOption, run_bind_eq_ok_iff, run_lift_eq_ok_iff, expect_eq_ok_iff,
    run_pure_eq_ok_iff, applyAll_spelledOrder] at horders ⊢
  constructor
  · rintro ⟨begun, _, ⟨hbegin, rfl⟩, _, _, ⟨⟩, built, behind, hread, _, _, hclosing, rfl, rfl⟩
    obtain ⟨happly, rfl⟩ := horders.1 hread
    cases hclosing
    exact ⟨⟨begun, hbegin, happly⟩, rfl⟩
  · rintro ⟨⟨begun, hbegin, happly⟩, rfl⟩
    exact ⟨begun, _, ⟨hbegin, rfl⟩, (), _, rfl, next, _, horders.2 ⟨happly, rfl⟩, (), _, rfl, rfl,
      rfl⟩

/-! ### Runs -/

theorem standsFor_clusteringOrder {definition next : TableDefinition} {behind : List Token}
    (hwords : acceptWords [.clustering, .order, .byWord] run = .ok (true, behind))
    (hok : clusteringOrderOption definition behind = .ok (next, [])) :
    ∃ option, StandsFor run option := by
  obtain ⟨begun, columns, rfl, -, hlisted⟩ := clusteringOrderOption_cases hok
  obtain ⟨spelled, hnonempty, hexact, rfl⟩ := exists_spelledOrders hlisted
  refine ⟨.clusteringOrder (spelled.map Prod.snd), ?_, ?_⟩
  · intro definition next rest left
    show tableOption definition (run ++ rest) = _ ↔ _
    rw [tableOption, run_bind (acceptWords_append hwords rest), if_pos rfl, List.cons_append,
      List.append_assoc]
    exact clusteringOrderOption_eq_ok_iff hnonempty hexact
  · rw [subjectOf?, if_pos (acceptWords_eq_true_iff.1 hwords).1]
    rfl

theorem standsFor_compactStorage
    (hwords : acceptWords [.compact, .storage] run = .ok (true, [])) :
    StandsFor run .compactStorage where
  readExactlyBy := by
    intro definition next rest left
    have hagain := acceptWords_append hwords rest
    have hother : beginsWith [.clustering, .order, .byWord] (run ++ rest) = false :=
      beginsWith_eq_false (acceptWords_eq_true_iff.1 hagain).1 (by decide)
    show tableOption definition (run ++ rest) = _ ↔ _
    rw [tableOption, run_bind (acceptWords_eq_false_iff.2 ⟨hother, rfl⟩), if_neg Bool.false_ne_true,
      run_bind hagain, if_pos rfl, run_lift_eq_ok_iff, @eq_comm _ _ left]
    rfl
  subjectOf?_eq := by
    have hbegins := (acceptWords_eq_true_iff.1 hwords).1
    have hother : beginsWith [.clustering, .order, .byWord] run = false :=
      beginsWith_eq_false hbegins (by decide)
    rw [subjectOf?, if_neg (by simp [hother]), if_pos hbegins]
    rfl

/-- A property that is an option of a table is read as one whatever stands behind it. -/
theorem tableOption_append_of_property {definition : TableDefinition}
    (horder : beginsWith [.clustering, .order, .byWord] run = false)
    (hcompact : beginsWith [.compact, .storage] run = false)
    {update : Settings → Except SchemaFault Settings} (hread : property run = .ok (update, []))
    (rest : List Token) :
    tableOption definition (run ++ rest) = lift (definition.updateSettings update) rest := by
  rw [← beginsWith_append_of_property (by decide) hread rest] at horder hcompact
  rw [tableOption, run_bind (acceptWords_eq_false_iff.2 ⟨horder, rfl⟩), if_neg Bool.false_ne_true,
    run_bind (acceptWords_eq_false_iff.2 ⟨hcompact, rfl⟩), if_neg Bool.false_ne_true,
    run_bind (settled_property hread trivial rest)]
  rfl

theorem standsFor_property
    (horder : beginsWith [.clustering, .order, .byWord] run = false)
    (hcompact : beginsWith [.compact, .storage] run = false)
    {update : Settings → Except SchemaFault Settings} (hread : property run = .ok (update, [])) :
    ∃ option, StandsFor run option := by
  have hexact : ∀ {option : TableOption},
      (∀ definition, option.effect definition = definition.updateSettings update) →
        (option.spelled run).ReadExactlyBy tableOption := by
    intro option heffect definition next rest left
    show tableOption definition (run ++ rest) = _ ↔ option.effect definition = _ ∧ _
    rw [tableOption_append_of_property horder hcompact hread, heffect, run_lift_eq_ok_iff,
      @eq_comm _ rest]
  obtain ⟨token, name, behind, rfl, hname, hvalue⟩ := property_cases hread
  have hsubject : subjectOf? (token :: .symbol .equals :: behind) =
      some (if name.text = Settings.customPropertiesName then .customProperties
        else .property name) := by
    rw [subjectOf?, if_neg (by simp [horder]), if_neg (by simp [hcompact])]
    simp [hname]
  obtain ⟨hcustom, custom, -, rfl⟩ | ⟨hregular, value, -, rfl⟩ := hvalue
  · exact ⟨.customProperties custom, hexact fun _ ↦ rfl, by rw [hsubject, if_pos hcustom]; rfl⟩
  · exact ⟨.property name value, hexact fun _ ↦ rfl, by rw [hsubject, if_neg hregular]; rfl⟩

/-- Every complete option stands for one. -/
theorem CompleteOption.exists_standsFor (hcomplete : CompleteOption run) :
    ∃ option, StandsFor run option := by
  obtain ⟨definition, next, hok⟩ := hcomplete
  obtain ⟨behind, hwords, hoption⟩ | ⟨hwords, -⟩ | ⟨horder, hcompact, update, hread, -⟩ :=
    tableOption_cases hok
  · exact standsFor_clusteringOrder hwords hoption
  · exact ⟨_, standsFor_compactStorage hwords⟩
  · exact standsFor_property horder hcompact hread

end SchemaTemplate.Grammar
