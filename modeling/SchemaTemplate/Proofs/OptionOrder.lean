import Mathlib.Data.List.Induction
import Mathlib.Data.List.Nodup
import SchemaTemplate.Proofs.OptionReading
import SchemaTemplate.Proofs.ReadSoundness
import SchemaTemplate.Proofs.StatementReading

/-!
The options of a table may come in any order. Options that a definition may have one by one can be
given together exactly if no two of them are about the same, and then they lead to a definition that
can be told from the list of them (`Grammar.TableOption.merged`): only the regular properties depend
on the order.
-/

set_option autoImplicit false
set_option relaxedAutoImplicit false

namespace SchemaTemplate.Grammar

open SchemaTemplate.Grammar.Parser

namespace TableOption

/-- The directions that an option gives, if it is a clustering order. -/
def orders? : TableOption → Option (List (Identifier × Direction))
  | clusteringOrder orders => some orders
  | _ => none

/-- The block that an option gives, if it is that of the custom properties. -/
def custom? : TableOption → Option CustomProperties
  | customProperties custom => some custom
  | _ => none

/-- The regular property that an option gives, if it is one. -/
def property? : TableOption → Option (Identifier × PropertyValue)
  | property name value => some (name, value)
  | _ => none

variable {definition next : TableDefinition} {option : TableOption}
  {options others : List TableOption}

/-- The definition that options lead to if they can be given together. -/
def merged (definition : TableDefinition) (options : List TableOption) : TableDefinition :=
  { definition with
    clusteringOrderGiven := definition.clusteringOrderGiven || (options.findSome? orders?).isSome
    clusteringOrders := definition.clusteringOrders ++ (options.findSome? orders?).getD []
    compactStorage :=
      definition.compactStorage || decide (.compactStorage ∈ options.map subject)
    settings :=
      { regular := ⟨definition.settings.regular.entries ++ options.filterMap property?⟩
        custom := definition.settings.custom.or (options.findSome? custom?) } }

/-- Gives a definition options one after the other. -/
def giveAll (options : List TableOption) (definition : TableDefinition) :
    Except SchemaFault TableDefinition :=
  options.foldlM (fun reached option ↦ option.effect reached) definition

theorem giveAll_concat (options : List TableOption) (option : TableOption)
    (definition : TableDefinition) :
    giveAll (options ++ [option]) definition = giveAll options definition >>= option.effect := by
  rw [giveAll, List.foldlM_append]
  simp only [List.foldlM_cons, List.foldlM_nil, bind_pure]
  rfl

@[simp] theorem merged_nil (definition : TableDefinition) : merged definition [] = definition := by
  simp [merged]

theorem isSome_orders?_iff : option.orders?.isSome = true ↔ option.subject = .clusteringOrder := by
  cases option <;> simp [orders?, subject]

theorem isSome_custom?_iff : option.custom?.isSome = true ↔ option.subject = .customProperties := by
  cases option <;> simp [custom?, subject]

section

variable {Value : Type} {value? : TableOption → Option Value} {about : OptionSubject}

/-- Assumes: values that exactly the options about something have. There is none exactly if no
option is about it. -/
theorem findSome?_eq_none_iff_of_subject
    (habout : ∀ {option}, (value? option).isSome = true ↔ option.subject = about) :
    options.findSome? value? = none ↔ about ∉ options.map subject := by
  rw [List.findSome?_eq_none_iff, List.mem_map, not_exists]
  refine forall_congr' fun option ↦ ?_
  rw [not_and, ← habout, Bool.not_eq_true, Option.isSome_eq_false_iff, Option.isNone_iff_eq_none]

/-- Assumes: values that exactly the options about something have. If no two options are about the
same, the value that is found does not depend on the order. -/
theorem findSome?_eq_of_perm
    (habout : ∀ {option}, (value? option).isSome = true ↔ option.subject = about)
    (hperm : others.Perm options) (hdistinct : (options.map subject).Nodup) :
    others.findSome? value? = options.findSome? value? := by
  have hmem : about ∈ others.map subject ↔ about ∈ options.map subject :=
    (hperm.map subject).mem_iff
  cases hfound : options.findSome? value? with
  | none =>
    rw [findSome?_eq_none_iff_of_subject habout] at hfound ⊢
    rwa [hmem]
  | some value =>
    cases hother : others.findSome? value? with
    | none =>
      rw [findSome?_eq_none_iff_of_subject habout, hmem,
        ← findSome?_eq_none_iff_of_subject habout, hfound] at hother
      cases hother
    | some other =>
      obtain ⟨first, hfirst, hvalue⟩ := List.exists_of_findSome?_eq_some hfound
      obtain ⟨second, hsecond, hotherValue⟩ := List.exists_of_findSome?_eq_some hother
      have hone := habout.1 (Option.isSome_of_eq_some hvalue)
      have htwo := habout.1 (Option.isSome_of_eq_some hotherValue)
      obtain rfl := List.inj_on_of_nodup_map hdistinct hfirst (hperm.mem_iff.1 hsecond)
        (hone.trans htwo.symm)
      exact hotherValue.symm.trans hvalue

end

theorem mem_map_fst_properties_iff {name : Identifier} :
    name ∈ (options.filterMap property?).map Prod.fst ↔ .property name ∈ options.map subject := by
  rw [List.map_filterMap, List.mem_filterMap, List.mem_map]
  refine exists_congr fun option ↦ ?_
  cases option <;> simp [property?, subject]

/-! ### When options can be given -/

/-- Whether directions can be given to columns of a clustering key, one after the other, behind
those that are given already. -/
def InKeyOrder (key : List Identifier) :
    (given orders : List (Identifier × Direction)) → Prop
  | _, [] => True
  | given, order :: orders =>
    order.1 ∈ key ∧ given.lookup order.1 = none ∧
      (key.drop given.length).head? = some order.1 ∧ InKeyOrder key (given ++ [order]) orders

theorem applyAll_orders_eq_ok_iff {orders : List (Identifier × Direction)} :
    applyAll (orders.map Clause.order) definition = .ok next ↔
      InKeyOrder definition.clusteringKey definition.clusteringOrders orders ∧
        next = { definition with clusteringOrders := definition.clusteringOrders ++ orders } := by
  induction orders generalizing definition with
  | nil => simp [InKeyOrder, eq_comm]
  | cons order orders ih =>
    rw [List.map_cons, applyAll_cons_eq_ok_iff]
    simp only [Clause.order, TableDefinition.addClusteringOrder_eq_ok_iff,
      TableDefinition.direction?]
    constructor
    · rintro ⟨_, ⟨hkey, hnone, hdue, rfl⟩, happly⟩
      obtain ⟨hfits, rfl⟩ := ih.1 happly
      exact ⟨⟨hkey, hnone, hdue, hfits⟩, by simp⟩
    · rintro ⟨⟨hkey, hnone, hdue, hfits⟩, rfl⟩
      exact ⟨_, ⟨hkey, hnone, hdue, rfl⟩, ih.2 ⟨hfits, by simp⟩⟩

theorem effect_clusteringOrder_eq_ok_iff {orders : List (Identifier × Direction)} :
    (clusteringOrder orders).effect definition = .ok next ↔
      definition.clusteringOrderGiven = false ∧
        InKeyOrder definition.clusteringKey definition.clusteringOrders orders ∧
        next = { definition with
          clusteringOrderGiven := true
          clusteringOrders := definition.clusteringOrders ++ orders } := by
  rw [effect, Clause.clusteringOrder, bind_eq_ok_iff]
  simp only [TableDefinition.beginClusteringOrder_eq_ok_iff, applyAll_orders_eq_ok_iff]
  constructor
  · rintro ⟨_, ⟨hgiven, rfl⟩, hfits, rfl⟩
    exact ⟨hgiven, hfits, rfl⟩
  · rintro ⟨hgiven, hfits, rfl⟩
    exact ⟨_, ⟨hgiven, rfl⟩, hfits, rfl⟩

theorem effect_customProperties_eq_ok_iff {custom : CustomProperties} :
    (customProperties custom).effect definition = .ok next ↔
      definition.settings.custom = none ∧ next = { definition with
        settings := { definition.settings with custom := some custom } } := by
  rw [effect, Clause.onTable, TableDefinition.updateSettings_eq_ok_iff]
  simp only [Clause.custom, Settings.defineCustom_eq_ok_iff]
  constructor
  · rintro ⟨_, ⟨hnone, rfl⟩, rfl⟩
    exact ⟨hnone, rfl⟩
  · rintro ⟨hnone, rfl⟩
    exact ⟨_, ⟨hnone, rfl⟩, rfl⟩

theorem effect_property_eq_ok_iff {name : Identifier} {value : PropertyValue} :
    (property name value).effect definition = .ok next ↔
      name ∉ definition.settings.regular.keys ∧ next = { definition with
        settings := { definition.settings with
          regular := ⟨definition.settings.regular.entries ++ [(name, value)]⟩ } } := by
  rw [effect, Clause.onTable, TableDefinition.updateSettings_eq_ok_iff]
  simp only [Clause.regular, Settings.addProperty_eq_ok_iff]
  constructor
  · rintro ⟨_, ⟨hnew, rfl⟩, rfl⟩
    exact ⟨hnew, rfl⟩
  · rintro ⟨hnew, rfl⟩
    exact ⟨_, ⟨hnew, rfl⟩, rfl⟩

/-! ### Options together -/

theorem merged_append_clusteringOrder {orders : List (Identifier × Direction)}
    (hnone : options.findSome? orders? = none) :
    merged definition (options ++ [clusteringOrder orders]) = { merged definition options with
      clusteringOrderGiven := true
      clusteringOrders := (merged definition options).clusteringOrders ++ orders } := by
  simp [merged, List.findSome?_append, hnone, orders?, custom?, property?, subject]

theorem merged_append_compactStorage :
    merged definition (options ++ [compactStorage]) =
      { merged definition options with compactStorage := true } := by
  simp [merged, List.findSome?_append, orders?, custom?, property?, subject]

theorem merged_append_customProperties {custom : CustomProperties}
    (hnone : (merged definition options).settings.custom = none) :
    merged definition (options ++ [customProperties custom]) = { merged definition options with
      settings := { (merged definition options).settings with custom := some custom } } := by
  simp only [merged, Option.or_eq_none_iff] at hnone
  simp [merged, List.findSome?_append, hnone, orders?, custom?, property?, subject]

theorem merged_append_property {name : Identifier} {value : PropertyValue} :
    merged definition (options ++ [property name value]) = { merged definition options with
      settings := { (merged definition options).settings with
        regular :=
          ⟨(merged definition options).settings.regular.entries ++ [(name, value)]⟩ } } := by
  simp [merged, List.findSome?_append, orders?, custom?, property?, subject]

/-- Assumes: an option that a definition may have by itself. Behind other options it can be given
exactly if none of them is about the same. -/
theorem effect_merged_eq_ok_iff {alone : TableDefinition}
    (halone : option.effect definition = .ok alone) :
    option.effect (merged definition options) = .ok next ↔
      option.subject ∉ options.map subject ∧ next = merged definition (options ++ [option]) := by
  cases option with
  | clusteringOrder orders =>
    rw [effect_clusteringOrder_eq_ok_iff] at halone ⊢
    obtain ⟨hgiven, hfits, -⟩ := halone
    have hfree : (merged definition options).clusteringOrderGiven = false ↔
        options.findSome? orders? = none := by
      simp [merged, hgiven]
    rw [subject, ← findSome?_eq_none_iff_of_subject isSome_orders?_iff, hfree]
    refine and_congr_right fun hnone ↦ ?_
    rw [merged_append_clusteringOrder hnone]
    have hsame : (merged definition options).clusteringOrders = definition.clusteringOrders := by
      simp [merged, hnone]
    rw [hsame]
    exact and_iff_right hfits
  | compactStorage =>
    have heffect : ∀ {before after : TableDefinition}, compactStorage.effect before = .ok after ↔
        before.compactStorage = false ∧ after = { before with compactStorage := true } :=
      TableDefinition.requestCompactStorage_eq_ok_iff
    rw [heffect] at halone ⊢
    rw [merged_append_compactStorage]
    refine and_congr_left fun _ ↦ ?_
    simp [merged, halone.1, subject]
  | customProperties custom =>
    rw [effect_customProperties_eq_ok_iff] at halone ⊢
    have hfree : (merged definition options).settings.custom = none ↔
        .customProperties ∉ options.map subject := by
      rw [← findSome?_eq_none_iff_of_subject isSome_custom?_iff]
      simp [merged, halone.1]
    rw [subject, ← hfree]
    refine and_congr_right fun hnone ↦ ?_
    rw [merged_append_customProperties hnone]
  | property name value =>
    rw [effect_property_eq_ok_iff] at halone ⊢
    have hkeys : (merged definition options).settings.regular.keys =
        definition.settings.regular.keys ++ (options.filterMap property?).map Prod.fst := by
      simp [merged, OrderedMap.keys]
    rw [merged_append_property, hkeys, List.mem_append, mem_map_fst_properties_iff, not_or,
      and_iff_right halone.1]
    rfl

/-- Assumes: options that a definition may have one by one. They can be given together exactly if no
two of them are about the same. -/
theorem giveAll_eq_ok_iff
    (halone : ∀ option ∈ options, ∃ alone, option.effect definition = .ok alone) :
    giveAll options definition = .ok next ↔
      (options.map subject).Nodup ∧ next = merged definition options := by
  -- The last option is taken off, so that those before it are merged already.
  induction options using List.reverseRecOn generalizing next with
  | nil => simp [giveAll, pure, Except.pure, eq_comm]
  | append_singleton options option ih =>
    rw [List.forall_mem_append, List.forall_mem_singleton] at halone
    obtain ⟨hbefore, alone, hlast⟩ := halone
    have hboth : giveAll (options ++ [option]) definition = .ok next ↔
        (options.map subject).Nodup ∧ option.effect (merged definition options) = .ok next := by
      rw [giveAll_concat, bind_eq_ok_iff]
      simp only [ih hbefore]
      constructor
      · rintro ⟨_, ⟨hdistinct, rfl⟩, hok⟩
        exact ⟨hdistinct, hok⟩
      · rintro ⟨hdistinct, hok⟩
        exact ⟨_, ⟨hdistinct, rfl⟩, hok⟩
    rw [hboth, effect_merged_eq_ok_iff hlast, List.map_append, List.map_singleton,
      List.nodup_append_comm, List.singleton_append, List.nodup_cons, ← and_assoc,
      @and_comm (option.subject ∉ _)]

/-! ### Options in another order -/

theorem check_merged (definition : TableDefinition) (options : List TableOption) :
    (merged definition options).check = definition.check := rfl

/-- Assumes: options of which no two are about the same. In another order they lead to the same
definition up to the order of the regular properties. -/
theorem merged_eq_of_perm (hperm : others.Perm options) (hdistinct : (options.map subject).Nodup) :
    merged definition others = { merged definition options with
      settings := { (merged definition options).settings with
        regular := ⟨definition.settings.regular.entries ++ others.filterMap property?⟩ } } := by
  have horders := findSome?_eq_of_perm isSome_orders?_iff hperm hdistinct
  have hcustom := findSome?_eq_of_perm isSome_custom?_iff hperm hdistinct
  have hcompact : .compactStorage ∈ others.map subject ↔ .compactStorage ∈ options.map subject :=
    (hperm.map subject).mem_iff
  simp [merged, horders, hcustom, hcompact]

end TableOption

/-! ### Statements -/

variable {head run : List Token} {creation : TableCreation}

/-- Whether tokens are read as a statement and what it defines is complete. -/
def Accepted (tokens : List Token) (statement : Statement) : Prop :=
  statementOf tokens = .ok statement ∧ statement.check = .ok ()

/-- Reads the options of a table and the end of the statement, where the rest of it was read. -/
def tableEnd (creation : TableCreation) (definition : TableDefinition) : Parser Statement := do
  let definition ← withOptions tableOption definition
  expectEnd
  return .createTable { creation with definition }

/-- The creation of a table is read up to its options in the same way whatever stands behind it. -/
theorem exists_tableEnd
    (hok : statementOf head = .ok (.createTable creation)) :
    ∃ definition options, withOptions tableOption definition options =
        .ok (creation.definition, []) ∧
      ∀ more, Grammar.statement (head ++ more) =
        tableEnd creation definition (options ++ more) := by
  obtain ⟨rest, hok⟩ := statementOf_eq_ok_iff.1 hok
  obtain ⟨_, _, -, -, huse⟩ | ⟨first, second, kind, behind, rfl, hcreate, hsecond, hkind⟩ :=
    statement_cases hok
  · obtain ⟨_, _, -, -, ⟨⟩⟩ := useStatement_cases huse
  obtain ⟨-, hkeyspace⟩ | ⟨hkind, htable⟩ := hkind
  · obtain ⟨_, _, _, _, _, -, -, -, ⟨⟩⟩ := keyspaceStatement_cases hkeyspace
  obtain ⟨flag, keyspace, table, definition, built, names, clauses, options, hflag, hname, hclauses,
    hoptions, ⟨⟩⟩ := tableStatement_cases htable
  refine ⟨built, options, hoptions, fun more ↦ ?_⟩
  have hnames : names ≠ [] := by
    rintro rfl
    cases hname
  have hopening : clauses ≠ [] := by
    obtain ⟨_, rfl, -⟩ := definitionClauses_cases hclauses
    exact List.cons_ne_nil _ _
  rw [List.cons_append, List.cons_append, statement_eq_tableStatement hcreate hkind hsecond,
    tableStatement, run_bind (settledBefore_ifNotExists hflag hnames more),
    run_bind (settledBefore_qualifiedName hname hopening more)]
  exact run_bind (settled_definitionClauses hclauses trivial more) _

theorem tableEnd_eq_ok_iff {definition : TableDefinition} {statement : Statement}
    {tokens rest : List Token} : tableEnd creation definition tokens = .ok (statement, rest) ↔
      ∃ next, withOptions tableOption definition tokens = .ok (next, []) ∧ rest = [] ∧
        statement = .createTable { creation with definition := next } := by
  simp only [tableEnd, run_bind_eq_ok_iff, expectEnd_eq_ok_iff, run_pure_eq_ok_iff]
  constructor
  · rintro ⟨next, _, hoptions, _, _, ⟨rfl, rfl⟩, rfl, rfl⟩
    exact ⟨next, hoptions, rfl, rfl⟩
  · rintro ⟨next, hoptions, rfl, rfl⟩
    exact ⟨next, [], hoptions, (), [], ⟨rfl, rfl⟩, rfl, rfl⟩

/-- Assumes: options of a table behind which more options can stand. There are none, as a second
`WITH` would be needed. -/
theorem eq_nil_of_withOptions {definition next last : TableDefinition} {options : List Token}
    (hok : withOptions tableOption definition options = .ok (next, []))
    (hmore : withOptions tableOption definition (options ++ withTokens [run]) = .ok (last, [])) :
    options = [] ∧ definition = next := by
  simp only [withOptions, run_bind_eq_ok_iff, exists_choice_iff, acceptWord_eq_false_iff,
    run_pure_eq_ok_iff] at hok
  obtain ⟨behind, hwith, hlist⟩ | ⟨_, ⟨-, rfl⟩, rfl, rfl⟩ := hok
  · have hbehind : acceptWord .withWord (options ++ withTokens [run]) =
        .ok (true, behind ++ withTokens [run]) := acceptWords_append hwith _
    have hlast : acceptWord .andWord ([] ++ withTokens [run]) =
        .ok (false, [] ++ withTokens [run]) :=
      acceptWord_of_lacks (lacks_of_isWord (isWord_self _) (by decide) _)
    have hagain : separated (acceptWord .andWord) tableOption definition
        (behind ++ withTokens [run]) = .ok (next, withTokens [run]) :=
      listAtMost_append (fun _ _ _ _ hok _ ↦ settled_tableOption hok trivial)
        (fun _ _ htrue ↦ ⟨trivial, acceptWords_append htrue⟩)
        (fun _ _ hfalse ↦ (acceptWord_eq_false_iff.1 hfalse).2)
        (weight_le_weight_append behind _) hlist trivial hlast
    rw [withOptions, run_bind hbehind, if_pos rfl, hagain] at hmore
    cases hmore
  · exact ⟨rfl, rfl⟩

/-- Assumes: a table that can have an option. With more tokens behind it the statement is read as
the same table with the options that these tokens are. -/
theorem statementOf_append_eq_ok_iff (hhead : statementOf head = .ok (.createTable creation))
    {alone : Statement} (halone : statementOf (head ++ withTokens [run]) = .ok alone)
    {more : List Token} {statement : Statement} :
    statementOf (head ++ more) = .ok statement ↔ ∃ next,
      withOptions tableOption creation.definition more = .ok (next, []) ∧
        statement = .createTable { creation with definition := next } := by
  obtain ⟨definition, options, hoptions, hend⟩ := exists_tableEnd hhead
  rw [statementOf_eq_ok_iff, hend] at halone
  simp only [tableEnd_eq_ok_iff] at halone
  obtain ⟨_, _, hlast, -, -⟩ := halone
  obtain ⟨rfl, rfl⟩ := eq_nil_of_withOptions hoptions hlast
  simp only [statementOf_eq_ok_iff, hend, tableEnd_eq_ok_iff, List.nil_append]
  constructor
  · rintro ⟨_, next, hnext, -, hstatement⟩
    exact ⟨next, hnext, hstatement⟩
  · rintro ⟨next, hnext, hstatement⟩
    exact ⟨[], next, hnext, rfl, hstatement⟩

/-- Assumes: runs of tokens that stand for options. They are read behind a table exactly if the
options can be given one after the other. -/
theorem withOptions_withTokens_of_standsFor {runs : List (List Token)}
    {optionOf : List Token → TableOption} (hstands : ∀ run ∈ runs, StandsFor run (optionOf run))
    {definition next : TableDefinition} :
    withOptions tableOption definition (withTokens runs) = .ok (next, []) ↔
      TableOption.giveAll (runs.map optionOf) definition = .ok next := by
  have hexact : ∀ clause ∈ runs.map fun run ↦ (optionOf run).spelled run,
      clause.ReadExactlyBy tableOption := by
    intro clause hmem
    obtain ⟨run, hrun, rfl⟩ := List.mem_map.1 hmem
    exact (hstands run hrun).readExactlyBy
  have htokens : (runs.map fun run ↦ (optionOf run).spelled run).map Clause.tokens = runs := by
    rw [List.map_map]
    exact List.map_id _
  have happly : applyAll (runs.map fun run ↦ (optionOf run).spelled run) definition =
      TableOption.giveAll (runs.map optionOf) definition := by
    rw [applyAll, TableOption.giveAll, List.foldlM_map, List.foldlM_map]
    rfl
  have hread := @withOptions_withTokens_eq_ok_iff _ [] _ _ hexact definition next
  rwa [htokens, happly, and_iff_left rfl] at hread

/-- Assumes: runs of tokens that stand for options. No two of them are about the same exactly if no
two of the options are. -/
theorem nodup_subjectOf?_iff {runs : List (List Token)} {optionOf : List Token → TableOption}
    (hstands : ∀ run ∈ runs, StandsFor run (optionOf run)) :
    (runs.map subjectOf?).Nodup ↔ ((runs.map optionOf).map TableOption.subject).Nodup := by
  have hsubjects : runs.map subjectOf? =
      ((runs.map optionOf).map TableOption.subject).map some := by
    rw [List.map_map, List.map_map]
    exact List.map_congr_left fun run hmem ↦ (hstands run hmem).subjectOf?_eq
  rw [hsubjects]
  exact List.nodup_map_iff fun _ _ ↦ Option.some.inj

/-- Assumes: a complete table, and runs of tokens that stand for options, each of which the table
can have by itself. The table with all of them is accepted exactly if no two of the options are
about the same, and then it is the table with the options merged. -/
theorem accepted_append_iff (hhead : Accepted head (.createTable creation))
    {runs : List (List Token)} (hnonempty : runs ≠ []) {optionOf : List Token → TableOption}
    (hstands : ∀ run ∈ runs, StandsFor run (optionOf run))
    (halone : ∀ run ∈ runs, ∃ alone, Accepted (head ++ withTokens [run]) alone)
    {statement : Statement} : Accepted (head ++ withTokens runs) statement ↔
      ((runs.map optionOf).map TableOption.subject).Nodup ∧ statement = .createTable { creation with
        definition := TableOption.merged creation.definition (runs.map optionOf) } := by
  obtain ⟨run, hmem⟩ := List.exists_mem_of_ne_nil runs hnonempty
  obtain ⟨alone, hrun, -⟩ := halone run hmem
  have hread : ∀ {chosen : List (List Token)} {statement : Statement},
      (∀ run ∈ chosen, StandsFor run (optionOf run)) →
        (statementOf (head ++ withTokens chosen) = .ok statement ↔ ∃ next,
          TableOption.giveAll (chosen.map optionOf) creation.definition = .ok next ∧
            statement = .createTable { creation with definition := next }) := by
    intro chosen statement hchosen
    simp only [statementOf_append_eq_ok_iff hhead.1 hrun,
      withOptions_withTokens_of_standsFor hchosen]
  have hfits : ∀ option ∈ runs.map optionOf, ∃ alone,
      option.effect creation.definition = .ok alone := by
    intro option hoption
    obtain ⟨run, hmem, rfl⟩ := List.mem_map.1 hoption
    obtain ⟨alone, haccepted, -⟩ := halone run hmem
    obtain ⟨next, heffect, -⟩ :=
      (hread (List.forall_mem_singleton.2 (hstands run hmem))).1 haccepted
    exact ⟨next, by simpa [TableOption.giveAll] using heffect⟩
  rw [Accepted, hread hstands]
  simp only [TableOption.giveAll_eq_ok_iff hfits]
  constructor
  · rintro ⟨⟨_, ⟨hdistinct, rfl⟩, rfl⟩, -⟩
    exact ⟨hdistinct, rfl⟩
  · rintro ⟨hdistinct, rfl⟩
    exact ⟨⟨_, ⟨hdistinct, rfl⟩, rfl⟩, (TableOption.check_merged _ _).trans hhead.2⟩

/-- The options of a table may come in any order. Assumes: the tokens of a complete table; runs of
tokens, at least one, each of which is one complete option that can stand behind the table; and the
same runs in another order. The table itself has no options then, since no `WITH` can follow them.
With the runs in one order behind the table the statement is accepted if and only if it is in the
other; it is rejected if and only if two of the runs are about the same regular property, or both
are the clustering order, compact storage or the custom properties; and if it is accepted, the two
tables differ in nothing but their regular properties, which come in the order of the runs. -/
theorem table_options_commute {runs permuted : List (List Token)}
    (hhead : Accepted head (.createTable creation)) (hnonempty : runs ≠ [])
    (hcomplete : ∀ run ∈ runs, CompleteOption run)
    (halone : ∀ run ∈ runs, ∃ alone, Accepted (head ++ withTokens [run]) alone)
    (hpermuted : permuted.Perm runs) :
    ((∃ statement, Accepted (head ++ withTokens runs) statement) ↔
      ∃ statement, Accepted (head ++ withTokens permuted) statement) ∧
    ((¬ ∃ statement, Accepted (head ++ withTokens runs) statement) ↔
      ¬ (runs.map subjectOf?).Nodup) ∧
    ∃ given : List Token → List (Identifier × PropertyValue),
      (∀ run ∈ runs, ∃ alone, Accepted (head ++ withTokens [run]) (.createTable alone) ∧
        alone.definition.settings.regular.toList =
          creation.definition.settings.regular.toList ++ given run) ∧
      ∀ first second, Accepted (head ++ withTokens runs) first →
        Accepted (head ++ withTokens permuted) second →
          ∃ table other, first = .createTable table ∧ second = .createTable other ∧
            table.definition.settings.regular.toList =
              creation.definition.settings.regular.toList ++ runs.flatMap given ∧
            other.definition.settings.regular.toList =
              creation.definition.settings.regular.toList ++ permuted.flatMap given ∧
            other = { table with definition := { table.definition with
              settings := { table.definition.settings with
                regular := other.definition.settings.regular } } } := by
  obtain ⟨optionOf, hstands⟩ : ∃ optionOf : List Token → TableOption,
      ∀ run ∈ runs, StandsFor run (optionOf run) := by
    have : Nonempty TableOption := ⟨.compactStorage⟩
    choose! optionOf hstands using fun run hmem ↦ (hcomplete run hmem).exists_standsFor
    exact ⟨optionOf, hstands⟩
  have hruns : ∀ {statement}, Accepted (head ++ withTokens runs) statement ↔ _ ∧ _ :=
    accepted_append_iff hhead hnonempty hstands halone
  have hothers : ∀ {statement}, Accepted (head ++ withTokens permuted) statement ↔ _ ∧ _ :=
    accepted_append_iff hhead (fun hnil ↦ hnonempty (hnil ▸ hpermuted).nil_eq.symm)
      (fun run hmem ↦ hstands run (hpermuted.mem_iff.1 hmem))
      (fun run hmem ↦ halone run (hpermuted.mem_iff.1 hmem))
  have hoptions : (permuted.map optionOf).Perm (runs.map optionOf) := hpermuted.map optionOf
  have hdistinct := (hoptions.map TableOption.subject).nodup_iff
  have hgiven : ∀ chosen : List (List Token),
      (TableOption.merged creation.definition (chosen.map optionOf)).settings.regular.toList =
        creation.definition.settings.regular.toList ++
          chosen.flatMap fun run ↦ (optionOf run).property?.toList := by
    intro chosen
    show _ ++ (chosen.map optionOf).filterMap TableOption.property? = _
    rw [List.filterMap_map, List.filterMap_eq_flatMap_toList]
    rfl
  refine ⟨?_, ?_, fun run ↦ (optionOf run).property?.toList, ?_, ?_⟩
  · simp only [hruns, hothers, exists_and_left, exists_eq, and_true, hdistinct]
  · simp only [hruns, exists_and_left, exists_eq, and_true, nodup_subjectOf?_iff hstands]
  · intro run hmem
    have hsingle : ∀ other ∈ [run], StandsFor other (optionOf other) :=
      List.forall_mem_singleton.2 (hstands run hmem)
    have haccepted := (accepted_append_iff hhead (List.cons_ne_nil run []) hsingle
      (List.forall_mem_singleton.2 (halone run hmem))).2 ⟨List.nodup_singleton _, rfl⟩
    refine ⟨_, haccepted, (hgiven [run]).trans ?_⟩
    rw [List.flatMap_singleton]
  · intro first second hfirst hsecond
    obtain ⟨hnodup, rfl⟩ := hruns.1 hfirst
    obtain ⟨-, rfl⟩ := hothers.1 hsecond
    refine ⟨_, _, rfl, rfl, hgiven runs, hgiven permuted, ?_⟩
    rw [TableOption.merged_eq_of_perm hoptions hnodup]

/-- A table of readings, up to the parenthesis behind its definitions. -/
def readingsHead : List Token :=
  [.word "create", .word "table", .quotedWord "readings", .symbol .leftParenthesis,
    .quotedWord "meter", .word "int", .symbol .comma, .quotedWord "day", .word "date",
    .symbol .comma, .word "primary", .word "key", .symbol .leftParenthesis, .quotedWord "meter",
    .symbol .comma, .quotedWord "day", .symbol .rightParenthesis, .symbol .rightParenthesis]

/-- Options of the table, of which the value of one is spelled like the word between options. -/
def readingsOptions : List (List Token) :=
  [[.quotedWord "comment", .symbol .equals, .word "AND"],
    [.word "clustering", .word "order", .word "by", .symbol .leftParenthesis, .quotedWord "day",
      .word "desc", .symbol .rightParenthesis],
    [.word "compact", .word "storage"]]

/-- The table of readings. -/
def readings : TableCreation where
  keyspace := none
  table := ⟨"readings"⟩
  ifNotExists := false
  definition := { TableDefinition.empty with
    columns := ⟨[(⟨"meter"⟩, .simple "int"), (⟨"day"⟩, .simple "date")]⟩
    partitionKey := [⟨"meter"⟩]
    clusteringKey := [⟨"day"⟩]
    primaryKeyGiven := true }

/-- The table may have its options in both orders. -/
theorem table_options_commute_readings :
    (∃ statement, Accepted (readingsHead ++ withTokens readingsOptions) statement) ∧
      ∃ statement, Accepted (readingsHead ++ withTokens readingsOptions.reverse) statement := by
  have hhead : Accepted readingsHead (.createTable readings) := ⟨rfl, rfl⟩
  have hcomplete : ∀ run ∈ readingsOptions, CompleteOption run :=
    List.forall_mem_cons.2 ⟨⟨readings.definition, _, rfl⟩, List.forall_mem_cons.2
      ⟨⟨readings.definition, _, rfl⟩, List.forall_mem_singleton.2 ⟨readings.definition, _, rfl⟩⟩⟩
  have halone : ∀ run ∈ readingsOptions, ∃ alone,
      Accepted (readingsHead ++ withTokens [run]) alone :=
    List.forall_mem_cons.2 ⟨⟨_, rfl, rfl⟩,
      List.forall_mem_cons.2 ⟨⟨_, rfl, rfl⟩, List.forall_mem_singleton.2 ⟨_, rfl, rfl⟩⟩⟩
  obtain ⟨hboth, hrejected, -⟩ := table_options_commute hhead (List.cons_ne_nil _ _) hcomplete
    halone (List.reverse_perm _)
  have haccepted :
      ∃ statement, Accepted (readingsHead ++ withTokens readingsOptions) statement := by
    by_contra hnone
    exact hrejected.1 hnone (by decide)
  exact ⟨haccepted, hboth.1 haccepted⟩

end SchemaTemplate.Grammar
