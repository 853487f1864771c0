import Mathlib.Data.List.Nodup
import SchemaTemplate.Schema.Soundness
import SchemaTemplate.Schema.TableEdit

/-!
What the operations on table definitions keep, in whatever order they are called. Each operation
succeeds exactly under the conditions that it checks, and these are what
`TableDefinition.Consistent` needs to hold again behind it; an induction over the calls carries it
to every definition that can be built. The clustering order deserves a word: as directions are given
for the first columns of the clustering key, there is always a column to which the next direction is
due. In place this means that its position is never behind the end of the key.
-/

set_option autoImplicit false
set_option relaxedAutoImplicit false

namespace SchemaTemplate.TableDefinition

variable {definition next : TableDefinition} {column : Identifier}

/-! ### When operations succeed -/

theorem addColumn_eq_ok_iff {type : ColumnType} :
    definition.addColumn column type = .ok next ↔ column ∉ definition.columns.keys ∧
      next = { definition with columns := ⟨definition.columns.entries ++ [(column, type)]⟩ } := by
  rw [addColumn]
  cases hadd : definition.columns.add column type with
  | ok columns =>
    obtain ⟨hnew, rfl⟩ := (OrderedMap.add_eq_ok_iff _ _ _ _).1 hadd
    simp [Except.mapError, bind, Except.bind, pure, Except.pure, hnew, eq_comm]
  | error repeated =>
    have hpresent := ((OrderedMap.add_eq_error_iff _ _ _ _).1 hadd).1
    simp [Except.mapError, bind, Except.bind, hpresent]

theorem addStaticColumn_eq_ok_iff : definition.addStaticColumn column = .ok next ↔
    column ∈ definition.columns.keys ∧ column ∉ definition.primaryKey ∧
      next = if column ∈ definition.staticColumns then definition
        else { definition with staticColumns := definition.staticColumns ++ [column] } := by
  rw [addStaticColumn, ← OrderedMap.contains_iff]
  cases definition.columns.contains column with
  | false => simp
  | true =>
    by_cases hkey : column ∈ definition.primaryKey
    · simp [hkey]
    · by_cases hstatic : column ∈ definition.staticColumns <;> simp [hkey, hstatic, eq_comm]

theorem checkKeyColumn_eq_ok_iff : definition.checkKeyColumn column = .ok () ↔
    column ∈ definition.columns.keys ∧ column ∉ definition.staticColumns ∧
      column ∉ definition.primaryKey := by
  rw [checkKeyColumn, ← OrderedMap.contains_iff]
  cases definition.columns.contains column with
  | false => simp
  | true =>
    by_cases hstatic : column ∈ definition.staticColumns
    · simp [hstatic]
    · by_cases hkey : column ∈ definition.primaryKey <;> simp [hstatic, hkey]

/-- A step behind a check succeeds exactly if the check does. -/
theorem check_bind_eq_ok_iff {outcome : Except SchemaFault Unit} {result : TableDefinition} :
    (do outcome; return result) = Except.ok next ↔ outcome = .ok () ∧ next = result := by
  cases outcome <;> simp [bind, Except.bind, pure, Except.pure, eq_comm]

theorem addPartitionColumn_eq_ok_iff : definition.addPartitionColumn column = .ok next ↔
    definition.checkKeyColumn column = .ok () ∧
      next = { definition with partitionKey := definition.partitionKey ++ [column] } :=
  check_bind_eq_ok_iff

theorem addClusteringColumn_eq_ok_iff : definition.addClusteringColumn column = .ok next ↔
    definition.checkKeyColumn column = .ok () ∧
      next = { definition with clusteringKey := definition.clusteringKey ++ [column] } :=
  check_bind_eq_ok_iff

theorem direction?_eq_none_iff : definition.direction? column = none ↔
    column ∉ definition.clusteringOrders.map Prod.fst := by
  rw [direction?, List.lookup_eq_none_iff, List.mem_map, not_exists]
  refine forall_congr' fun order ↦ ?_
  rw [not_and, bne_iff_ne, ne_comm]

theorem addClusteringOrder_eq_ok_iff {direction : Direction} :
    definition.addClusteringOrder column direction = .ok next ↔
      column ∈ definition.clusteringKey ∧ definition.direction? column = none ∧
        (definition.clusteringKey.drop definition.clusteringOrders.length).head? = some column ∧
          next = { definition with
            clusteringOrders := definition.clusteringOrders ++ [(column, direction)] } := by
  rw [addClusteringOrder]
  by_cases hkey : column ∈ definition.clusteringKey
  · cases hdirection : definition.direction? column with
    | some given => simp [hkey]
    | none =>
      cases hdue : definition.clusteringKey.drop definition.clusteringOrders.length with
      | nil => simp [hkey]
      | cons due after =>
        by_cases hsame : due = column
        · simp [hkey, hsame, eq_comm]
        · simp [hkey, hsame]
  · simp [hkey]

theorem updateSettings_eq_ok_iff {update : Settings → Except SchemaFault Settings} :
    definition.updateSettings update = .ok next ↔ ∃ settings,
      update definition.settings = .ok settings ∧ next = { definition with settings } := by
  rw [updateSettings]
  cases update definition.settings <;> simp [bind, Except.bind, pure, Except.pure, eq_comm]

theorem beginPrimaryKey_eq_ok_iff : definition.beginPrimaryKey = .ok next ↔
    definition.primaryKeyGiven = false ∧ next = { definition with primaryKeyGiven := true } := by
  cases hgiven : definition.primaryKeyGiven <;> simp [beginPrimaryKey, hgiven, eq_comm]

theorem beginClusteringOrder_eq_ok_iff : definition.beginClusteringOrder = .ok next ↔
    definition.clusteringOrderGiven = false ∧
      next = { definition with clusteringOrderGiven := true } := by
  cases hgiven : definition.clusteringOrderGiven <;> simp [beginClusteringOrder, hgiven, eq_comm]

theorem requestCompactStorage_eq_ok_iff : definition.requestCompactStorage = .ok next ↔
    definition.compactStorage = false ∧ next = { definition with compactStorage := true } := by
  cases hgiven : definition.compactStorage <;> simp [requestCompactStorage, hgiven, eq_comm]

/-! ### What one operation keeps -/

theorem consistent_empty : empty.Consistent where
  columns_distinct := .nil
  primaryKey_distinct := .nil
  primaryKey_declared := nofun
  static_distinct := .nil
  static_declared := nofun
  static_outside_key := nofun
  orders_in_key_order := List.nil_prefix

namespace Consistent

theorem addColumn (hconsistent : definition.Consistent) {type : ColumnType}
    (hok : definition.addColumn column type = .ok next) : next.Consistent := by
  obtain ⟨hnew, rfl⟩ := addColumn_eq_ok_iff.1 hok
  have hmore : ∀ other ∈ definition.columns.keys,
      other ∈ (⟨definition.columns.entries ++ [(column, type)]⟩ : OrderedMap _ _).keys := by
    intro other hmem
    rw [OrderedMap.keys, List.map_append]
    exact List.mem_append_left _ hmem
  exact { hconsistent with
    columns_distinct := hconsistent.columns_distinct.append hnew type
    primaryKey_declared := fun other hmem ↦ hmore other (hconsistent.primaryKey_declared other hmem)
    static_declared := fun other hmem ↦ hmore other (hconsistent.static_declared other hmem) }

theorem addStaticColumn (hconsistent : definition.Consistent)
    (hok : definition.addStaticColumn column = .ok next) : next.Consistent := by
  obtain ⟨hdeclared, hkey, rfl⟩ := addStaticColumn_eq_ok_iff.1 hok
  split
  next => exact hconsistent
  next hnew =>
    exact { hconsistent with
      static_distinct := nodup_append_singleton hconsistent.static_distinct hnew
      static_declared := by
        intro other hmem
        rcases List.mem_append.1 hmem with hbefore | hlast
        · exact hconsistent.static_declared other hbefore
        · rwa [List.mem_singleton.1 hlast]
      static_outside_key := by
        intro other hmem
        rcases List.mem_append.1 hmem with hbefore | hlast
        · exact hconsistent.static_outside_key other hbefore
        · rwa [List.mem_singleton.1 hlast] }

/-- Assumes: a column that may be added to the primary key, and a definition whose primary key has
that column in addition, somewhere, and whose clustering key begins as before. -/
theorem addKeyColumn (hconsistent : definition.Consistent)
    (hcheck : definition.checkKeyColumn column = .ok ()) {partition clustering : List Identifier}
    (hadded : (partition ++ clustering).Perm (column :: definition.primaryKey))
    (hbegins : definition.clusteringKey <+: clustering) :
    Consistent { definition with partitionKey := partition, clusteringKey := clustering } := by
  obtain ⟨hdeclared, hstatic, hnew⟩ := checkKeyColumn_eq_ok_iff.1 hcheck
  exact { hconsistent with
    primaryKey_distinct :=
      hadded.nodup_iff.2 (List.nodup_cons.2 ⟨hnew, hconsistent.primaryKey_distinct⟩)
    primaryKey_declared := by
      intro other hmem
      rcases List.mem_cons.1 (hadded.mem_iff.1 hmem) with rfl | hbefore
      · exact hdeclared
      · exact hconsistent.primaryKey_declared other hbefore
    static_outside_key := by
      intro other hother hmem
      rcases List.mem_cons.1 (hadded.mem_iff.1 hmem) with rfl | hbefore
      · exact hstatic hother
      · exact hconsistent.static_outside_key other hother hbefore
    orders_in_key_order := hconsistent.orders_in_key_order.trans hbegins }

theorem addPartitionColumn (hconsistent : definition.Consistent)
    (hok : definition.addPartitionColumn column = .ok next) : next.Consistent := by
  obtain ⟨hcheck, rfl⟩ := addPartitionColumn_eq_ok_iff.1 hok
  refine hconsistent.addKeyColumn hcheck ?_ (List.prefix_refl _)
  rw [List.append_assoc, List.singleton_append, primaryKey]
  exact List.perm_middle

theorem addClusteringColumn (hconsistent : definition.Consistent)
    (hok : definition.addClusteringColumn column = .ok next) : next.Consistent := by
  obtain ⟨hcheck, rfl⟩ := addClusteringColumn_eq_ok_iff.1 hok
  refine hconsistent.addKeyColumn hcheck ?_ (List.prefix_append _ _)
  rw [← List.append_assoc, ← primaryKey]
  exact List.perm_append_singleton _ _

/-- Assumes: a definition whose directions are those of the first clustering columns. What comes
behind these in the clustering key begins with the next column. -/
theorem drop_orders (hconsistent : definition.Consistent) :
    definition.clusteringKey = definition.clusteringOrders.map Prod.fst ++
      definition.clusteringKey.drop definition.clusteringOrders.length := by
  obtain ⟨rest, hrest⟩ := hconsistent.orders_in_key_order
  rw [← hrest, List.drop_left' (by simp)]

theorem addClusteringOrder (hconsistent : definition.Consistent) {direction : Direction}
    (hok : definition.addClusteringOrder column direction = .ok next) : next.Consistent := by
  obtain ⟨-, -, hdue, rfl⟩ := addClusteringOrder_eq_ok_iff.1 hok
  obtain ⟨after, hafter⟩ := List.head?_eq_some_iff.1 hdue
  have hkey := hconsistent.drop_orders
  rw [hafter] at hkey
  exact { hconsistent with
    orders_in_key_order := by
      rw [List.map_append, List.map_singleton]
      exact ⟨after, by rw [List.append_assoc, List.singleton_append, ← hkey]⟩ }

theorem updateSettings (hconsistent : definition.Consistent)
    {update : Settings → Except SchemaFault Settings}
    (hok : definition.updateSettings update = .ok next) : next.Consistent := by
  obtain ⟨settings, -, rfl⟩ := updateSettings_eq_ok_iff.1 hok
  exact { hconsistent with }

/-- Every operation that succeeds keeps a definition consistent. -/
theorem edited (hconsistent : definition.Consistent) {edit : Edit}
    (hok : definition.edited edit = .ok next) : next.Consistent := by
  cases edit with
  | addColumn column type => exact hconsistent.addColumn hok
  | addStaticColumn column => exact hconsistent.addStaticColumn hok
  | addPartitionColumn column => exact hconsistent.addPartitionColumn hok
  | addClusteringColumn column => exact hconsistent.addClusteringColumn hok
  | addClusteringOrder column direction => exact hconsistent.addClusteringOrder hok
  -- The marks that a clause was given and the settings play no part in consistency.
  | beginPrimaryKey =>
    obtain ⟨-, rfl⟩ := beginPrimaryKey_eq_ok_iff.1 hok
    exact { hconsistent with }
  | beginClusteringOrder =>
    obtain ⟨-, rfl⟩ := beginClusteringOrder_eq_ok_iff.1 hok
    exact { hconsistent with }
  | requestCompactStorage =>
    obtain ⟨-, rfl⟩ := requestCompactStorage_eq_ok_iff.1 hok
    exact { hconsistent with }
  | addProperty name value =>
    change definition.updateSettings (fun settings ↦ settings.addProperty name value) = _ at hok
    exact hconsistent.updateSettings hok
  | defineCustom custom =>
    change definition.updateSettings (fun settings ↦ settings.defineCustom custom) = _ at hok
    exact hconsistent.updateSettings hok

/-- Assumes: a clustering column without a direction. There is a column to which the next direction
is due. -/
theorem exists_due (hconsistent : definition.Consistent) (hkey : column ∈ definition.clusteringKey)
    (hnone : definition.direction? column = none) :
    definition.clusteringOrders.length < definition.clusteringKey.length := by
  rw [direction?_eq_none_iff] at hnone
  have hsplit := hconsistent.drop_orders
  by_contra hlong
  -- If all clustering columns had a direction, the column would have one.
  rw [List.drop_of_length_le (by omega), List.append_nil] at hsplit
  exact hnone (hsplit ▸ hkey)

end Consistent

/-! ### Operations in place -/

namespace InPlace

variable {Value Later : Type} (definition)

theorem runOn_get_bind (later : TableDefinition → InPlace Later) :
    runOn (get >>= later) definition = (later definition).runOn definition := rfl

theorem runOn_refuseIf_bind (condition : Prop) [Decidable condition] (fault : SchemaFault)
    (later : Unit → InPlace Later) :
    runOn (refuseIf condition fault >>= later) definition =
      if condition then (.error (.refused fault), definition)
      else (later ()).runOn definition := by
  unfold refuseIf
  split <;> rfl

theorem runOn_ofOutcome_bind (outcome : Except SchemaFault Value)
    (later : Value → InPlace Later) :
    runOn (ofOutcome outcome >>= later) definition = match outcome with
      | .ok value => (later value).runOn definition
      | .error fault => (.error (.refused fault), definition) := by
  cases outcome <;> rfl

theorem runOn_itemAt_bind {items : List Value} {position : Nat} (hrange : position < items.length)
    (later : Value → InPlace Later) :
    runOn (itemAt items position >>= later) definition =
      (later items[position]).runOn definition := by
  rw [itemAt, List.getElem?_eq_getElem hrange]
  rfl

end InPlace

open InPlace

/-- The column to which the next direction is due is the one at its position in the key. -/
theorem Consistent.position_eq_iff (hconsistent : definition.Consistent)
    (hrange : definition.clusteringOrders.length < definition.clusteringKey.length) :
    definition.clusteringOrders.length = definition.clusteringKey.idxOf column ↔
      definition.clusteringKey[definition.clusteringOrders.length] = column := by
  have hdistinct := (List.nodup_append.1 hconsistent.primaryKey_distinct).2.1
  constructor
  · intro hposition
    simp only [hposition, List.getElem_idxOf]
  · rintro rfl
    exact (hdistinct.idxOf_getElem _ hrange).symm

theorem attempt_addClusteringOrder (hconsistent : definition.Consistent)
    (direction : Direction) : definition.attempt (.addClusteringOrder column direction) =
      definition.allOrNothing (definition.addClusteringOrder column direction) := by
  rw [attempt, perform, addClusteringOrder, runOn_get_bind, runOn_refuseIf_bind]
  split
  next => rfl
  next hkey =>
    rw [runOn_refuseIf_bind]
    split
    next => rfl
    next hnone =>
      have hrange := hconsistent.exists_due (not_not.1 hkey) (by simpa using hnone)
      rw [List.drop_eq_getElem_cons hrange]
      simp only [hconsistent.position_eq_iff hrange]
      split
      next => rfl
      next =>
        rw [runOn_itemAt_bind _ hrange]
        rfl

/-- In place, an operation on a consistent definition ends as it should: it leads to its definition
or is refused and leaves all as it was. No position is behind the end of the clustering key. -/
theorem attempt_eq (hconsistent : definition.Consistent) (edit : Edit) :
    definition.attempt edit = definition.allOrNothing (definition.edited edit) := by
  cases edit with
  | addColumn column type =>
    -- The map of columns looks for the column once more, which it cannot hold at that point.
    simp only [attempt, perform, edited, addColumn, OrderedMap.define, OrderedMap.add,
      runOn_get_bind, runOn_refuseIf_bind, runOn_ofOutcome_bind]
    split <;> rfl
  | addStaticColumn column =>
    simp only [attempt, perform, edited, addStaticColumn, runOn_get_bind, runOn_refuseIf_bind]
    split
    next => rfl
    next =>
      split
      next => rfl
      next =>
        by_cases hstatic : column ∈ definition.staticColumns
        · rw [if_pos hstatic, if_neg (not_not.2 hstatic)]
          rfl
        · rw [if_neg hstatic, if_pos hstatic]
          rfl
  | beginPrimaryKey | beginClusteringOrder | requestCompactStorage =>
    simp only [attempt, perform, edited, beginPrimaryKey, beginClusteringOrder,
      requestCompactStorage, runOn_get_bind, runOn_refuseIf_bind]
    split <;> rfl
  | addPartitionColumn column | addClusteringColumn column =>
    simp only [attempt, perform, edited, addPartitionColumn, addClusteringColumn, runOn_get_bind,
      runOn_ofOutcome_bind]
    cases definition.checkKeyColumn column <;> rfl
  | addClusteringOrder column direction => exact attempt_addClusteringOrder hconsistent direction
  | addProperty name value =>
    simp only [attempt, perform, edited, updateSettings, Settings.addProperty, runOn_get_bind,
      runOn_ofOutcome_bind]
    cases definition.settings.regular.define name value <;> rfl
  | defineCustom custom =>
    simp only [attempt, perform, edited, updateSettings, Settings.defineCustom, runOn_get_bind,
      runOn_refuseIf_bind]
    cases definition.settings.custom <;> rfl

/-! ### What sequences of operations keep -/

/-- An operation in place succeeds with a consistent definition, or is refused and leaves the
definition as it was. -/
theorem attempt_cases (hconsistent : definition.Consistent) (edit : Edit) :
    (∃ next, definition.edited edit = .ok next ∧ next.Consistent ∧
      definition.attempt edit = (.ok (), next)) ∨
      ∃ fault, definition.edited edit = .error fault ∧
        definition.attempt edit = (.error (.refused fault), definition) := by
  rw [attempt_eq hconsistent]
  cases hedited : definition.edited edit with
  | ok next => exact .inl ⟨next, rfl, hconsistent.edited hedited, rfl⟩
  | error fault => exact .inr ⟨fault, rfl, rfl⟩

theorem attemptAll_cons (definition : TableDefinition) (edit : Edit) (edits : List Edit) :
    definition.attemptAll (edit :: edits) = (definition.attempt edit).2.attemptAll edits := rfl

/-- Operations in place keep a definition consistent, whether or not they succeed. -/
theorem Consistent.attemptAll (hconsistent : definition.Consistent) (edits : List Edit) :
    (definition.attemptAll edits).Consistent := by
  induction edits generalizing definition with
  | nil => exact hconsistent
  | cons edit edits ih =>
    rw [attemptAll_cons]
    rcases attempt_cases hconsistent edit with ⟨next, -, hnext, hattempt⟩ | ⟨_, -, hattempt⟩
    · rw [hattempt]
      exact ih hnext
    · rw [hattempt]
      exact ih hconsistent

/-- The operations that are refused can be left out, and the others then lead to the same
definition without any fault. -/
theorem exists_sublist_attemptAll (hconsistent : definition.Consistent) (edits : List Edit) :
    ∃ carried : List Edit, carried.Sublist edits ∧
      carried.foldlM edited definition = .ok (definition.attemptAll edits) := by
  induction edits generalizing definition with
  | nil => exact ⟨[], .slnil, rfl⟩
  | cons edit edits ih =>
    rw [attemptAll_cons]
    rcases attempt_cases hconsistent edit with ⟨next, hok, hnext, hattempt⟩ | ⟨_, -, hattempt⟩
    · obtain ⟨carried, hsublist, hcarried⟩ := ih hnext
      refine ⟨edit :: carried, hsublist.cons_cons edit, ?_⟩
      rw [List.foldlM_cons, hok, hattempt]
      exact hcarried
    · obtain ⟨carried, hsublist, hcarried⟩ := ih hconsistent
      rw [hattempt]
      exact ⟨carried, hsublist.cons edit, hcarried⟩

theorem Built.consistent (hbuilt : definition.Built) : definition.Consistent := by
  obtain ⟨edits, rfl⟩ := hbuilt
  exact consistent_empty.attemptAll edits

/-- The representation is kept under every order of operations. Whatever operations are carried out
in place, with whatever arguments and whether they succeed or fail, the parts of the definition
agree with each other: no column is declared twice, the primary key lists declared columns without
repetition, static columns are declared columns outside of it, and directions are given for the
first clustering columns in their order. So no operation looks behind the end of the clustering key
for the column to which the next direction is due, and one that stops leaves the definition as it
was. Each ends as worked out on the definition as a whole, and those that are refused may as well be
left out. -/
theorem attemptAll_keeps_representation (edits : List Edit) :
    let definition := empty.attemptAll edits
    definition.Consistent ∧
      (∀ edit, (definition.attempt edit).1 ≠ .error .outOfRange) ∧
      (∀ edit stop, (definition.attempt edit).1 = .error stop →
        (definition.attempt edit).2 = definition) ∧
      (∀ edit, definition.attempt edit = definition.allOrNothing (definition.edited edit)) ∧
      ∃ carried : List Edit, carried.Sublist edits ∧
        carried.foldlM edited empty = .ok definition := by
  intro definition
  have hconsistent : definition.Consistent := consistent_empty.attemptAll edits
  refine ⟨hconsistent, ?_, ?_, attempt_eq hconsistent,
    exists_sublist_attemptAll consistent_empty edits⟩
  · intro edit hstop
    rcases attempt_cases hconsistent edit with ⟨_, -, -, hattempt⟩ | ⟨_, -, hattempt⟩
    · rw [hattempt] at hstop
      cases hstop
    · rw [hattempt] at hstop
      cases hstop
  · intro edit stop hstop
    rcases attempt_cases hconsistent edit with ⟨_, -, -, hattempt⟩ | ⟨_, -, hattempt⟩
    · rw [hattempt] at hstop
      cases hstop
    · rw [hattempt]

end SchemaTemplate.TableDefinition
