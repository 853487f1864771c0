import SchemaTemplate.Conversion
import SchemaTemplate.Proofs.LogicalIds
import SchemaTemplate.Proofs.OrderedMaps
import SchemaTemplate.Proofs.ScriptSoundness
import SchemaTemplate.Proofs.TableMapping

/-!
How a conversion can fail. Mapping a statement has two failures in store that are not meant for
anybody: a key column that was not declared, and a logical id that is taken. The first cannot come
up in a consistent definition, nor the second where ids are numbered, so every failure of a
statement is a refusal or, if warnings are not tolerated, a warning; `Failure.Foreseen` says this.
All other failures of a conversion are those of reading its script.
-/

set_option autoImplicit false
set_option relaxedAutoImplicit false

namespace SchemaTemplate

/-- Whether a failure is one that statements are meant to have: a refusal, or a warning where
warnings are not tolerated. -/
def Failure.Foreseen (strictness : Strictness) : Failure → Prop
  | .refused _ => True
  | .strictWarning _ => strictness = .strict
  | _ => False

namespace Mapping

open Report

variable {strictness : Strictness}

/-- Whether a step of the mapping has no failures but foreseen ones. -/
def Foreseeable {Value : Type} (strictness : Strictness) (report : Report Value) : Prop :=
  report.FailsOnly (Failure.Foreseen strictness)

theorem foreseeable_refuse {Value : Type} (refusal : Refusal) :
    Foreseeable strictness (refuse refusal : Report Value) :=
  .of_outcome_eq_error (outcome_refuse refusal) trivial

theorem foreseeable_caution (warning : Warning) :
    Foreseeable strictness (caution strictness warning) := by
  cases strictness with
  | lenient => exact .of_outcome_eq_ok rfl
  | strict => exact .of_outcome_eq_error rfl rfl

/-! ### Types and columns -/

mutual

theorem foreseeable_typeExpr (keyspace : Identifier) :
    (type : ColumnType) → Foreseeable strictness (typeExpr keyspace type)
  | .simple _ => .pure _
  | .composite kind elements => (foreseeable_typeExprs keyspace elements).map (compositeExpr kind)
  | .user typeKeyspace name => by
    rw [typeExpr, refuseUserType]
    split
    · exact foreseeable_refuse _
    · exact FailsOnly.bind (.log _ _) fun _ _ ↦ foreseeable_refuse _
  | .custom _ => foreseeable_refuse _

theorem foreseeable_typeExprs (keyspace : Identifier) :
    (types : List ColumnType) → Foreseeable strictness (typeExprs keyspace types)
  | [] => .pure _
  | first :: rest =>
    (foreseeable_typeExpr keyspace first).bind fun _ _ ↦
      (foreseeable_typeExprs keyspace rest).bind fun _ _ ↦ .pure _

end

theorem foreseeable_mapColumn (keyspace : Identifier) (column : Identifier × ColumnType) :
    Foreseeable strictness (mapColumn keyspace column) :=
  (foreseeable_typeExpr keyspace column.2).bind fun _ _ ↦ .pure _

/-- Assumes: key columns without repetition that were all declared. Each of them is found. -/
theorem foreseeable_mapKey (keyspace : Identifier) {names : List Identifier}
    (hdistinct : names.Nodup) {unplaced : Unplaced}
    (hdeclared : ∀ name ∈ names, (unplaced.get? name).isSome = true) :
    Foreseeable strictness (mapKey keyspace names unplaced) := by
  induction names generalizing unplaced with
  | nil => exact .pure _
  | cons name names ih =>
    obtain ⟨hnew, hdistinct⟩ := List.nodup_cons.1 hdistinct
    obtain ⟨hfound, hdeclared⟩ := List.forall_mem_cons.1 hdeclared
    obtain ⟨type, htype⟩ := Option.isSome_iff_exists.1 hfound
    have hleft : ∀ other ∈ names, ((unplaced.erase name).get? other).isSome = true := by
      intro other hmem
      have hother : other ≠ name := by
        rintro rfl
        exact hnew hmem
      rw [OrderedMap.get?_erase_of_ne _ hother]
      exact hdeclared other hmem
    unfold mapKey
    rw [htype]
    exact (foreseeable_mapColumn keyspace _).bind fun _ _ ↦
      (ih hdistinct hleft).bind fun _ _ ↦ .pure _

theorem foreseeable_mapColumns (keyspace : Identifier) (keyspaceName : Expr) (table : Identifier)
    {definition : TableDefinition} (hconsistent : definition.Consistent) :
    Foreseeable strictness (mapColumns keyspace keyspaceName table definition) := by
  have hdeclared : ∀ name ∈ definition.primaryKey,
      (definition.columns.get? name).isSome = true := by
    intro name hmem
    exact (OrderedMap.isSome_get?_iff _ _).2 (hconsistent.primaryKey_declared name hmem)
  obtain ⟨hpartition, hclustering, hapart⟩ := List.nodup_append.1 hconsistent.primaryKey_distinct
  refine (foreseeable_mapKey keyspace hpartition fun name hmem ↦
    hdeclared name (List.mem_append_left _ hmem)).bind ?_
  rintro ⟨partitionColumns, left⟩ hok
  obtain ⟨_, -, -, -, rfl⟩ := mapKey_cases hok
  have hleft : ∀ name ∈ definition.clusteringKey,
      ((definition.partitionKey.foldl OrderedMap.erase definition.columns).get? name).isSome =
        true := by
    intro name hmem
    rw [get?_foldl_erase_of_notMem fun hpartition ↦ hapart name hpartition name hmem rfl]
    exact hdeclared name (List.mem_append_right _ hmem)
  refine (foreseeable_mapKey keyspace hclustering hleft).bind ?_
  rintro ⟨clusteringColumns, others⟩ -
  refine FailsOnly.bind ?_ fun _ _ ↦ (FailsOnly.mapM fun column _ ↦
    foreseeable_mapColumn keyspace column).bind fun _ _ ↦ .pure _
  unfold refuseStaticColumns
  split
  · exact .pure ()
  · exact foreseeable_refuse _

/-! ### Properties -/

theorem foreseeable_refuseLeftover (refusal : String → Refusal) (options : Options) :
    Foreseeable strictness (refuseLeftover refusal options) := by
  unfold refuseLeftover
  split
  · exact foreseeable_refuse _
  · exact .pure ()

theorem foreseeable_takeUnits (option : String) (options : Options) :
    Foreseeable strictness (takeUnits option options) := by
  unfold takeUnits
  split
  · exact foreseeable_refuse _
  · split
    · exact .pure _
    · exact foreseeable_refuse _

theorem foreseeable_mapCapacityMode (options : Options) :
    Foreseeable strictness (mapCapacityMode options) := by
  unfold mapCapacityMode
  split
  next => exact foreseeable_refuse _
  next mode _ =>
    split
    next => exact (foreseeable_refuseLeftover _ _).bind fun _ _ ↦ .pure _
    next =>
      split
      next =>
        exact (foreseeable_takeUnits _ _).bind fun _ _ ↦ (foreseeable_takeUnits _ _).bind fun _ _ ↦
          (foreseeable_refuseLeftover _ _).bind fun _ _ ↦ .pure _
      next => exact foreseeable_refuse _

theorem foreseeable_mapRecovery (options : Options) :
    Foreseeable strictness (mapRecovery options) := by
  unfold mapRecovery
  split
  next => exact foreseeable_refuse _
  next =>
    split
    next =>
      exact (foreseeable_refuseLeftover _ _).bind fun _ _ ↦ (FailsOnly.log _ _).bind fun _ _ ↦
        foreseeable_refuse _
    next => exact foreseeable_refuse _

theorem foreseeable_mapCustomProperty (billing : Option BillingMode)
    (property : String × Options) :
    Foreseeable strictness (mapCustomProperty billing property) := by
  unfold mapCustomProperty
  split
  · exact (foreseeable_mapCapacityMode _).map some
  · split
    · exact (foreseeable_mapRecovery _).bind fun _ _ ↦ .pure _
    · exact foreseeable_refuse _

theorem foreseeable_billingModeOf (settings : Settings) :
    Foreseeable strictness (billingModeOf settings) := by
  unfold billingModeOf
  split
  · exact .foldlM foreseeable_mapCustomProperty _ _
  · exact .pure _

theorem foreseeable_mapTableProperty (property : Identifier × PropertyValue) :
    Foreseeable strictness (mapTableProperty strictness property) := by
  dsimp only [mapTableProperty]
  split
  · split <;> exact foreseeable_refuse _
  split
  · split <;> exact foreseeable_refuse _
  split
  · split <;> exact foreseeable_refuse _
  · exact foreseeable_caution _

theorem foreseeable_mapReplication (value : PropertyValue) :
    Foreseeable strictness (mapReplication strictness value) := by
  unfold mapReplication
  split
  · exact foreseeable_refuse _
  split
  · exact foreseeable_refuse _
  split
  · split
    · exact foreseeable_refuse _
    · exact .pure ()
  · exact foreseeable_caution _

theorem foreseeable_mapKeyspaceProperty (property : Identifier × PropertyValue) :
    Foreseeable strictness (mapKeyspaceProperty strictness property) := by
  unfold mapKeyspaceProperty
  split
  · exact foreseeable_mapReplication _
  split
  · unfold mapKeyspaceTags
    split
    · exact foreseeable_refuse _
    · exact FailsOnly.bind (.log _ _) fun _ _ ↦ foreseeable_refuse _
  · exact foreseeable_caution _

theorem foreseeable_mapKeyspaceSettings (settings : Settings) :
    Foreseeable strictness (mapKeyspaceSettings strictness settings) := by
  have hrequired : Foreseeable strictness (requireReplication settings) := by
    unfold requireReplication
    split
    · exact .pure ()
    · exact foreseeable_refuse _
  have hcustom : Foreseeable strictness (refuseCustomProperties settings) := by
    unfold refuseCustomProperties
    split
    · exact foreseeable_refuse _
    · exact .pure ()
  exact hrequired.bind fun _ _ ↦ (FailsOnly.forM fun property _ ↦
    foreseeable_mapKeyspaceProperty property).bind fun _ _ ↦ hcustom

/-! ### Statements -/

variable {registry : Registry}

theorem foreseeable_keyspaceExpr (keyspace : Identifier) :
    Foreseeable strictness (keyspaceExpr strictness registry keyspace) := by
  unfold keyspaceExpr
  split
  · exact .pure _
  · exact (foreseeable_caution _).bind fun _ _ ↦ .pure _

theorem foreseeable_tableResource (keyspace : Identifier) {creation : TableCreation}
    (hconsistent : creation.definition.Consistent) :
    Foreseeable strictness (tableResource strictness registry keyspace creation) := by
  have hcompact : Foreseeable strictness
      (mapCompactStorage strictness creation.definition.compactStorage) := by
    unfold mapCompactStorage
    split
    · exact foreseeable_caution _
    · exact .pure ()
  exact (foreseeable_keyspaceExpr keyspace).bind fun _ _ ↦
    (foreseeable_mapColumns keyspace _ _ hconsistent).bind fun _ _ ↦
      (FailsOnly.forM fun property _ ↦ foreseeable_mapTableProperty property).bind fun _ _ ↦
        (foreseeable_billingModeOf _).bind fun _ _ ↦ hcompact.bind fun _ _ ↦ .pure _

theorem foreseeable_mapKeyspace (hnumbered : registry.Numbered) (creation : KeyspaceCreation) :
    Foreseeable strictness (mapKeyspace strictness registry creation) := by
  unfold mapKeyspace
  split
  · split
    · exact .of_outcome_eq_ok (outcome_skipKeyspace _)
    · exact foreseeable_refuse _
  · have hadd := (Registry.outcome_addKeyspace_eq_ok_iff registry _ creation.keyspace).2
      ⟨hnumbered.nextKeyspaceId_new, rfl⟩
    exact (foreseeable_mapKeyspaceSettings _).bind fun _ _ ↦ .of_outcome_eq_ok hadd

theorem foreseeable_mapTable (hnumbered : registry.Numbered) {creation : TableCreation}
    (hconsistent : creation.definition.Consistent) :
    Foreseeable strictness (mapTable strictness registry creation) := by
  unfold mapTable
  split
  next keyspace _ =>
    unfold mapTableIn
    split
    · split
      · exact .of_outcome_eq_ok (outcome_skipTable _ _)
      · exact foreseeable_refuse _
    · refine (foreseeable_tableResource _ hconsistent).bind fun resource _ ↦ ?_
      have hadd := (Registry.outcome_addTable_eq_ok_iff registry _ keyspace creation.table
        resource).2 ⟨hnumbered.nextTableId_new, rfl⟩
      exact .of_outcome_eq_ok hadd
  next => exact foreseeable_refuse _

end Mapping

/-- Whether a statement defines no table that contradicts itself. -/
def Statement.Consistent : Statement → Prop
  | use _ => True
  | createKeyspace _ => True
  | createTable creation => creation.definition.Consistent

namespace Mapping

variable {strictness : Strictness} {registry : Registry}

/-- Where ids are numbered, a consistent statement has no failures but foreseen ones. -/
theorem foreseeable_mapStatement (hnumbered : registry.Numbered) {statement : Statement}
    (hconsistent : statement.Consistent) :
    Foreseeable strictness (mapStatement strictness registry statement) := by
  refine Report.FailsOnly.bind (.log _ _) fun _ _ ↦ ?_
  cases statement with
  | use keyspace => exact Report.FailsOnly.bind (.log _ _) fun _ _ ↦ .pure _
  | createKeyspace creation => exact foreseeable_mapKeyspace hnumbered creation
  | createTable creation => exact foreseeable_mapTable hnumbered hconsistent

end Mapping

/-! ### Scripts -/

/-- Whether a failure is one of reading a script: it is not well formed, or what it defines is
faulty. -/
def Failure.OfReading : Failure → Prop
  | .malformed _ _ => True
  | .schema _ => True
  | _ => False

theorem Failure.OfReading.not_foreseen {failure : Failure} (hreading : failure.OfReading)
    (strictness : Strictness) : ¬ failure.Foreseen strictness := by
  cases failure with
  | malformed | schema => exact id
  | unreadable | unwritable | refused | strictWarning | unrenderable => cases hreading

theorem Lexeme.malformed_of_ofTextAfter {done : List Lexeme} {position : Position}
    {text : List Char} {failure : Failure}
    (herror : ofTextAfter done position text = .error failure) : failure.OfReading := by
  fun_induction ofTextAfter done position text with
  | case1 => cases herror
  | case2 =>
    cases herror
    trivial
  | case3 done position first rest token extra scanned lexeme ih => exact ih herror

namespace Script

open Report

/-- The statements of a stretch are read with no failures but those of reading. -/
theorem failsOnly_readStatement (stretch : List Lexeme) :
    (readStatement stretch).FailsOnly Failure.OfReading := by
  have hdraft : (ofOutcome (draft stretch)).FailsOnly Failure.OfReading := by
    intro failure herror
    rw [outcome_ofOutcome, draft] at herror
    cases hread : Grammar.statementOf ((significant stretch).map Lexeme.token) with
    | ok => rw [hread] at herror; cases herror
    | error rejection =>
      rw [hread] at herror
      cases herror
      cases rejection <;> trivial
  have hcheck : ∀ statement : Statement,
      (ofOutcome (statement.check.mapError Failure.ofFault)).FailsOnly Failure.OfReading := by
    intro statement failure herror
    rw [outcome_ofOutcome] at herror
    cases hchecked : statement.check with
    | ok => rw [hchecked] at herror; cases herror
    | error fault =>
      rw [hchecked] at herror
      cases herror
      trivial
  exact hdraft.bind fun statement _ ↦ (FailsOnly.of_outcome_eq_ok (outcome_logDraft _)).bind
    fun _ _ ↦ (hcheck statement).bind fun _ _ ↦ (FailsOnly.log _ _).bind fun _ _ ↦ .pure _

theorem failsOnly_read (script : String) : (read script).FailsOnly Failure.OfReading := by
  have hlexemes : (ofOutcome (Lexeme.ofText script)).FailsOnly Failure.OfReading :=
    fun _ herror ↦ Lexeme.malformed_of_ofTextAfter herror
  exact hlexemes.bind fun lexemes _ ↦ .mapM fun stretch _ ↦ failsOnly_readStatement stretch

end Script

/-! ### Sessions -/

/-- Whether a statement can be had: it is read from a script, or its table is built up by the
operations on definitions. -/
def Statement.Obtainable (statement : Statement) : Prop :=
  (∃ script statements, (Script.read script).outcome = .ok statements ∧ statement ∈ statements) ∨
    ∀ creation, statement = .createTable creation → creation.definition.Built

theorem Statement.Sound.isConsistent {statement : Statement} (hsound : statement.Sound) :
    statement.Consistent := by
  cases statement with
  | use | createKeyspace => trivial
  | createTable creation => exact TableDefinition.Sound.consistent hsound

theorem Statement.Obtainable.isConsistent {statement : Statement}
    (hobtainable : statement.Obtainable) : statement.Consistent := by
  obtain ⟨script, statements, hread, hmem⟩ | hbuilt := hobtainable
  · obtain ⟨stretch, hstretch⟩ := Script.exists_readStatement_of_mem hread hmem
    exact (Script.sound_of_readStatement hstretch).isConsistent
  · cases statement with
    | use | createKeyspace => trivial
    | createTable creation => exact (hbuilt creation rfl).consistent

namespace Session

open Mapping

theorem foreseeable_handle {session : Session} (hnumbered : session.registry.Numbered)
    {statement : Statement} (hconsistent : statement.Consistent) :
    Foreseeable session.strictness (session.handle statement).2 :=
  foreseeable_mapStatement hnumbered hconsistent

theorem strictness_handleAll (session : Session) (statements : List Statement) :
    (session.handleAll statements).strictness = session.strictness := by
  induction statements generalizing session with
  | nil => rfl
  | cons statement statements ih => exact ih (session.handle statement).1

/-- Whatever a session has handled, it reports on a statement as strictly as it began. -/
theorem report_handleAll (strictness : Strictness) (before : List Statement)
    (statement : Statement) : ((new strictness).handleAll before).report statement =
      mapStatement strictness ((new strictness).handleAll before).registry statement := by
  rw [report, strictness_handleAll]
  rfl

theorem foreseeable_run {session : Session} (hnumbered : session.registry.Numbered)
    {statements : List Statement} (hconsistent : ∀ statement ∈ statements, statement.Consistent) :
    Foreseeable session.strictness (session.run statements).2 := by
  induction statements generalizing session with
  | nil => exact .pure ()
  | cons statement rest ih =>
    obtain ⟨hfirst, hrest⟩ := List.forall_mem_cons.1 hconsistent
    have hlater := ih (hnumbered.handle statement) hrest
    rw [run_cons_report]
    exact (foreseeable_handle hnumbered hfirst).bind fun _ _ ↦ hlater

end Session

/-- Assumes: statements that were read. Converting them has no failures but foreseen ones. -/
theorem foreseeable_convertStatements (strictness : Strictness) {script : String}
    {statements : List Statement} (hread : (Script.read script).outcome = .ok statements) :
    Mapping.Foreseeable strictness (convertStatements strictness statements) := by
  have hempty : (Session.new strictness).registry.Numbered := .empty
  have hrun := Session.foreseeable_run hempty fun statement hmem ↦
    Statement.Obtainable.isConsistent (.inl ⟨script, statements, hread, hmem⟩)
  exact hrun.bind fun _ _ ↦ .pure _

/-- All failures are foreseen. Whatever a session has handled, a statement that was read from a
script or whose table was built up by the operations on definitions fails with a refusal or, if
warnings are not tolerated, with a warning: no key column is missing and no logical id is taken. So
a conversion fails with a fault of the script exactly if reading the script does, and with the same
one, and it has no other failures than these and the foreseen ones. -/
theorem failures_foreseen (strictness : Strictness) :
    (∀ (before : List Statement) (statement : Statement), statement.Obtainable →
      (((Session.new strictness).handleAll before).handle statement).2.FailsOnly
        (Failure.Foreseen strictness)) ∧
    ∀ script,
      (Script.read script).FailsOnly Failure.OfReading ∧
      (∀ failure : Failure, failure.OfReading →
        ((convert strictness script).outcome = .error failure ↔
          (Script.read script).outcome = .error failure)) ∧
      (convert strictness script).FailsOnly fun failure ↦
        failure.OfReading ∨ failure.Foreseen strictness := by
  refine ⟨?_, ?_⟩
  · intro before statement hobtainable
    have hnumbered := Session.registry_handleAll_induction Registry.Numbered .empty
      Registry.Numbered.transition strictness before
    have hforeseeable := Session.foreseeable_handle hnumbered hobtainable.isConsistent
    rwa [Session.strictness_handleAll] at hforeseeable
  · intro script
    refine ⟨Script.failsOnly_read script, ?_⟩
    cases hread : (Script.read script).outcome with
    | ok statements =>
      have hforeseeable := foreseeable_convertStatements strictness hread
      have hconvert : (convert strictness script).outcome =
          (convertStatements strictness statements).outcome := Report.outcome_bind_of_ok hread _
      refine ⟨?_, fun failure herror ↦ .inr (hforeseeable failure (hconvert ▸ herror))⟩
      intro failure hreading
      refine iff_of_false ?_ nofun
      intro herror
      exact hreading.not_foreseen strictness (hforeseeable failure (hconvert ▸ herror))
    | error failure =>
      have hconvert : (convert strictness script).outcome = .error failure :=
        Report.outcome_bind_of_error hread _
      refine ⟨fun other _ ↦ by simp [hconvert], .of_outcome_eq_error hconvert (.inl ?_)⟩
      exact Script.failsOnly_read script failure hread

end SchemaTemplate
