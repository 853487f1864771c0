import SchemaTemplate.Conversion

/-!
Strictness is the end of a session at its first warning. Every step of the mapping is compared with
itself under the other degree of strictness: `Report.StrictTwin` says that the strict report keeps
no warning, has the same outcome as long as none is given, and fails with the first one otherwise.
Steps that give no warnings are twins of themselves, `Report.caution` has a twin by what
strictness means, and twins can be continued by twins; so the relation holds of whole statements
and, by induction, of whole runs.
-/

set_option autoImplicit false
set_option relaxedAutoImplicit false

namespace SchemaTemplate

namespace Report

variable {Value Result : Type}

/-- Whether the second report is what the first becomes where warnings are not tolerated. -/
structure StrictTwin (lenient strict : Report Value) : Prop where
  nothing_kept : strict.warnings = []
  same_outcome : lenient.warnings = [] → strict.outcome = lenient.outcome
  first_warning : ∀ warning rest, lenient.warnings = warning :: rest →
    strict.outcome = .error (.strictWarning warning)

variable {lenient strict : Report Value}

/-- Assumes: two reports without warnings that have the same outcome. They are twins. -/
theorem StrictTwin.of_silent (hsilent : lenient.warnings = []) (hnothing : strict.warnings = [])
    (hsame : strict.outcome = lenient.outcome) : StrictTwin lenient strict where
  nothing_kept := hnothing
  same_outcome := fun _ ↦ hsame
  first_warning := by
    intro warning rest hwarnings
    rw [hsilent] at hwarnings
    cases hwarnings

/-- Assumes: a report with warnings, and one without that fails with the first of them. They are
twins. -/
theorem StrictTwin.of_first {warning : String} {rest : List String}
    (hwarnings : lenient.warnings = warning :: rest) (hnothing : strict.warnings = [])
    (hfailed : strict.outcome = .error (.strictWarning warning)) : StrictTwin lenient strict where
  nothing_kept := hnothing
  same_outcome := by
    intro hnone
    rw [hwarnings] at hnone
    cases hnone
  first_warning := by
    intro first others hothers
    rw [hwarnings] at hothers
    cases hothers
    exact hfailed

/-- Assumes: a report without warnings. It does not depend on strictness. -/
theorem StrictTwin.refl {report : Report Value} (hsilent : report.warnings = []) :
    StrictTwin report report := .of_silent hsilent hsilent rfl

/-- Assumes: twins, and continuations that are twins for the value reached without a warning.
Continuing keeps twins. -/
theorem StrictTwin.bind {next nextStrict : Value → Report Result}
    (htwin : StrictTwin lenient strict)
    (hnext : ∀ value, lenient.warnings = [] → lenient.outcome = .ok value →
      StrictTwin (next value) (nextStrict value)) :
    StrictTwin (lenient >>= next) (strict >>= nextStrict) := by
  cases hwarnings : lenient.warnings with
  | cons warning rest =>
    -- The strict report has failed already, so nothing follows it.
    have hfailed := htwin.first_warning warning rest hwarnings
    have hfirst : ∃ more, (lenient >>= next).warnings = warning :: more := by
      cases houtcome : lenient.outcome with
      | ok value => exact ⟨_, by rw [warnings_bind_of_ok houtcome, hwarnings]; rfl⟩
      | error failure => exact ⟨rest, by rw [warnings_bind_of_error houtcome, hwarnings]⟩
    obtain ⟨more, hmore⟩ := hfirst
    refine .of_first hmore ?_ (outcome_bind_of_error hfailed _)
    rw [warnings_bind_of_error hfailed, htwin.nothing_kept]
  | nil =>
    have hsame := htwin.same_outcome hwarnings
    cases houtcome : lenient.outcome with
    | error failure =>
      rw [houtcome] at hsame
      refine .of_silent ?_ ?_ ?_
      · rw [warnings_bind_of_error houtcome, hwarnings]
      · rw [warnings_bind_of_error hsame, htwin.nothing_kept]
      · rw [outcome_bind_of_error hsame, outcome_bind_of_error houtcome]
    | ok value =>
      rw [houtcome] at hsame
      have hvalue := hnext value hwarnings houtcome
      refine ⟨?_, ?_, ?_⟩
      · rw [warnings_bind_of_ok hsame, htwin.nothing_kept, hvalue.nothing_kept]
        rfl
      · intro hnone
        rw [warnings_bind_of_ok houtcome, hwarnings] at hnone
        rw [outcome_bind_of_ok hsame, outcome_bind_of_ok houtcome, hvalue.same_outcome hnone]
      · intro warning rest hfirst
        rw [warnings_bind_of_ok houtcome, hwarnings] at hfirst
        rw [outcome_bind_of_ok hsame, hvalue.first_warning warning rest hfirst]

/-- Assumes: for every item, twins. Going through a list keeps twins. -/
theorem StrictTwin.forM {Item : Type} {step stepStrict : Item → Report Unit}
    (hstep : ∀ item, StrictTwin (step item) (stepStrict item)) (items : List Item) :
    StrictTwin (items.forM step) (items.forM stepStrict) := by
  induction items with
  | nil => exact StrictTwin.refl rfl
  | cons item rest ih => exact (hstep item).bind fun _ _ _ ↦ ih

/-- A warning under strictness is the failure that it names. -/
theorem strictTwin_caution (warning : Warning) :
    StrictTwin (caution .lenient warning) (caution .strict warning) := .of_first rfl rfl rfl

end Report

/-! ### Steps without warnings -/

namespace Mapping

open Report

@[simp] theorem warnings_mapKeyspaceTags (value : PropertyValue) :
    (mapKeyspaceTags value).warnings = [] := by
  unfold mapKeyspaceTags
  split <;> simp

@[simp] theorem warnings_requireReplication (settings : Settings) :
    (requireReplication settings).warnings = [] := by
  unfold requireReplication
  split <;> simp

@[simp] theorem warnings_refuseCustomProperties (settings : Settings) :
    (refuseCustomProperties settings).warnings = [] := by
  unfold refuseCustomProperties
  split <;> simp

@[simp] theorem warnings_refuseUserType (keyspace : Identifier)
    (typeKeyspace : Option Identifier) (name : Identifier) :
    (refuseUserType keyspace typeKeyspace name).warnings = [] := by
  unfold refuseUserType
  split <;> simp

mutual

@[simp] theorem warnings_typeExpr (keyspace : Identifier) :
    (type : ColumnType) → (typeExpr keyspace type).warnings = []
  | .simple name => by simp [typeExpr]
  | .composite kind elements => by
    simp [typeExpr, warnings_typeExprs keyspace elements]
  | .user typeKeyspace name => by simp [typeExpr]
  | .custom className => by simp [typeExpr]

@[simp] theorem warnings_typeExprs (keyspace : Identifier) :
    (types : List ColumnType) → (typeExprs keyspace types).warnings = []
  | [] => by simp [typeExprs]
  | first :: rest => by
    simp [typeExprs, warnings_typeExpr keyspace first, warnings_typeExprs keyspace rest]

end

@[simp] theorem warnings_mapColumn (keyspace : Identifier) (column : Identifier × ColumnType) :
    (mapColumn keyspace column).warnings = [] := by
  simp [mapColumn]

@[simp] theorem warnings_mapKey (keyspace : Identifier) (names : List Identifier)
    (unplaced : Unplaced) : (mapKey keyspace names unplaced).warnings = [] := by
  induction names generalizing unplaced with
  | nil => simp [mapKey]
  | cons name names ih =>
    unfold mapKey
    split
    · simp
    · simp [ih]

@[simp] theorem warnings_refuseStaticColumns (definition : TableDefinition) :
    (refuseStaticColumns definition).warnings = [] := by
  unfold refuseStaticColumns
  split <;> simp

@[simp] theorem warnings_mapM_mapColumn (keyspace : Identifier)
    (columns : List (Identifier × ColumnType)) :
    (columns.mapM (mapColumn keyspace)).warnings = [] := by
  induction columns with
  | nil => simp
  | cons column columns ih => simp [List.mapM_cons, ih]

@[simp] theorem warnings_mapColumns (keyspace : Identifier) (keyspaceName : Expr)
    (table : Identifier) (definition : TableDefinition) :
    (mapColumns keyspace keyspaceName table definition).warnings = [] := by
  simp [mapColumns]

@[simp] theorem warnings_takeUnits (option : String) (options : Options) :
    (takeUnits option options).warnings = [] := by
  unfold takeUnits
  split
  · simp
  · split <;> simp

@[simp] theorem warnings_refuseLeftover (refusal : String → Refusal) (options : Options) :
    (refuseLeftover refusal options).warnings = [] := by
  unfold refuseLeftover
  split <;> simp

@[simp] theorem warnings_mapCapacityMode (options : Options) :
    (mapCapacityMode options).warnings = [] := by
  unfold mapCapacityMode
  split
  · simp
  · dsimp only
    split
    · simp
    · split <;> simp

@[simp] theorem warnings_mapRecovery (options : Options) :
    (mapRecovery options).warnings = [] := by
  unfold mapRecovery
  split
  · simp
  · split <;> simp

@[simp] theorem warnings_mapCustomProperty (billing : Option BillingMode)
    (property : String × Options) : (mapCustomProperty billing property).warnings = [] := by
  unfold mapCustomProperty
  split
  · simp
  · split <;> simp

@[simp] theorem warnings_mapCustomProperties (custom : CustomProperties) :
    (mapCustomProperties custom).warnings = [] := by
  have hfold : ∀ (properties : List (String × Options)) (billing : Option BillingMode),
      (properties.foldlM mapCustomProperty billing).warnings = [] := by
    intro properties
    induction properties with
    | nil => simp
    | cons property properties ih => simp [ih]
  exact hfold custom.toList none

@[simp] theorem warnings_billingModeOf (settings : Settings) :
    (billingModeOf settings).warnings = [] := by
  unfold billingModeOf
  split <;> simp

end Mapping

@[simp] theorem Registry.warnings_addResource (registry : Registry) (logicalId : String)
    (resource : Resource) : (registry.addResource logicalId resource).warnings = [] := by
  unfold addResource
  split <;> simp

@[simp] theorem Registry.warnings_addKeyspace (registry : Registry) (keyspace : Identifier) :
    (registry.addKeyspace keyspace).warnings = [] := by
  simp [addKeyspace]

@[simp] theorem Registry.warnings_addTable (registry : Registry) (keyspace table : Identifier)
    (resource : TableResource) : (registry.addTable keyspace table resource).warnings = [] := by
  simp [addTable]

/-! ### Steps with warnings -/

namespace Mapping

open Report

theorem strictTwin_mapReplication (value : PropertyValue) :
    StrictTwin (mapReplication .lenient value) (mapReplication .strict value) := by
  unfold mapReplication
  split
  · exact .refl (warnings_refuse _)
  · split
    · exact .refl (warnings_refuse _)
    · split
      · exact .refl (by split <;> simp)
      · exact strictTwin_caution _

theorem strictTwin_mapKeyspaceProperty (property : Identifier × PropertyValue) :
    StrictTwin (mapKeyspaceProperty .lenient property) (mapKeyspaceProperty .strict property) := by
  unfold mapKeyspaceProperty
  split
  · exact strictTwin_mapReplication property.2
  · split
    · exact .refl (warnings_mapKeyspaceTags _)
    · exact strictTwin_caution _

theorem strictTwin_mapKeyspaceSettings (settings : Settings) :
    StrictTwin (mapKeyspaceSettings .lenient settings) (mapKeyspaceSettings .strict settings) := by
  refine StrictTwin.bind (.refl (warnings_requireReplication settings)) fun _ _ _ ↦ ?_
  refine StrictTwin.bind (.forM strictTwin_mapKeyspaceProperty _) fun _ _ _ ↦ ?_
  exact .refl (warnings_refuseCustomProperties settings)

theorem strictTwin_mapKeyspace (registry : Registry) (creation : KeyspaceCreation) :
    StrictTwin (mapKeyspace .lenient registry creation)
      (mapKeyspace .strict registry creation) := by
  unfold mapKeyspace
  split
  · split
    · exact .refl (by simp [skipKeyspace])
    · exact .refl (warnings_refuse _)
  · exact (strictTwin_mapKeyspaceSettings creation.settings).bind fun _ _ _ ↦ .refl (by simp)

theorem strictTwin_mapTableProperty (property : Identifier × PropertyValue) :
    StrictTwin (mapTableProperty .lenient property) (mapTableProperty .strict property) := by
  unfold mapTableProperty
  dsimp only
  split
  · exact .refl (by split <;> simp)
  · split
    · exact .refl (by split <;> simp)
    · split
      · exact .refl (by split <;> simp)
      · exact strictTwin_caution _

theorem strictTwin_mapCompactStorage (requested : Bool) :
    StrictTwin (mapCompactStorage .lenient requested) (mapCompactStorage .strict requested) := by
  unfold mapCompactStorage
  split
  · exact strictTwin_caution _
  · exact .refl (warnings_pure _)

theorem strictTwin_keyspaceExpr (registry : Registry) (keyspace : Identifier) :
    StrictTwin (keyspaceExpr .lenient registry keyspace)
      (keyspaceExpr .strict registry keyspace) := by
  unfold keyspaceExpr
  split
  · exact .refl (warnings_pure _)
  · exact (strictTwin_caution _).bind fun _ _ _ ↦ .refl (warnings_pure _)

theorem strictTwin_tableResource (registry : Registry) (keyspace : Identifier)
    (creation : TableCreation) :
    StrictTwin (tableResource .lenient registry keyspace creation)
      (tableResource .strict registry keyspace creation) := by
  refine (strictTwin_keyspaceExpr registry keyspace).bind fun keyspaceName _ _ ↦ ?_
  refine StrictTwin.bind (.refl (warnings_mapColumns _ _ _ _)) fun table _ _ ↦ ?_
  refine StrictTwin.bind (.forM strictTwin_mapTableProperty _) fun _ _ _ ↦ ?_
  refine StrictTwin.bind (.refl (warnings_billingModeOf _)) fun billingMode _ _ ↦ ?_
  exact (strictTwin_mapCompactStorage _).bind fun _ _ _ ↦ .refl (warnings_pure _)

theorem strictTwin_mapTableIn (registry : Registry) (keyspace : Identifier)
    (creation : TableCreation) :
    StrictTwin (mapTableIn .lenient registry keyspace creation)
      (mapTableIn .strict registry keyspace creation) := by
  unfold mapTableIn
  split
  · split
    · exact .refl (by simp [skipTable])
    · exact .refl (warnings_refuse _)
  · exact (strictTwin_tableResource registry keyspace creation).bind fun _ _ _ ↦ .refl (by simp)

theorem strictTwin_mapTable (registry : Registry) (creation : TableCreation) :
    StrictTwin (mapTable .lenient registry creation) (mapTable .strict registry creation) := by
  unfold mapTable
  split
  · exact strictTwin_mapTableIn registry _ creation
  · exact .refl (warnings_refuse _)

/-- Every statement, mapped from the same registry, is a twin of itself under strictness. -/
theorem strictTwin_mapStatement (registry : Registry) (statement : Statement) :
    StrictTwin (mapStatement .lenient registry statement)
      (mapStatement .strict registry statement) := by
  refine StrictTwin.bind (.refl (warnings_log _ _)) fun _ _ _ ↦ ?_
  cases statement with
  | use keyspace => exact .refl (by simp [mapUse])
  | createKeyspace creation => exact strictTwin_mapKeyspace registry creation
  | createTable creation => exact strictTwin_mapTable registry creation

end Mapping

/-! ### Runs -/

namespace Session

open Report

/-- The warnings after a run are those before it and those in its report. -/
theorem warnings_run (session : Session) (statements : List Statement) :
    (session.run statements).1.warnings =
      session.warnings ++ (session.run statements).2.warnings := by
  induction statements generalizing session with
  | nil => simp [run]
  | cons statement rest ih =>
    have hhandle : (session.handle statement).1.warnings =
        session.warnings ++ (session.handle statement).2.warnings := rfl
    rw [run_cons_report]
    cases houtcome : (session.handle statement).2.outcome with
    | ok registry =>
      rw [run_cons_of_ok houtcome, warnings_bind_of_ok houtcome, ih, hhandle, List.append_assoc]
    | error failure =>
      rw [run_cons_of_error houtcome, warnings_bind_of_error houtcome, hhandle]

/-- Whether two sessions are in the same state but for their strictness and their warnings. -/
structure Paired (lenient strict : Session) : Prop where
  lenient_tolerates : lenient.strictness = .lenient
  strict_refuses : strict.strictness = .strict
  same_registry : strict.registry = lenient.registry

/-- Assumes: paired sessions. They report on a statement as twins. -/
theorem strictTwin_handle {lenient strict : Session} (hpaired : Paired lenient strict)
    (statement : Statement) :
    StrictTwin (lenient.handle statement).2 (strict.handle statement).2 := by
  have htwin := Mapping.strictTwin_mapStatement lenient.registry statement
  simp only [handle, report]
  rwa [hpaired.lenient_tolerates, hpaired.strict_refuses, hpaired.same_registry]

/-- Assumes: paired sessions, and a statement that draws no warning. They are paired behind it. -/
theorem Paired.handle {lenient strict : Session} (hpaired : Paired lenient strict)
    {statement : Statement} (hsilent : (lenient.handle statement).2.warnings = []) :
    Paired (lenient.handle statement).1 (strict.handle statement).1 where
  lenient_tolerates := hpaired.lenient_tolerates
  strict_refuses := hpaired.strict_refuses
  same_registry := by
    have hsame := (strictTwin_handle hpaired statement).same_outcome hsilent
    cases houtcome : (lenient.handle statement).2.outcome with
    | ok registry =>
      rw [houtcome] at hsame
      exact (strict.registry_after_of_ok hsame).trans
        (lenient.registry_after_of_ok houtcome).symm
    | error failure =>
      rw [houtcome] at hsame
      exact (strict.registry_after_of_error hsame).trans
        (hpaired.same_registry.trans (lenient.registry_after_of_error houtcome).symm)

/-- Assumes: paired sessions. They report on a run as twins, and a run without a warning leaves
them with the same registry. -/
theorem strictTwin_run {lenient strict : Session} (hpaired : Paired lenient strict)
    (statements : List Statement) :
    StrictTwin (lenient.run statements).2 (strict.run statements).2 ∧
      ((lenient.run statements).2.warnings = [] →
        (strict.run statements).1.registry = (lenient.run statements).1.registry) := by
  induction statements generalizing lenient strict with
  | nil => exact ⟨.refl rfl, fun _ ↦ hpaired.same_registry⟩
  | cons statement rest ih =>
    have htwin := strictTwin_handle hpaired statement
    rw [run_cons_report, run_cons_report]
    refine ⟨htwin.bind fun _ hsilent _ ↦ (ih (hpaired.handle hsilent)).1, ?_⟩
    intro hnone
    rw [warnings_bind_eq_nil_iff] at hnone
    have hsame := htwin.same_outcome hnone.1
    cases houtcome : (lenient.handle statement).2.outcome with
    | ok registry =>
      rw [houtcome] at hsame
      rw [run_cons_of_ok hsame, run_cons_of_ok houtcome]
      exact (ih (hpaired.handle hnone.1)).2 (hnone.2 registry houtcome)
    | error failure =>
      rw [houtcome] at hsame
      rw [run_cons_of_error hsame, run_cons_of_error houtcome]
      exact (hpaired.handle hnone.1).same_registry

/-- Strictness is the end of a run at its first warning. If the lenient run over the statements
gives no warning, whether or not it fails, the strict run ends in the same way and the conversion
yields the same template or the same failure. Otherwise the strict run fails with the first warning
of the lenient one, however that ends. The strict run never keeps a warning, however many of the
statements it has come to. -/
theorem strict_run_ends_at_first_warning (statements : List Statement) :
    let lenient := (Session.new .lenient).run statements
    let strict := (Session.new .strict).run statements
    (match lenient.1.warnings with
      | [] =>
        strict.2.outcome = lenient.2.outcome ∧ strict.1.registry = lenient.1.registry ∧
          (convertStatements .strict statements).outcome =
            (convertStatements .lenient statements).outcome
      | warning :: _ =>
        strict.2.outcome = .error (.strictWarning warning) ∧
          (convertStatements .strict statements).outcome = .error (.strictWarning warning)) ∧
      ∀ count, ((Session.new .strict).run (statements.take count)).1.warnings = [] := by
  have hpaired : Paired (Session.new .lenient) (Session.new .strict) := ⟨rfl, rfl, rfl⟩
  have hkept : ∀ handled, ((Session.new .strict).run handled).1.warnings = [] := by
    intro handled
    rw [warnings_run, (strictTwin_run hpaired handled).1.nothing_kept]
    rfl
  obtain ⟨htwin, hregistry⟩ := strictTwin_run hpaired statements
  have hwarnings : ((Session.new .lenient).run statements).1.warnings =
      ((Session.new .lenient).run statements).2.warnings :=
    warnings_run (Session.new .lenient) statements
  refine ⟨?_, fun count ↦ hkept _⟩
  cases hfirst : ((Session.new .lenient).run statements).1.warnings with
  | nil =>
    have hsilent := hwarnings.symm.trans hfirst
    refine ⟨htwin.same_outcome hsilent, hregistry hsilent, ?_⟩
    simp only [convertStatements, outcome_bind, outcome_pure]
    rw [htwin.same_outcome hsilent, hregistry hsilent, hkept, hfirst]
  | cons warning rest =>
    have hfailed := htwin.first_warning warning rest (hwarnings.symm.trans hfirst)
    refine ⟨hfailed, ?_⟩
    simp only [convertStatements, outcome_bind]
    rw [hfailed]
    rfl

end Session

end SchemaTemplate
