import SchemaTemplate.Proofs.References
import SchemaTemplate.Proofs.Strictness

/-!
Keyspaces are selected to resolve names, and for nothing else. `Statement.resolveNames` says ahead
of the mapping what the selections mean: tables without a keyspace get the one selected last before
them, and the selections go. `Session.use_only_resolves_names` compares a run over any statements
with the run over the resolved ones. The two sessions agree on everything but the keyspace in use,
and step by step their reports differ in nothing but the log, where statements are described as they
are written.
-/

set_option autoImplicit false
set_option relaxedAutoImplicit false

namespace SchemaTemplate

open Session (usedBy? lastUsed?)

/-! ### Resolved statements -/

theorem Session.usedBy?_eq_some_iff {statement : Statement} {keyspace : Identifier} :
    usedBy? statement = some keyspace ↔ statement = .use keyspace := by
  cases statement <;> simp [usedBy?]

theorem Session.lastUsed?_cons (statement : Statement) (rest : List Statement) :
    lastUsed? (statement :: rest) = (lastUsed? rest).or (usedBy? statement) := by
  rw [lastUsed?, lastUsed?, List.filterMap_cons]
  cases usedBy? statement with
  | none => rw [Option.or_none]
  | some keyspace => rw [List.getLast?_cons, Option.or_some]

namespace Statement

/-- The statement with the keyspace in use written out, where it names none itself. -/
def resolve (used : Option Identifier) : Statement → Statement
  | use keyspace => use keyspace
  | createKeyspace creation => createKeyspace creation
  | createTable creation => createTable { creation with keyspace := creation.keyspace.or used }

/-- The statements with all names of tables resolved, and without the selections of keyspaces. At
first the given keyspace is in use. -/
def resolveNames (used : Option Identifier) : List Statement → List Statement
  | [] => []
  | statement :: rest =>
    match usedBy? statement with
    | some keyspace => resolveNames (some keyspace) rest
    | none => statement.resolve used :: resolveNames used rest

variable {statement : Statement}

theorem resolveNames_cons_of_some {keyspace : Identifier}
    (hused : usedBy? statement = some keyspace) (used : Option Identifier)
    (rest : List Statement) :
    resolveNames used (statement :: rest) = resolveNames (some keyspace) rest := by
  rw [resolveNames, hused]

theorem resolveNames_cons_of_none (hused : usedBy? statement = none) (used : Option Identifier)
    (rest : List Statement) : resolveNames used (statement :: rest) =
      statement.resolve used :: resolveNames used rest := by
  rw [resolveNames, hused]

/-- Behind the first statements names are resolved in the keyspace that was selected last among
them, and as before if none was. -/
theorem resolveNames_append (used : Option Identifier) (front back : List Statement) :
    resolveNames used (front ++ back) =
      resolveNames used front ++ resolveNames ((lastUsed? front).or used) back := by
  induction front generalizing used with
  | nil => rfl
  | cons statement rest ih =>
    rw [List.cons_append, Session.lastUsed?_cons, Option.or_assoc]
    cases hused : usedBy? statement with
    | some keyspace =>
      rw [resolveNames_cons_of_some hused, resolveNames_cons_of_some hused, ih]
      rfl
    | none =>
      rw [resolveNames_cons_of_none hused, resolveNames_cons_of_none hused, ih]
      rfl

/-- No selection of a keyspace is left, whatever is resolved. -/
theorem usedBy?_of_mem_resolveNames {used : Option Identifier} {statements : List Statement}
    (hmem : statement ∈ resolveNames used statements) : usedBy? statement = none := by
  induction statements generalizing used with
  | nil => cases hmem
  | cons first rest ih =>
    cases hused : usedBy? first with
    | some keyspace =>
      rw [resolveNames_cons_of_some hused] at hmem
      exact ih hmem
    | none =>
      rw [resolveNames_cons_of_none hused, List.mem_cons] at hmem
      rcases hmem with rfl | hmem
      · cases first with
        | use keyspace => cases hused
        | createKeyspace | createTable => rfl
      · exact ih hmem

end Statement

namespace Report

variable {Value Result Next Last : Type}

/-- Whether the second report gives the warnings of the first and ends as it does, with a value
that is changed in the given way. The log may differ. -/
structure Mirrors (change : Value → Result) (report : Report Value) (mirror : Report Result) :
    Prop where
  same_warnings : mirror.warnings = report.warnings
  same_outcome : mirror.outcome = report.outcome.map change

namespace Mirrors

variable {report : Report Value} {mirror : Report Result} {change : Value → Result}

theorem outcome_eq {mirror : Report Value} (hmirrors : Mirrors id report mirror) :
    mirror.outcome = report.outcome := by
  rw [hmirrors.same_outcome, Except.map_id, id]

theorem refl (report : Report Value) : Mirrors id report report where
  same_warnings := rfl
  same_outcome := by rw [Except.map_id, id]

theorem pure (change : Value → Result) (value : Value) :
    Mirrors change (pure value) (pure (change value)) := ⟨rfl, rfl⟩

theorem fail (change : Value → Result) (failure : Failure) :
    Mirrors change (fail failure) (fail failure) := ⟨rfl, rfl⟩

/-- Assumes: a report and its mirror, and continuations that mirror each other. Continuing keeps the
likeness. -/
theorem bind {changeNext : Next → Last} {next : Value → Report Next}
    {nextMirror : Result → Report Last} (hmirrors : Mirrors change report mirror)
    (hnext : ∀ value, report.outcome = .ok value →
      Mirrors changeNext (next value) (nextMirror (change value))) :
    Mirrors changeNext (report >>= next) (mirror >>= nextMirror) := by
  have hsame := hmirrors.same_outcome
  cases houtcome : report.outcome with
  | error failure =>
    rw [houtcome] at hsame
    refine ⟨?_, ?_⟩
    · rw [warnings_bind_of_error hsame, warnings_bind_of_error houtcome, hmirrors.same_warnings]
    · rw [outcome_bind_of_error hsame, outcome_bind_of_error houtcome]
      rfl
  | ok value =>
    rw [houtcome] at hsame
    have hvalue := hnext value houtcome
    refine ⟨?_, ?_⟩
    · rw [warnings_bind_of_ok hsame, warnings_bind_of_ok houtcome, hmirrors.same_warnings,
        hvalue.same_warnings]
    · rw [outcome_bind_of_ok hsame, outcome_bind_of_ok houtcome, hvalue.same_outcome]

/-- Assumes: a report of success without warnings. What mirrors its continuation mirrors both. -/
theorem of_silent_bind {changeNext : Value → Last} {first : Report Next} {value : Next}
    {next : Next → Report Value} {mirror : Report Last} (hok : first.outcome = .ok value)
    (hsilent : first.warnings = []) (hmirrors : Mirrors changeNext (next value) mirror) :
    Mirrors changeNext (first >>= next) mirror where
  same_warnings := by
    rw [warnings_bind_of_ok hok, hsilent, List.nil_append, hmirrors.same_warnings]
  same_outcome := by
    rw [outcome_bind_of_ok hok, hmirrors.same_outcome]

end Mirrors

end Report

/-! ### Statements -/

/-- The registry without a keyspace in use. -/
def Registry.withoutUse (registry : Registry) : Registry := { registry with usedKeyspace := none }

namespace Mapping

open Report

variable {strictness : Strictness} {registry : Registry}

theorem mirrors_addResource (logicalId : String) (resource : Resource) :
    Mirrors Registry.withoutUse (registry.addResource logicalId resource)
      (registry.withoutUse.addResource logicalId resource) := by
  have htemplate : registry.withoutUse.template = registry.template := rfl
  unfold Registry.addResource
  rw [htemplate]
  cases registry.template.add logicalId resource with
  | ok template => exact .pure _ _
  | error fault => exact .fail _ _

theorem mirrors_mapKeyspace (creation : KeyspaceCreation) :
    Mirrors Registry.withoutUse (mapKeyspace strictness registry creation)
      (mapKeyspace strictness registry.withoutUse creation) := by
  have hknown : registry.withoutUse.keyspaceId? creation.keyspace =
      registry.keyspaceId? creation.keyspace := rfl
  unfold mapKeyspace
  rw [hknown]
  split
  next =>
    split
    next => exact (Mirrors.refl _).bind fun _ _ ↦ .pure _ _
    next => exact .fail _ _
  next =>
    refine (Mirrors.refl _).bind fun _ _ ↦ ?_
    exact (mirrors_addResource _ _).bind fun _ _ ↦ .pure _ _

/-- In a given keyspace it does not matter which one is in use or whether the statement names the
given one. -/
theorem mirrors_mapTableIn (keyspace : Identifier) (creation : TableCreation)
    (named : Option Identifier) :
    Mirrors Registry.withoutUse (mapTableIn strictness registry keyspace creation)
      (mapTableIn strictness registry.withoutUse keyspace
        { creation with keyspace := named }) := by
  have hknown : registry.withoutUse.tableId? keyspace creation.table =
      registry.tableId? keyspace creation.table := rfl
  have hresource : tableResource strictness registry.withoutUse keyspace
      { creation with keyspace := named } =
        tableResource strictness registry keyspace creation := rfl
  unfold mapTableIn
  rw [hknown, hresource]
  split
  next =>
    split
    next => exact (Mirrors.refl _).bind fun _ _ ↦ .pure _ _
    next => exact .fail _ _
  next =>
    refine (Mirrors.refl _).bind fun _ _ ↦ ?_
    exact (mirrors_addResource _ _).bind fun _ _ ↦ .pure _ _

theorem mirrors_mapTable (creation : TableCreation) :
    Mirrors Registry.withoutUse (mapTable strictness registry creation)
      (mapTable strictness registry.withoutUse
        { creation with keyspace := creation.keyspace.or registry.usedKeyspace }) := by
  have heffective : effectiveKeyspace? registry.withoutUse
      { creation with keyspace := creation.keyspace.or registry.usedKeyspace } =
        effectiveKeyspace? registry creation := Option.or_none
  unfold mapTable
  rw [heffective]
  split
  next keyspace _ => exact mirrors_mapTableIn keyspace creation _
  next => exact .fail _ _

/-- A statement that selects no keyspace does the same when its names are resolved, and no keyspace
need be in use. -/
theorem mirrors_mapStatement {statement : Statement} (hused : usedBy? statement = none) :
    Mirrors Registry.withoutUse (mapStatement strictness registry statement)
      (mapStatement strictness registry.withoutUse
        (statement.resolve registry.usedKeyspace)) := by
  -- The two descriptions of the statement differ, in the log only.
  have hlogged (message other : String) :
      Mirrors id (log .info message) (log .info other) := ⟨rfl, rfl⟩
  refine (hlogged _ _).bind fun _ _ ↦ ?_
  cases statement with
  | use keyspace => cases hused
  | createKeyspace creation => exact mirrors_mapKeyspace creation
  | createTable creation => exact mirrors_mapTable creation

end Mapping

/-! ### Runs -/

namespace Session

open Report

/-- Whether the second session is in the state of the first, except that no keyspace is in use. -/
structure SameButUse (whole resolved : Session) : Prop where
  same_strictness : resolved.strictness = whole.strictness
  same_registry : resolved.registry = whole.registry.withoutUse
  same_warnings : resolved.warnings = whole.warnings

variable {whole resolved : Session} {statement : Statement}

/-- Assumes: a statement that selects no keyspace. The reports on it and, in the second session, on
the resolved one mirror each other. -/
theorem SameButUse.mirrors_handle (hsessions : SameButUse whole resolved)
    (hused : usedBy? statement = none) :
    Mirrors Registry.withoutUse (whole.handle statement).2
      (resolved.handle (statement.resolve whole.registry.usedKeyspace)).2 := by
  simp only [handle, report]
  rw [hsessions.same_strictness, hsessions.same_registry]
  exact Mapping.mirrors_mapStatement hused

/-- Assumes: a statement that selects no keyspace. Behind it, resolved for the second session, the
sessions are the same but for the keyspace in use. -/
theorem SameButUse.handle (hsessions : SameButUse whole resolved)
    (hused : usedBy? statement = none) : SameButUse (whole.handle statement).1
      (resolved.handle (statement.resolve whole.registry.usedKeyspace)).1 where
  same_strictness := hsessions.same_strictness
  same_registry := by
    have hsame := (hsessions.mirrors_handle hused).same_outcome
    cases houtcome : (whole.handle statement).2.outcome with
    | ok next =>
      rw [houtcome] at hsame
      exact (resolved.registry_after_of_ok hsame).trans
        (congrArg Registry.withoutUse (whole.registry_after_of_ok houtcome).symm)
    | error failure =>
      rw [houtcome] at hsame
      exact ((resolved.registry_after_of_error hsame).trans hsessions.same_registry).trans
        (congrArg Registry.withoutUse (whole.registry_after_of_error houtcome).symm)
  same_warnings := by
    have hgiven := (hsessions.mirrors_handle hused).same_warnings
    exact congrArg₂ (· ++ ·) hsessions.same_warnings hgiven

/-- While the first session selects a keyspace, the second stays as it is. -/
theorem SameButUse.handle_use (hsessions : SameButUse whole resolved) (keyspace : Identifier) :
    SameButUse (whole.handle (.use keyspace)).1 resolved where
  same_strictness := hsessions.same_strictness
  same_registry := hsessions.same_registry
  same_warnings := hsessions.same_warnings.trans (List.append_nil _).symm

/-- A run and, in the second session, the run over the resolved statements have reports that mirror
each other, and leave sessions that are the same but for the keyspace in use. -/
theorem SameButUse.run (hsessions : SameButUse whole resolved) (statements : List Statement) :
    let names := Statement.resolveNames whole.registry.usedKeyspace statements
    Mirrors id (whole.run statements).2 (resolved.run names).2 ∧
      SameButUse (whole.run statements).1 (resolved.run names).1 := by
  induction statements generalizing whole resolved with
  | nil => exact ⟨.refl _, hsessions⟩
  | cons statement rest ih =>
    dsimp only
    rw [run_cons_report]
    cases hused : usedBy? statement with
    | some keyspace =>
      -- The resolved run stands still while the keyspace is selected.
      obtain rfl := usedBy?_eq_some_iff.1 hused
      rw [Statement.resolveNames_cons_of_some hused, run_cons_of_ok rfl]
      obtain ⟨hmirrors, hlast⟩ := ih (hsessions.handle_use keyspace)
      exact ⟨.of_silent_bind rfl rfl hmirrors, hlast⟩
    | none =>
      have hstep := hsessions.mirrors_handle hused
      have hbehind := ih (hsessions.handle hused)
      rw [whole.usedKeyspace_handle statement, hused, Option.none_or] at hbehind
      rw [Statement.resolveNames_cons_of_none hused, run_cons_report]
      refine ⟨hstep.bind fun _ _ ↦ hbehind.1, ?_⟩
      have hsame := hstep.same_outcome
      cases houtcome : (whole.handle statement).2.outcome with
      | ok next =>
        rw [houtcome] at hsame
        rw [run_cons_of_ok houtcome, run_cons_of_ok hsame]
        exact hbehind.2
      | error failure =>
        rw [houtcome] at hsame
        rw [run_cons_of_error houtcome, run_cons_of_error hsame]
        exact hsessions.handle hused

/-- Selecting a keyspace resolves names and does nothing else. Take any statements, give every table
without a keyspace the one selected last before it, if there is one, and leave the selections out:
no selection remains, and wherever the statements are divided, what stands behind is resolved in the
keyspace selected last in front. A run over what results, as strict, ends in the same way, at the
same failure if there is one, with the same warnings and the same things registered; only no
keyspace is in use. So the conversion yields the same rendered template and the same warnings, or
the same failure behind the same warnings. -/
theorem use_only_resolves_names (strictness : Strictness) (statements : List Statement) :
    let names := Statement.resolveNames none statements
    let whole := (new strictness).run statements
    let resolved := (new strictness).run names
    (∀ statement ∈ names, usedBy? statement = none) ∧
      (∀ front back, statements = front ++ back → names =
        Statement.resolveNames none front ++ Statement.resolveNames (lastUsed? front) back) ∧
      resolved.2.outcome = whole.2.outcome ∧
      resolved.1.warnings = whole.1.warnings ∧
      resolved.1.registry = { whole.1.registry with usedKeyspace := none } ∧
      (convertStatements strictness names).outcome =
        (convertStatements strictness statements).outcome ∧
      (convertStatements strictness names).warnings =
        (convertStatements strictness statements).warnings := by
  intro names whole resolved
  have hsessions : SameButUse (new strictness) (new strictness) := ⟨rfl, rfl, rfl⟩
  obtain ⟨hmirrors, hlast⟩ : Mirrors id whole.2 resolved.2 ∧
      SameButUse whole.1 resolved.1 := hsessions.run statements
  have hconverted : Mirrors id (convertStatements strictness statements)
      (convertStatements strictness names) := by
    have hresult : (⟨resolved.1.registry.template.render, resolved.1.warnings⟩ : Conversion) =
        ⟨whole.1.registry.template.render, whole.1.warnings⟩ := by
      rw [hlast.same_registry, hlast.same_warnings]
      rfl
    refine hmirrors.bind fun _ _ ↦ ?_
    rw [hresult]
    exact .pure _ _
  refine ⟨fun _ hmem ↦ Statement.usedBy?_of_mem_resolveNames hmem, ?_, hmirrors.outcome_eq,
    hlast.same_warnings, hlast.same_registry, hconverted.outcome_eq, hconverted.same_warnings⟩
  rintro front back rfl
  have hnames := Statement.resolveNames_append none front back
  rwa [Option.or_none] at hnames

/-- The creation of a table that names no keyspace. -/
def customersTable : TableCreation where
  keyspace := none
  table := ⟨"customers"⟩
  ifNotExists := false
  definition := { TableDefinition.empty with
    columns := ⟨[(⟨"id"⟩, .simple "uuid")]⟩
    partitionKey := [⟨"id"⟩]
    primaryKeyGiven := true }

/-- The table belongs to the second of two selected keyspaces, and draws the warning about it. -/
theorem use_only_resolves_names_customersTable :
    let selections := [Statement.use ⟨"archive"⟩, .use ⟨"shop"⟩]
    let statements := selections ++ [.createTable customersTable]
    let qualified := Statement.createTable { customersTable with keyspace := some ⟨"shop"⟩ }
    Statement.resolveNames none statements = [qualified] ∧ usedBy? qualified = none ∧
      [qualified] = Statement.resolveNames none selections ++
        Statement.resolveNames (lastUsed? selections) [.createTable customersTable] ∧
      ((new .lenient).run statements).1.warnings =
        ["Attempted to create table in keyspace 'shop' before creating it first"] ∧
      ((new .lenient).run [qualified]).1.warnings = ((new .lenient).run statements).1.warnings := by
  intro selections statements qualified
  obtain ⟨hunused, hdivided, -, hwarnings, -⟩ := use_only_resolves_names .lenient statements
  have hnames : Statement.resolveNames none statements = [qualified] := rfl
  exact ⟨hnames, hunused qualified (hnames ▸ List.mem_singleton_self _), hdivided _ _ rfl, by rfl,
    hwarnings⟩

end Session

end SchemaTemplate
