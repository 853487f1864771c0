import SchemaTemplate.Proofs.Strictness
import SchemaTemplate.Proofs.Transition
import SchemaTemplate.Workspace

/-!
Handling in place leaves what a session keeps. Writing down a report in one go or step by step is
the same, so the steps of a statement in place can be put together again, and what is left to
compare is the end of a creation, where the resource is added and its id entered
(`Workspace.handle_eq`). As nothing can fail behind the first change of the registry, a statement
that fails leaves nothing but warnings, and leaving it out changes nothing for the others.
-/

set_option autoImplicit false
set_option relaxedAutoImplicit false

namespace SchemaTemplate

/-! ### Programs -/

namespace InPlace

variable {Value Later : Type}

theorem runOn_ext {first second : InPlace Value}
    (hequal : ∀ space, first.runOn space = second.runOn space) : first = second := funext hequal

theorem runOn_bind (program : InPlace Value) (later : Value → InPlace Later) (space : Workspace) :
    (program >>= later).runOn space = match program.runOn space with
      | (.ok value, next) => (later value).runOn next
      | (.error failure, next) => (.error failure, next) := by
  change (match program.runOn space with
    | (outcome, next) => ExceptT.bindCont later outcome next) = _
  rcases program.runOn space with ⟨failure | value, next⟩ <;> rfl

theorem runOn_get_bind (later : Workspace → InPlace Later) (space : Workspace) :
    (get >>= later).runOn space = (later space).runOn space := rfl

theorem runOn_relay (report : Report Value) (space : Workspace) :
    (relay report).runOn space = (report.outcome, space.noting report) := by
  obtain ⟨entries, warnings, failure | value⟩ := report <;> rfl

/-- Writing down a report is writing down its parts, one after the other. -/
theorem relay_bind {Result : Type} (report : Report Value) (next : Value → Report Result) :
    relay (report >>= next) = relay report >>= fun value ↦ relay (next value) := by
  refine runOn_ext fun space ↦ ?_
  rw [runOn_bind, runOn_relay, runOn_relay]
  change ((report.andThen next).outcome, space.noting (report.andThen next)) = _
  obtain ⟨entries, warnings, failure | value⟩ := report
  · rfl
  · simp only [runOn_relay, Report.andThen, Workspace.noting, List.append_assoc]

theorem relay_pure (value : Value) : relay (pure value) = pure value := by
  refine runOn_ext fun space ↦ ?_
  have hsame : space.noting (pure value) = space := by
    change { space with warnings := space.warnings ++ [], log := space.log ++ [] } = space
    rw [List.append_nil, List.append_nil]
  rw [runOn_relay, hsame]
  rfl

theorem relay_forM {Item : Type} (step : Item → Report Unit) (items : List Item) :
    relay (items.forM step) = items.forM fun item ↦ relay (step item) := by
  induction items with
  | nil => exact relay_pure ()
  | cons item items ih =>
    change relay (step item >>= fun _ ↦ items.forM step) = _
    rw [relay_bind, ih]
    rfl

end InPlace

/-! ### What reports leave -/

namespace Workspace

variable {Value : Type} (space : Workspace)

/-- How a report on a statement ends, and the workspace with what a session keeps of it. -/
def settled (report : Report Registry) : Except Failure Unit × Workspace :=
  (report.outcome.map fun _ ↦ (),
    { space.noting report with registry := (space.session.after report).registry })

theorem settled_bind (report : Report Value) (next : Value → Report Registry) :
    space.settled (report >>= next) = match report.outcome with
      | .ok value => (space.noting report).settled (next value)
      | .error failure => (.error failure, space.noting report) := by
  change space.settled (report.andThen next) = _
  obtain ⟨entries, warnings, failure | value⟩ := report
  · rfl
  · simp only [settled, Report.andThen, noting, session, Session.after, List.append_assoc]

/-- Assumes: a report without warnings and entries. All that is left of it is its outcome. -/
theorem settled_ofOutcome (outcome : Except Failure Registry) :
    space.settled (Report.ofOutcome outcome) = (outcome.map fun _ ↦ (),
      { space with registry := (space.session.after (Report.ofOutcome outcome)).registry }) := by
  change (_, { space with
    registry := _
    warnings := space.warnings ++ []
    log := space.log ++ [] }) = _
  rw [List.append_nil, List.append_nil]
  rfl

end Workspace

namespace InPlace

open Mapping

variable {Value : Type} (space : Workspace)

/-- Assumes: behind a step of a report, a program that settles the rest of it. Together they settle
the report. -/
theorem runOn_relay_bind (report : Report Value) {later : Value → InPlace Unit}
    {next : Value → Report Registry}
    (hlater : ∀ value, (later value).runOn (space.noting report) =
      (space.noting report).settled (next value)) :
    (relay report >>= later).runOn space = space.settled (report >>= next) := by
  rw [runOn_bind, runOn_relay, Workspace.settled_bind]
  cases report.outcome with
  | ok value => exact hlater value
  | error failure => rfl

theorem runOn_relay_refuse (refusal : Refusal) :
    (relay (Report.refuse refusal)).runOn space = space.settled (Report.refuse refusal) :=
  runOn_relay _ _

/-- Assumes: a report of success that leaves the registry as it is. -/
theorem runOn_discard_relay {report : Report Registry}
    (hsame : report.outcome = .ok space.registry) :
    (discard (relay report)).runOn space = space.settled report := by
  change ((fun _ ↦ ()) <$> relay report).runOn space = _
  rw [map_eq_pure_bind, runOn_bind, runOn_relay, Workspace.settled,
    space.session.registry_after_of_ok hsame, hsame]
  rfl

theorem runOn_changeRegistry (change : Registry → Registry) :
    (changeRegistry change).runOn space = space.settled (pure (change space.registry)) :=
  (space.settled_ofOutcome (.ok (change space.registry))).symm

/-- A resource is added and the registry changed with it, or neither. -/
theorem runOn_putResource_bind (logicalId : String) (resource : Resource)
    (change : Registry → Registry) :
    (putResource logicalId resource >>= fun _ ↦ changeRegistry change).runOn space =
      space.settled (space.registry.addResource logicalId resource >>= fun registry ↦
        pure (change registry)) := by
  rw [runOn_bind]
  unfold putResource Registry.addResource
  rw [runOn_get_bind]
  cases space.registry.template.add logicalId resource with
  | ok template =>
    rw [pure_bind]
    exact (space.settled_ofOutcome (.ok _)).symm
  | error fault => exact (space.settled_ofOutcome (.error _)).symm

/-! ### Statements -/

theorem runOn_use (keyspace : Identifier) :
    (use keyspace).runOn space = space.settled (mapUse space.registry keyspace) :=
  runOn_relay_bind space _ fun _ ↦ runOn_changeRegistry _ _

theorem runOn_createKeyspace (creation : KeyspaceCreation) :
    (createKeyspace creation).runOn space =
      space.settled (mapKeyspace space.strictness space.registry creation) := by
  unfold createKeyspace mapKeyspace
  rw [runOn_get_bind]
  split
  next =>
    split
    next => exact runOn_discard_relay space (outcome_skipKeyspace _)
    next => exact runOn_relay_refuse space _
  next =>
    have hsettled := runOn_relay_bind space
      (mapKeyspaceSettings space.strictness creation.settings) fun _ ↦
        runOn_putResource_bind _ space.registry.nextKeyspaceId (.keyspace creation.keyspace.text)
          fun registry ↦ { registry with
            keyspaces := registry.keyspaces ++
              [(creation.keyspace, space.registry.nextKeyspaceId)] }
    simp only [mapKeyspaceSettings, relay_bind, relay_forM, bind_assoc] at hsettled
    simp only [mapKeyspaceSettings, bind_assoc]
    exact hsettled

theorem runOn_createTableIn (keyspace : Identifier) (creation : TableCreation) :
    (createTableIn keyspace creation).runOn space =
      space.settled (mapTableIn space.strictness space.registry keyspace creation) := by
  unfold createTableIn mapTableIn
  rw [runOn_get_bind]
  split
  next =>
    split
    next => exact runOn_discard_relay space (outcome_skipTable _ _)
    next => exact runOn_relay_refuse space _
  next =>
    have hsettled := runOn_relay_bind space
      (tableResource space.strictness space.registry keyspace creation) fun resource ↦
        runOn_putResource_bind _ space.registry.nextTableId (.table resource)
          fun registry ↦ { registry with
            tables := registry.tables ++
              [((keyspace, creation.table), space.registry.nextTableId)] }
    simp only [tableResource, relay_bind, relay_forM, relay_pure, bind_assoc, pure_bind] at hsettled
    simp only [tableResource, bind_assoc, pure_bind]
    exact hsettled

theorem runOn_createTable (creation : TableCreation) :
    (createTable creation).runOn space =
      space.settled (mapTable space.strictness space.registry creation) := by
  unfold createTable mapTable
  rw [runOn_get_bind]
  cases effectiveKeyspace? space.registry creation with
  | some keyspace => exact runOn_createTableIn space keyspace creation
  | none => exact runOn_relay_refuse space _

end InPlace

namespace Workspace

/-- Handling in place ends as the session reports, and leaves what the session keeps. -/
theorem handle_eq (space : Workspace) (statement : Statement) :
    space.handle statement = space.settled (space.session.report statement) := by
  refine InPlace.runOn_relay_bind space _ fun _ ↦ ?_
  cases statement with
  | use keyspace => exact InPlace.runOn_use _ keyspace
  | createKeyspace creation => exact InPlace.runOn_createKeyspace _ creation
  | createTable creation => exact InPlace.runOn_createTable _ creation

theorem outcome_handle (space : Workspace) (statement : Statement) :
    (space.handle statement).1 = (space.session.handle statement).2.outcome.map fun _ ↦ () := by
  rw [handle_eq]
  rfl

theorem session_handle (space : Workspace) (statement : Statement) :
    (space.handle statement).2.session = (space.session.handle statement).1 := by
  rw [handle_eq]
  rfl

theorem registry_handle (space : Workspace) (statement : Statement) :
    (space.handle statement).2.registry = (space.session.handle statement).1.registry :=
  congrArg Session.registry (space.session_handle statement)

/-- No statement changes which types are there. -/
theorem types_handle (space : Workspace) (statement : Statement) :
    (space.handle statement).2.types = space.types := by
  rw [handle_eq]
  rfl

theorem strictness_handle (space : Workspace) (statement : Statement) :
    (space.handle statement).2.strictness = space.strictness := by
  rw [handle_eq]
  rfl

theorem warnings_handle (space : Workspace) (statement : Statement) :
    (space.handle statement).2.warnings =
      space.warnings ++ (space.session.report statement).warnings := by
  rw [handle_eq]
  rfl

theorem registry_handle_of_error {space : Workspace} {statement : Statement} {failure : Failure}
    (herror : (space.handle statement).1 = .error failure) :
    (space.handle statement).2.registry = space.registry := by
  rw [registry_handle]
  rcases space.session.registry_handle statement with ⟨next, hok, -⟩ | ⟨_, -, hsame⟩
  · rw [outcome_handle, hok] at herror
    cases herror
  · exact hsame

/-! ### Failures -/

/-- Whether nothing but warnings and log entries has been left. -/
structure OnlyWarned (before after : Workspace) : Prop where
  same_registry : after.registry = before.registry
  same_types : after.types = before.types
  warnings_kept : before.warnings <+: after.warnings
  strict_silent : before.strictness = .strict → after.warnings = before.warnings

/-- A statement that fails leaves nothing but warnings, and none where they are not tolerated. -/
theorem onlyWarned_of_error {space : Workspace} {statement : Statement} {failure : Failure}
    (herror : (space.handle statement).1 = .error failure) :
    space.OnlyWarned (space.handle statement).2 where
  same_registry := registry_handle_of_error herror
  same_types := space.types_handle statement
  warnings_kept := by
    rw [warnings_handle]
    exact List.prefix_append _ _
  strict_silent := by
    intro hstrict
    have hsilent : (space.session.report statement).warnings = [] := by
      change (Mapping.mapStatement space.strictness _ _).warnings = []
      rw [hstrict]
      exact (Mapping.strictTwin_mapStatement _ _).nothing_kept
    rw [warnings_handle, hsilent, List.append_nil]

/-- Whether two workspaces are the same but for warnings and log entries. -/
structure Alike (first second : Workspace) : Prop where
  same_strictness : second.strictness = first.strictness
  same_registry : second.registry = first.registry
  same_types : second.types = first.types

namespace Alike

variable {first second : Workspace} {statement : Statement}

theorem refl (space : Workspace) : space.Alike space := ⟨rfl, rfl, rfl⟩

theorem report_eq (halike : first.Alike second) (statement : Statement) :
    second.session.report statement = first.session.report statement := by
  simp only [Session.report, session, halike.same_strictness, halike.same_registry]

theorem outcome_eq (halike : first.Alike second) (statement : Statement) :
    (second.handle statement).1 = (first.handle statement).1 := by
  rw [outcome_handle, outcome_handle, Session.handle, Session.handle, halike.report_eq]

/-- Handling the same statement keeps two workspaces alike. -/
theorem handle (halike : first.Alike second) (statement : Statement) :
    (first.handle statement).2.Alike (second.handle statement).2 where
  same_strictness := by
    rw [strictness_handle, strictness_handle, halike.same_strictness]
  same_registry := by
    rw [registry_handle, registry_handle, Session.handle, Session.handle, halike.report_eq]
    simp only [Session.after, session, halike.same_registry]
  same_types := by
    rw [types_handle, types_handle, halike.same_types]

/-- A statement that fails keeps a workspace alike to what it was. -/
theorem handle_of_error (halike : first.Alike second) {failure : Failure}
    (herror : (first.handle statement).1 = .error failure) :
    (first.handle statement).2.Alike second where
  same_strictness := halike.same_strictness.trans (first.strictness_handle statement).symm
  same_registry := halike.same_registry.trans (registry_handle_of_error herror).symm
  same_types := halike.same_types.trans (first.types_handle statement).symm

end Alike

/-- The statements that succeed among those that are handled one after the other. -/
def succeeding (space : Workspace) (statements : List Statement) : List Handled :=
  (space.handleEach statements).filter Handled.succeeded

/-- Assumes: two workspaces that are alike. Handling statements in the one and those of them that
succeed in the other leaves both alike, and all that succeeds has the same results. -/
theorem handleEach_succeeding {first second : Workspace} (halike : first.Alike second)
    (statements : List Statement) :
    let erased := (first.succeeding statements).map Handled.statement
    second.handleEach erased = first.succeeding statements ∧
      (first.handleAll statements).Alike (second.handleAll erased) := by
  induction statements generalizing first second with
  | nil => exact ⟨rfl, halike⟩
  | cons statement rest ih =>
    cases houtcome : (first.handle statement).1 with
    | error failure =>
      have hskipped : first.succeeding (statement :: rest) =
          (first.handle statement).2.succeeding rest := by
        rw [succeeding, handleEach, List.filter_cons_of_neg]
        · rfl
        · simp [Handled.succeeded, houtcome, Except.isOk, Except.toBool]
      rw [hskipped]
      exact ih (halike.handle_of_error houtcome)
    | ok value =>
      have hkept : first.succeeding (statement :: rest) =
          ⟨statement, (first.handle statement).1, (first.handle statement).2.registry⟩ ::
            (first.handle statement).2.succeeding rest := by
        rw [succeeding, handleEach, List.filter_cons_of_pos]
        · rfl
        · simp [Handled.succeeded, houtcome, Except.isOk, Except.toBool]
      obtain ⟨heach, hlast⟩ := ih (halike.handle statement)
      rw [hkept]
      refine ⟨?_, hlast⟩
      change ⟨statement, (second.handle statement).1, (second.handle statement).2.registry⟩ ::
        (second.handle statement).2.handleEach _ = _
      rw [heach, halike.outcome_eq, (halike.handle statement).same_registry]

/-- Failures leave only warnings. Whatever is at hand, a statement that fails in place leaves the
template, the keyspace in use and what is registered as they were, and adds to the warnings at their
end or, where warnings are not tolerated, not at all. A statement that succeeds leaves the resources
as they were or adds one behind them. So of any statements that are handled one after the other
those that fail may be left out: all others have the same results, with the same things registered
behind each of them and in the end. Handling in place leaves what a session keeps. -/
theorem failures_leave_only_warnings (space : Workspace) :
    (∀ statement failure, (space.handle statement).1 = .error failure →
      space.OnlyWarned (space.handle statement).2) ∧
    (∀ statement, (space.handle statement).1 = .ok () →
      (space.handle statement).2.registry.resources = space.registry.resources ∨
        ∃ entry, (space.handle statement).2.registry.resources =
          space.registry.resources ++ [entry]) ∧
    (∀ statements,
      let remaining := (space.handleEach statements).filter Handled.succeeded
      let erased := remaining.map Handled.statement
      space.handleEach erased = remaining ∧
        (space.handleAll erased).registry = (space.handleAll statements).registry ∧
        (space.handleAll erased).types = (space.handleAll statements).types) ∧
    ∀ statement,
      (space.handle statement).1 =
        ((space.session.handle statement).2.outcome.map fun _ ↦ ()) ∧
      (space.handle statement).2.session = (space.session.handle statement).1 := by
  refine ⟨fun _ _ herror ↦ onlyWarned_of_error herror, ?_, ?_, fun statement ↦
    ⟨space.outcome_handle statement, space.session_handle statement⟩⟩
  · intro statement _
    rw [registry_handle]
    exact space.session.resources_handle statement
  · intro statements remaining erased
    obtain ⟨heach, hlast⟩ := handleEach_succeeding (.refl space) statements
    exact ⟨heach, hlast.same_registry, hlast.same_types⟩

/-- The creation of a table with a column of a type of the schema's own, in a keyspace that was not
created. -/
def addressTable : TableCreation where
  keyspace := some ⟨"shop"⟩
  table := ⟨"customers"⟩
  ifNotExists := false
  definition := { TableDefinition.empty with
    columns := ⟨[(⟨"id"⟩, .simple "uuid"),
      (⟨"address"⟩, .composite "frozen" [.user none ⟨"address"⟩])]⟩
    partitionKey := [⟨"id"⟩]
    primaryKeyGiven := true }

/-- The creation of the table fails behind its warning, which is all that it leaves. -/
theorem failures_leave_only_warnings_addressTable :
    let space := Workspace.new .lenient
    let after := (space.handle (.createTable addressTable)).2
    (space.handle (.createTable addressTable)).1 =
        .error (.refused "User types are not supported by Keyspaces yet") ∧
      after.warnings = ["Attempted to create table in keyspace 'shop' before creating it first"] ∧
      space.OnlyWarned after := by
  intro space after
  have herror : (space.handle (.createTable addressTable)).1 =
      .error (.refused "User types are not supported by Keyspaces yet") := by rfl
  exact ⟨herror, by rfl, (failures_leave_only_warnings space).1 _ _ herror⟩

end Workspace

end SchemaTemplate
