import SchemaTemplate.Mapping.Keyspace
import SchemaTemplate.Mapping.Table

/-!
Sessions. A session maps one statement after the other and keeps what they leave behind. A statement
that fails leaves nothing behind but the warnings given before it failed.
-/

set_option autoImplicit false
set_option relaxedAutoImplicit false

namespace SchemaTemplate

namespace Mapping

/-- Maps the selection of a keyspace, which need not exist. -/
def mapUse (registry : Registry) (keyspace : Identifier) : Report Registry := do
  Report.log .debug s!"Using keyspace '{keyspace}'"
  return { registry with usedKeyspace := some keyspace }

/-- Maps a statement. -/
def mapStatement (strictness : Strictness) (registry : Registry) (statement : Statement) :
    Report Registry := do
  let description := statement.describe
  Report.log .info s!"Processing {description} statement"
  match statement with
  | .use keyspace => mapUse registry keyspace
  | .createKeyspace creation => mapKeyspace strictness registry creation
  | .createTable creation => mapTable strictness registry creation

end Mapping

/-- The state of a session. -/
structure Session where
  strictness : Strictness
  registry : Registry
  /-- The warnings given so far and tolerated. -/
  warnings : List String

namespace Session

/-- A session before its first statement. -/
def new (strictness : Strictness) : Session := ⟨strictness, .empty, []⟩

/-- The report on a statement, as strict as the session is. -/
def report (session : Session) (statement : Statement) : Report Registry :=
  Mapping.mapStatement session.strictness session.registry statement

/-- The session after a report. -/
def after (session : Session) (report : Report Registry) : Session where
  strictness := session.strictness
  registry := match report.outcome with
    | .ok registry => registry
    | .error _ => session.registry
  warnings := session.warnings ++ report.warnings

/-- A statement that succeeds leaves the registry that it reports. -/
theorem registry_after_of_ok (session : Session) {report : Report Registry} {registry : Registry}
    (hok : report.outcome = .ok registry) : (session.after report).registry = registry := by
  simp only [after, hok]

/-- A statement that fails leaves the registry as it was. -/
theorem registry_after_of_error (session : Session) {report : Report Registry} {failure : Failure}
    (herror : report.outcome = .error failure) :
    (session.after report).registry = session.registry := by
  simp only [after, herror]

/-- Handles one statement: the session afterwards and the report. -/
def handle (session : Session) (statement : Statement) : Session × Report Registry :=
  let report := session.report statement
  (session.after report, report)

/-- Handles statements up to the first one that fails. -/
def run (session : Session) : List Statement → Session × Report Unit
  | [] => (session, pure ())
  | statement :: rest =>
    let (next, report) := session.handle statement
    match report.outcome with
    | .ok _ =>
      let (last, more) := next.run rest
      (last, report.andThen fun _ ↦ more)
    | .error failure => (next, ⟨report.entries, report.warnings, .error failure⟩)

/-- The report on a run goes on behind its first statement. -/
theorem run_cons_report (session : Session) (statement : Statement) (rest : List Statement) :
    (session.run (statement :: rest)).2 =
      (session.handle statement).2 >>= fun _ ↦ ((session.handle statement).1.run rest).2 := by
  change _ = (session.handle statement).2.andThen _
  cases houtcome : (session.handle statement).2.outcome with
  | ok registry => simp only [run, houtcome]
  | error failure => simp only [run, houtcome, Report.andThen]

/-- Assumes: a statement that succeeds. The run goes on behind it. -/
theorem run_cons_of_ok {session : Session} {statement : Statement} {registry : Registry}
    (hok : (session.handle statement).2.outcome = .ok registry) (rest : List Statement) :
    (session.run (statement :: rest)).1 = ((session.handle statement).1.run rest).1 := by
  simp only [run, hok]

/-- Assumes: a statement that fails. The run ends with it. -/
theorem run_cons_of_error {session : Session} {statement : Statement} {failure : Failure}
    (herror : (session.handle statement).2.outcome = .error failure) (rest : List Statement) :
    (session.run (statement :: rest)).1 = (session.handle statement).1 := by
  simp only [run, herror]

/-- Handles all statements, going on behind those that fail. -/
def handleAll (session : Session) (statements : List Statement) : Session :=
  statements.foldl (fun session statement ↦ (session.handle statement).1) session

end Session

end SchemaTemplate
