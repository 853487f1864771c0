import SchemaTemplate.Session

/-!
Statements handled in place. A session works out the whole report on a statement before it says what
is left of it (`Session.after`). A workspace is changed step by step: warnings and log entries are
written down when they come up, a resource is put into the template before its id is entered under
its names, and what was changed before a failure stays changed. `Workspace.handle` carries out one
statement in this way, and `Workspace.handleEach` goes on behind statements that fail.
-/

set_option autoImplicit false
set_option relaxedAutoImplicit false

namespace SchemaTemplate

/-- What is at hand while statements are handled. -/
structure Workspace where
  strictness : Strictness
  registry : Registry
  /-- The logical ids of the types that the schema defines, by keyspace and name. There is no
  statement yet that creates one. -/
  types : List ((Identifier × Identifier) × String)
  /-- The warnings given so far and tolerated. -/
  warnings : List String
  log : List Entry

namespace Workspace

/-- The workspace before the first statement. -/
def new (strictness : Strictness) : Workspace := ⟨strictness, .empty, [], [], []⟩

/-- The session that keeps the same. -/
def session (space : Workspace) : Session := ⟨space.strictness, space.registry, space.warnings⟩

/-- The workspace with the warnings and the log entries of a report written down. -/
def noting {Value : Type} (space : Workspace) (report : Report Value) : Workspace :=
  { space with
    warnings := space.warnings ++ report.warnings
    log := space.log ++ report.entries }

end Workspace

/-- A program that reads and changes a workspace. What it changed before it fails stays changed. -/
abbrev InPlace (Value : Type) : Type := ExceptT Failure (StateM Workspace) Value

namespace InPlace

open Mapping

variable {Value : Type}

/-- How a program ends, and the workspace that it leaves. -/
def runOn (program : InPlace Value) (space : Workspace) : Except Failure Value × Workspace :=
  (ExceptT.run program).run space

/-- Writes down what a step reports, and ends as the step does. -/
def relay (report : Report Value) : InPlace Value := do
  modify fun space ↦ space.noting report
  match report.outcome with
  | .ok value => return value
  | .error failure => throw failure

/-- Puts a resource into the template. -/
def putResource (logicalId : String) (resource : Resource) : InPlace Unit := do
  let space ← get
  match space.registry.template.add logicalId resource with
  | .ok template => set { space with registry := { space.registry with template } }
  | .error fault => throw (.unrenderable fault.message)

/-- Changes the registry. -/
def changeRegistry (change : Registry → Registry) : InPlace Unit :=
  modify fun space ↦ { space with registry := change space.registry }

/-- Enters the id of a keyspace. -/
def enterKeyspace (keyspace : Identifier) (logicalId : String) : InPlace Unit :=
  changeRegistry fun registry ↦
    { registry with keyspaces := registry.keyspaces ++ [(keyspace, logicalId)] }

/-- Enters the id of a table. -/
def enterTable (keyspace table : Identifier) (logicalId : String) : InPlace Unit :=
  changeRegistry fun registry ↦
    { registry with tables := registry.tables ++ [((keyspace, table), logicalId)] }

/-- Selects a keyspace. -/
def use (keyspace : Identifier) : InPlace Unit := do
  relay (Report.log .debug s!"Using keyspace '{keyspace}'")
  changeRegistry fun registry ↦ { registry with usedKeyspace := some keyspace }

/-- Creates a keyspace. -/
def createKeyspace (creation : KeyspaceCreation) : InPlace Unit := do
  let space ← get
  if (space.registry.keyspaceId? creation.keyspace).isSome then
    if creation.ifNotExists then discard (relay (skipKeyspace space.registry creation.keyspace))
    else relay (Report.refuse .keyspaceExists)
  else
    let logicalId := "Keyspace" ++ toString (space.registry.keyspaces.length + 1)
    relay (requireReplication creation.settings)
    creation.settings.regular.toList.forM fun property ↦
      relay (mapKeyspaceProperty space.strictness property)
    relay (refuseCustomProperties creation.settings)
    putResource logicalId (.keyspace creation.keyspace.text)
    enterKeyspace creation.keyspace logicalId

/-- Creates a table in the given keyspace. -/
def createTableIn (keyspace : Identifier) (creation : TableCreation) : InPlace Unit := do
  let space ← get
  if (space.registry.tableId? keyspace creation.table).isSome then
    if creation.ifNotExists then discard (relay (skipTable space.registry keyspace creation.table))
    else relay (Report.refuse .tableExists)
  else
    let logicalId := "Table" ++ toString (space.registry.tables.length + 1)
    let keyspaceName ← relay (keyspaceExpr space.strictness space.registry keyspace)
    let definition := creation.definition
    let table ← relay (mapColumns keyspace keyspaceName creation.table definition)
    definition.settings.regular.toList.forM fun property ↦
      relay (mapTableProperty space.strictness property)
    let billingMode ← relay (billingModeOf definition.settings)
    relay (mapCompactStorage space.strictness definition.compactStorage)
    putResource logicalId (.table { table with billingMode })
    enterTable keyspace creation.table logicalId

/-- Creates a table. -/
def createTable (creation : TableCreation) : InPlace Unit := do
  match effectiveKeyspace? (← get).registry creation with
  | some keyspace => createTableIn keyspace creation
  | none => relay (Report.refuse .noKeyspace)

/-- Carries out a statement. -/
def carryOut (statement : Statement) : InPlace Unit := do
  let description := statement.describe
  relay (Report.log .info s!"Processing {description} statement")
  match statement with
  | .use keyspace => use keyspace
  | .createKeyspace creation => createKeyspace creation
  | .createTable creation => createTable creation

end InPlace

namespace Workspace

/-- How a statement ends, and the workspace that it leaves. -/
def handle (space : Workspace) (statement : Statement) : Except Failure Unit × Workspace :=
  (InPlace.carryOut statement).runOn space

/-- The workspace that statements leave that are handled one after the other, whether they succeed
or fail. -/
def handleAll (space : Workspace) (statements : List Statement) : Workspace :=
  statements.foldl (fun space statement ↦ (space.handle statement).2) space

end Workspace

/-- What became of a statement. -/
structure Handled where
  statement : Statement
  outcome : Except Failure Unit
  /-- What is registered behind the statement. -/
  registry : Registry

/-- Whether a statement succeeded. -/
def Handled.succeeded (handled : Handled) : Bool := handled.outcome.isOk

/-- What becomes of statements that are handled one after the other, whether they succeed or
fail. -/
def Workspace.handleEach (space : Workspace) : List Statement → List Handled
  | [] => []
  | statement :: rest =>
    let (outcome, next) := space.handle statement
    ⟨statement, outcome, next.registry⟩ :: next.handleEach rest

end SchemaTemplate
