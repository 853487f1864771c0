import Mathlib.Data.List.Induction
import SchemaTemplate.Session

/-!
What a statement does to the registry. A statement that succeeds takes one of five transitions: it
selects a keyspace, it leaves alone a keyspace or a table that exists already, or it adds the
resource of a new one. `Mapping.outcome_mapStatement_eq_ok_iff` says that these are all, with what
each of them presupposes, so that statements about sessions need not open the mapping again. A
statement that fails leaves the registry as it was, hence a template only ever grows at its end, and
`Session.resource_origin` names the statement behind every resource.
-/

set_option autoImplicit false
set_option relaxedAutoImplicit false

namespace SchemaTemplate

/-- Adding to a template succeeds exactly under a new id, and puts the resource last. -/
theorem Template.add_eq_ok_iff (template next : Template) (logicalId : String)
    (resource : Resource) : template.add logicalId resource = .ok next ↔
      logicalId ∉ template.logicalIds ∧
        next = ⟨⟨template.resources.entries ++ [(logicalId, resource)]⟩⟩ := by
  have hadd := template.resources.add_eq_ok_iff
    ⟨template.resources.entries ++ [(logicalId, resource)]⟩ logicalId resource
  rw [add, logicalIds]
  cases houtcome : template.resources.add logicalId resource with
  | ok resources =>
    obtain ⟨hnew, rfl⟩ := (template.resources.add_eq_ok_iff _ _ _).1 houtcome
    simp [Except.mapError, Bind.bind, Except.bind, Pure.pure, Except.pure, hnew, eq_comm]
  | error repeated =>
    have hpresent := ((template.resources.add_eq_error_iff _ _ _).1 houtcome).1
    simp [Except.mapError, Bind.bind, Except.bind, hpresent]

namespace Registry

/-- The resources of the template under their logical ids, in the order of creation. -/
def resources (registry : Registry) : List (String × Resource) :=
  registry.template.resources.toList

/-- The logical id that the next keyspace gets. -/
def nextKeyspaceId (registry : Registry) : String :=
  "Keyspace" ++ toString (registry.keyspaces.length + 1)

/-- The logical id that the next table gets. -/
def nextTableId (registry : Registry) : String :=
  "Table" ++ toString (registry.tables.length + 1)

/-- The registry with the resource of a new keyspace. -/
def withKeyspace (registry : Registry) (keyspace : Identifier) : Registry where
  template := ⟨⟨registry.resources ++ [(registry.nextKeyspaceId, .keyspace keyspace.text)]⟩⟩
  usedKeyspace := registry.usedKeyspace
  keyspaces := registry.keyspaces ++ [(keyspace, registry.nextKeyspaceId)]
  tables := registry.tables

/-- The registry with the resource of a new table. -/
def withTable (registry : Registry) (keyspace table : Identifier) (resource : TableResource) :
    Registry where
  template := ⟨⟨registry.resources ++ [(registry.nextTableId, .table resource)]⟩⟩
  usedKeyspace := registry.usedKeyspace
  keyspaces := registry.keyspaces
  tables := registry.tables ++ [((keyspace, table), registry.nextTableId)]

@[simp] theorem resources_withKeyspace (registry : Registry) (keyspace : Identifier) :
    (registry.withKeyspace keyspace).resources =
      registry.resources ++ [(registry.nextKeyspaceId, .keyspace keyspace.text)] := rfl

@[simp] theorem resources_withTable (registry : Registry) (keyspace table : Identifier)
    (resource : TableResource) : (registry.withTable keyspace table resource).resources =
      registry.resources ++ [(registry.nextTableId, .table resource)] := rfl

/-- A new keyspace gets the next id, unless it has one already. -/
theorem keyspaceId?_withKeyspace (registry : Registry) (keyspace other : Identifier) :
    (registry.withKeyspace keyspace).keyspaceId? other =
      (registry.keyspaceId? other).or
        (if other = keyspace then some registry.nextKeyspaceId else none) := by
  by_cases hsame : other = keyspace
  · simp [keyspaceId?, withKeyspace, List.lookup_append, hsame]
  · have hdifferent : (other == keyspace) = false := by simpa using hsame
    simp only [keyspaceId?, withKeyspace, List.lookup_append, List.lookup_cons, List.lookup_nil,
      hdifferent, if_neg hsame]

/-- A new table gets the next id, unless it has one already. -/
theorem tableId?_withTable (registry : Registry) (keyspace table : Identifier)
    (resource : TableResource) (otherKeyspace other : Identifier) :
    (registry.withTable keyspace table resource).tableId? otherKeyspace other =
      (registry.tableId? otherKeyspace other).or
        (if (otherKeyspace, other) = (keyspace, table) then some registry.nextTableId
          else none) := by
  by_cases hsame : (otherKeyspace, other) = (keyspace, table)
  · simp [tableId?, withTable, List.lookup_append, hsame]
  · have hdifferent : ((otherKeyspace, other) == (keyspace, table)) = false := by simpa using hsame
    simp only [tableId?, withTable, List.lookup_append, List.lookup_cons, List.lookup_nil,
      hdifferent, if_neg hsame]

@[simp] theorem tableId?_withKeyspace (registry : Registry) (keyspace other table : Identifier) :
    (registry.withKeyspace keyspace).tableId? other table = registry.tableId? other table := rfl

@[simp] theorem keyspaceId?_withTable (registry : Registry) (keyspace table : Identifier)
    (resource : TableResource) (other : Identifier) :
    (registry.withTable keyspace table resource).keyspaceId? other = registry.keyspaceId? other :=
  rfl

/-- Whether every keyspace with an id is the one that the resource under the id is about. -/
def KeyspacesListed (registry : Registry) : Prop :=
  ∀ keyspace logicalId, registry.keyspaceId? keyspace = some logicalId →
    (logicalId, .keyspace keyspace.text) ∈ registry.resources

/-- A new keyspace is listed in addition to those before it. -/
theorem KeyspacesListed.withKeyspace {registry : Registry} (hlisted : registry.KeyspacesListed)
    (keyspace : Identifier) : (registry.withKeyspace keyspace).KeyspacesListed := by
  intro other logicalId hid
  rw [keyspaceId?_withKeyspace, Option.or_eq_some_iff] at hid
  rw [resources_withKeyspace]
  rcases hid with hbefore | ⟨-, hnow⟩
  · exact List.mem_append_left _ (hlisted other logicalId hbefore)
  · obtain ⟨rfl, rfl⟩ : other = keyspace ∧ registry.nextKeyspaceId = logicalId := by
      simpa using hnow
    simp

/-- With a new table the keyspaces stay listed. -/
theorem KeyspacesListed.withTable {registry : Registry} (hlisted : registry.KeyspacesListed)
    (keyspace table : Identifier) (resource : TableResource) :
    (registry.withTable keyspace table resource).KeyspacesListed :=
  fun other logicalId hid ↦ List.mem_append_left _ (hlisted other logicalId hid)

/-- Adding a resource succeeds exactly under a new id. -/
theorem outcome_addResource_eq_ok_iff (registry next : Registry) (logicalId : String)
    (resource : Resource) : (registry.addResource logicalId resource).outcome = .ok next ↔
      logicalId ∉ registry.template.logicalIds ∧ next = { registry with
        template := ⟨⟨registry.resources ++ [(logicalId, resource)]⟩⟩ } := by
  rw [addResource]
  cases hadd : registry.template.add logicalId resource with
  | ok template =>
    obtain ⟨hnew, rfl⟩ := (Template.add_eq_ok_iff _ _ _ _).1 hadd
    simp [hnew, resources, OrderedMap.toList, eq_comm]
  | error fault =>
    have hpresent : ¬ logicalId ∉ registry.template.logicalIds := by
      intro hnew
      have hok := (Template.add_eq_ok_iff _ _ logicalId resource).2 ⟨hnew, rfl⟩
      rw [hadd] at hok
      cases hok
    simp [hpresent, Report.fail, Report.ofOutcome]

/-- Adding a keyspace succeeds exactly if its id is new. -/
theorem outcome_addKeyspace_eq_ok_iff (registry next : Registry) (keyspace : Identifier) :
    (registry.addKeyspace keyspace).outcome = .ok next ↔
      registry.nextKeyspaceId ∉ registry.template.logicalIds ∧
        next = registry.withKeyspace keyspace := by
  simp only [addKeyspace, Report.outcome_bind_eq_ok_iff, outcome_addResource_eq_ok_iff,
    Report.outcome_pure, Except.ok.injEq]
  constructor
  · rintro ⟨_, ⟨hnew, rfl⟩, rfl⟩
    exact ⟨hnew, rfl⟩
  · rintro ⟨hnew, rfl⟩
    exact ⟨_, ⟨hnew, rfl⟩, rfl⟩

/-- Adding a table succeeds exactly if its id is new. -/
theorem outcome_addTable_eq_ok_iff (registry next : Registry) (keyspace table : Identifier)
    (resource : TableResource) :
    (registry.addTable keyspace table resource).outcome = .ok next ↔
      registry.nextTableId ∉ registry.template.logicalIds ∧
        next = registry.withTable keyspace table resource := by
  simp only [addTable, Report.outcome_bind_eq_ok_iff, outcome_addResource_eq_ok_iff,
    Report.outcome_pure, Except.ok.injEq]
  constructor
  · rintro ⟨_, ⟨hnew, rfl⟩, rfl⟩
    exact ⟨hnew, rfl⟩
  · rintro ⟨hnew, rfl⟩
    exact ⟨_, ⟨hnew, rfl⟩, rfl⟩

end Registry

/-! ### Statements that succeed -/

namespace Mapping

open Report

/-- What a statement that succeeds does to the registry. -/
inductive Transition (strictness : Strictness) (registry : Registry) :
    Statement → Registry → Prop
  | keyspaceUsed (keyspace : Identifier) :
    Transition strictness registry (.use keyspace) { registry with usedKeyspace := some keyspace }
  | keyspaceSkipped (creation : KeyspaceCreation)
    (hknown : (registry.keyspaceId? creation.keyspace).isSome = true)
    (hskip : creation.ifNotExists = true) :
    Transition strictness registry (.createKeyspace creation) registry
  | keyspaceCreated (creation : KeyspaceCreation)
    (hnew : registry.keyspaceId? creation.keyspace = none)
    (hsettings : (mapKeyspaceSettings strictness creation.settings).outcome = .ok ())
    (hid : registry.nextKeyspaceId ∉ registry.template.logicalIds) :
    Transition strictness registry (.createKeyspace creation)
      (registry.withKeyspace creation.keyspace)
  | tableSkipped (creation : TableCreation) (keyspace : Identifier)
    (heffective : effectiveKeyspace? registry creation = some keyspace)
    (hknown : (registry.tableId? keyspace creation.table).isSome = true)
    (hskip : creation.ifNotExists = true) :
    Transition strictness registry (.createTable creation) registry
  | tableCreated (creation : TableCreation) (keyspace : Identifier) (resource : TableResource)
    (heffective : effectiveKeyspace? registry creation = some keyspace)
    (hnew : registry.tableId? keyspace creation.table = none)
    (hresource : (tableResource strictness registry keyspace creation).outcome = .ok resource)
    (hid : registry.nextTableId ∉ registry.template.logicalIds) :
    Transition strictness registry (.createTable creation)
      (registry.withTable keyspace creation.table resource)

variable {strictness : Strictness} {registry next : Registry}

/-- What exists already is left alone. -/
@[simp] theorem outcome_skipKeyspace (keyspace : Identifier) :
    (skipKeyspace registry keyspace).outcome = .ok registry := rfl

@[simp] theorem outcome_skipTable (keyspace table : Identifier) :
    (skipTable registry keyspace table).outcome = .ok registry := rfl

theorem outcome_mapKeyspace_eq_ok_iff (creation : KeyspaceCreation) :
    (mapKeyspace strictness registry creation).outcome = .ok next ↔
      Transition strictness registry (.createKeyspace creation) next := by
  constructor
  · intro hok
    unfold mapKeyspace at hok
    split at hok
    next hknown =>
      split at hok
      next hskip =>
        rw [outcome_skipKeyspace] at hok
        cases hok
        exact .keyspaceSkipped creation hknown hskip
      next => cases hok
    next hnew =>
      rw [outcome_bind_eq_ok_iff] at hok
      obtain ⟨_, hsettings, hadd⟩ := hok
      obtain ⟨hid, rfl⟩ := (Registry.outcome_addKeyspace_eq_ok_iff _ _ _).1 hadd
      exact .keyspaceCreated creation (by simpa using hnew) hsettings hid
  · intro htransition
    unfold mapKeyspace
    cases htransition with
    | keyspaceSkipped _ hknown hskip => simp [hknown, hskip]
    | keyspaceCreated _ hnew hsettings hid =>
      rw [hnew, Option.isSome_none, if_neg Bool.false_ne_true, outcome_bind_eq_ok_iff]
      exact ⟨(), hsettings, (Registry.outcome_addKeyspace_eq_ok_iff _ _ _).2 ⟨hid, rfl⟩⟩

theorem outcome_mapTable_eq_ok_iff (creation : TableCreation) :
    (mapTable strictness registry creation).outcome = .ok next ↔
      Transition strictness registry (.createTable creation) next := by
  constructor
  · intro hok
    unfold mapTable at hok
    split at hok
    next keyspace heffective =>
      unfold mapTableIn at hok
      split at hok
      next hknown =>
        split at hok
        next hskip =>
          rw [outcome_skipTable] at hok
          cases hok
          exact .tableSkipped creation keyspace heffective hknown hskip
        next => cases hok
      next hnew =>
        rw [outcome_bind_eq_ok_iff] at hok
        obtain ⟨resource, hresource, hadd⟩ := hok
        obtain ⟨hid, rfl⟩ := (Registry.outcome_addTable_eq_ok_iff _ _ _ _ _).1 hadd
        exact .tableCreated creation keyspace resource heffective (by simpa using hnew) hresource
          hid
    next => cases hok
  · intro htransition
    unfold mapTable
    cases htransition with
    | tableSkipped _ keyspace heffective hknown hskip =>
      simp [heffective, mapTableIn, hknown, hskip]
    | tableCreated _ keyspace resource heffective hnew hresource hid =>
      simp only [heffective, mapTableIn, hnew, Option.isSome_none, Bool.false_eq_true, if_false]
      rw [outcome_bind_eq_ok_iff]
      exact ⟨resource, hresource, (Registry.outcome_addTable_eq_ok_iff _ _ _ _ _).2 ⟨hid, rfl⟩⟩

/-- A statement succeeds exactly if it can take a transition, and then takes it. -/
theorem outcome_mapStatement_eq_ok_iff (statement : Statement) :
    (mapStatement strictness registry statement).outcome = .ok next ↔
      Transition strictness registry statement next := by
  unfold mapStatement
  rw [outcome_bind_of_ok (outcome_log _ _)]
  cases statement with
  | use keyspace =>
    simp only [mapUse, outcome_bind_of_ok (outcome_log _ _), outcome_pure, Except.ok.injEq]
    constructor
    · rintro rfl
      exact .keyspaceUsed keyspace
    · rintro ⟨⟩
      rfl
  | createKeyspace creation => exact outcome_mapKeyspace_eq_ok_iff creation
  | createTable creation => exact outcome_mapTable_eq_ok_iff creation

/-- A transition adds at most one resource, at the end of the template. -/
theorem Transition.resources_eq {statement : Statement}
    (htransition : Transition strictness registry statement next) :
    next.resources = registry.resources ∨
      ∃ entry, next.resources = registry.resources ++ [entry] := by
  cases htransition with
  | keyspaceUsed | keyspaceSkipped | tableSkipped => exact .inl rfl
  | keyspaceCreated | tableCreated => exact .inr ⟨_, rfl⟩

/-- A transition keeps every known keyspace among the resources and adds the new one to them. -/
theorem Transition.keyspacesListed {statement : Statement}
    (htransition : Transition strictness registry statement next)
    (hlisted : registry.KeyspacesListed) : next.KeyspacesListed := by
  cases htransition with
  | keyspaceUsed | keyspaceSkipped | tableSkipped => exact hlisted
  | keyspaceCreated creation => exact hlisted.withKeyspace creation.keyspace
  | tableCreated creation keyspace table => exact hlisted.withTable keyspace creation.table table

end Mapping

/-! ### Sessions -/

namespace Session

/-- A statement that succeeds takes a transition, and one that fails leaves the registry. -/
theorem registry_handle (session : Session) (statement : Statement) :
    (∃ next, (session.handle statement).2.outcome = .ok next ∧
      (session.handle statement).1.registry = next ∧
      Mapping.Transition session.strictness session.registry statement next) ∨
    (∃ failure, (session.handle statement).2.outcome = .error failure ∧
      (session.handle statement).1.registry = session.registry) := by
  cases houtcome : (session.handle statement).2.outcome with
  | ok next =>
    exact .inl ⟨next, rfl, session.registry_after_of_ok houtcome,
      (Mapping.outcome_mapStatement_eq_ok_iff statement).1 houtcome⟩
  | error failure =>
    exact .inr ⟨failure, rfl, session.registry_after_of_error houtcome⟩

/-- Handling one more statement. -/
theorem handleAll_concat (session : Session) (statements : List Statement)
    (statement : Statement) : session.handleAll (statements ++ [statement]) =
      ((session.handleAll statements).handle statement).1 := by
  simp [handleAll]

/-- Assumes: a property of the registry that holds before the first statement and that transitions
keep. It holds after any statements, whether they succeed or fail. -/
theorem registry_handleAll_induction (Holds : Registry → Prop) (hempty : Holds .empty)
    (hstep : ∀ {strictness registry statement next}, Holds registry →
      Mapping.Transition strictness registry statement next → Holds next)
    (strictness : Strictness) (statements : List Statement) :
    Holds ((new strictness).handleAll statements).registry := by
  induction statements using List.reverseRecOn with
  | nil => exact hempty
  | append_singleton statements statement ih =>
    rw [handleAll_concat]
    rcases registry_handle ((new strictness).handleAll statements) statement with
      ⟨next, -, hnext, htransition⟩ | ⟨_, -, hsame⟩
    · rw [hnext]
      exact hstep ih htransition
    · rwa [hsame]

/-- A statement adds at most one resource, at the end of the template. -/
theorem resources_handle (session : Session) (statement : Statement) :
    (session.handle statement).1.registry.resources = session.registry.resources ∨
      ∃ entry, (session.handle statement).1.registry.resources =
        session.registry.resources ++ [entry] := by
  rcases session.registry_handle statement with ⟨next, -, hnext, htransition⟩ | ⟨_, -, hsame⟩
  · rw [hnext]
    exact htransition.resources_eq
  · rw [hsame]
    exact .inl rfl

/-- Assumes: a resource of the template after some statements, with those before and behind it. It
was added by one of the statements, when exactly those before it were there. -/
theorem resource_origin {session : Session} (hempty : session.registry.resources = [])
    (statements : List Statement) {front back : List (String × Resource)}
    {entry : String × Resource}
    (hentry : (session.handleAll statements).registry.resources = front ++ entry :: back) :
    ∃ before statement after, statements = before ++ statement :: after ∧
      (session.handleAll before).registry.resources = front ∧
      (session.handleAll (before ++ [statement])).registry.resources = front ++ [entry] := by
  induction statements using List.reverseRecOn generalizing back with
  | nil =>
    rw [show session.handleAll [] = session from rfl, hempty] at hentry
    simp at hentry
  | append_singleton statements statement ih =>
    have hearlier : ∀ others, (session.handleAll statements).registry.resources =
        front ++ entry :: others → ∃ before other after,
          statements ++ [statement] = before ++ other :: after ∧
          (session.handleAll before).registry.resources = front ∧
          (session.handleAll (before ++ [other])).registry.resources = front ++ [entry] := by
      intro others hothers
      obtain ⟨before, other, after, hsplit, hfront, hadded⟩ := ih hothers
      exact ⟨before, other, after ++ [statement], by simp [hsplit], hfront, hadded⟩
    have hgrown := (session.handleAll statements).resources_handle statement
    rw [← handleAll_concat, hentry] at hgrown
    rcases hgrown with hsame | ⟨last, hlast⟩
    · exact hearlier back hsame.symm
    · rcases List.eq_nil_or_concat back with rfl | ⟨others, final, rfl⟩
      · have hfront := (List.append_inj' hlast rfl).1
        exact ⟨statements, statement, [], rfl, hfront.symm, hentry⟩
      · refine hearlier others ?_
        have hinit : (front ++ entry :: others) ++ [final] =
            (session.handleAll statements).registry.resources ++ [last] := by
          simpa using hlast
        exact (List.append_inj' hinit rfl).1.symm

end Session

end SchemaTemplate
