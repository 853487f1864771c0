import SchemaTemplate.Proofs.TableMapping
import SchemaTemplate.Proofs.Transition
import SchemaTemplate.Template.Value

/-!
References between resources. What a table says about its keyspace depends on three parts of the
session that statements change separately: the keyspace in use, the keyspaces created so far and the
template. Each of the first two is told here by the statements alone (`Session.lastUsed?`,
`Session.KeyspaceCreated`), and every keyspace created so far is tied to its resource; with the
statement behind a table (`Session.resource_origin`) this says where its reference leads. Types of
columns are values without references, by induction on the types.
-/

set_option autoImplicit false
set_option relaxedAutoImplicit false

namespace SchemaTemplate

/-! ### Types -/

namespace Mapping

mutual

/-- The value of a type refers to nothing and selects nothing. -/
theorem typeExpr_closed (keyspace : Identifier) :
    (type : ColumnType) → (value : Expr) → (typeExpr keyspace type).outcome = .ok value →
      value.references = [] ∧ value.Direct
  | .simple name, value, hok => by
    rw [outcome_typeExpr_simple] at hok
    cases hok
    simp [Expr.references, Expr.Direct]
  | .composite kind elements, value, hok => by
    obtain ⟨values, hvalues, rfl⟩ :=
      (outcome_typeExpr_composite_eq_ok_iff keyspace kind elements value).1 hok
    obtain ⟨hreferences, hdirect⟩ := typeExprs_closed keyspace elements values hvalues
    simp [compositeExpr, Expr.references, Expr.bindingReferences, Expr.Direct,
      Expr.BindingsDirect, hreferences, hdirect]
  | .user typeKeyspace name, value, hok =>
    absurd hok (outcome_typeExpr_user_ne_ok keyspace typeKeyspace name value)
  | .custom className, value, hok =>
    absurd hok (outcome_typeExpr_custom_ne_ok keyspace className value)

/-- The values of several types refer to nothing and select nothing. -/
theorem typeExprs_closed (keyspace : Identifier) :
    (types : List ColumnType) → (values : List Expr) →
      (typeExprs keyspace types).outcome = .ok values →
        Expr.referencesAll values = [] ∧ Expr.AllDirect values
  | [], values, hok => by
    rw [outcome_typeExprs_nil] at hok
    cases hok
    simp [Expr.referencesAll, Expr.AllDirect]
  | first :: rest, values, hok => by
    obtain ⟨value, more, hvalue, hmore, rfl⟩ :=
      (outcome_typeExprs_cons_eq_ok_iff keyspace first rest values).1 hok
    obtain ⟨hreferences, hdirect⟩ := typeExpr_closed keyspace first value hvalue
    obtain ⟨hreferencesRest, hdirectRest⟩ := typeExprs_closed keyspace rest more hmore
    simp [Expr.referencesAll, Expr.AllDirect, hreferences, hdirect, hreferencesRest, hdirectRest]

end

end Mapping

/-- The values that give the types of the columns of a table. -/
def TableResource.columnTypes (table : TableResource) : List Expr :=
  table.partitionKey.map Column.type ++
    table.clusteringKey.map (fun clustering ↦ clustering.column.type) ++
    table.regularColumns.map Column.type

/-- Assumes: the resource of a table. The types of its columns refer to nothing and select
nothing. -/
theorem Mapping.Renders.columnTypes_closed {registry : Registry} {keyspace : Identifier}
    {creation : TableCreation} {table : TableResource}
    (hrenders : Renders registry keyspace creation table) :
    ∀ type ∈ table.columnTypes, type.references = [] ∧ type.Direct := by
  have hclosed : ∀ {declared : Identifier × ColumnType} {column : Column},
      Maps keyspace declared column → column.type.references = [] ∧ column.type.Direct :=
    fun hmaps ↦ typeExpr_closed keyspace _ _ hmaps.type_value
  obtain ⟨_, _, _, hpartition, hclustering⟩ := hrenders.key_placed
  intro type htype
  simp only [TableResource.columnTypes, List.mem_append, List.mem_map] at htype
  rcases htype with (⟨column, hcolumn, rfl⟩ | ⟨clustering, hcolumn, rfl⟩) | ⟨column, hcolumn, rfl⟩
  · obtain ⟨_, hmaps⟩ := exists_related_of_mem hpartition hcolumn
    exact hclosed hmaps
  · obtain ⟨_, hmaps⟩ := exists_related_of_mem hclustering hcolumn
    exact hclosed hmaps.column_maps
  · obtain ⟨_, hmaps⟩ := exists_related_of_mem hrenders.others_placed hcolumn
    exact hclosed hmaps

/-! ### The session as the statements tell it -/

namespace Session

/-- The keyspace that a statement selects. -/
def usedBy? : Statement → Option Identifier
  | .use keyspace => some keyspace
  | _ => none

/-- The keyspace that the last of the statements to select one selects. -/
def lastUsed? (statements : List Statement) : Option Identifier :=
  (statements.filterMap usedBy?).getLast?

/-- Whether one of the statements, handled in their order by a session of their own, creates a
keyspace and succeeds. -/
def KeyspaceCreated (strictness : Strictness) (statements : List Statement)
    (keyspace : Identifier) : Prop :=
  ∃ before creation after registry,
    statements = before ++ .createKeyspace creation :: after ∧ creation.keyspace = keyspace ∧
      (((new strictness).handleAll before).handle (.createKeyspace creation)).2.outcome =
        .ok registry

/-- A statement that selects a keyspace, which never fails, brings it into use. Every other
statement leaves the one in use, whether it succeeds or fails. -/
theorem usedKeyspace_handle (session : Session) (statement : Statement) :
    (session.handle statement).1.registry.usedKeyspace =
      (usedBy? statement).or session.registry.usedKeyspace := by
  rcases session.registry_handle statement with
    ⟨next, -, hnext, htransition⟩ | ⟨failure, hfailure, hsame⟩
  · rw [hnext]
    cases htransition with
    | keyspaceUsed | keyspaceSkipped | keyspaceCreated | tableSkipped | tableCreated => rfl
  · rw [hsame]
    cases statement with
    | use keyspace => cases hfailure
    | createKeyspace | createTable => rfl

theorem lastUsed?_concat (statements : List Statement) (statement : Statement) :
    lastUsed? (statements ++ [statement]) = (usedBy? statement).or (lastUsed? statements) := by
  rw [lastUsed?, lastUsed?, List.filterMap_append, List.getLast?_append]
  cases hused : usedBy? statement <;> simp [hused]

/-- The keyspace in use is the one selected last. -/
theorem usedKeyspace_handleAll (strictness : Strictness) (statements : List Statement) :
    ((new strictness).handleAll statements).registry.usedKeyspace = lastUsed? statements := by
  induction statements using List.reverseRecOn with
  | nil => rfl
  | append_singleton statements statement ih =>
    rw [handleAll_concat, usedKeyspace_handle, ih, lastUsed?_concat]

/-- Whether a keyspace is created by some statements and one more. -/
theorem keyspaceCreated_concat_iff (strictness : Strictness) (statements : List Statement)
    (statement : Statement) (keyspace : Identifier) :
    KeyspaceCreated strictness (statements ++ [statement]) keyspace ↔
      KeyspaceCreated strictness statements keyspace ∨
        ∃ creation registry, statement = .createKeyspace creation ∧ creation.keyspace = keyspace ∧
          (((new strictness).handleAll statements).handle statement).2.outcome = .ok registry := by
  constructor
  · rintro ⟨before, creation, after, registry, hsplit, hkeyspace, hok⟩
    rcases List.eq_nil_or_concat after with rfl | ⟨others, last, rfl⟩
    · obtain ⟨rfl, hlast⟩ := List.append_inj' hsplit rfl
      cases hlast
      exact .inr ⟨creation, registry, rfl, hkeyspace, hok⟩
    · have hinit : statements ++ [statement] =
          (before ++ .createKeyspace creation :: others) ++ [last] := by
        simpa using hsplit
      exact .inl ⟨before, creation, others, registry, (List.append_inj' hinit rfl).1, hkeyspace,
        hok⟩
  · rintro (⟨before, creation, after, registry, rfl, hkeyspace, hok⟩ |
      ⟨creation, registry, rfl, hkeyspace, hok⟩)
    · exact ⟨before, creation, after ++ [statement], registry, by simp, hkeyspace, hok⟩
    · exact ⟨statements, creation, [], registry, rfl, hkeyspace, hok⟩

/-- The keyspaces with an id are those whose creation has succeeded. -/
theorem keyspaceCreated_iff (strictness : Strictness) (statements : List Statement)
    (keyspace : Identifier) :
    KeyspaceCreated strictness statements keyspace ↔
      (((new strictness).handleAll statements).registry.keyspaceId? keyspace).isSome = true := by
  induction statements using List.reverseRecOn with
  | nil =>
    constructor
    · rintro ⟨before, creation, after, _, hsplit, -⟩
      simp at hsplit
    · intro hknown
      cases hknown
  | append_singleton statements statement ih =>
    rw [keyspaceCreated_concat_iff, ih, handleAll_concat]
    rcases registry_handle ((new strictness).handleAll statements) statement with
      ⟨next, hok, hnext, htransition⟩ | ⟨failure, hfailure, hsame⟩
    · rw [hnext]
      cases htransition with
      | keyspaceUsed | tableSkipped | tableCreated =>
        simp [Registry.keyspaceId?, Registry.withTable]
      | keyspaceSkipped creation hknown hskip =>
        constructor
        · rintro (hbefore | ⟨_, _, hsame, rfl, -⟩)
          · exact hbefore
          · cases hsame
            exact hknown
        · exact .inl
      | keyspaceCreated creation hnew hsettings hid =>
        rw [Registry.keyspaceId?_withKeyspace, Option.isSome_or, Bool.or_eq_true]
        constructor
        · rintro (hbefore | ⟨_, _, hsame, rfl, -⟩)
          · exact .inl hbefore
          · cases hsame
            exact .inr (by simp)
        · rintro (hbefore | hnow)
          · exact .inl hbefore
          · have hsame : keyspace = creation.keyspace := by
              by_contra hdifferent
              simp [hdifferent] at hnow
            exact .inr ⟨creation, _, rfl, hsame.symm, hok⟩
    · rw [hsame]
      simp [hfailure]

/-- After any statements, every keyspace with an id is among the resources. -/
theorem keyspacesListed_handleAll (strictness : Strictness) (statements : List Statement) :
    ((new strictness).handleAll statements).registry.KeyspacesListed :=
  registry_handleAll_induction Registry.KeyspacesListed nofun
    (fun hlisted htransition ↦ htransition.keyspacesListed hlisted) strictness statements

/-- References hold. After any statements, whether they succeed or fail and however strict the
session is, a table among the resources was added by a statement that creates it, when exactly the
resources before it were there. The types of its columns refer to nothing and select nothing, and
its keyspace is told in one of two ways: by a reference to the resource of its effective keyspace,
which stands before it, if that keyspace had been created by then; by the name of its effective
keyspace, if it had not. -/
theorem references_hold (strictness : Strictness) (statements : List Statement)
    {front back : List (String × Resource)} {id : String} {table : TableResource}
    (htable : ((new strictness).handleAll statements).registry.resources =
      front ++ (id, .table table) :: back) :
    (∀ type ∈ table.columnTypes, type.references = [] ∧ type.Direct) ∧
      ∃ before creation after keyspace,
        statements = before ++ .createTable creation :: after ∧
        ((new strictness).handleAll before).registry.resources = front ∧
        ((new strictness).handleAll (before ++ [.createTable creation])).registry.resources =
          front ++ [(id, .table table)] ∧
        table.tableName = creation.table.text ∧
        creation.keyspace.or (lastUsed? before) = some keyspace ∧
        ((KeyspaceCreated strictness before keyspace ∧ ∃ logicalId,
            table.keyspaceName = .reference logicalId ∧
              (logicalId, .keyspace keyspace.text) ∈ front) ∨
          (¬ KeyspaceCreated strictness before keyspace ∧
            table.keyspaceName = .literal keyspace.text)) := by
  have hempty : (new strictness).registry.resources = [] := rfl
  obtain ⟨before, statement, after, hsplit, hfront, hadded⟩ :=
    resource_origin hempty statements htable
  have hstep := registry_handle ((new strictness).handleAll before) statement
  rw [← handleAll_concat] at hstep
  rcases hstep with ⟨next, -, hnext, htransition⟩ | ⟨_, -, hsame⟩
  · rw [hnext] at hadded
    cases htransition with
    | keyspaceUsed | keyspaceSkipped | tableSkipped =>
      have hgrown : front = front ++ [(id, .table table)] := hfront.symm.trans hadded
      simp at hgrown
    | keyspaceCreated creation =>
      rw [Registry.resources_withKeyspace, hfront] at hadded
      simp at hadded
    | tableCreated creation keyspace resource heffective hnew hresource hid =>
      have hentry := hadded
      rw [Registry.resources_withTable, hfront] at hentry
      obtain ⟨-, rfl⟩ : _ ∧ resource = table := by simpa using hentry
      have hrenders := Mapping.renders_of_outcome hresource
      refine ⟨hrenders.columnTypes_closed, before, creation, after, keyspace, hsplit, hfront, ?_,
        hrenders.tableName_eq, ?_, ?_⟩
      · rw [hnext, hadded]
      · rw [← usedKeyspace_handleAll strictness before]
        exact heffective
      · rw [keyspaceCreated_iff, hrenders.keyspaceName_eq, Mapping.keyspaceValue]
        split
        next logicalId hknown =>
          have hmem := keyspacesListed_handleAll strictness before keyspace logicalId hknown
          rw [hfront] at hmem
          exact .inl ⟨by rw [hknown]; rfl, logicalId, rfl, hmem⟩
        next hunknown => exact .inr ⟨by simp [hunknown], rfl⟩
  · rw [hsame, hfront] at hadded
    simp at hadded

/-- The creation of a table with one column, which is its key. -/
def oneColumnTable (keyspace : Option Identifier) (table : String) : TableCreation where
  keyspace := keyspace
  table := ⟨table⟩
  ifNotExists := false
  definition := { TableDefinition.empty with
    columns := ⟨[(⟨"id"⟩, .composite "list" [.simple "int"])]⟩
    partitionKey := [⟨"id"⟩]
    primaryKeyGiven := true }

/-- The creation of a keyspace with nothing but its replication. -/
def plainKeyspace (keyspace : String) : KeyspaceCreation where
  keyspace := ⟨keyspace⟩
  ifNotExists := false
  settings := ⟨⟨[(⟨"replication"⟩, .options ⟨[("class", "SingleRegionStrategy")]⟩)]⟩, none⟩

/-- A table in a keyspace that is not created, and one in the keyspace in use. -/
def twoTables : List Statement :=
  [.createTable (oneColumnTable (some ⟨"other"⟩) "first"), .createKeyspace (plainKeyspace "shop"),
    .use ⟨"shop"⟩, .createTable (oneColumnTable none "second")]

/-- The resource of a table with one column. -/
def oneColumnResource (keyspaceName : Expr) (table : String) : TableResource where
  keyspaceName := keyspaceName
  tableName := table
  partitionKey := [⟨"id", Mapping.compositeExpr "list" [.literal "int"]⟩]
  clusteringKey := []
  regularColumns := []
  billingMode := none

/-- The second of two tables refers to its keyspace, which was created before it. -/
theorem references_hold_twoTables :
    let front := [("Table1", .table (oneColumnResource (.literal "other") "first")),
      ("Keyspace1", .keyspace "shop")]
    let table := oneColumnResource (.reference "Keyspace1") "second"
    ((new .lenient).handleAll twoTables).registry.resources =
        front ++ ("Table2", .table table) :: [] ∧
      ∃ before creation after keyspace, twoTables = before ++ .createTable creation :: after ∧
        creation.keyspace.or (lastUsed? before) = some keyspace ∧
        ((KeyspaceCreated .lenient before keyspace ∧ ∃ logicalId,
            table.keyspaceName = .reference logicalId ∧
              (logicalId, .keyspace keyspace.text) ∈ front) ∨
          (¬ KeyspaceCreated .lenient before keyspace ∧
            table.keyspaceName = .literal keyspace.text)) := by
  intro front table
  have htable : ((new .lenient).handleAll twoTables).registry.resources =
      front ++ ("Table2", .table table) :: [] := by rfl
  obtain ⟨-, before, creation, after, keyspace, hsplit, -, -, -, heffective, htold⟩ :=
    references_hold .lenient twoTables htable
  exact ⟨htable, before, creation, after, keyspace, hsplit, heffective, htold⟩

end Session

end SchemaTemplate
