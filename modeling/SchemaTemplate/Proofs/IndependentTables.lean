import SchemaTemplate.Proofs.LogicalIds
import SchemaTemplate.Proofs.Repetition

/-!
Independent tables commute. A table gets the next free number, and nothing else about it or about
later statements depends on the number: `Mapping.Makes` says what a creation makes without it, and
that depends on the keyspaces and on whether the one table exists. So two tables with different
names can be created in either order. The registries behind them match in all that a statement looks
at (`Registry.Matches`), and matching registries grow alike.
-/

set_option autoImplicit false
set_option relaxedAutoImplicit false

namespace SchemaTemplate

/-- Continuing without warnings gives no others. -/
theorem Report.warnings_bind_of_silent {Value Result : Type} (report : Report Value)
    {next : Value → Report Result} (hsilent : ∀ value, (next value).warnings = []) :
    (report >>= next).warnings = report.warnings := by
  cases houtcome : report.outcome with
  | ok value => rw [warnings_bind_of_ok houtcome, hsilent, List.append_nil]
  | error failure => rw [warnings_bind_of_error houtcome]

namespace Registry

/-- A table with its resource, as it is without its id, or none. -/
abbrev Made : Type := Option ((Identifier × Identifier) × TableResource)

/-- The registry with what was made. -/
def withMade (registry : Registry) : Made → Registry
  | none => registry
  | some ((keyspace, table), resource) => registry.withTable keyspace table resource

/-- Whether two registries tell the same of all that a statement looks at. Their tables may be
different ones under the same ids. -/
structure Matches (registry other : Registry) : Prop where
  same_use : other.usedKeyspace = registry.usedKeyspace
  same_keyspaces : other.keyspaces = registry.keyspaces
  same_ids : other.template.logicalIds = registry.template.logicalIds
  same_count : other.tables.length = registry.tables.length
  same_tables : ∀ keyspace table,
    (other.tableId? keyspace table).isSome = (registry.tableId? keyspace table).isSome

variable {registry other : Registry}

@[simp] theorem usedKeyspace_withMade (registry : Registry) (made : Made) :
    (registry.withMade made).usedKeyspace = registry.usedKeyspace := by
  cases made <;> rfl

@[simp] theorem keyspaces_withMade (registry : Registry) (made : Made) :
    (registry.withMade made).keyspaces = registry.keyspaces := by
  cases made <;> rfl

theorem logicalIds_withTable (registry : Registry) (keyspace table : Identifier)
    (resource : TableResource) : (registry.withTable keyspace table resource).template.logicalIds =
      registry.template.logicalIds ++ [registry.nextTableId] := List.map_append

theorem logicalIds_withKeyspace (registry : Registry) (keyspace : Identifier) :
    (registry.withKeyspace keyspace).template.logicalIds =
      registry.template.logicalIds ++ [registry.nextKeyspaceId] := List.map_append

theorem isSome_tableId?_withTable (registry : Registry) (keyspace table : Identifier)
    (resource : TableResource) (otherKeyspace other : Identifier) :
    ((registry.withTable keyspace table resource).tableId? otherKeyspace other).isSome =
      ((registry.tableId? otherKeyspace other).isSome ||
        decide ((otherKeyspace, other) = (keyspace, table))) := by
  rw [tableId?_withTable, Option.isSome_or]
  split <;> simp [*]

/-- What was made under another name tells nothing about a table. -/
theorem isSome_tableId?_withMade_of_ne {made : Made} {keyspace table : Identifier}
    (hother : ∀ key resource, made = some (key, resource) → key ≠ (keyspace, table)) :
    ((registry.withMade made).tableId? keyspace table).isSome =
      (registry.tableId? keyspace table).isSome := by
  cases made with
  | none => rfl
  | some entry =>
    have hdifferent := hother entry.1 entry.2 rfl
    rw [withMade, isSome_tableId?_withTable, decide_eq_false (Ne.symm hdifferent), Bool.or_false]

namespace Matches

theorem refl (registry : Registry) : registry.Matches registry :=
  ⟨rfl, rfl, rfl, rfl, fun _ _ ↦ rfl⟩

theorem symm (hmatches : registry.Matches other) : other.Matches registry where
  same_use := hmatches.same_use.symm
  same_keyspaces := hmatches.same_keyspaces.symm
  same_ids := hmatches.same_ids.symm
  same_count := hmatches.same_count.symm
  same_tables keyspace table := (hmatches.same_tables keyspace table).symm

theorem keyspaceId?_eq (hmatches : registry.Matches other) (keyspace : Identifier) :
    other.keyspaceId? keyspace = registry.keyspaceId? keyspace := by
  rw [keyspaceId?, hmatches.same_keyspaces, keyspaceId?]

theorem nextTableId_eq (hmatches : registry.Matches other) :
    other.nextTableId = registry.nextTableId := by
  rw [nextTableId, hmatches.same_count, nextTableId]

theorem nextKeyspaceId_eq (hmatches : registry.Matches other) :
    other.nextKeyspaceId = registry.nextKeyspaceId := by
  rw [nextKeyspaceId, hmatches.same_keyspaces, nextKeyspaceId]

theorem withKeyspace (hmatches : registry.Matches other) (keyspace : Identifier) :
    (registry.withKeyspace keyspace).Matches (other.withKeyspace keyspace) where
  same_use := hmatches.same_use
  same_keyspaces := by
    simp only [Registry.withKeyspace, hmatches.same_keyspaces, hmatches.nextKeyspaceId_eq]
  same_ids := by
    rw [logicalIds_withKeyspace, logicalIds_withKeyspace, hmatches.same_ids,
      hmatches.nextKeyspaceId_eq]
  same_count := hmatches.same_count
  same_tables := hmatches.same_tables

/-- Matching registries stay so with one more table in each, even with different resources. -/
theorem withTable (hmatches : registry.Matches other) (keyspace table : Identifier)
    (resource otherResource : TableResource) :
    (registry.withTable keyspace table resource).Matches
      (other.withTable keyspace table otherResource) where
  same_use := hmatches.same_use
  same_keyspaces := hmatches.same_keyspaces
  same_ids := by
    rw [logicalIds_withTable, logicalIds_withTable, hmatches.same_ids, hmatches.nextTableId_eq]
  same_count := by
    simp only [Registry.withTable, List.length_append, hmatches.same_count]
    rfl
  same_tables otherKeyspace other := by
    rw [isSome_tableId?_withTable, isSome_tableId?_withTable, hmatches.same_tables]

/-- What two tables leave behind matches whichever is made first. -/
theorem withMade_comm (registry : Registry) (first second : Made) :
    ((registry.withMade first).withMade second).Matches
      ((registry.withMade second).withMade first) := by
  obtain _ | first := first
  · exact .refl _
  obtain _ | second := second
  · exact .refl _
  exact
    { same_use := rfl
      same_keyspaces := rfl
      same_ids := by
        simp only [withMade, logicalIds_withTable]
        simp [nextTableId, Registry.withTable]
      same_count := by simp [withMade, Registry.withTable]
      same_tables := by
        intro keyspace table
        simp only [withMade, isSome_tableId?_withTable]
        exact Bool.or_right_comm _ _ _ }

end Matches

end Registry

/-! ### What a creation depends on -/

namespace Mapping

open Registry

variable {strictness : Strictness} {registry other next : Registry} {creation : TableCreation}

/-- What the creation of a table makes if it succeeds. -/
inductive Makes (strictness : Strictness) (registry : Registry) (creation : TableCreation) :
    Made → Prop
  | nothing (keyspace : Identifier)
    (heffective : effectiveKeyspace? registry creation = some keyspace)
    (hknown : (registry.tableId? keyspace creation.table).isSome = true)
    (hskip : creation.ifNotExists = true) : Makes strictness registry creation none
  | table (keyspace : Identifier) (resource : TableResource)
    (heffective : effectiveKeyspace? registry creation = some keyspace)
    (hnew : (registry.tableId? keyspace creation.table).isSome = false)
    (hresource : (tableResource strictness registry keyspace creation).outcome = .ok resource) :
    Makes strictness registry creation (some ((keyspace, creation.table), resource))

/-- What is made has the name of the table in its effective keyspace. -/
theorem Makes.key_eq {key : Identifier × Identifier} {resource : TableResource}
    (hmakes : Makes strictness registry creation (some (key, resource))) :
    (effectiveKeyspace? registry creation, creation.table) = (some key.1, key.2) := by
  cases hmakes with
  | table keyspace _ heffective => rw [heffective]

/-- Assumes: ids that are numbered. The creation of a table succeeds exactly if it makes something
or finds what exists, and adds what it makes. -/
theorem transition_createTable_iff (hnumbered : registry.Numbered) :
    Transition strictness registry (.createTable creation) next ↔
      ∃ made, Makes strictness registry creation made ∧ next = registry.withMade made := by
  constructor
  · intro htransition
    cases htransition with
    | tableSkipped _ keyspace heffective hknown hskip =>
      exact ⟨none, .nothing keyspace heffective hknown hskip, rfl⟩
    | tableCreated _ keyspace resource heffective hnew hresource =>
      exact ⟨_, .table keyspace resource heffective (by rw [hnew]; rfl) hresource, rfl⟩
  · rintro ⟨_, ⟨keyspace, heffective, hknown, hskip⟩ | ⟨keyspace, resource, heffective, hnew,
      hresource⟩, rfl⟩
    · exact .tableSkipped creation keyspace heffective hknown hskip
    · exact .tableCreated creation keyspace resource heffective (by simpa using hnew) hresource
        hnumbered.nextTableId_new

/-- Whether two registries tell the same of all that the creation of a table looks at. -/
structure SameFooting (creation : TableCreation) (registry other : Registry) : Prop where
  same_use : other.usedKeyspace = registry.usedKeyspace
  same_keyspaces : other.keyspaces = registry.keyspaces
  same_existence : ∀ keyspace, effectiveKeyspace? registry creation = some keyspace →
    (other.tableId? keyspace creation.table).isSome =
      (registry.tableId? keyspace creation.table).isSome

theorem SameFooting.of_matches (hmatches : registry.Matches other) (creation : TableCreation) :
    SameFooting creation registry other :=
  ⟨hmatches.same_use, hmatches.same_keyspaces, fun _ _ ↦ hmatches.same_tables _ _⟩

/-- A table of another name gives the same footing to a creation. -/
theorem SameFooting.of_withMade {made : Made}
    (hother : ∀ key resource, made = some (key, resource) →
      (effectiveKeyspace? registry creation, creation.table) ≠ (some key.1, key.2)) :
    SameFooting creation registry (registry.withMade made) where
  same_use := usedKeyspace_withMade registry made
  same_keyspaces := keyspaces_withMade registry made
  same_existence := by
    intro keyspace heffective
    refine isSome_tableId?_withMade_of_ne fun key resource hmade hkey ↦ ?_
    refine hother key resource hmade ?_
    rw [heffective, hkey]

namespace SameFooting

theorem effectiveKeyspace?_eq (hfooting : SameFooting creation registry other) :
    effectiveKeyspace? other creation = effectiveKeyspace? registry creation := by
  rw [effectiveKeyspace?, hfooting.same_use, effectiveKeyspace?]

/-- The resource of a table depends on the keyspaces only. -/
theorem tableResource_eq (hfooting : SameFooting creation registry other)
    (strictness : Strictness) (keyspace : Identifier) :
    tableResource strictness other keyspace creation =
      tableResource strictness registry keyspace creation := by
  have hknown : other.keyspaceId? keyspace = registry.keyspaceId? keyspace := by
    rw [keyspaceId?, hfooting.same_keyspaces, keyspaceId?]
  rw [tableResource, keyspaceExpr, hknown, tableResource, keyspaceExpr]

theorem symm (hfooting : SameFooting creation registry other) :
    SameFooting creation other registry where
  same_use := hfooting.same_use.symm
  same_keyspaces := hfooting.same_keyspaces.symm
  same_existence := by
    intro keyspace heffective
    rw [hfooting.effectiveKeyspace?_eq] at heffective
    exact (hfooting.same_existence keyspace heffective).symm

theorem makes (hfooting : SameFooting creation registry other) {made : Made}
    (hmakes : Makes strictness registry creation made) : Makes strictness other creation made := by
  cases hmakes with
  | nothing keyspace heffective hknown hskip =>
    refine .nothing keyspace (hfooting.effectiveKeyspace?_eq.trans heffective) ?_ hskip
    rwa [hfooting.same_existence keyspace heffective]
  | table keyspace resource heffective hnew hresource =>
    refine .table keyspace resource (hfooting.effectiveKeyspace?_eq.trans heffective) ?_ ?_
    · rwa [hfooting.same_existence keyspace heffective]
    · rwa [hfooting.tableResource_eq]

theorem warnings_eq (hfooting : SameFooting creation registry other) (strictness : Strictness) :
    (mapTable strictness other creation).warnings =
      (mapTable strictness registry creation).warnings := by
  unfold mapTable
  rw [hfooting.effectiveKeyspace?_eq]
  cases heffective : effectiveKeyspace? registry creation with
  | none => rfl
  | some keyspace =>
    simp only [mapTableIn, hfooting.same_existence keyspace heffective, hfooting.tableResource_eq]
    split
    · split <;> rfl
    · rw [Report.warnings_bind_of_silent _ fun _ ↦ warnings_addTable _ _ _ _,
        Report.warnings_bind_of_silent _ fun _ ↦ warnings_addTable _ _ _ _]

end SameFooting

/-! ### Matching registries -/

/-- Assumes: matching registries. A statement that succeeds behind one succeeds behind the other,
adds the same to both and leaves them matching. -/
theorem Transition.of_matches {statement : Statement} (hmatches : registry.Matches other)
    (htransition : Transition strictness registry statement next) :
    ∃ otherNext, Transition strictness other statement otherNext ∧ next.Matches otherNext ∧
      ∃ added, next.resources = registry.resources ++ added ∧
        otherNext.resources = other.resources ++ added := by
  cases htransition with
  | keyspaceUsed keyspace =>
    refine ⟨_, .keyspaceUsed keyspace, { hmatches with same_use := rfl }, [], ?_⟩
    exact ⟨(List.append_nil _).symm, (List.append_nil _).symm⟩
  | keyspaceSkipped creation hknown hskip =>
    refine ⟨other, .keyspaceSkipped creation (by rwa [hmatches.keyspaceId?_eq]) hskip, hmatches, [],
      ?_⟩
    exact ⟨(List.append_nil _).symm, (List.append_nil _).symm⟩
  | keyspaceCreated creation hnew hsettings hid =>
    refine ⟨other.withKeyspace creation.keyspace,
      .keyspaceCreated creation (by rwa [hmatches.keyspaceId?_eq]) hsettings
        (by rwa [hmatches.nextKeyspaceId_eq, hmatches.same_ids]),
      hmatches.withKeyspace creation.keyspace, _, resources_withKeyspace _ _, ?_⟩
    rw [resources_withKeyspace, hmatches.nextKeyspaceId_eq]
  | tableSkipped creation keyspace heffective hknown hskip =>
    have hfooting := SameFooting.of_matches hmatches creation
    refine ⟨other, .tableSkipped creation keyspace (hfooting.effectiveKeyspace?_eq.trans heffective)
      (by rwa [hmatches.same_tables]) hskip, hmatches, [], ?_⟩
    exact ⟨(List.append_nil _).symm, (List.append_nil _).symm⟩
  | tableCreated creation keyspace resource heffective hnew hresource hid =>
    have hfooting := SameFooting.of_matches hmatches creation
    have hnewToo : other.tableId? keyspace creation.table = none := by
      have hsame := hmatches.same_tables keyspace creation.table
      rw [hnew] at hsame
      simpa using hsame
    refine ⟨other.withTable keyspace creation.table resource,
      .tableCreated creation keyspace resource (hfooting.effectiveKeyspace?_eq.trans heffective)
        hnewToo (by rwa [hfooting.tableResource_eq])
        (by rwa [hmatches.nextTableId_eq, hmatches.same_ids]),
      hmatches.withTable keyspace creation.table resource resource, _,
      resources_withTable _ _ _ _, ?_⟩
    rw [resources_withTable, hmatches.nextTableId_eq]

/-- Behind matching registries a statement gives the same warnings. -/
theorem warnings_mapStatement_of_matches (hmatches : registry.Matches other)
    (strictness : Strictness) (statement : Statement) :
    (mapStatement strictness other statement).warnings =
      (mapStatement strictness registry statement).warnings := by
  unfold mapStatement
  rw [Report.warnings_bind_of_ok (Report.outcome_log _ _),
    Report.warnings_bind_of_ok (Report.outcome_log _ _)]
  cases statement with
  | use keyspace => rfl
  | createKeyspace creation =>
    simp only [mapKeyspace, hmatches.keyspaceId?_eq]
    split
    · split <;> rfl
    · rw [Report.warnings_bind_of_silent _ fun _ ↦ warnings_addKeyspace _ _,
        Report.warnings_bind_of_silent _ fun _ ↦ warnings_addKeyspace _ _]
  | createTable creation => rw [(SameFooting.of_matches hmatches creation).warnings_eq]

end Mapping

/-! ### Runs -/

namespace Session

open Mapping Registry

theorem outcome_handle_eq_ok_iff {session : Session} {statement : Statement} {next : Registry} :
    (session.handle statement).2.outcome = .ok next ↔
      Transition session.strictness session.registry statement next :=
  outcome_mapStatement_eq_ok_iff statement

/-- Assumes: sessions with matching registries, and a run that succeeds in the first. It succeeds in
the second, gives the same warnings and adds the same resources. -/
theorem run_of_matches {session other : Session}
    (hstrictness : other.strictness = session.strictness)
    (hmatches : session.registry.Matches other.registry) {statements : List Statement}
    (hok : (session.run statements).2.outcome = .ok ()) :
    (other.run statements).2.outcome = .ok () ∧
      (other.run statements).2.warnings = (session.run statements).2.warnings ∧
      ∃ added, (session.run statements).1.registry.resources =
          session.registry.resources ++ added ∧
        (other.run statements).1.registry.resources = other.registry.resources ++ added := by
  induction statements generalizing session other with
  | nil => exact ⟨rfl, rfl, [], (List.append_nil _).symm, (List.append_nil _).symm⟩
  | cons statement rest ih =>
    rw [run_cons_report, Report.outcome_bind_eq_ok_iff] at hok
    obtain ⟨next, hstatement, hrest⟩ := hok
    obtain ⟨otherNext, htransition, hmatchesNext, added, hadded, haddedToo⟩ :=
      (outcome_handle_eq_ok_iff.1 hstatement).of_matches hmatches
    have hstatementToo : (other.handle statement).2.outcome = .ok otherNext :=
      outcome_handle_eq_ok_iff.2 (hstrictness.symm ▸ htransition)
    have hwarnings : (other.handle statement).2.warnings =
        (session.handle statement).2.warnings := by
      simp only [handle, report, hstrictness]
      exact warnings_mapStatement_of_matches hmatches session.strictness statement
    obtain rfl : (session.handle statement).1.registry = next :=
      session.registry_after_of_ok hstatement
    obtain rfl : (other.handle statement).1.registry = otherNext :=
      other.registry_after_of_ok hstatementToo
    have hsame : (other.handle statement).1.strictness = (session.handle statement).1.strictness :=
      hstrictness
    obtain ⟨hrestToo, hlater, more, hmore, hmoreToo⟩ := ih hsame hmatchesNext hrest
    rw [run_cons_report, run_cons_report, run_cons_of_ok hstatement, run_cons_of_ok hstatementToo,
      Report.outcome_bind_of_ok hstatementToo, Report.warnings_bind_of_ok hstatementToo,
      Report.warnings_bind_of_ok hstatement, hwarnings, hlater]
    refine ⟨hrestToo, rfl, added ++ more, ?_, ?_⟩
    · rw [hmore, hadded, List.append_assoc]
    · rw [hmoreToo, haddedToo, List.append_assoc]

/-- Whether a statement adds a resource to the template of a session. -/
def Creates (session : Session) (statement : Statement) : Prop :=
  (session.handle statement).1.registry.resources ≠ session.registry.resources

/-- Whether a statement does behind another one what it does in front of it. -/
structure Undisturbed (session : Session) (other statement : Statement) : Prop where
  same_creation : (session.handle other).1.Creates statement ↔ session.Creates statement
  same_warnings : ((session.handle other).1.handle statement).2.warnings =
    (session.handle statement).2.warnings

/-- Whether two sessions, come from one by handling two statements in either order and others behind
them, differ in the order of what the two have left and in nothing else. -/
structure Exchanged (between : Session) (first second : Statement) (inOrder swapped : Session) :
    Prop where
  same_ids : swapped.registry.template.logicalIds = inOrder.registry.template.logicalIds
  resources_exchanged : between.Creates first → (between.handle first).1.Creates second →
    ∃ firstId secondId firstTable secondTable later,
      (between.handle first).1.registry.resources =
        between.registry.resources ++ [(firstId, firstTable)] ∧
      (between.handle second).1.registry.resources =
        between.registry.resources ++ [(firstId, secondTable)] ∧
      inOrder.registry.resources = between.registry.resources ++
        (firstId, firstTable) :: (secondId, secondTable) :: later ∧
      swapped.registry.resources = between.registry.resources ++
        (firstId, secondTable) :: (secondId, firstTable) :: later
  resources_same : ¬ (between.Creates first ∧ (between.handle first).1.Creates second) →
    swapped.registry.resources = inOrder.registry.resources
  warnings_exchanged : ∃ later,
    inOrder.warnings = between.warnings ++ ((between.handle first).2.warnings ++
      ((between.handle first).1.handle second).2.warnings) ++ later ∧
    swapped.warnings = between.warnings ++ (((between.handle first).1.handle second).2.warnings ++
      (between.handle first).2.warnings) ++ later

/-! ### Two creations -/

variable {session : Session} {first second : TableCreation} {made madeFirst madeSecond : Made}

theorem resources_withMade (registry : Registry) (made : Made) :
    (registry.withMade made).resources = registry.resources ++
      made.toList.map fun entry ↦ (registry.nextTableId, .table entry.2) := by
  cases made with
  | none => exact (List.append_nil _).symm
  | some => rfl

/-- Two tables get the next two ids, in their order. -/
theorem resources_withMade_twice (registry : Registry)
    (first second : (Identifier × Identifier) × TableResource) :
    ((registry.withMade (some first)).withMade (some second)).resources = registry.resources ++
      [(registry.nextTableId, .table first.2),
        (tableIdOf (registry.tables.length + 2), .table second.2)] := by
  have hnext : (registry.withMade (some first)).nextTableId =
      tableIdOf (registry.tables.length + 2) := by
    simp [nextTableId, tableIdOf, withMade, Registry.withTable]
  rw [resources_withMade, hnext, resources_withMade, List.append_assoc]
  rfl

/-- Assumes: something that a creation makes. The creation succeeds and adds it. -/
theorem handle_of_makes (hnumbered : session.registry.Numbered)
    (hmakes : Makes session.strictness session.registry first made) :
    (session.handle (.createTable first)).2.outcome = .ok (session.registry.withMade made) ∧
      (session.handle (.createTable first)).1.registry = session.registry.withMade made := by
  have hok : (session.handle (.createTable first)).2.outcome =
      .ok (session.registry.withMade made) :=
    outcome_handle_eq_ok_iff.2 ((transition_createTable_iff hnumbered).2 ⟨made, hmakes, rfl⟩)
  exact ⟨hok, session.registry_after_of_ok hok⟩

theorem creates_iff_of_makes (hnumbered : session.registry.Numbered)
    (hmakes : Makes session.strictness session.registry first made) :
    session.Creates (.createTable first) ↔ made.isSome = true := by
  rw [Creates, (handle_of_makes hnumbered hmakes).2, resources_withMade]
  cases made <;> simp

/-- Whether two creations of tables mean different tables in a registry. -/
def Different (registry : Registry) (first second : TableCreation) : Prop :=
  (effectiveKeyspace? registry first, first.table) ≠
    (effectiveKeyspace? registry second, second.table)

/-- Assumes: what the first of two different creations makes. The second has the same footing with
it and without it. -/
theorem Different.sameFooting {registry : Registry} {strictness : Strictness}
    (hdifferent : Different registry first second) (hmakes : Makes strictness registry first made) :
    SameFooting second registry (registry.withMade made) := by
  refine .of_withMade fun key resource hmade hsame ↦ hdifferent ?_
  subst hmade
  exact hmakes.key_eq.trans hsame.symm

/-- Assumes: what two different creations make. The second makes it behind the first, with the
warnings that it gives in front of it. -/
theorem handle_behind (hnumbered : session.registry.Numbered)
    (hdifferent : Different session.registry first second)
    (hfirst : Makes session.strictness session.registry first madeFirst)
    (hsecond : Makes session.strictness session.registry second madeSecond) :
    let next := (session.handle (.createTable first)).1
    next.registry = session.registry.withMade madeFirst ∧ next.registry.Numbered ∧
      Makes next.strictness next.registry second madeSecond ∧
      (next.handle (.createTable second)).2.warnings =
        (session.handle (.createTable second)).2.warnings := by
  intro next
  have hregistry : next.registry = session.registry.withMade madeFirst :=
    (handle_of_makes hnumbered hfirst).2
  have hfooting : SameFooting second session.registry next.registry :=
    hregistry ▸ hdifferent.sameFooting hfirst
  refine ⟨hregistry, hnumbered.handle _, hfooting.makes hsecond, ?_⟩
  change (mapStatement session.strictness next.registry (.createTable second)).warnings =
    (mapStatement session.strictness session.registry (.createTable second)).warnings
  unfold mapStatement
  rw [Report.warnings_bind_of_ok (Report.outcome_log _ _),
    Report.warnings_bind_of_ok (Report.outcome_log _ _), hfooting.warnings_eq]

theorem undisturbed (hnumbered : session.registry.Numbered)
    (hdifferent : Different session.registry first second)
    (hfirst : Makes session.strictness session.registry first madeFirst)
    (hsecond : Makes session.strictness session.registry second madeSecond) :
    Undisturbed session (.createTable first) (.createTable second) := by
  obtain ⟨-, hnumberedNext, hbehind, hwarnings⟩ :=
    handle_behind hnumbered hdifferent hfirst hsecond
  refine ⟨?_, hwarnings⟩
  rw [creates_iff_of_makes hnumberedNext hbehind, creates_iff_of_makes hnumbered hsecond]

/-- Assumes: a run that begins with two different creations and succeeds. Both make what they make
alone. -/
theorem makes_of_run_pair (hnumbered : session.registry.Numbered)
    (hdifferent : Different session.registry first second) {back : List Statement}
    (hok : (session.run (.createTable first :: .createTable second :: back)).2.outcome =
      .ok ()) :
    ∃ madeFirst madeSecond, Makes session.strictness session.registry first madeFirst ∧
      Makes session.strictness session.registry second madeSecond := by
  rw [run_cons_report, Report.outcome_bind_eq_ok_iff] at hok
  obtain ⟨next, hfirst, hok⟩ := hok
  rw [run_cons_report, Report.outcome_bind_eq_ok_iff] at hok
  obtain ⟨last, hsecond, -⟩ := hok
  obtain ⟨madeFirst, hmakesFirst, -⟩ :=
    (transition_createTable_iff hnumbered).1 (outcome_handle_eq_ok_iff.1 hfirst)
  obtain ⟨madeSecond, hmakesSecond, -⟩ :=
    (transition_createTable_iff (hnumbered.handle _)).1 (outcome_handle_eq_ok_iff.1 hsecond)
  refine ⟨madeFirst, madeSecond, hmakesFirst, ?_⟩
  rw [(handle_of_makes hnumbered hmakesFirst).2] at hmakesSecond
  exact (hdifferent.sameFooting hmakesFirst).symm.makes hmakesSecond

/-- Assumes: what two different creations make. A run over both and others is a run over the others
behind what both have made. -/
theorem run_pair (hnumbered : session.registry.Numbered)
    (hdifferent : Different session.registry first second)
    (hfirst : Makes session.strictness session.registry first madeFirst)
    (hsecond : Makes session.strictness session.registry second madeSecond)
    (back : List Statement) :
    let run := session.run (.createTable first :: .createTable second :: back)
    ∃ behind : Session, behind.strictness = session.strictness ∧
      behind.registry = (session.registry.withMade madeFirst).withMade madeSecond ∧
      run.1 = (behind.run back).1 ∧ run.2.outcome = (behind.run back).2.outcome ∧
      run.2.warnings = (session.handle (.createTable first)).2.warnings ++
        ((session.handle (.createTable second)).2.warnings ++ (behind.run back).2.warnings) := by
  intro run
  obtain ⟨hregistry, hnumberedNext, hbehind, hwarnings⟩ :=
    handle_behind hnumbered hdifferent hfirst hsecond
  have hokFirst := (handle_of_makes hnumbered hfirst).1
  obtain ⟨hokSecond, hlast⟩ := handle_of_makes hnumberedNext hbehind
  refine ⟨((session.handle (.createTable first)).1.handle (.createTable second)).1, rfl, ?_, ?_, ?_,
    ?_⟩
  · rw [hlast, hregistry]
  · exact (run_cons_of_ok hokFirst _).trans (run_cons_of_ok hokSecond _)
  · change (session.run _).2.outcome = _
    rw [run_cons_report, Report.outcome_bind_of_ok hokFirst, run_cons_report,
      Report.outcome_bind_of_ok hokSecond]
  · change (session.run _).2.warnings = _
    rw [run_cons_report, Report.warnings_bind_of_ok hokFirst, run_cons_report,
      Report.warnings_bind_of_ok hokSecond, hwarnings]

/-- Assumes: a run that begins with two different creations and succeeds. It succeeds with the two
exchanged, and the sessions behind it differ in their order only. -/
theorem exchanged_of_run (hnumbered : session.registry.Numbered)
    (hdifferent : Different session.registry first second) {back : List Statement}
    (hok : (session.run (.createTable first :: .createTable second :: back)).2.outcome =
      .ok ()) :
    (session.run (.createTable second :: .createTable first :: back)).2.outcome = .ok () ∧
      Undisturbed session (.createTable first) (.createTable second) ∧
      Undisturbed session (.createTable second) (.createTable first) ∧
      Exchanged session (.createTable first) (.createTable second)
        (session.run (.createTable first :: .createTable second :: back)).1
        (session.run (.createTable second :: .createTable first :: back)).1 := by
  obtain ⟨madeFirst, madeSecond, hfirst, hsecond⟩ := makes_of_run_pair hnumbered hdifferent hok
  obtain ⟨behind, hstrictness, hbehind, hstate, houtcome, hwarnings⟩ :=
    run_pair hnumbered hdifferent hfirst hsecond back
  obtain ⟨behindToo, hstrictnessToo, hbehindToo, hstateToo, houtcomeToo, hwarningsToo⟩ :=
    run_pair hnumbered hdifferent.symm hsecond hfirst back
  have hmatches : behind.registry.Matches behindToo.registry := by
    rw [hbehind, hbehindToo]
    exact .withMade_comm _ _ _
  obtain ⟨hokToo, hlater, added, hadded, haddedToo⟩ :=
    run_of_matches (hstrictnessToo.trans hstrictness.symm) hmatches (houtcome.symm.trans hok)
  have hundisturbed := undisturbed hnumbered hdifferent hfirst hsecond
  refine ⟨houtcomeToo.trans hokToo, hundisturbed,
    undisturbed hnumbered hdifferent.symm hsecond hfirst, ?_⟩
  exact
    { same_ids := by
        change (Session.registry _).resources.map Prod.fst =
          (Session.registry _).resources.map Prod.fst
        rw [hstate, hstateToo, hadded, haddedToo, List.map_append, List.map_append]
        exact congrArg (· ++ _) hmatches.same_ids
      resources_exchanged := by
        intro hcreates hcreatesBehind
        rw [creates_iff_of_makes hnumbered hfirst] at hcreates
        rw [hundisturbed.same_creation, creates_iff_of_makes hnumbered hsecond] at hcreatesBehind
        obtain ⟨tableFirst, rfl⟩ := Option.isSome_iff_exists.1 hcreates
        obtain ⟨tableSecond, rfl⟩ := Option.isSome_iff_exists.1 hcreatesBehind
        refine ⟨session.registry.nextTableId, tableIdOf (session.registry.tables.length + 2),
          .table tableFirst.2, .table tableSecond.2, added, ?_, ?_, ?_, ?_⟩
        · rw [(handle_of_makes hnumbered hfirst).2, resources_withMade]
          rfl
        · rw [(handle_of_makes hnumbered hsecond).2, resources_withMade]
          rfl
        · rw [hstate, hadded, hbehind, resources_withMade_twice, List.append_assoc]
          rfl
        · rw [hstateToo, haddedToo, hbehindToo, resources_withMade_twice, List.append_assoc]
          rfl
      resources_same := by
        rw [hundisturbed.same_creation, creates_iff_of_makes hnumbered hfirst,
          creates_iff_of_makes hnumbered hsecond]
        intro hone
        rw [hstate, hstateToo, hadded, haddedToo, hbehind, hbehindToo]
        cases madeFirst with
        | none => rfl
        | some =>
          cases madeSecond with
          | none => rfl
          | some => exact absurd ⟨rfl, rfl⟩ hone
      warnings_exchanged := by
        refine ⟨(behind.run back).2.warnings, ?_, ?_⟩
        · rw [warnings_run, hwarnings, hundisturbed.same_warnings]
          simp only [List.append_assoc]
        · rw [warnings_run, hwarningsToo, hundisturbed.same_warnings, hlater]
          simp only [List.append_assoc] }

/-- The ids are numbered behind a run. -/
theorem numbered_run (hnumbered : session.registry.Numbered) (statements : List Statement) :
    (session.run statements).1.registry.Numbered := by
  induction statements generalizing session with
  | nil => exact hnumbered
  | cons statement rest ih =>
    cases houtcome : (session.handle statement).2.outcome with
    | ok registry =>
      rw [run_cons_of_ok houtcome]
      exact ih (hnumbered.handle statement)
    | error failure =>
      rw [run_cons_of_error houtcome]
      exact hnumbered.handle statement

/-- Independent tables commute. Take a run over any statements with two creations of tables next to
each other that mean different tables, each in the keyspace that it names or else in the one
selected last before it. However strict the run is, it succeeds exactly if it does with the two
creations exchanged. Then each of them creates a table or not and gives its warnings as it does
without the other. The templates have the same ids in the same places. If both create a table, the
resources under their two ids are exchanged, and otherwise all resources are the same. In the
warnings, those of the two creations are exchanged. -/
theorem independent_tables_commute (strictness : Strictness) (front back : List Statement)
    (first second : TableCreation)
    (hdifferent : (first.keyspace.or (lastUsed? front), first.table) ≠
      (second.keyspace.or (lastUsed? front), second.table)) :
    let between := ((new strictness).run front).1
    let inOrder := (new strictness).run
      (front ++ .createTable first :: .createTable second :: back)
    let swapped := (new strictness).run
      (front ++ .createTable second :: .createTable first :: back)
    (inOrder.2.outcome = .ok () ↔ swapped.2.outcome = .ok ()) ∧
      (inOrder.2.outcome = .ok () →
        Undisturbed between (.createTable first) (.createTable second) ∧
        Undisturbed between (.createTable second) (.createTable first) ∧
        Exchanged between (.createTable first) (.createTable second) inOrder.1 swapped.1) := by
  intro between inOrder swapped
  have hnumbered : between.registry.Numbered := numbered_run .empty front
  have hsplit : ∀ {statements},
      ((new strictness).run (front ++ statements)).2.outcome = .ok () →
        ((new strictness).run front).2.outcome = .ok () ∧
          (between.run statements).2.outcome = .ok () := by
    intro statements hok
    rw [run_append_report, Report.outcome_bind_eq_ok_iff] at hok
    obtain ⟨_, hfront, hrest⟩ := hok
    exact ⟨hfront, hrest⟩
  have hmeant : ((new strictness).run front).2.outcome = .ok () →
      Different between.registry first second := by
    intro hfront
    have hused : between.registry.usedKeyspace = lastUsed? front :=
      (usedKeyspace_run hfront).trans Option.or_none
    rw [Different, effectiveKeyspace?, effectiveKeyspace?, hused]
    exact hdifferent
  have hswap : ∀ {first second : TableCreation},
      ((new strictness).run front).2.outcome = .ok () → Different between.registry first second →
      ((new strictness).run
        (front ++ .createTable first :: .createTable second :: back)).2.outcome = .ok () →
      ((new strictness).run
        (front ++ .createTable second :: .createTable first :: back)).2.outcome = .ok () := by
    intro first second hfront hdifferent hok
    rw [run_append_report, Report.outcome_bind_of_ok hfront]
    exact (exchanged_of_run hnumbered hdifferent (hsplit hok).2).1
  refine ⟨⟨fun hok ↦ ?_, fun hok ↦ ?_⟩, fun hok ↦ ?_⟩
  · exact hswap (hsplit hok).1 (hmeant (hsplit hok).1) hok
  · exact hswap (hsplit hok).1 (hmeant (hsplit hok).1).symm hok
  · obtain ⟨hfront, hrest⟩ := hsplit hok
    obtain ⟨-, hfirst, hsecond, hexchanged⟩ := exchanged_of_run hnumbered (hmeant hfront) hrest
    refine ⟨hfirst, hsecond, ?_⟩
    change Exchanged between _ _ ((new strictness).run _).1 ((new strictness).run _).1
    rw [run_append_of_ok hfront, run_append_of_ok hfront]
    exact hexchanged

/-- A table in a keyspace that it names. -/
def namedTable : TableCreation := oneColumnTable (some ⟨"other"⟩) "first"

/-- A table in the keyspace in use. -/
def usingTable : TableCreation := oneColumnTable none "second"

/-- Two tables in keyspaces that are not created, in either order, and the warnings about them. -/
theorem independent_tables_commute_namedTable :
    let front := [.use ⟨"shop"⟩]
    let between := ((new .lenient).run front).1
    let swapped := (new .lenient).run
      (front ++ .createTable usingTable :: .createTable namedTable :: [])
    (namedTable.keyspace.or (lastUsed? front), namedTable.table) ≠
        (usingTable.keyspace.or (lastUsed? front), usingTable.table) ∧
      swapped.2.outcome = .ok () ∧
      Undisturbed between (.createTable namedTable) (.createTable usingTable) ∧
      swapped.1.registry.resources =
        [("Table1", .table (oneColumnResource (.literal "shop") "second")),
          ("Table2", .table (oneColumnResource (.literal "other") "first"))] ∧
      swapped.1.warnings =
        ["Attempted to create table in keyspace 'shop' before creating it first",
          "Attempted to create table in keyspace 'other' before creating it first"] := by
  have hdifferent : (namedTable.keyspace.or (lastUsed? [.use ⟨"shop"⟩]), namedTable.table) ≠
      (usingTable.keyspace.or (lastUsed? [.use ⟨"shop"⟩]), usingTable.table) := by decide
  obtain ⟨hcommute, hexchanged⟩ :=
    independent_tables_commute .lenient [.use ⟨"shop"⟩] [] namedTable usingTable hdifferent
  exact ⟨hdifferent, hcommute.1 rfl, (hexchanged rfl).1, by rfl, by rfl⟩

end Session

end SchemaTemplate
