import SchemaTemplate.Proofs.NameResolution

/-!
Scripts that can be run again. A statement with `IF NOT EXISTS` leaves alone what exists, and behind
a run that succeeds everything exists that its statements create: each of them leaves it registered,
and what is registered stays so (`Registry.KeptBy`). The keyspace in use differs when the statements
come up again, as the last run has selected it. That makes no difference: a table in front of all
selections has named its keyspace, or else the first run would have failed.
-/

set_option autoImplicit false
set_option relaxedAutoImplicit false

namespace SchemaTemplate

open Session (usedBy? lastUsed?)

/-- Whether a statement leaves alone what exists already. -/
def Statement.SkipsExisting : Statement → Prop
  | use _ => True
  | createKeyspace creation => creation.ifNotExists = true
  | createTable creation => creation.ifNotExists = true

namespace Registry

/-! ### What is registered -/

/-- Whether what a statement creates is registered, if the given keyspace is in use. -/
def Knows (registry : Registry) (used : Option Identifier) : Statement → Prop
  | .use _ => True
  | .createKeyspace creation => (registry.keyspaceId? creation.keyspace).isSome = true
  | .createTable creation => ∃ keyspace, creation.keyspace.or used = some keyspace ∧
      (registry.tableId? keyspace creation.table).isSome = true

/-- Whether all that some statements create is registered, if at first the given keyspace is in
use. -/
def KnowsAll (registry : Registry) : (used : Option Identifier) → List Statement → Prop
  | _, [] => True
  | used, statement :: rest =>
    registry.Knows used statement ∧ registry.KnowsAll ((usedBy? statement).or used) rest

/-- Whether all that is registered in the first registry is so in the second. -/
structure KeptBy (earlier later : Registry) : Prop where
  keyspace_kept : ∀ keyspace, (earlier.keyspaceId? keyspace).isSome = true →
    (later.keyspaceId? keyspace).isSome = true
  table_kept : ∀ keyspace table, (earlier.tableId? keyspace table).isSome = true →
    (later.tableId? keyspace table).isSome = true

variable {registry earlier later : Registry}

theorem KeptBy.refl (registry : Registry) : registry.KeptBy registry :=
  ⟨fun _ hknown ↦ hknown, fun _ _ hknown ↦ hknown⟩

theorem KeptBy.trans {last : Registry} (hfirst : earlier.KeptBy later) (hlast : later.KeptBy last) :
    earlier.KeptBy last where
  keyspace_kept keyspace hknown :=
    hlast.keyspace_kept keyspace (hfirst.keyspace_kept keyspace hknown)
  table_kept keyspace table hknown :=
    hlast.table_kept keyspace table (hfirst.table_kept keyspace table hknown)

theorem keptBy_withKeyspace (registry : Registry) (keyspace : Identifier) :
    registry.KeptBy (registry.withKeyspace keyspace) where
  keyspace_kept other hknown := by
    rw [keyspaceId?_withKeyspace, Option.isSome_or, hknown, Bool.true_or]
  table_kept _ _ hknown := hknown

theorem keptBy_withTable (registry : Registry) (keyspace table : Identifier)
    (resource : TableResource) : registry.KeptBy (registry.withTable keyspace table resource) where
  keyspace_kept _ hknown := hknown
  table_kept otherKeyspace other hknown := by
    rw [tableId?_withTable, Option.isSome_or, hknown, Bool.true_or]

theorem Knows.mono {used : Option Identifier} {statement : Statement} (hkept : earlier.KeptBy later)
    (hknows : earlier.Knows used statement) : later.Knows used statement := by
  cases statement with
  | use => trivial
  | createKeyspace creation => exact hkept.keyspace_kept _ hknows
  | createTable creation =>
    obtain ⟨keyspace, heffective, hknown⟩ := hknows
    exact ⟨keyspace, heffective, hkept.table_kept _ _ hknown⟩

theorem KnowsAll.mono {used : Option Identifier} {statements : List Statement}
    (hkept : earlier.KeptBy later) (hknows : earlier.KnowsAll used statements) :
    later.KnowsAll used statements := by
  induction statements generalizing used with
  | nil => trivial
  | cons statement rest ih => exact ⟨hknows.1.mono hkept, ih hknows.2⟩

/-- Selecting a keyspace changes nothing about what is registered. -/
theorem keptBy_selecting (registry : Registry) (used : Option Identifier) :
    registry.KeptBy { registry with usedKeyspace := used } :=
  ⟨fun _ hknown ↦ hknown, fun _ _ hknown ↦ hknown⟩

/-- Assumes: statements whose creations are registered although at first no keyspace is in use.
They are so whichever is. -/
theorem KnowsAll.of_none {statements : List Statement} (hknows : registry.KnowsAll none statements)
    (used : Option Identifier) : registry.KnowsAll used statements := by
  induction statements with
  | nil => trivial
  | cons statement rest ih =>
    obtain ⟨hfirst, hrest⟩ := hknows
    cases statement with
    | use keyspace => exact ⟨trivial, hrest⟩
    | createKeyspace creation => exact ⟨hfirst, ih hrest⟩
    | createTable creation =>
      obtain ⟨keyspace, heffective, hknown⟩ := hfirst
      rw [Option.or_none] at heffective
      exact ⟨⟨keyspace, by rw [heffective, Option.some_or], hknown⟩, ih hrest⟩

end Registry

/-! ### Statements that succeed -/

namespace Mapping

open Report

variable {strictness : Strictness} {registry next : Registry} {statement : Statement}

theorem Transition.keptBy (htransition : Transition strictness registry statement next) :
    registry.KeptBy next := by
  cases htransition with
  | keyspaceUsed keyspace => exact registry.keptBy_selecting keyspace
  | keyspaceSkipped | tableSkipped => exact .refl _
  | keyspaceCreated creation => exact registry.keptBy_withKeyspace creation.keyspace
  | tableCreated creation keyspace resource =>
    exact registry.keptBy_withTable keyspace creation.table resource

/-- Behind a statement that succeeds, what it creates is registered. -/
theorem Transition.knows (htransition : Transition strictness registry statement next) :
    next.Knows registry.usedKeyspace statement := by
  cases htransition with
  | keyspaceUsed => trivial
  | keyspaceSkipped creation hknown => exact hknown
  | tableSkipped creation keyspace heffective hknown => exact ⟨keyspace, heffective, hknown⟩
  | keyspaceCreated creation =>
    change ((registry.withKeyspace creation.keyspace).keyspaceId? creation.keyspace).isSome = true
    rw [Registry.keyspaceId?_withKeyspace, if_pos rfl, Option.isSome_or, Option.isSome_some,
      Bool.or_true]
  | tableCreated creation keyspace resource heffective =>
    refine ⟨keyspace, heffective, ?_⟩
    rw [Registry.tableId?_withTable, if_pos rfl, Option.isSome_or, Option.isSome_some, Bool.or_true]

/-- Assumes: a statement that leaves alone what exists, and what it creates exists. It does nothing
but select a keyspace, if it is a selection, and gives no warning. -/
theorem mapStatement_of_knows (strictness : Strictness) (hskips : statement.SkipsExisting)
    (hknows : registry.Knows registry.usedKeyspace statement) :
    (mapStatement strictness registry statement).outcome =
        .ok { registry with usedKeyspace := (usedBy? statement).or registry.usedKeyspace } ∧
      (mapStatement strictness registry statement).warnings = [] := by
  unfold mapStatement
  rw [outcome_bind_of_ok (outcome_log _ _), warnings_bind_of_ok (outcome_log _ _), warnings_log,
    List.nil_append]
  cases statement with
  | use keyspace => exact ⟨rfl, rfl⟩
  | createKeyspace creation =>
    have hexists : (registry.keyspaceId? creation.keyspace).isSome = true := hknows
    have hskip : creation.ifNotExists = true := hskips
    simp only [mapKeyspace, if_pos hexists, if_pos hskip]
    exact ⟨rfl, rfl⟩
  | createTable creation =>
    obtain ⟨keyspace, heffective, hexists⟩ := hknows
    have hskip : creation.ifNotExists = true := hskips
    simp only [mapTable, effectiveKeyspace?, heffective, mapTableIn, if_pos hexists, if_pos hskip]
    exact ⟨rfl, rfl⟩

end Mapping

/-! ### Runs -/

namespace Session

variable {session : Session} {statements : List Statement}

/-- The report on a run goes on behind its first statements. -/
theorem run_append_report (session : Session) (front back : List Statement) :
    (session.run (front ++ back)).2 =
      (session.run front).2 >>= fun _ ↦ ((session.run front).1.run back).2 := by
  induction front generalizing session with
  | nil => exact (pure_bind _ _).symm
  | cons statement rest ih =>
    rw [List.cons_append, run_cons_report, run_cons_report, bind_assoc]
    cases houtcome : (session.handle statement).2.outcome with
    | ok registry => rw [run_cons_of_ok houtcome, ih]
    | error failure =>
      -- Nothing behind the failure is looked at, whatever it is.
      change (session.handle statement).2.andThen _ = (session.handle statement).2.andThen _
      simp only [Report.andThen, houtcome]

/-- Assumes: a run that succeeds. More statements are handled behind it. -/
theorem run_append_of_ok {front : List Statement} (hok : (session.run front).2.outcome = .ok ())
    (back : List Statement) :
    (session.run (front ++ back)).1 = ((session.run front).1.run back).1 := by
  induction front generalizing session with
  | nil => rfl
  | cons statement rest ih =>
    rw [run_cons_report, Report.outcome_bind_eq_ok_iff] at hok
    obtain ⟨registry, hstatement, hrest⟩ := hok
    rw [List.cons_append, run_cons_of_ok hstatement, run_cons_of_ok hstatement, ih hrest]

/-- The session with a keyspace in use. -/
def selecting (session : Session) (used : Option Identifier) : Session :=
  { session with registry := { session.registry with usedKeyspace := used } }

/-- Assumes: a run that succeeds. All that was registered stays so, and all that its statements
create is registered. -/
theorem knowsAll_run (hok : (session.run statements).2.outcome = .ok ()) :
    session.registry.KeptBy (session.run statements).1.registry ∧
      (session.run statements).1.registry.KnowsAll session.registry.usedKeyspace statements := by
  induction statements generalizing session with
  | nil => exact ⟨.refl _, trivial⟩
  | cons statement rest ih =>
    rw [run_cons_report, Report.outcome_bind_eq_ok_iff] at hok
    obtain ⟨registry, hstatement, hrest⟩ := hok
    rw [run_cons_of_ok hstatement]
    obtain ⟨hkept, hknows⟩ := ih hrest
    rw [session.usedKeyspace_handle statement] at hknows
    rcases session.registry_handle statement with ⟨next, -, hnext, htransition⟩ | ⟨_, hfailed, -⟩
    · rw [hnext] at hkept
      exact ⟨htransition.keptBy.trans hkept, htransition.knows.mono hkept, hknows⟩
    · rw [hstatement] at hfailed
      cases hfailed

theorem handle_of_knows {statement : Statement} (hskips : statement.SkipsExisting)
    (hknows : session.registry.Knows session.registry.usedKeyspace statement) :
    (session.handle statement).1 =
        session.selecting ((usedBy? statement).or session.registry.usedKeyspace) ∧
      (∃ registry, (session.handle statement).2.outcome = .ok registry) ∧
      (session.handle statement).2.warnings = [] := by
  obtain ⟨hok, hsilent⟩ := Mapping.mapStatement_of_knows session.strictness hskips hknows
  refine ⟨?_, ⟨_, hok⟩, hsilent⟩
  change session.after (session.report statement) = _
  rw [report, after, hok, hsilent, List.append_nil]
  rfl

/-- Assumes: statements that leave alone what exists, and all that they create exists. A run over
them succeeds without a warning and does nothing but select the last of their keyspaces. -/
theorem run_of_knowsAll (hskips : ∀ statement ∈ statements, statement.SkipsExisting)
    (hknows : session.registry.KnowsAll session.registry.usedKeyspace statements) :
    (session.run statements).1 =
        session.selecting ((lastUsed? statements).or session.registry.usedKeyspace) ∧
      (session.run statements).2.outcome = .ok () ∧ (session.run statements).2.warnings = [] := by
  induction statements generalizing session with
  | nil => exact ⟨rfl, rfl, rfl⟩
  | cons statement rest ih =>
    obtain ⟨hskipsFirst, hskipsRest⟩ := List.forall_mem_cons.1 hskips
    obtain ⟨hnext, ⟨registry, hok⟩, hsilent⟩ := handle_of_knows hskipsFirst hknows.1
    let next := session.selecting ((usedBy? statement).or session.registry.usedKeyspace)
    have hknowsRest : next.registry.KnowsAll next.registry.usedKeyspace rest :=
      hknows.2.mono (session.registry.keptBy_selecting _)
    have hlater := ih hskipsRest hknowsRest
    rw [run_cons_report, run_cons_of_ok hok, Report.outcome_bind_of_ok hok,
      Report.warnings_bind_of_ok hok, hsilent, List.nil_append, hnext, lastUsed?_cons,
      Option.or_assoc]
    exact hlater

/-- Assumes: a run that succeeds. The keyspace in use is the last one selected, or that before. -/
theorem usedKeyspace_run (hok : (session.run statements).2.outcome = .ok ()) :
    (session.run statements).1.registry.usedKeyspace =
      (lastUsed? statements).or session.registry.usedKeyspace := by
  induction statements generalizing session with
  | nil => rfl
  | cons statement rest ih =>
    rw [run_cons_report, Report.outcome_bind_eq_ok_iff] at hok
    obtain ⟨registry, hstatement, hrest⟩ := hok
    rw [run_cons_of_ok hstatement, ih hrest, usedKeyspace_handle, lastUsed?_cons, Option.or_assoc]

/-- Assumes: statements that leave alone what exists, and a first run over them that succeeds. One
more run over them succeeds without a warning and leaves the session as it is. -/
theorem run_again {strictness : Strictness}
    (hskips : ∀ statement ∈ statements, statement.SkipsExisting)
    (hok : ((new strictness).run statements).2.outcome = .ok ()) :
    let once := ((new strictness).run statements).1
    (once.run statements).1 = once ∧ (once.run statements).2.outcome = .ok () ∧
      (once.run statements).2.warnings = [] := by
  intro once
  have hused : once.registry.usedKeyspace = lastUsed? statements :=
    (usedKeyspace_run hok).trans Option.or_none
  have hknows : once.registry.KnowsAll none statements := (knowsAll_run hok).2
  obtain ⟨hlast, hagain⟩ := run_of_knowsAll hskips (hknows.of_none once.registry.usedKeyspace)
  refine ⟨?_, hagain⟩
  rw [hlast, ← hused, Option.or_self]
  rfl

/-- Assumes: a run over statements that succeeds without a warning and leaves the session as it is.
So do any number of them. -/
theorem run_replicate (hsame : (session.run statements).1 = session)
    (hok : (session.run statements).2.outcome = .ok ())
    (hsilent : (session.run statements).2.warnings = []) (count : Nat) :
    let repeated := (List.replicate count statements).flatten
    (session.run repeated).1 = session ∧ (session.run repeated).2.outcome = .ok () ∧
      (session.run repeated).2.warnings = [] := by
  induction count with
  | zero => exact ⟨rfl, rfl, rfl⟩
  | succ count ih =>
    obtain ⟨hsameRest, hokRest, hsilentRest⟩ := ih
    dsimp only
    rw [List.replicate_succ, List.flatten_cons, run_append_of_ok hok, run_append_report,
      Report.outcome_bind_of_ok hok, Report.warnings_bind_of_ok hok, hsame, hsilent,
      List.nil_append]
    exact ⟨hsameRest, hokRest, hsilentRest⟩

/-- Repeating a script changes nothing. Take statements that leave alone what exists, with any
selections of keyspaces among them, and let a run over them succeed in a new session, however strict
it is. Then the run over them and, behind them, any number of repetitions succeeds as well. It
leaves the session in the same state, with the same template, keyspace in use and warnings, and the
conversion yields the rendered template and the warnings of the first run. -/
theorem repetition_changes_nothing (strictness : Strictness) (statements : List Statement)
    (hskips : ∀ statement ∈ statements, statement.SkipsExisting)
    (hok : ((new strictness).run statements).2.outcome = .ok ()) (count : Nat) :
    let once := (new strictness).run statements
    let script := statements ++ (List.replicate count statements).flatten
    let repeated := (new strictness).run script
    repeated.2.outcome = .ok () ∧ repeated.2.warnings = once.2.warnings ∧ repeated.1 = once.1 ∧
      (convertStatements strictness script).outcome =
        .ok ⟨once.1.registry.template.render, once.1.warnings⟩ := by
  intro once script repeated
  obtain ⟨hsame, hagain, hsilent⟩ := run_again hskips hok
  obtain ⟨hsameAll, hokAll, hsilentAll⟩ := run_replicate hsame hagain hsilent count
  have houtcome : repeated.2.outcome = .ok () := by
    rw [run_append_report, Report.outcome_bind_of_ok hok, hokAll]
  have hstate : repeated.1 = once.1 := (run_append_of_ok hok _).trans hsameAll
  refine ⟨houtcome, ?_, hstate, ?_⟩
  · rw [run_append_report, Report.warnings_bind_of_ok hok, hsilentAll, List.append_nil]
  · change (repeated.2 >>= fun _ ↦ pure (Conversion.mk repeated.1.registry.template.render
      repeated.1.warnings)).outcome = _
    rw [Report.outcome_bind_of_ok houtcome, hstate, Report.outcome_pure]

/-- Two tables and a keyspace that are created unless they exist. The first table names a keyspace
that is never created, the second is meant in the keyspace in use. -/
def repeatableStatements : List Statement :=
  [.createTable { oneColumnTable (some ⟨"other"⟩) "first" with ifNotExists := true },
    .createKeyspace { plainKeyspace "shop" with ifNotExists := true }, .use ⟨"shop"⟩,
    .createTable { oneColumnTable none "second" with ifNotExists := true }]

/-- Three runs leave what one run leaves, with the warning about the first table given once. -/
theorem repetition_changes_nothing_repeatableStatements :
    let once := (new .lenient).run repeatableStatements
    let repeated := (new .lenient).run
      (repeatableStatements ++ (List.replicate 2 repeatableStatements).flatten)
    once.2.outcome = .ok () ∧ repeated.2.outcome = .ok () ∧ repeated.1 = once.1 ∧
      once.1.registry.usedKeyspace = some ⟨"shop"⟩ ∧
      repeated.1.warnings =
        ["Attempted to create table in keyspace 'other' before creating it first"] := by
  intro once repeated
  have hok : once.2.outcome = .ok () := by rfl
  have hskips : ∀ statement ∈ repeatableStatements, statement.SkipsExisting := by
    simp [repeatableStatements, Statement.SkipsExisting]
  obtain ⟨hrepeated, -, hsame, -⟩ := repetition_changes_nothing .lenient _ hskips hok 2
  refine ⟨hok, hrepeated, hsame, rfl, ?_⟩
  rw [hsame]
  rfl

end Session

end SchemaTemplate
