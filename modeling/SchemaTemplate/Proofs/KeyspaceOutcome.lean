import SchemaTemplate.Proofs.ForeseenFailures
import SchemaTemplate.Proofs.OrderedMaps
import SchemaTemplate.Proofs.Repetition
import SchemaTemplate.Proofs.Strictness

/-!
What becomes of the creation of a keyspace where warnings are tolerated. Its settings are judged one
by one, and they are passed exactly if they say how the keyspace is replicated and nothing that
would be refused (`Settings.MappableKeyspace`). This can be said without speaking of any order, so
the order of the properties and of their options decides nothing but the order of the warnings.
-/

set_option autoImplicit false
set_option relaxedAutoImplicit false

namespace SchemaTemplate

/-! ### Settings of a keyspace -/

/-- Whether a value is a map of options that say how a keyspace is replicated: they name a class,
and if this is the one that has a counterpart, nothing else. -/
def PropertyValue.Replicates (value : PropertyValue) : Prop :=
  ∃ options replicationClass, value.options? = some options ∧
    ("class", replicationClass) ∈ options.toList ∧
    (replicationClass = Mapping.singleRegionStrategy → options.keys = ["class"])

namespace Settings

/-- Whether the keys of the regular properties are distinct, and those of their options. -/
structure Distinct (settings : Settings) : Prop where
  regular_distinct : settings.regular.Distinct
  options_distinct : ∀ property ∈ settings.regular.toList, property.2.Distinct

/-- Whether settings ask for nothing that the keyspace of a template cannot have. -/
structure MappableKeyspace (settings : Settings) : Prop where
  replicated : ∃ value, (⟨"replication"⟩, value) ∈ settings.regular.toList ∧ value.Replicates
  tags_absent : ∀ name ∈ settings.regular.keys, name.text ≠ "tags"
  custom_absent : settings.custom = none

end Settings

namespace Mapping

open Report

/-- What is warned of about the replication of a keyspace: a class that has no counterpart. -/
def replicationCautions (value : PropertyValue) : List Warning :=
  match value.options?.bind (·.get? "class") with
  | some replicationClass =>
    if replicationClass = singleRegionStrategy then []
    else [.inapplicableReplicationClass replicationClass]
  | none => []

/-- What is warned of when a keyspace is created, property by property. -/
def keyspaceCautions (settings : Settings) : List Warning :=
  settings.regular.toList.flatMap fun property ↦
    if property.1.text = "replication" then replicationCautions property.2
    else [.inapplicableProperty property.1]

/-- Where warnings are tolerated, the property `replication` is passed exactly if its value says how
a keyspace is replicated. -/
theorem outcome_mapReplication_eq_ok_iff {value : PropertyValue} (hdistinct : value.Distinct) :
    (mapReplication .lenient value).outcome = .ok () ↔ value.Replicates := by
  cases value with
  | text content =>
    refine iff_of_false nofun ?_
    rintro ⟨_, _, hoptions, -⟩
    cases hoptions
  | options options =>
    have hlisted : ∀ replicationClass, ("class", replicationClass) ∈ options.toList ↔
        options.get? "class" = some replicationClass :=
      fun _ ↦ (OrderedMap.get?_eq_some_iff hdistinct).symm
    simp only [mapReplication, PropertyValue.Replicates, PropertyValue.options?, hlisted,
      Option.some.injEq, exists_eq_left', exists_and_left]
    cases hclass : options.get? "class" with
    | none => simp
    | some replicationClass =>
      by_cases hsingle : replicationClass = singleRegionStrategy
      · have honly := OrderedMap.firstKey?_erase_eq_none_iff hclass
        cases hleft : (options.erase "class").firstKey? with
        | none => simp [hsingle, honly.1 hleft]
        | some option =>
          have hmore : options.keys ≠ ["class"] := fun hkeys ↦ by simp [honly.2 hkeys] at hleft
          simp [hsingle, hmore]
      · simp [hsingle, caution, warn]

theorem warnings_mapReplication (value : PropertyValue) :
    (mapReplication .lenient value).warnings = (replicationCautions value).map Warning.message := by
  unfold mapReplication replicationCautions
  cases value.options? with
  | none => rfl
  | some options =>
    dsimp only [Option.bind_some]
    cases options.get? "class" with
    | none => rfl
    | some replicationClass =>
      by_cases hsingle : replicationClass = singleRegionStrategy
      · simp only [if_pos hsingle]
        split <;> rfl
      · simp only [if_neg hsingle]
        rfl

theorem outcome_mapKeyspaceTags_ne_ok (value : PropertyValue) :
    (mapKeyspaceTags value).outcome ≠ .ok () := by
  unfold mapKeyspaceTags
  split
  · exact nofun
  · rw [outcome_bind_of_ok (outcome_log _ _)]
    exact nofun

variable {property : Identifier × PropertyValue}

/-- Where warnings are tolerated, a property of a keyspace is passed exactly if it is not that of
the tags, and says how the keyspace is replicated if it should. -/
theorem outcome_mapKeyspaceProperty_eq_ok_iff (hdistinct : property.2.Distinct) :
    (mapKeyspaceProperty .lenient property).outcome = .ok () ↔
      (property.1.text = "replication" → property.2.Replicates) ∧ property.1.text ≠ "tags" := by
  unfold mapKeyspaceProperty
  split
  next hname => simp [outcome_mapReplication_eq_ok_iff hdistinct, hname]
  next hname =>
    split
    next htags => simp [outcome_mapKeyspaceTags_ne_ok, htags]
    next htags => simp [caution, warn, hname, htags]

/-- Assumes: a property of a keyspace that is not that of the tags. Its warnings are those that are
listed for it. -/
theorem warnings_mapKeyspaceProperty (htags : property.1.text ≠ "tags") :
    (mapKeyspaceProperty .lenient property).warnings =
      (if property.1.text = "replication" then replicationCautions property.2
        else [.inapplicableProperty property.1]).map Warning.message := by
  unfold mapKeyspaceProperty
  rw [if_neg htags]
  split
  · exact warnings_mapReplication property.2
  · rfl

variable {settings : Settings}

/-- Where warnings are tolerated, settings of a keyspace are passed exactly if they are mappable. -/
theorem outcome_mapKeyspaceSettings_eq_ok_iff (hdistinct : settings.Distinct) :
    (mapKeyspaceSettings .lenient settings).outcome = .ok () ↔ settings.MappableKeyspace := by
  have hpassed : ∀ property ∈ settings.regular.toList,
      ((mapKeyspaceProperty .lenient property).outcome = .ok () ↔
        (property.1.text = "replication" → property.2.Replicates) ∧ property.1.text ≠ "tags") :=
    fun property hmem ↦
      outcome_mapKeyspaceProperty_eq_ok_iff (hdistinct.options_distinct property hmem)
  simp only [mapKeyspaceSettings, outcome_bind_eq_ok_iff]
  constructor
  · rintro ⟨_, hrequired, _, hjudged, hcustom⟩
    have hall := fun property hmem ↦
      (hpassed property hmem).1 (outcome_forM_eq_ok_iff.1 hjudged property hmem)
    refine ⟨?_, List.forall_mem_map.2 fun property hmem ↦ (hall property hmem).2, ?_⟩
    · unfold requireReplication at hrequired
      split at hrequired
      next hgiven =>
        obtain ⟨⟨_, value⟩, hmem, rfl⟩ := List.mem_map.1 ((OrderedMap.contains_iff _ _).1 hgiven)
        exact ⟨value, hmem, (hall _ hmem).1 rfl⟩
      next => cases hrequired
    · unfold refuseCustomProperties at hcustom
      split at hcustom
      next => cases hcustom
      next hnone => simpa using hnone
  · intro hmappable
    obtain ⟨value, hlisted, hreplicates⟩ := hmappable.replicated
    have hgiven : settings.regular.contains (.quoted "replication") = true :=
      (OrderedMap.contains_iff _ _).2 (List.mem_map_of_mem hlisted)
    refine ⟨(), ?_, (), outcome_forM_eq_ok_iff.2 ?_, ?_⟩
    · rw [requireReplication, if_pos hgiven]
      rfl
    · rintro ⟨⟨name⟩, other⟩ hmem
      refine (hpassed _ hmem).2 ⟨?_, hmappable.tags_absent _ (List.mem_map_of_mem hmem)⟩
      rintro rfl
      have hsame := (OrderedMap.get?_eq_some_iff hdistinct.regular_distinct).2 hlisted
      rw [(OrderedMap.get?_eq_some_iff hdistinct.regular_distinct).2 hmem] at hsame
      cases hsame
      exact hreplicates
    · rw [refuseCustomProperties, hmappable.custom_absent]
      rfl

/-- Assumes: settings of a keyspace that are passed. What was warned of is what is listed. -/
theorem warnings_mapKeyspaceSettings (hdistinct : settings.Distinct)
    (hok : (mapKeyspaceSettings .lenient settings).outcome = .ok ()) :
    (mapKeyspaceSettings .lenient settings).warnings =
      (keyspaceCautions settings).map Warning.message := by
  have hmappable := (outcome_mapKeyspaceSettings_eq_ok_iff hdistinct).1 hok
  simp only [mapKeyspaceSettings, outcome_bind_eq_ok_iff] at hok
  obtain ⟨_, hrequired, _, hjudged, hcustom⟩ := hok
  rw [mapKeyspaceSettings, warnings_bind_of_ok hrequired, warnings_bind_of_ok hjudged,
    warnings_requireReplication, warnings_refuseCustomProperties, List.nil_append, List.append_nil,
    warnings_forM_of_ok (outcome_forM_eq_ok_iff.1 hjudged), keyspaceCautions, List.map_flatMap]
  exact List.flatMap_congr fun property hmem ↦
    warnings_mapKeyspaceProperty (hmappable.tags_absent _ (List.mem_map_of_mem hmem))

end Mapping

/-! ### Other orders -/

/-- Whether two values are equal but for the order of their options. -/
def PropertyValue.Reordered : PropertyValue → PropertyValue → Prop
  | text first, text second => first = second
  | options first, options second => first.toList.Perm second.toList
  | _, _ => False

/-- Whether two settings are equal but for the order of their regular properties and of the options
of these. -/
structure Settings.Reordered (first second : Settings) : Prop where
  custom_eq : second.custom = first.custom
  regular_reordered : ∃ properties, first.regular.toList.Perm properties ∧
    List.Forall₂ (fun property other ↦ property.1 = other.1 ∧ property.2.Reordered other.2)
      properties second.regular.toList

namespace PropertyValue.Reordered

variable {first second : PropertyValue}

theorem distinct (hreordered : first.Reordered second) (hdistinct : first.Distinct) :
    second.Distinct := by
  cases first <;> cases second
  · trivial
  · cases hreordered
  · cases hreordered
  · exact (List.Perm.map Prod.fst hreordered).nodup_iff.1 hdistinct

theorem replicates_iff (hreordered : first.Reordered second) :
    first.Replicates ↔ second.Replicates := by
  cases first with
  | text =>
    cases second with
    | text =>
      cases hreordered
      rfl
    | options => cases hreordered
  | options entries =>
    cases second with
    | text => cases hreordered
    | options others =>
      have hentries : entries.toList.Perm others.toList := hreordered
      have hkeys : entries.keys = ["class"] ↔ others.keys = ["class"] := by
        rw [← List.perm_singleton, ← List.perm_singleton]
        exact (hentries.map Prod.fst).congr_left _
      simp [Replicates, options?, hentries.mem_iff, hkeys]

end PropertyValue.Reordered

namespace Settings.Reordered

variable {first second : Settings}

theorem keys_perm (hreordered : first.Reordered second) :
    first.regular.keys.Perm second.regular.keys := by
  obtain ⟨properties, hperm, hvalues⟩ := hreordered.regular_reordered
  have hnames : List.Forall₂ (· = ·) (properties.map Prod.fst) second.regular.keys := by
    rw [OrderedMap.keys, List.forall₂_map_left_iff, List.forall₂_map_right_iff]
    exact hvalues.imp fun _ _ hsame ↦ hsame.1
  rw [List.forall₂_eq_eq_eq] at hnames
  exact hnames ▸ hperm.map Prod.fst

/-- Every property of the second settings is one of the first with its options in another order. -/
theorem exists_mem_left (hreordered : first.Reordered second)
    {property : Identifier × PropertyValue} (hmem : property ∈ second.regular.toList) :
    ∃ value, (property.1, value) ∈ first.regular.toList ∧ value.Reordered property.2 := by
  obtain ⟨properties, hperm, hvalues⟩ := hreordered.regular_reordered
  obtain ⟨⟨name, value⟩, hlisted, rfl, hvalue⟩ := exists_mem_related_of_mem hvalues hmem
  exact ⟨value, hperm.mem_iff.2 hlisted, hvalue⟩

/-- Every property of the first settings is one of the second with its options in another order. -/
theorem exists_mem_right (hreordered : first.Reordered second)
    {property : Identifier × PropertyValue} (hmem : property ∈ first.regular.toList) :
    ∃ value, (property.1, value) ∈ second.regular.toList ∧ property.2.Reordered value := by
  obtain ⟨properties, hperm, hvalues⟩ := hreordered.regular_reordered
  obtain ⟨other, hlisted, hname, hvalue⟩ :=
    exists_mem_related_of_mem hvalues.flip (hperm.mem_iff.1 hmem)
  exact ⟨other.2, hname ▸ hlisted, hvalue⟩

theorem distinct (hreordered : first.Reordered second) (hdistinct : first.Distinct) :
    second.Distinct where
  regular_distinct := hreordered.keys_perm.nodup_iff.1 hdistinct.regular_distinct
  options_distinct property hmem := by
    obtain ⟨value, hlisted, hvalue⟩ := hreordered.exists_mem_left hmem
    exact hvalue.distinct (hdistinct.options_distinct _ hlisted)

/-- The order of properties and options does not decide whether settings are mappable. -/
theorem mappableKeyspace_iff (hreordered : first.Reordered second) :
    first.MappableKeyspace ↔ second.MappableKeyspace := by
  have htags : (∀ name ∈ first.regular.keys, name.text ≠ "tags") ↔
      ∀ name ∈ second.regular.keys, name.text ≠ "tags" := by
    simp only [hreordered.keys_perm.mem_iff]
  constructor
  · intro hmappable
    obtain ⟨value, hlisted, hreplicates⟩ := hmappable.replicated
    obtain ⟨other, hother, hvalue⟩ := hreordered.exists_mem_right hlisted
    exact ⟨⟨other, hother, hvalue.replicates_iff.1 hreplicates⟩, htags.1 hmappable.tags_absent,
      hreordered.custom_eq.trans hmappable.custom_absent⟩
  · intro hmappable
    obtain ⟨value, hlisted, hreplicates⟩ := hmappable.replicated
    obtain ⟨other, hother, hvalue⟩ := hreordered.exists_mem_left hlisted
    exact ⟨⟨other, hother, hvalue.replicates_iff.2 hreplicates⟩, htags.2 hmappable.tags_absent,
      hreordered.custom_eq.symm.trans hmappable.custom_absent⟩

end Settings.Reordered

/-! ### Statements -/

namespace Mapping

open Report

variable {registry : Registry} {creation : KeyspaceCreation}

/-- Where ids are numbered and warnings are tolerated, the creation of a keyspace succeeds exactly
if the keyspace exists and may, and is left alone, or is new and mappable, and is added. -/
theorem outcome_createKeyspace_eq_ok_iff (hnumbered : registry.Numbered)
    (hdistinct : creation.settings.Distinct) (next : Registry) :
    (mapStatement .lenient registry (.createKeyspace creation)).outcome = .ok next ↔
      ((registry.keyspaceId? creation.keyspace).isSome = true ∧ creation.ifNotExists = true) ∧
          next = registry ∨
        (registry.keyspaceId? creation.keyspace = none ∧ creation.settings.MappableKeyspace) ∧
          next = registry.withKeyspace creation.keyspace := by
  rw [outcome_mapStatement_eq_ok_iff]
  constructor
  · intro htransition
    cases htransition with
    | keyspaceSkipped _ hknown hskip => exact .inl ⟨⟨hknown, hskip⟩, rfl⟩
    | keyspaceCreated _ hnew hsettings _ =>
      exact .inr ⟨⟨hnew, (outcome_mapKeyspaceSettings_eq_ok_iff hdistinct).1 hsettings⟩, rfl⟩
  · rintro (⟨⟨hknown, hskip⟩, rfl⟩ | ⟨⟨hnew, hmappable⟩, rfl⟩)
    · exact .keyspaceSkipped creation hknown hskip
    · exact .keyspaceCreated creation hnew
        ((outcome_mapKeyspaceSettings_eq_ok_iff hdistinct).2 hmappable)
        hnumbered.nextKeyspaceId_new

/-- Assumes: a new keyspace with mappable settings. Its creation warns of what is listed. -/
theorem warnings_mapStatement_createKeyspace
    (hnew : registry.keyspaceId? creation.keyspace = none)
    (hdistinct : creation.settings.Distinct) (hmappable : creation.settings.MappableKeyspace) :
    (mapStatement .lenient registry (.createKeyspace creation)).warnings =
      (keyspaceCautions creation.settings).map Warning.message := by
  have hok := (outcome_mapKeyspaceSettings_eq_ok_iff hdistinct).2 hmappable
  unfold mapStatement
  rw [warnings_bind_of_ok (outcome_log _ _), warnings_log, List.nil_append]
  simp only [mapKeyspace, hnew, Option.isSome_none, Bool.false_eq_true, if_false]
  rw [warnings_bind_of_ok hok, Registry.warnings_addKeyspace, List.append_nil,
    warnings_mapKeyspaceSettings hdistinct hok]

end Mapping

namespace Session

open Mapping

/-- Which creations of keyspaces succeed. Assumes: settings in which no key repeats. Whatever a
session that tolerates warnings has handled, the creation of a keyspace with these settings succeeds
exactly if either the keyspace exists and may, or it is new and the settings are mappable. What
exists is left alone, and so is the session. A new keyspace adds one resource and draws the warnings
that are listed, in this order. And settings that are equal but for the order of their properties
and options lead to success together, with the same template and the same ids. -/
theorem keyspace_creation_outcome (before : List Statement) {creation : KeyspaceCreation}
    (hdistinct : creation.settings.Distinct) :
    let session := (new .lenient).handleAll before
    let handled := session.handle (.createKeyspace creation)
    ((∃ next, handled.2.outcome = .ok next) ↔
      (session.registry.keyspaceId? creation.keyspace).isSome = true ∧
          creation.ifNotExists = true ∨
        session.registry.keyspaceId? creation.keyspace = none ∧
          creation.settings.MappableKeyspace) ∧
    (∀ next, handled.2.outcome = .ok next →
      ((session.registry.keyspaceId? creation.keyspace).isSome = true → handled.1 = session) ∧
      (session.registry.keyspaceId? creation.keyspace = none →
        handled.1.warnings = session.warnings ++
          (keyspaceCautions creation.settings).map Warning.message ∧
        ∃ id, handled.1.registry.resources =
          session.registry.resources ++ [(id, .keyspace creation.keyspace.text)])) ∧
    ∀ settings, creation.settings.Reordered settings → ∀ next,
      handled.2.outcome = .ok next ↔
        (session.handle (.createKeyspace { creation with settings })).2.outcome = .ok next := by
  intro session handled
  have hnumbered : session.registry.Numbered := Registry.numbered_handleAll .lenient before
  have hreport : ∀ statement, (session.handle statement).2 =
      mapStatement .lenient session.registry statement := report_handleAll .lenient before
  have houtcome := outcome_createKeyspace_eq_ok_iff hnumbered hdistinct
  refine ⟨?_, ?_, ?_⟩
  · rw [hreport]
    simp only [houtcome, exists_or, exists_and_left, exists_eq, and_true]
  · intro next hok
    rcases (houtcome next).1 (hreport _ ▸ hok) with
      ⟨⟨hknown, hskip⟩, rfl⟩ | ⟨⟨hnew, hmappable⟩, rfl⟩
    · have hskips : (Statement.createKeyspace creation).SkipsExisting := hskip
      exact ⟨fun _ ↦ (handle_of_knows hskips hknown).1,
        fun hnew ↦ absurd hknown (by simp [hnew])⟩
    · have hwarnings : handled.2.warnings =
          (keyspaceCautions creation.settings).map Warning.message := by
        rw [hreport, warnings_mapStatement_createKeyspace hnew hdistinct hmappable]
      have hresources : handled.1.registry.resources = session.registry.resources ++
          [(session.registry.nextKeyspaceId, .keyspace creation.keyspace.text)] :=
        congrArg Registry.resources (session.registry_after_of_ok hok)
      exact ⟨fun hknown ↦ absurd hknown (by simp [hnew]),
        fun _ ↦ ⟨congrArg (session.warnings ++ ·) hwarnings, _, hresources⟩⟩
  · intro settings hreordered next
    rw [hreport, houtcome, hreport, outcome_createKeyspace_eq_ok_iff hnumbered
      (hreordered.distinct hdistinct), hreordered.mappableKeyspace_iff]

/-- Settings with a property that draws a warning and a replication class that does. -/
def harborSettings : Settings where
  regular := ⟨[(⟨"durable_writes"⟩, .text "true"), (⟨"replication"⟩,
    .options ⟨[("class", "SimpleStrategy"), ("replication_factor", "3")]⟩)]⟩
  custom := none

/-- The same settings with the properties and the options in the other order. -/
def harborReordered : Settings where
  regular := ⟨[(⟨"replication"⟩, .options ⟨[("replication_factor", "3"),
    ("class", "SimpleStrategy")]⟩), (⟨"durable_writes"⟩, .text "true")]⟩
  custom := none

/-- Behind another keyspace, both settings lead to the same keyspace, with two warnings. -/
theorem keyspace_creation_outcome_harbor :
    let session := (new .lenient).handleAll [.createKeyspace (plainKeyspace "first")]
    let handled := session.handle (.createKeyspace ⟨⟨"harbor"⟩, false, harborSettings⟩)
    let reordered := session.handle (.createKeyspace ⟨⟨"harbor"⟩, false, harborReordered⟩)
    harborSettings.Distinct ∧ harborSettings.Reordered harborReordered ∧
      (∃ next, handled.2.outcome = .ok next ∧ reordered.2.outcome = .ok next) ∧
      handled.1.warnings = ["Property 'durable_writes' is not applicable to Keyspaces",
        "Replication class 'SimpleStrategy' is not applicable to Keyspaces"] := by
  have hdistinct : harborSettings.Distinct := by
    have hnames : harborSettings.regular.keys.Nodup := by decide
    refine ⟨hnames, List.forall_mem_cons.2 ⟨trivial, List.forall_mem_singleton.2 ?_⟩⟩
    change ["class", "replication_factor"].Nodup
    decide
  have hreordered : harborSettings.Reordered harborReordered := by
    exact ⟨rfl, _, .swap _ _ [], .cons ⟨rfl, .swap _ _ []⟩ (.cons ⟨rfl, rfl⟩ .nil)⟩
  have hmappable : harborSettings.MappableKeyspace := by
    refine ⟨⟨_, List.mem_cons_of_mem _ List.mem_cons_self, _, _, rfl, List.mem_cons_self, ?_⟩,
      by decide, rfl⟩
    decide
  obtain ⟨haccepted, hcreated, hsame⟩ := @keyspace_creation_outcome
    [.createKeyspace (plainKeyspace "first")] ⟨⟨"harbor"⟩, false, harborSettings⟩ hdistinct
  obtain ⟨next, hok⟩ := haccepted.2 (.inr ⟨rfl, hmappable⟩)
  obtain ⟨hwarnings, -⟩ := (hcreated next hok).2 rfl
  exact ⟨hdistinct, hreordered, ⟨next, hok, (hsame _ hreordered next).1 hok⟩, hwarnings⟩

end Session

end SchemaTemplate
