import SchemaTemplate.Mapping.Table
import SchemaTemplate.Proofs.OrderedMaps

/-!
The capacity modes that are accepted. Options are looked up one by one, each is taken out when it
was found, and none may be left over; so what is accepted are the options of a billing mode in any
order (`Mapping.AsksFor`), and of the custom properties of a table every one has to be such a
capacity mode.
-/

set_option autoImplicit false
set_option relaxedAutoImplicit false

namespace SchemaTemplate.Mapping

open Report

/-! ### Options -/

/-- Whether options ask for a billing mode: they are the options of this mode in any order, and no
others. -/
inductive AsksFor (options : Options) : BillingMode → Prop
  | onDemand (hentries : options.toList.Perm [("throughput_mode", "PAY_PER_REQUEST")]) :
    AsksFor options .onDemand
  | provisioned {readText writeText : String} {readUnits writeUnits : Int}
    (hentries : options.toList.Perm [("throughput_mode", "PROVISIONED"),
      ("read_capacity_units", readText), ("write_capacity_units", writeText)])
    (hread : Text.integer32? readText = some readUnits)
    (hwrite : Text.integer32? writeText = some writeUnits) :
    AsksFor options (.provisioned readUnits writeUnits)

/-- No option is refused exactly if none is left over. -/
theorem outcome_refuseLeftover_eq_ok_iff (refusal : String → Refusal) (options : Options) :
    (refuseLeftover refusal options).outcome = .ok () ↔ options.toList.Perm [] := by
  obtain ⟨_ | ⟨entry, entries⟩⟩ := options
  · exact iff_of_true rfl (.refl _)
  · exact iff_of_false nofun fun hnone ↦ nomatch hnone.eq_nil

/-- An option gives a number of capacity units exactly if it is found and its text is the number,
and then it is taken out. -/
theorem outcome_takeUnits_eq_ok_iff (option : String) (options left : Options) (units : Int) :
    (takeUnits option options).outcome = .ok (units, left) ↔
      (∃ text, options.get? option = some text ∧ Text.integer32? text = some units) ∧
        left = options.erase option := by
  unfold takeUnits
  cases options.get? option with
  | none => simp
  | some text =>
    cases hunits : Text.integer32? text with
    | none => simp [hunits]
    | some value => simp [hunits, @eq_comm _ left]

/-- Options are those of provisioned capacity exactly if they are found one after the other and none
is left. -/
theorem perm_provisioned_iff {options : Options} {readText writeText : String} :
    options.toList.Perm [("throughput_mode", "PROVISIONED"), ("read_capacity_units", readText),
        ("write_capacity_units", writeText)] ↔
      let units := options.erase "throughput_mode"
      let writeOnly := units.erase "read_capacity_units"
      options.get? "throughput_mode" = some "PROVISIONED" ∧
        units.get? "read_capacity_units" = some readText ∧
        writeOnly.get? "write_capacity_units" = some writeText ∧
        (writeOnly.erase "write_capacity_units").toList.Perm [] := by
  rw [OrderedMap.toList_perm_cons_iff (by simp), OrderedMap.toList_perm_cons_iff (by simp),
    OrderedMap.toList_perm_cons_iff (by simp)]

/-- The options that are mapped to a billing mode are those that ask for it. -/
theorem outcome_mapCapacityMode_eq_ok_iff {options : Options} {mode : BillingMode} :
    (mapCapacityMode options).outcome = .ok mode ↔ AsksFor options mode := by
  constructor
  · intro hok
    unfold mapCapacityMode at hok
    split at hok
    next => cases hok
    next name hname =>
      split at hok
      next honDemand =>
        rw [outcome_bind_eq_ok_iff] at hok
        obtain ⟨_, hleft, hmode⟩ := hok
        cases hmode
        subst honDemand
        refine .onDemand ((OrderedMap.toList_perm_cons_iff (by simp)).2 ⟨hname, ?_⟩)
        exact (outcome_refuseLeftover_eq_ok_iff _ _).1 hleft
      next =>
        split at hok
        next hprovisioned =>
          simp only [outcome_bind_eq_ok_iff] at hok
          obtain ⟨⟨readUnits, _⟩, htakeRead, ⟨writeUnits, _⟩, htakeWrite, _, hleft, hmode⟩ := hok
          cases hmode
          subst hprovisioned
          rw [outcome_takeUnits_eq_ok_iff] at htakeRead htakeWrite
          obtain ⟨⟨readText, hreadText, hread⟩, rfl⟩ := htakeRead
          obtain ⟨⟨writeText, hwriteText, hwrite⟩, rfl⟩ := htakeWrite
          rw [outcome_refuseLeftover_eq_ok_iff] at hleft
          exact .provisioned (perm_provisioned_iff.2 ⟨hname, hreadText, hwriteText, hleft⟩) hread
            hwrite
        next => cases hok
  · intro hasks
    unfold mapCapacityMode
    cases hasks with
    | onDemand hentries =>
      obtain ⟨hname, hleft⟩ := (OrderedMap.toList_perm_cons_iff (by simp)).1 hentries
      have hnothing := (outcome_refuseLeftover_eq_ok_iff
        (.unknownThroughputOption · "PAY_PER_REQUEST") _).2 hleft
      simp only [hname, if_true]
      rw [outcome_bind_of_ok hnothing]
      rfl
    | provisioned hentries hread hwrite =>
      obtain ⟨hname, hreadText, hwriteText, hleft⟩ := perm_provisioned_iff.1 hentries
      have htakeRead := (outcome_takeUnits_eq_ok_iff _ _ _ _).2 ⟨⟨_, hreadText, hread⟩, rfl⟩
      have htakeWrite := (outcome_takeUnits_eq_ok_iff _ _ _ _).2 ⟨⟨_, hwriteText, hwrite⟩, rfl⟩
      have hnothing := (outcome_refuseLeftover_eq_ok_iff
        (.unknownThroughputOption · "PROVISIONED") _).2 hleft
      simp only [hname, if_true]
      rw [if_neg (by decide), outcome_bind_of_ok htakeRead, outcome_bind_of_ok htakeWrite,
        outcome_bind_of_ok hnothing]
      rfl

/-! ### Custom properties -/

/-- Whether a custom property is a capacity mode whose options ask for a billing mode. -/
def IsCapacityMode (property : String × Options) : Prop :=
  property.1 = "capacity_mode" ∧ ∃ mode, AsksFor property.2 mode

/-- The point in time recovery of a table is never accepted. -/
theorem outcome_mapRecovery_ne_ok (options : Options) : (mapRecovery options).outcome ≠ .ok () := by
  intro hok
  unfold mapRecovery at hok
  split at hok
  next => cases hok
  next =>
    split at hok
    next =>
      simp only [outcome_bind_eq_ok_iff] at hok
      obtain ⟨_, _, _, _, hrefused⟩ := hok
      cases hrefused
    next => cases hok

/-- A custom property is mapped exactly if it is a capacity mode, and then to its billing mode. -/
theorem outcome_mapCustomProperty_eq_ok_iff (billing next : Option BillingMode)
    (property : String × Options) : (mapCustomProperty billing property).outcome = .ok next ↔
      property.1 = "capacity_mode" ∧ ∃ mode, AsksFor property.2 mode ∧ next = some mode := by
  simp only [← outcome_mapCapacityMode_eq_ok_iff]
  constructor
  · intro hok
    unfold mapCustomProperty at hok
    split at hok
    next hcapacity =>
      rw [map_eq_pure_bind, outcome_bind_eq_ok_iff] at hok
      obtain ⟨mode, hmode, hnext⟩ := hok
      cases hnext
      exact ⟨hcapacity, mode, hmode, rfl⟩
    next =>
      split at hok
      next =>
        rw [outcome_bind_eq_ok_iff] at hok
        obtain ⟨_, hrecovery, _⟩ := hok
        exact absurd hrecovery (outcome_mapRecovery_ne_ok _)
      next => cases hok
  · rintro ⟨hname, mode, hmode, rfl⟩
    rw [mapCustomProperty, if_pos hname, map_eq_pure_bind, outcome_bind_of_ok hmode]
    rfl

/-- Assumes: custom properties that are mapped one after the other. All of them are capacity modes,
and there is a billing mode behind them unless there was none and there are none of them. -/
theorem outcome_foldlM_mapCustomProperty {billing next : Option BillingMode}
    {properties : List (String × Options)}
    (hok : (properties.foldlM mapCustomProperty billing).outcome = .ok next) :
    (∀ property ∈ properties, IsCapacityMode property) ∧
      (next.isSome = true ↔ billing.isSome = true ∨ properties ≠ []) := by
  induction properties generalizing billing with
  | nil =>
    cases hok
    simp
  | cons property properties ih =>
    rw [List.foldlM_cons, outcome_bind_eq_ok_iff] at hok
    obtain ⟨asked, hproperty, hrest⟩ := hok
    obtain ⟨hname, mode, hasks, rfl⟩ := (outcome_mapCustomProperty_eq_ok_iff _ _ _).1 hproperty
    obtain ⟨hall, hsome⟩ := ih hrest
    refine ⟨List.forall_mem_cons.2 ⟨⟨hname, mode, hasks⟩, hall⟩, ?_⟩
    simp [hsome]

theorem exists_outcome_foldlM_mapCustomProperty {properties : List (String × Options)}
    (hall : ∀ property ∈ properties, IsCapacityMode property) (billing : Option BillingMode) :
    ∃ next, (properties.foldlM mapCustomProperty billing).outcome = .ok next := by
  induction properties generalizing billing with
  | nil => exact ⟨billing, rfl⟩
  | cons property properties ih =>
    obtain ⟨⟨hname, mode, hasks⟩, hall⟩ := List.forall_mem_cons.1 hall
    have hfirst := (outcome_mapCustomProperty_eq_ok_iff billing _ property).2
      ⟨hname, mode, hasks, rfl⟩
    rw [List.foldlM_cons, outcome_bind_of_ok hfirst]
    exact ih hall (some mode)

/-- Settings have a billing mode or none exactly if all their custom properties are capacity
modes. -/
theorem exists_outcome_billingModeOf_iff {settings : Settings} :
    (∃ billing, (billingModeOf settings).outcome = .ok billing) ↔
      ∀ custom ∈ settings.custom, ∀ property ∈ custom.toList, IsCapacityMode property := by
  unfold billingModeOf
  cases settings.custom with
  | none => exact iff_of_true ⟨none, rfl⟩ nofun
  | some custom =>
    simp only [Option.mem_some_iff, forall_eq']
    constructor
    · rintro ⟨billing, hok⟩
      exact (outcome_foldlM_mapCustomProperty hok).1
    · exact fun hall ↦ exists_outcome_foldlM_mapCustomProperty hall none

/-- Assumes: settings that are mapped. They have a billing mode exactly if a capacity mode was
given. -/
theorem isSome_of_outcome_billingModeOf {settings : Settings} {billing : Option BillingMode}
    (hok : (billingModeOf settings).outcome = .ok billing) :
    billing.isSome = true ↔
      ∃ custom, settings.custom = some custom ∧ "capacity_mode" ∈ custom.keys := by
  unfold billingModeOf at hok
  cases hcustom : settings.custom with
  | none =>
    rw [hcustom] at hok
    cases hok
    simp
  | some custom =>
    rw [hcustom] at hok
    obtain ⟨hall, hsome⟩ := outcome_foldlM_mapCustomProperty hok
    rw [hsome]
    simp only [Option.isSome_none, Bool.false_eq_true, false_or, Option.some.injEq, exists_eq_left']
    constructor
    · intro hgiven
      obtain ⟨property, hmem⟩ := List.exists_mem_of_ne_nil _ hgiven
      exact (hall property hmem).1 ▸ List.mem_map_of_mem hmem
    · intro hlisted
      obtain ⟨property, hmem, -⟩ := List.mem_map.1 hlisted
      exact List.ne_nil_of_mem hmem

end SchemaTemplate.Mapping
