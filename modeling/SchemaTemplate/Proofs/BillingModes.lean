import Mathlib.Data.List.Induction
import Mathlib.Data.Nat.Digits.Defs
import SchemaTemplate.Proofs.CapacityModes

/-!
Billing modes in terms of the options that are documented for them. A text is a number of capacity
units exactly if it is written by the grammar of decimal integers (`Text.Writes`) and in range; a
billing mode is asked for by exactly the keys that belong to it, in any order; and the custom
properties of a table are such a capacity mode alone, or none.
-/

set_option autoImplicit false
set_option relaxedAutoImplicit false

namespace SchemaTemplate

/-! ### Integers -/

namespace Text

/-- The number that decimal digits write. -/
def digitsValue (digits : List Char) : Nat :=
  Nat.ofDigits 10 (digits.map fun digit ↦ digit.toNat - '0'.toNat).reverse

/-- Whether a text writes a whole number: it has a sign or none and then at least one digit, all of
them decimal digits of ASCII. -/
inductive Writes : List Char → Int → Prop
  | unsigned {digits : List Char} (hsome : digits ≠ [])
    (hdigits : ∀ digit ∈ digits, digit.isDigit = true) : Writes digits (digitsValue digits)
  | plus {digits : List Char} (hsome : digits ≠ [])
    (hdigits : ∀ digit ∈ digits, digit.isDigit = true) : Writes ('+' :: digits) (digitsValue digits)
  | minus {digits : List Char} (hsome : digits ≠ [])
    (hdigits : ∀ digit ∈ digits, digit.isDigit = true) :
    Writes ('-' :: digits) (-digitsValue digits)

theorem foldl_digits (digits : List Char) :
    digits.foldl (fun value digit ↦ 10 * value + (digit.toNat - '0'.toNat)) 0 =
      digitsValue digits := by
  induction digits using List.reverseRecOn with
  | nil => rfl
  | append_singleton digits digit ih =>
    rw [List.foldl_concat, ih, digitsValue, digitsValue, List.map_append, List.map_singleton,
      List.reverse_concat, Nat.ofDigits_cons]
    exact Nat.add_comm _ _

/-- A function of the number that digits write has a value exactly if there are digits and nothing
else. -/
theorem map_natural?_eq_some_iff {digits : List Char} {change : Nat → Int} {value : Int} :
    (natural? digits).map change = some value ↔
      digits ≠ [] ∧ (∀ digit ∈ digits, digit.isDigit = true) ∧
        change (digitsValue digits) = value := by
  rw [natural?, foldl_digits]
  split
  next hdigits =>
    have hwritten : digits ≠ [] ∧ ∀ digit ∈ digits, digit.isDigit = true := by
      simpa using hdigits
    rw [Option.map_some, Option.some.injEq]
    exact ⟨fun hvalue ↦ ⟨hwritten.1, hwritten.2, hvalue⟩, fun hvalue ↦ hvalue.2.2⟩
  next hdigits =>
    refine iff_of_false nofun fun ⟨hsome, hall, _⟩ ↦ hdigits ?_
    simpa [hsome] using hall

theorem integer?_minus (digits : List Char) :
    integer? ('-' :: digits) = Option.map (fun value : Nat ↦ -(value : Int)) (natural? digits) := by
  rw [integer?]
  cases natural? digits <;> rfl

theorem integer?_plus (digits : List Char) :
    integer? ('+' :: digits) = Option.map (fun value : Nat ↦ (value : Int)) (natural? digits) := by
  rw [integer?]
  cases natural? digits <;> rfl

theorem integer?_unsigned {digits : List Char} (hminus : ∀ rest, digits ≠ '-' :: rest)
    (hplus : ∀ rest, digits ≠ '+' :: rest) :
    integer? digits = Option.map (fun value : Nat ↦ (value : Int)) (natural? digits) := by
  rw [integer?]
  · cases natural? digits <;> rfl
  · exact fun rest hdigits ↦ hminus rest hdigits
  · exact fun rest hdigits ↦ hplus rest hdigits

/-- The integers that are read are those that the grammar of integers writes. -/
theorem integer?_eq_some_iff {text : List Char} {value : Int} :
    integer? text = some value ↔ Writes text value := by
  have hsign : ∀ {sign : Char}, sign.isDigit = false → ∀ {digits : List Char},
      (∀ digit ∈ digits, digit.isDigit = true) → ∀ rest, digits ≠ sign :: rest := by
    rintro sign hsign digits hdigits rest rfl
    rw [hdigits sign List.mem_cons_self] at hsign
    cases hsign
  constructor
  · intro hread
    by_cases hminus : ∃ digits, text = '-' :: digits
    · obtain ⟨digits, rfl⟩ := hminus
      rw [integer?_minus, map_natural?_eq_some_iff] at hread
      obtain ⟨hsome, hdigits, rfl⟩ := hread
      exact .minus hsome hdigits
    by_cases hplus : ∃ digits, text = '+' :: digits
    · obtain ⟨digits, rfl⟩ := hplus
      rw [integer?_plus, map_natural?_eq_some_iff] at hread
      obtain ⟨hsome, hdigits, rfl⟩ := hread
      exact .plus hsome hdigits
    · rw [integer?_unsigned (not_exists.1 hminus) (not_exists.1 hplus),
        map_natural?_eq_some_iff] at hread
      obtain ⟨hsome, hdigits, rfl⟩ := hread
      exact .unsigned hsome hdigits
  · intro hwrites
    cases hwrites with
    | unsigned hsome hdigits =>
      rw [integer?_unsigned (hsign rfl hdigits) (hsign rfl hdigits)]
      exact map_natural?_eq_some_iff.2 ⟨hsome, hdigits, rfl⟩
    | plus hsome hdigits =>
      rw [integer?_plus]
      exact map_natural?_eq_some_iff.2 ⟨hsome, hdigits, rfl⟩
    | minus hsome hdigits =>
      rw [integer?_minus]
      exact map_natural?_eq_some_iff.2 ⟨hsome, hdigits, rfl⟩

/-- Whether a text writes a whole number that 32 bits can hold. -/
def Writes32 (text : String) (value : Int) : Prop :=
  Writes text.toList value ∧ -2 ^ 31 ≤ value ∧ value ≤ 2 ^ 31 - 1

theorem integer32?_eq_some_iff {text : String} {value : Int} :
    integer32? text = some value ↔ Writes32 text value := by
  rw [integer32?, Option.filter_eq_some_iff, integer?_eq_some_iff, Writes32, Bool.and_eq_true,
    decide_eq_true_iff, decide_eq_true_iff]
  refine and_congr_right fun _ ↦ and_congr_right fun _ ↦ ?_
  omega

end Text

/-! ### Options -/

namespace Mapping

open Report

/-- Whether options are exactly those that are documented for a billing mode. On demand there is the
throughput mode alone; provisioned capacity has two numbers of units besides. -/
inductive Documented (options : Options) : BillingMode → Prop
  | onDemand (hentries : options.toList = [("throughput_mode", "PAY_PER_REQUEST")]) :
    Documented options .onDemand
  | provisioned {readText writeText : String} {readUnits writeUnits : Int}
    (hkeys : ∀ key, key ∈ options.keys ↔
      key ∈ ["throughput_mode", "read_capacity_units", "write_capacity_units"])
    (hmode : ("throughput_mode", "PROVISIONED") ∈ options.toList)
    (hread : ("read_capacity_units", readText) ∈ options.toList)
    (hreadUnits : Text.Writes32 readText readUnits)
    (hwrite : ("write_capacity_units", writeText) ∈ options.toList)
    (hwriteUnits : Text.Writes32 writeText writeUnits) :
    Documented options (.provisioned readUnits writeUnits)

/-- Options with distinct keys ask for the billing mode that they are documented for. -/
theorem asksFor_iff_documented {options : Options} (hdistinct : options.Distinct)
    {mode : BillingMode} : AsksFor options mode ↔ Documented options mode := by
  have hperm : ∀ readText writeText, options.toList.Perm [("throughput_mode", "PROVISIONED"),
      ("read_capacity_units", readText), ("write_capacity_units", writeText)] ↔
        (∀ key, key ∈ options.keys ↔
          key ∈ ["throughput_mode", "read_capacity_units", "write_capacity_units"]) ∧
        ("throughput_mode", "PROVISIONED") ∈ options.toList ∧
        ("read_capacity_units", readText) ∈ options.toList ∧
        ("write_capacity_units", writeText) ∈ options.toList := by
    intro readText writeText
    rw [OrderedMap.toList_perm_iff hdistinct (by simp)]
    simp only [List.map_cons, List.map_nil, List.forall_mem_cons, List.not_mem_nil,
      false_implies, implies_true, and_true]
  constructor
  · rintro (hentries | ⟨hentries, hread, hwrite⟩)
    · exact .onDemand (List.perm_singleton.1 hentries)
    · obtain ⟨hkeys, hmode, hreadText, hwriteText⟩ := (hperm _ _).1 hentries
      exact .provisioned hkeys hmode hreadText (Text.integer32?_eq_some_iff.1 hread) hwriteText
        (Text.integer32?_eq_some_iff.1 hwrite)
  · rintro (hentries | ⟨hkeys, hmode, hreadText, hread, hwriteText, hwrite⟩)
    · exact .onDemand (.of_eq hentries)
    · exact .provisioned ((hperm _ _).2 ⟨hkeys, hmode, hreadText, hwriteText⟩)
        (Text.integer32?_eq_some_iff.2 hread) (Text.integer32?_eq_some_iff.2 hwrite)

/-- Options in another order ask for the same billing mode. -/
theorem AsksFor.perm {options others : Options} (hperm : others.toList.Perm options.toList)
    {mode : BillingMode} (hasks : AsksFor options mode) : AsksFor others mode := by
  cases hasks with
  | onDemand hentries => exact .onDemand (hperm.trans hentries)
  | provisioned hentries hread hwrite => exact .provisioned (hperm.trans hentries) hread hwrite

/-! ### Custom properties -/

/-- Custom properties with distinct names are mapped exactly if there are none or if they are a
capacity mode alone that is mapped. -/
theorem outcome_mapCustomProperties_eq_ok_iff {custom : CustomProperties}
    (hdistinct : custom.Distinct) {billing : Option BillingMode} :
    (mapCustomProperties custom).outcome = .ok billing ↔
      (custom.toList = [] ∧ billing = none) ∨
      ∃ options mode, custom.toList = [("capacity_mode", options)] ∧
        (mapCapacityMode options).outcome = .ok mode ∧ billing = some mode := by
  constructor
  · intro hok
    -- All of the properties are capacity modes, so there are no two of them.
    obtain ⟨hall, -⟩ := outcome_foldlM_mapCustomProperty hok
    obtain ⟨_ | ⟨⟨name, options⟩, _ | ⟨second, more⟩⟩⟩ := custom
    · cases hok
      exact .inl ⟨rfl, rfl⟩
    · rw [mapCustomProperties, OrderedMap.toList, List.foldlM_cons, outcome_bind_eq_ok_iff] at hok
      obtain ⟨asked, hproperty, hrest⟩ := hok
      obtain ⟨rfl, mode, hasks, rfl⟩ := (outcome_mapCustomProperty_eq_ok_iff _ _ _).1 hproperty
      cases hrest
      exact .inr ⟨options, mode, rfl, outcome_mapCapacityMode_eq_ok_iff.2 hasks, rfl⟩
    · obtain ⟨⟨hfirst, -⟩, ⟨hsecond, -⟩, -⟩ := by
        simpa only [OrderedMap.toList, List.forall_mem_cons] using hall
      refine absurd hdistinct fun hnodup ↦ (List.nodup_cons.1 hnodup).1 ?_
      exact List.mem_cons.2 (.inl (hfirst.trans hsecond.symm))
  · rintro (⟨hnone, rfl⟩ | ⟨options, mode, honly, hmode, rfl⟩)
    · rw [mapCustomProperties, hnone]
      rfl
    · have hproperty := (outcome_mapCustomProperty_eq_ok_iff none _ ("capacity_mode", options)).2
        ⟨rfl, mode, outcome_mapCapacityMode_eq_ok_iff.1 hmode, rfl⟩
      rw [mapCustomProperties, honly, List.foldlM_cons, outcome_bind_of_ok hproperty]
      rfl

/-- The capacity mode of a table is accepted exactly if its options are those of a billing mode:
`throughput_mode` with the value `PAY_PER_REQUEST` and nothing else, or with the value `PROVISIONED`
and two numbers of units, each a decimal integer of 32 bits, with or without a sign. The billing
mode has just these numbers, and the order of the options does not matter. Custom properties are
accepted exactly if there are none or if such a capacity mode is the only one; no other property is
accepted, wherever it stands. -/
theorem capacity_modes_accepted {options : Options} (hoptions : options.Distinct)
    {custom : CustomProperties} (hcustom : custom.Distinct) :
    (∀ mode, (mapCapacityMode options).outcome = .ok mode ↔ Documented options mode) ∧
    (∀ others : Options, others.toList.Perm options.toList → ∀ mode,
      (mapCapacityMode others).outcome = .ok mode ↔ (mapCapacityMode options).outcome = .ok mode) ∧
    (∀ billing, (mapCustomProperties custom).outcome = .ok billing ↔
      (custom.toList = [] ∧ billing = none) ∨
      ∃ options mode, custom.toList = [("capacity_mode", options)] ∧
        (mapCapacityMode options).outcome = .ok mode ∧ billing = some mode) ∧
    ∀ property ∈ custom.toList, property.1 ≠ "capacity_mode" →
      ∀ billing, (mapCustomProperties custom).outcome ≠ .ok billing := by
  refine ⟨fun mode ↦ ?_, fun others hperm mode ↦ ?_, fun billing ↦
    outcome_mapCustomProperties_eq_ok_iff hcustom, fun property hmem hother billing hok ↦ ?_⟩
  · rw [outcome_mapCapacityMode_eq_ok_iff, asksFor_iff_documented hoptions]
  · rw [outcome_mapCapacityMode_eq_ok_iff, outcome_mapCapacityMode_eq_ok_iff]
    exact ⟨.perm hperm.symm, .perm hperm⟩
  · exact hother ((outcome_foldlM_mapCustomProperty hok).1 property hmem).1

/-- The options of provisioned capacity, with signs and leading zeros. -/
def signedCapacity : Options :=
  ⟨[("write_capacity_units", "-2147483648"), ("throughput_mode", "PROVISIONED"),
    ("read_capacity_units", "+0010")]⟩

theorem capacity_modes_accepted_signedCapacity :
    Documented signedCapacity (.provisioned 10 (-2147483648)) ∧
      (mapCustomProperties ⟨[("capacity_mode", signedCapacity)]⟩).outcome =
        .ok (some (.provisioned 10 (-2147483648))) := by
  have hdistinct : signedCapacity.Distinct := by
    simp [OrderedMap.Distinct, OrderedMap.keys, signedCapacity]
  have hmode : (mapCapacityMode signedCapacity).outcome =
      .ok (.provisioned 10 (-2147483648)) := by rfl
  obtain ⟨hdocumented, -, hblock, -⟩ := capacity_modes_accepted hdistinct
    (by simp [OrderedMap.Distinct, OrderedMap.keys] :
      OrderedMap.Distinct (⟨[("capacity_mode", signedCapacity)]⟩ : CustomProperties))
  exact ⟨(hdocumented _).1 hmode, (hblock _).2 (.inr ⟨_, _, rfl, hmode, rfl⟩)⟩

end Mapping

end SchemaTemplate
