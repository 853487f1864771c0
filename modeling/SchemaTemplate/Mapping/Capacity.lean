import SchemaTemplate.Mapping.Refusal
import SchemaTemplate.Schema.Settings
import SchemaTemplate.Template.Resource
import SchemaTemplate.Text.Integer

/-!
The custom properties of a table. The one that has a counterpart is `capacity_mode`, which becomes
the billing mode: its options have to be those of the throughput mode that it names, neither more
nor fewer.
-/

set_option autoImplicit false
set_option relaxedAutoImplicit false

namespace SchemaTemplate.Mapping

open Report

/-- Takes out the option that gives a number of capacity units. -/
def takeUnits (option : String) (options : Options) : Report (Int × Options) :=
  match options.get? option with
  | none => refuse (.missingThroughputOption option "PROVISIONED")
  | some text =>
    match Text.integer32? text with
    | some units => pure (units, options.erase option)
    | none => refuse (.customOptionNotInteger option "capacity_mode")

/-- Refuses options that are left over. -/
def refuseLeftover (refusal : String → Refusal) (options : Options) : Report Unit :=
  match options.firstKey? with
  | some option => refuse (refusal option)
  | none => pure ()

/-- The billing mode that the property `capacity_mode` asks for. -/
def mapCapacityMode (options : Options) : Report BillingMode :=
  match options.get? "throughput_mode" with
  | none => refuse (.missingCustomOption "throughput_mode" "capacity_mode")
  | some mode =>
    let options := options.erase "throughput_mode"
    if mode = "PAY_PER_REQUEST" then do
      refuseLeftover (.unknownThroughputOption · mode) options
      return .onDemand
    else if mode = "PROVISIONED" then do
      let (readUnits, options) ← takeUnits "read_capacity_units" options
      let (writeUnits, options) ← takeUnits "write_capacity_units" options
      refuseLeftover (.unknownThroughputOption · mode) options
      return .provisioned readUnits writeUnits
    else refuse (.unknownThroughputMode mode)

/-- Judges the property `point_in_time_recovery`, which is refused even if its options are right. -/
def mapRecovery (options : Options) : Report Unit :=
  match options.get? "status" with
  | none => refuse (.missingCustomOption "status" "point_in_time_recovery")
  | some status =>
    if status = "enabled" || status = "disabled" then do
      let enabled := if status = "enabled" then "true" else "false"
      refuseLeftover (.unknownCustomOption · "point_in_time_recovery") (options.erase "status")
      log .debug s!"Point in time recovery requested: enabled={enabled}"
      refuse (.customPropertyOutsideTemplates "point_in_time_recovery")
    else refuse (.unknownRecoveryStatus status)

/-- Maps one custom property, given the billing mode that those before it ask for. -/
def mapCustomProperty (billing : Option BillingMode) (property : String × Options) :
    Report (Option BillingMode) :=
  if property.1 = "capacity_mode" then some <$> mapCapacityMode property.2
  else if property.1 = "point_in_time_recovery" then do
    mapRecovery property.2
    return billing
  else refuse (.unknownCustomProperty property.1)

/-- The billing mode that a block of custom properties asks for. -/
def mapCustomProperties (custom : CustomProperties) : Report (Option BillingMode) :=
  custom.toList.foldlM mapCustomProperty none

end SchemaTemplate.Mapping
