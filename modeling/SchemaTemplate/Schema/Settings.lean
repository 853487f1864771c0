import SchemaTemplate.Schema.Fault
import SchemaTemplate.Schema.OrderedMap

/-!
The settings of a keyspace or a table, which scripts call properties. A regular property has a text
or a map of options as its value. The custom properties are one block that maps names to options,
and it may be given at most once.
-/

set_option autoImplicit false
set_option relaxedAutoImplicit false

namespace SchemaTemplate

/-- The options of a property, each a text under a text. -/
abbrev Options : Type := OrderedMap String String

/-- The block of custom properties. -/
abbrev CustomProperties : Type := OrderedMap String Options

/-- The value of a regular property. -/
inductive PropertyValue
  /-- A constant, as the text that it was written with. -/
  | text (content : String)
  /-- A map of options. -/
  | options (entries : Options)
  deriving DecidableEq, Repr

namespace PropertyValue

/-- The text of a property whose value is a constant. -/
def text? : PropertyValue → Option String
  | text content => some content
  | options _ => none

/-- The options of a property whose value is a map. -/
def options? : PropertyValue → Option Options
  | text _ => none
  | options entries => some entries

end PropertyValue

/-- Adds an entry to a map of properties or options, whose keys must not repeat. -/
def OrderedMap.define {Key Value : Type} [DecidableEq Key] [ToString Key]
    (map : OrderedMap Key Value) (key : Key) (value : Value) :
    Except SchemaFault (OrderedMap Key Value) :=
  (map.add key value).mapError fun repeated ↦ .duplicateProperty (toString repeated)

/-- Builds a map of properties or options, whose keys must not repeat. -/
def OrderedMap.defineAll {Key Value : Type} [DecidableEq Key] [ToString Key]
    (entries : List (Key × Value)) : Except SchemaFault (OrderedMap Key Value) :=
  (OrderedMap.ofList entries).mapError fun repeated ↦ .duplicateProperty (toString repeated)

/-- The regular and the custom properties of a keyspace or a table. -/
structure Settings where
  regular : OrderedMap Identifier PropertyValue
  custom : Option CustomProperties
  deriving DecidableEq, Repr

namespace Settings

/-- The name under which the custom properties are given. -/
def customPropertiesName : String := "custom_properties"

/-- Settings without any property. -/
def empty : Settings := ⟨.empty, none⟩

/-- Adds a regular property. -/
def addProperty (settings : Settings) (name : Identifier) (value : PropertyValue) :
    Except SchemaFault Settings := do
  let regular ← settings.regular.define name value
  return { settings with regular }

/-- Gives the block of custom properties. -/
def defineCustom (settings : Settings) (custom : CustomProperties) :
    Except SchemaFault Settings :=
  match settings.custom with
  | some _ => .error (.duplicateProperty customPropertiesName)
  | none => .ok { settings with custom := some custom }

end Settings

end SchemaTemplate
