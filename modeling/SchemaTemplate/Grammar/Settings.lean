import SchemaTemplate.Grammar.Parser
import SchemaTemplate.Schema.Settings

/-!
The grammar of properties. A property is a name, an equals sign and a value, which is a constant or
a map of options in braces; the custom properties are a map of such maps.
-/

set_option autoImplicit false
set_option relaxedAutoImplicit false

namespace SchemaTemplate.Grammar

open SchemaTemplate.Grammar.Parser

/-- Reads an entry of a map whose values are read by `value`. -/
def mapEntry {Value : Type} (value : Parser Value) (map : OrderedMap String Value) :
    Parser (OrderedMap String Value) := do
  let key ← constant
  expect .colon
  let value ← value
  lift (map.define key value)

/-- Reads a map in braces whose values are read by `value`. -/
def mapOf {Value : Type} (value : Parser Value) : Parser (OrderedMap String Value) := do
  expect .leftBrace
  if ← accept .rightBrace then return .empty
  else
    let map ← commaSeparated (mapEntry value) .empty
    expect .rightBrace
    return map

/-- Reads the options of a property. -/
def options : Parser Options := mapOf constant

/-- Reads the block of custom properties. -/
def customProperties : Parser CustomProperties := mapOf options

/-- Reads the value of a regular property. -/
def propertyValue : Parser PropertyValue := do
  if ← sees .leftBrace then PropertyValue.options <$> options
  else PropertyValue.text <$> constant

/-- Reads a property and says how it changes the settings that it belongs to. -/
def property : Parser (Settings → Except SchemaFault Settings) := do
  let name ← identifier
  expect .equals
  if name.text = Settings.customPropertiesName then
    let custom ← customProperties
    return fun settings ↦ settings.defineCustom custom
  else
    let value ← propertyValue
    return fun settings ↦ settings.addProperty name value

end SchemaTemplate.Grammar
