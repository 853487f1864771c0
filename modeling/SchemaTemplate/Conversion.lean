import SchemaTemplate.Script.Decoding
import SchemaTemplate.Script.Reading
import SchemaTemplate.Session

/-!
Conversions. `convert` turns the text of a script into the text of a template; `convertFile` does
the same with files, wherever they are stored. All statements are read before the first of them is
mapped, and nothing is written unless the whole conversion succeeds.
-/

set_option autoImplicit false
set_option relaxedAutoImplicit false

namespace SchemaTemplate

/-- What a successful conversion yields. -/
structure Conversion where
  template : String
  /-- The warnings given and tolerated. -/
  warnings : List String
  deriving DecidableEq, Repr

/-- Maps statements to a template, up to the first one that fails. -/
def convertStatements (strictness : Strictness) (statements : List Statement) :
    Report Conversion := do
  let (session, report) := (Session.new strictness).run statements
  report
  return ⟨session.registry.template.render, session.warnings⟩

/-- Converts the text of a script. -/
def convert (strictness : Strictness) (script : String) : Report Conversion := do
  let statements ← Script.read script
  convertStatements strictness statements

/-! ### Files -/

/-- A place where files are kept. Whatever goes wrong is told in the words of the system. -/
structure Storage (Effect : Type → Type) where
  /-- The bytes of the file at a path. -/
  load : (path : String) → Effect (Except String ByteArray)
  /-- Makes a text the content of the file at a path. -/
  save : (path : String) → (content : String) → Effect (Except String Unit)

variable {Effect : Type → Type} [Monad Effect]

/-- The text of a script file. -/
def Storage.script (storage : Storage Effect) (path : String) :
    Effect (Except Failure String) := do
  match ← storage.load path with
  | .error reason => return .error (.unreadable path reason)
  | .ok bytes =>
    match Script.decode? bytes with
    | some text => return .ok text
    | none => return .error (.unreadable path "File contains invalid characters")

/-- Saves the template of a conversion. -/
def Storage.saveTemplate (storage : Storage Effect) (path : String) (conversion : Conversion) :
    Effect (Except Failure Unit) := do
  let saved ← storage.save path (conversion.template ++ "\n")
  return saved.mapError fun reason ↦ .unwritable path reason

/-- Converts a script file and saves the template if a path for it is given. -/
def convertFile (storage : Storage Effect) (strictness : Strictness) (input : String)
    (output : Option String) : Effect (Report Conversion) := do
  let script ← storage.script input
  let report : Report Conversion := do
    Report.log .info s!"Converting CQL script: {input}"
    let script ← Report.ofOutcome script
    convert strictness script
  match report.outcome, output with
  | .ok conversion, some path =>
    let saved ← storage.saveTemplate path conversion
    return do
      let conversion ← report
      Report.ofOutcome saved
      Report.log .info s!"Wrote CloudFormation template: {path}"
      return conversion
  | _, _ => return report

end SchemaTemplate
