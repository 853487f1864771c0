import SchemaTemplate.Schema.Fault
import SchemaTemplate.Text.Position

/-!
The ways in which a conversion can fail, from reading the script to writing the template. The
causes found on the way have types of their own; here each is kept as its wording, and
`Failure.message` adds what tells the reader at which stage it came up.
-/

set_option autoImplicit false
set_option relaxedAutoImplicit false

namespace SchemaTemplate

/-- Why a conversion ended without a template. -/
inductive Failure
  /-- The script file cannot be read. -/
  | unreadable (path : String) (reason : String)
  /-- The template file cannot be written. -/
  | unwritable (path : String) (reason : String)
  /-- The script is not well formed at a place. -/
  | malformed (position : Position) (detail : String)
  /-- A definition contradicts itself or is incomplete. -/
  | schema (detail : String)
  /-- A statement has no counterpart among the resources of a template. -/
  | refused (detail : String)
  /-- A warning was given while warnings are not tolerated. -/
  | strictWarning (warning : String)
  /-- The template cannot be put together. -/
  | unrenderable (detail : String)
  deriving DecidableEq, Repr

namespace Failure

/-- The wording of a failure. -/
def message : Failure → String
  | unreadable path _ => s!"Failed to read CQL script: {path}"
  | unwritable path _ => s!"Failed to write CloudFormation template: {path}"
  | malformed position detail =>
    let line := position.line
    let column := position.column
    s!"CQL syntax error at line {line}, column {column}: {detail}"
  | schema detail => s!"Invalid schema: {detail}"
  | refused detail => detail
  | strictWarning warning => s!"{warning} (strict mode)"
  | unrenderable detail => s!"Failed to render template: {detail}"

/-- What the system says about the cause, for a failure that comes from outside. -/
def reason? : Failure → Option String
  | unreadable _ reason => some reason
  | unwritable _ reason => some reason
  | _ => none

/-- The wording of a failure, followed by what the system says about its cause. -/
def report (failure : Failure) : String :=
  match failure.reason? with
  | some reason => failure.message ++ ": " ++ reason
  | none => failure.message

/-- The failure that a fault of a definition leads to. -/
def ofFault (fault : SchemaFault) : Failure := .schema fault.message

end Failure

end SchemaTemplate
