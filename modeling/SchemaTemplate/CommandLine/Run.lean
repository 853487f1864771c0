import SchemaTemplate.CommandLine.Arguments
import SchemaTemplate.Conversion
import SchemaTemplate.Text.Terminal

/-!
Runs of the program. A run yields what goes to the standard output, the lines of the log that are
important enough, and an exit code: zero for success, one for a failed conversion and two for
arguments that make no sense.
-/

set_option autoImplicit false
set_option relaxedAutoImplicit false

namespace SchemaTemplate.CommandLine

/-- The name under which the program is called. -/
def programName : String := "cql2cfn"

/-- The version of the program. -/
def programVersion : String := "0.1.0"

/-- How the program is called. -/
def usage : String := s!"Usage: {programName} [OPTIONS] <CQL_SCRIPT> [CFN_TEMPLATE]\n"

/-- What the program is for and how it is called. -/
def helpText : String :=
  "Convert a CQL script into a CloudFormation template for Amazon Keyspaces\n\n" ++ usage ++
    "\nArguments:\n" ++
    "  <CQL_SCRIPT>    Path to a CQL script to be converted\n" ++
    "  [CFN_TEMPLATE]  Path to the generated CloudFormation template (defaults to stdout)\n" ++
    "\nOptions:\n" ++
    "  -d, --debug    Enable debug logging\n" ++
    "  -s, --strict   Exit on warnings in addition to errors\n" ++
    "  -h, --help     Print help\n" ++
    "  -V, --version  Print version\n"

/-! ### The log -/

/-- The word for a level. -/
def levelText : Level → String
  | .debug => "DEBUG"
  | .info => "INFO"
  | .warn => "WARN"
  | .error => "ERROR"

/-- The rank of a level, higher for more important entries. -/
def levelRank : Level → Nat
  | .debug => 0
  | .info => 1
  | .warn => 2
  | .error => 3

/-- An entry as it is shown on a terminal. -/
def logLine (entry : Entry) : String :=
  levelText entry.level ++ " " ++ Text.forTerminal entry.message

/-- The lowest rank of entries that are shown: as the setting says, and without a setting as the
flag for debugging says. -/
def lowestRank (setting : Option String) (debug : Bool) : Nat :=
  match setting with
  | some "off" => 4
  | some "error" => levelRank .error
  | some "warn" => levelRank .warn
  | some "info" => levelRank .info
  | some "debug" => levelRank .debug
  | some "trace" => levelRank .debug
  | _ => levelRank (if debug then .debug else .info)

/-- The lines of the entries that are shown. -/
def logLines (lowest : Nat) (entries : List Entry) : List String :=
  (entries.filter fun entry ↦ lowest ≤ levelRank entry.level).map logLine

/-! ### Runs -/

/-- What a run yields. -/
inductive Outcome
  /-- The arguments make no sense. -/
  | misuse
  | finished (exitCode : Nat) (output : String) (log : List String)
  deriving DecidableEq, Repr

/-- What the report on a conversion amounts to, with the lowest rank of entries that are shown. -/
def Outcome.ofReport (order : Order) (lowest : Nat) (report : Report Conversion) : Outcome :=
  match report.outcome with
  | .ok conversion =>
    let output := if order.output.isSome then "" else conversion.template ++ "\n"
    .finished 0 output (logLines lowest report.entries)
  | .error failure =>
    .finished 1 "" (logLines lowest (report.entries ++ [⟨.error, failure.report⟩]))

/-- Runs the program on arguments, with a setting for the log that overrides the flag. -/
def run {Effect : Type → Type} [Monad Effect] (storage : Storage Effect)
    (logSetting : Option String) (arguments : List String) : Effect Outcome := do
  match Request.ofArguments arguments with
  | .misuse => return .misuse
  | .version => return .finished 0 s!"{programName} {programVersion}\n" []
  | .help => return .finished 0 helpText []
  | .convert order =>
    let strictness : Strictness := if order.strict then .strict else .lenient
    let report ← convertFile storage strictness order.input order.output
    return .ofReport order (lowestRank logSetting order.debug) report

end SchemaTemplate.CommandLine
