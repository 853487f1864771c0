import SchemaTemplate.CommandLine.Run

/-!
The program on the command line: files are those of the system, the log goes to the standard error,
and a variable of the environment can set which entries are shown.
-/

set_option autoImplicit false
set_option relaxedAutoImplicit false

namespace SchemaTemplate.CommandLine

/-- The words of the system about an error. -/
def systemReason : IO.Error → String
  | .noFileOrDirectory _ code details => s!"{details} (os error {code})"
  | .permissionDenied _ code details => s!"{details} (os error {code})"
  | .inappropriateType _ code details => s!"{details} (os error {code})"
  | .otherError code details => s!"{details} (os error {code})"
  | error => toString error

/-- The files of the system. -/
def systemStorage : Storage IO where
  load path := do
    try
      let handle ← IO.FS.Handle.mk path .read
      return .ok (← handle.readBinToEnd)
    catch error => return .error (systemReason error)
  save path content := do
    try
      IO.FS.writeFile path content
      return .ok ()
    catch error => return .error (systemReason error)

end SchemaTemplate.CommandLine

open SchemaTemplate.CommandLine in
/-- Runs the program. -/
def main (arguments : List String) : IO UInt32 := do
  let setting ← IO.getEnv "RUST_LOG"
  match ← run systemStorage setting arguments with
  | .misuse =>
    IO.eprint usage
    return 2
  | .finished exitCode output log =>
    for line in log do IO.eprintln line
    IO.print output
    return exitCode.toUInt32
