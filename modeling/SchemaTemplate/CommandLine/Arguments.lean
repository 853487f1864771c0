/-!
Arguments of the command line. Flags are one letter behind a dash, where several letters may share
the dash, or a word behind two dashes; two dashes alone end the flags. Every other argument is a
path. Arguments are taken in their order, and the first one that cannot be accepted, or that asks
for nothing but information, settles the matter.
-/

set_option autoImplicit false
set_option relaxedAutoImplicit false

namespace SchemaTemplate.CommandLine

/-- What the arguments say about a conversion. -/
structure Options where
  debug : Bool
  strict : Bool
  /-- The script file and perhaps the template file. -/
  paths : List String
  deriving DecidableEq, Repr

/-- A conversion that the arguments ask for. -/
structure Order where
  debug : Bool
  strict : Bool
  input : String
  output : Option String
  deriving DecidableEq, Repr

/-- What the arguments ask for. -/
inductive Request
  | convert (order : Order)
  | version
  | help
  /-- Nothing that makes sense. -/
  | misuse
  deriving DecidableEq, Repr

/-- A flag. -/
inductive Flag
  | debug
  | strict
  | version
  | help
  deriving DecidableEq, Repr

/-- The flag with a letter. -/
def Flag.ofLetter? : Char → Option Flag
  | 'd' => some .debug
  | 's' => some .strict
  | 'V' => some .version
  | 'h' => some .help
  | _ => none

/-- The flag with a word. -/
def Flag.ofWord? (word : List Char) : Option Flag :=
  match String.ofList word with
  | "debug" => some .debug
  | "strict" => some .strict
  | "version" => some .version
  | "help" => some .help
  | _ => none

namespace Options

/-- The options before the first argument. -/
def initial : Options := ⟨false, false, []⟩

/-- Takes a flag, which must not be given twice. An error is a request that is settled. -/
def addFlag (options : Options) : Flag → Except Request Options
  | .debug => if options.debug then .error .misuse else .ok { options with debug := true }
  | .strict => if options.strict then .error .misuse else .ok { options with strict := true }
  | .version => .error .version
  | .help => .error .help

/-- Takes a flag if there is one. -/
def addFlag? (options : Options) : Option Flag → Except Request Options
  | some flag => options.addFlag flag
  | none => .error .misuse

/-- Takes a path, which must not be empty; there are at most two. -/
def addPath (options : Options) (path : String) : Except Request Options :=
  if path.isEmpty || options.paths.length ≥ 2 then .error .misuse
  else .ok { options with paths := options.paths ++ [path] }

/-- Takes one argument in front of the two dashes that end the flags. -/
def addArgument (options : Options) (argument : String) : Except Request Options :=
  match argument.toList with
  | '-' :: '-' :: word => options.addFlag? (Flag.ofWord? word)
  | '-' :: letter :: letters =>
    (letter :: letters).foldlM (fun options letter ↦ options.addFlag? (Flag.ofLetter? letter))
      options
  | _ => options.addPath argument

/-- Takes all arguments. -/
def addArguments (options : Options) : List String → Except Request Options
  | [] => .ok options
  | argument :: rest =>
    if argument = "--" then rest.foldlM addPath options
    else (options.addArgument argument).bind fun options ↦ options.addArguments rest

/-- The request that the options amount to. -/
def request (options : Options) : Request :=
  match options.paths with
  | [] => .misuse
  | input :: rest =>
    .convert ⟨options.debug, options.strict, input, rest.head?⟩

end Options

/-- What the arguments of the command line ask for. -/
def Request.ofArguments (arguments : List String) : Request :=
  match Options.initial.addArguments arguments with
  | .ok options => options.request
  | .error request => request

end SchemaTemplate.CommandLine
