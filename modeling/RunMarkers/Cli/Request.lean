/-!
# Command lines

What the arguments of a command line ask for. Options start with dashes: two before a long name,
one before a row of letters. A long option takes its value after an equals sign or as the next
argument. After two dashes alone, everything is an operand. Arguments are read from left to right,
and the first fault ends the reading; an option that awaits its value is settled when the next
option or operand comes, or at the end.
-/

namespace RunMarkers.Cli

/-- What a command line asks for. -/
inductive Request where
  | analyze (target : String) (verbose merged tree : Bool)
  | command (target : String) (json : Bool)
  | init (directory : Option String) (force : Bool)
  deriving DecidableEq, Repr

/-- Why a command line asks for nothing that can be done. -/
inductive UsageStop where
  /-- It asks for help. -/
  | help
  /-- It asks for the version. -/
  | version
  /-- It is empty. -/
  | nothing
  | unknownSubcommand
  | unknownArgument
  | missingOperand
  | missingValue
  /-- A value for an option that takes none. -/
  | needlessValue
  /-- An option that may stand once stands twice. -/
  | repeated
  deriving DecidableEq, Repr

/-- The options and operands of a subcommand. Every subcommand has a help option besides. -/
structure Grammar where
  /-- Options without a value: long names, each with its letter if it has one. -/
  flags : List (List Char × Option Char)
  /-- Long names of options with a value. -/
  valued : List (List Char)
  /-- One operand is required; otherwise none is allowed. -/
  hasOperand : Bool

/-- What has been read of the arguments of a subcommand. -/
structure Reading where
  flags : List (List Char)
  values : List (List Char × List Char)
  /-- An option with a value that is not settled yet, and its value if that has come. -/
  pending : Option (List Char × Option (List Char))
  operand : Option (List Char)
  /-- Two dashes have come. -/
  operandsOnly : Bool

namespace Reading

/-- Nothing read. -/
def empty : Reading := ⟨[], [], none, none, false⟩

/-- Records the value of an option. -/
def addValue (r : Reading) (name value : List Char) : Except UsageStop Reading :=
  if r.values.any fun v => v.1 == name then .error .repeated
  else .ok { r with values := r.values ++ [(name, value)] }

/-- Settles the option that awaits its value. -/
def settle (r : Reading) : Except UsageStop Reading :=
  match r.pending with
  | none => .ok r
  | some (_, none) => .error .missingValue
  | some (name, some value) => { r with pending := none }.addValue name value

/-- Records an option without a value. -/
def addFlag (r : Reading) (name : List Char) : Except UsageStop Reading := do
  let r ← r.settle
  if name = ['h', 'e', 'l', 'p'] then throw .help
  else if r.flags.contains name then throw .repeated
  else return { r with flags := r.flags ++ [name] }

/-- Records an operand. -/
def addOperand (g : Grammar) (r : Reading) (arg : List Char) : Except UsageStop Reading :=
  if g.hasOperand && r.operand.isNone then do
    return { ← r.settle with operand := some arg }
  else .error .unknownArgument

/-- Reads a long option, without its dashes. -/
def addLong (g : Grammar) (r : Reading) (arg : List Char) : Except UsageStop Reading :=
  let name := arg.takeWhile (· != '=')
  let value := (arg.dropWhile (· != '=')).tail?
  if name = ['h', 'e', 'l', 'p'] ∨ g.flags.any fun f => f.1 == name then
    match value with
    | some _ => .error .needlessValue
    | none => r.addFlag name
  else if g.valued.contains name then
    match value with
    | some v => do (← r.settle).addValue name v
    | none => do return { ← r.settle with pending := some (name, none) }
  else .error .unknownArgument

/-- Reads a row of letters. -/
def addLetters (g : Grammar) (r : Reading) : List Char → Except UsageStop Reading
  | [] => .ok r
  | c :: cs =>
    if c = 'h' then do (← r.addFlag ['h', 'e', 'l', 'p']).addLetters g cs
    else
      match g.flags.find? fun f => f.2 == some c with
      | some f => do (← r.addFlag f.1).addLetters g cs
      | none => .error .unknownArgument

/-- Reads an argument that is no option. -/
def addWord (g : Grammar) (r : Reading) (arg : List Char) : Except UsageStop Reading :=
  match r.pending with
  | some (name, none) => .ok { r with pending := some (name, some arg) }
  | _ => r.addOperand g arg

/-- Reads one argument. -/
def add (g : Grammar) (r : Reading) (arg : List Char) : Except UsageStop Reading :=
  if r.operandsOnly then r.addOperand g arg
  else
    match arg with
    | ['-', '-'] => .ok { r with operandsOnly := true }
    | '-' :: '-' :: rest => r.addLong g rest
    | '-' :: c :: rest => r.addLetters g (c :: rest)
    | _ => r.addWord g arg

/-- Reads the arguments of a subcommand. -/
def ofArgs (g : Grammar) (args : List String) : Except UsageStop Reading := do
  let r ← args.foldlM (fun r arg => r.add g arg.toList) empty
  let r ← r.settle
  if g.hasOperand && r.operand.isNone then throw .missingOperand
  else return r

/-- The option was given. -/
def has (r : Reading) (name : String) : Bool := r.flags.contains name.toList

/-- The value of an option. -/
def value? (r : Reading) (name : String) : Option String :=
  (r.values.find? fun v => v.1 == name.toList).map fun v => String.ofList v.2

/-- The operand. -/
def operandText (r : Reading) : String := String.ofList (r.operand.getD [])

end Reading

namespace Request

/-- The options of `analyze`. -/
def analyzeGrammar : Grammar where
  flags := [("verbose".toList, some 'v'), ("merged".toList, some 'm'), ("tree".toList, none)]
  valued := []
  hasOperand := true

/-- The options of `command`. -/
def commandGrammar : Grammar := ⟨[("json".toList, none)], [], true⟩

/-- The options of `init`. -/
def initGrammar : Grammar := ⟨[("force".toList, some 'f')], ["cwd".toList], false⟩

/-- A subcommand, with the request that its arguments make. -/
structure Subcommand where
  names : List String
  request : List String → Except UsageStop Request

/-- Lists what can be run. -/
def analyzeSubcommand : Subcommand where
  names := ["analyze", "a"]
  request args := do
    let r ← Reading.ofArgs analyzeGrammar args
    return .analyze r.operandText (r.has "verbose") (r.has "merged") (r.has "tree")

/-- Prints the command for a line or a file. -/
def commandSubcommand : Subcommand where
  names := ["command", "c"]
  request args := do
    let r ← Reading.ofArgs commandGrammar args
    return .command r.operandText (r.has "json")

/-- Writes a configuration file. -/
def initSubcommand : Subcommand where
  names := ["init"]
  request args := do
    let r ← Reading.ofArgs initGrammar args
    return .init (r.value? "cwd") (r.has "force")

/-- The subcommands that do something. -/
def workingSubcommands : List Subcommand := [analyzeSubcommand, commandSubcommand, initSubcommand]

/-- The help on the program, or on the subcommand named; no subcommand has subcommands of its
own. -/
def helpSubcommand : Subcommand where
  names := ["help"]
  request args :=
    let known := "help" :: workingSubcommands.flatMap Subcommand.names
    match args with
    | [] => .error .help
    | [name] => .error (if known.contains name then .help else .unknownSubcommand)
    | _ => .error .unknownSubcommand

/-- All subcommands. -/
def subcommands : List Subcommand := workingSubcommands ++ [helpSubcommand]

/-- The subcommand of a name. -/
def subcommand? (name : String) : Option Subcommand :=
  subcommands.find? fun s => s.names.contains name

/-- Why an argument that names no subcommand cannot stand first. -/
def stopAtFirst (arg : List Char) : UsageStop :=
  match arg with
  | '-' :: '-' :: rest =>
    let name := rest.takeWhile (· != '=')
    if name ≠ "help".toList ∧ name ≠ "version".toList then .unknownArgument
    else if rest.contains '=' then .needlessValue
    else if name = "help".toList then .help
    else .version
  | '-' :: c :: _ =>
    if c = 'h' then .help else if c = 'V' then .version else .unknownArgument
  | _ => .unknownSubcommand

/-- What the arguments of a command line ask for. -/
def ofArgs : List String → Except UsageStop Request
  | [] => .error .nothing
  | ["--"] => .error .nothing
  | "--" :: arg :: _ =>
    match subcommand? arg with
    | some _ => .error .unknownArgument
    | none => .error .unknownSubcommand
  | arg :: args =>
    match subcommand? arg with
    | some s => s.request args
    | none => .error (stopAtFirst arg.toList)

end Request

end RunMarkers.Cli
