import RunMarkers.Cli.Run

/-!
# The program

The command line on the files of the machine. The part of the file system that a request can look at
is read into a file tree, the request is answered on that tree, and a configuration file that the
answer adds is written back. A link counts as what it leads to.
-/

namespace RunMarkers.Machine

/-- The names that an absolute path leads along, two dots leading back up. -/
def namesOf (p : Path) : List String :=
  let follow (names : List String) (part : String) :=
    if part = ".." then names.tail else part :: names
  (p.parts.foldl follow []).reverse

/-- A directory stands at a path of the machine. -/
def isDirectory (path : String) : IO Bool := do
  ((← IO.currentDir) / path).isDir

/-- Something that is no directory stands at a path of the machine. -/
def isPlainFile (path : String) : IO Bool := do
  let found := (← IO.currentDir) / path
  return (← found.pathExists) && !(← found.isDir)

/-- The bytes of a file of the machine, if it can be opened. -/
def contentOf (p : Path) : IO (Except AccessFault ByteArray) := do
  try
    return .ok (← IO.FS.readBinFile p.text)
  catch
    | .permissionDenied .. => return .error .denied
    | _ => return .error .device

/-- Copies a file of the machine into a tree. -/
def addFile (t : FileTree) (p : Path) : IO FileTree := do
  return FileTree.put (.file (← contentOf p)) (namesOf p) t

/-- Copies a directory of the machine into a tree, without its entries but with its configuration
files. -/
def addDirectory (t : FileTree) (p : Path) : IO FileTree := do
  let mut t := t
  if ← isDirectory p.text then
    t := FileTree.makeDir (namesOf p) t
    for name in Config.fileNames do
      let file := p.entry name
      if ← isPlainFile file.text then t ← addFile t file
      else if ← isDirectory file.text then t := FileTree.makeDir (namesOf file) t
  return t

/-- Copies what is visible below a directory of the machine into a tree: suites with their text,
other files without. -/
partial def addBelow (project : Project) (t : FileTree) (p : Path) : IO FileTree := do
  let mut t := t
  for found in ← ((← IO.currentDir) / p.text).readDir do
    let below := p.entry found.fileName
    if isHidden found.fileName then continue
    else if ← isDirectory below.text then
      t ← addBelow project (FileTree.makeDir (namesOf below) t) below
    else if project.isSuite below then t ← addFile t below
    else t := FileTree.put (.file (.ok .empty)) (namesOf below) t
  return t

/-- The part of the machine's files that a path needs: its ancestors with their configuration files,
and what stands at it. -/
def snapshot (p : Path) : IO FileTree := do
  let mut t := FileTree.emptyDir
  for above in p.ancestors.reverse do t ← addDirectory t above
  if ← isPlainFile p.text then addFile t p
  else if ← isDirectory p.text then
    match Project.governing t p with
    | .ok project => addBelow project t p
    | .error _ => return t
  else return t

/-- The path whose surroundings a request looks at. -/
def subject (cwd : Path) : Cli.Request → Path
  | .analyze target _ _ _ | .command target _ => cwd.join (Cli.Target.ofArg target).path
  | .init directory _ => cwd.join ⟨directory.getD "."⟩

/-- Writes back the configuration file of a directory, if an answer changed it. -/
def writeBack (dir : Path) (before after : FileTree) : IO Unit := do
  for name in Config.fileNames do
    let file := dir.entry name
    match before.readBytes file, after.readBytes file with
    | .ok old, .ok new => if old != new then IO.FS.writeBinFile file.text new
    | .error _, .ok new => IO.FS.writeBinFile file.text new
    | _, .error _ => pure ()

/-- The account of an error: its outermost wording, then its causes. -/
def account (chain : List String) : List String :=
  match chain with
  | [] => []
  | [outer] => ["Error: " ++ outer]
  | [outer, cause] => ["Error: " ++ outer, "", "Caused by:", "    " ++ cause]
  | outer :: causes =>
    ["Error: " ++ outer, "", "Caused by:"]
      ++ causes.zipIdx.map fun c => "    " ++ toString c.2 ++ ": " ++ c.1

/-- How the program is used. -/
def usage : List String :=
  ["Usage: run-markers <COMMAND>", "",
    "Commands:",
    "  analyze, a <FILEPATH> [-v|--verbose] [-m|--merged] [--tree]",
    "  command, c <FILEPATH> [--json]",
    "  init [--cwd <CWD>] [-f|--force]",
    "  help [COMMAND]"]

/-- What a stopped command line is told. -/
def complaint : Cli.UsageStop → String
  | .help | .nothing => ""
  | .version => "run-markers 0.1.0"
  | .unknownSubcommand => "error: unrecognized subcommand"
  | .unknownArgument => "error: unexpected argument found"
  | .missingOperand => "error: the required argument <FILEPATH> was not provided"
  | .missingValue => "error: a value is required for '--cwd <CWD>' but none was supplied"
  | .needlessValue => "error: unexpected value for an option that takes none"
  | .repeated => "error: an argument cannot be used multiple times"

/-- Tells why a command line was stopped; asking for help or the version is no fault. -/
def stop (reason : Cli.UsageStop) : IO UInt32 := do
  match reason with
  | .help => usage.forM IO.println; return 0
  | .version => IO.println (complaint reason); return 0
  | .nothing => usage.forM IO.eprintln; return 2
  | _ => IO.eprintln (complaint reason); IO.eprintln ""; usage.forM IO.eprintln; return 2

/-- Runs a command line. -/
def run (args : List String) : IO UInt32 := do
  let cwd : Path := ⟨(← IO.currentDir).toString⟩
  match Cli.Request.ofArgs args with
  | .error reason => stop reason
  | .ok request =>
    let dir := subject cwd request
    let files ← snapshot dir
    let (printout, after) := request.run files cwd
    writeBack dir files after
    IO.print printout.text
    match printout.error with
    | none => return 0
    | some e => (account e.chain).forM IO.eprintln; return 1

end RunMarkers.Machine

/-- The entry point of the program. -/
def main (args : List String) : IO UInt32 := RunMarkers.Machine.run args
