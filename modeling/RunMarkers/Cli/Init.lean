import RunMarkers.Cli.Printout

/-!
# Starting a project

`init` writes a configuration file with the defaults into a directory. A file that is already
there is kept unless the writing is forced.
-/

namespace RunMarkers.Cli.Init

/-- The directory that is asked for, by default the working directory, without detours. -/
def rootFor (files : FileTree) (cwd : Path) : Option String → Except FileFault Path
  | none => files.canonical cwd
  | some dir => if dir.isEmpty then .error .notFound else files.canonical (cwd.join ⟨dir⟩)

/-- What `init` prints, and the files after it. -/
def run (files : FileTree) (cwd : Path) (directory : Option String) (force : Bool) :
    Printout × FileTree :=
  match rootFor files cwd directory with
  | .error fault => (.failed (.noRoot fault), files)
  | .ok root =>
    let path := root.entry ".robot-runner.json"
    if files.existsAt path && !force then
      (.lines ["❌ Config already exists at: " ++ path.text, "   Use --force to overwrite"], files)
    else
      match Config.default.save files path with
      | .error fault => (.failed (.cannotWrite path fault), files)
      | .ok files =>
        (.lines ["✅ Created config: " ++ path.text,
          "\n📌 Edit 'runner' to change the command, extra_args, env or working_dir",
          "   and 'suite_extensions' to pick which files count as suites."], files)

end RunMarkers.Cli.Init
