import RunMarkers.Config.Basic
import RunMarkers.Json.Printer
import RunMarkers.Json.Reader
import RunMarkers.Json.Record

/-!
# Configuration files

A configuration file is a JSON record. Settings that are empty are not written, and any setting
may be left out.
-/

namespace RunMarkers

namespace Environment

/-- An environment as a JSON object. -/
def toJson (env : Environment) : Json :=
  .ofMembers (env.entries.map fun e => (e.1, Json.ofString e.2))

/-- The setting that a member of an object makes. -/
def settingOfMember : Option String × Json → Except ShapeError (String × String)
  | (some name, value) => value.asString.map fun text => (name, text)
  | (none, _) => .error .malformed

/-- The environment that a JSON object describes. -/
def ofJson : Json → Except ShapeError Environment
  | .object members => do return ofList (← members.mapM settingOfMember)
  | _ => .error .malformed

end Environment

namespace Path

/-- A path as JSON. -/
def toJson (p : Path) : Json := .ofString p.text

/-- The path that a JSON value spells. -/
def ofJson (j : Json) : Except ShapeError Path := j.asString.map Path.mk

end Path

namespace RunnerConfig

/-- The runner's settings as JSON. -/
def toJson (r : RunnerConfig) : Json :=
  .ofMembers (
    (r.command.map fun text => ("command", Json.ofString text)).toList
      ++ (if r.extraArgs.isEmpty then []
        else [("extra_args", .array (r.extraArgs.map Json.ofString))])
      ++ (if r.env.entries.isEmpty then [] else [("env", r.env.toJson)])
      ++ (r.workingDir.map fun dir => ("working_dir", dir.toJson)).toList)

/-- The fields of the runner's settings. -/
def jsonFields : List JsonField :=
  [.of "command" .optional (Json.asOptional Json.asString),
    .of "extra_args" .defaulted (Json.asList Json.asString),
    .of "env" .defaulted Environment.ofJson,
    .of "working_dir" .optional (Json.asOptional Path.ofJson)]

/-- The runner's settings that a JSON value describes. -/
def ofJson (j : Json) : Except ShapeError RunnerConfig := do
  match ← j.readRecord jsonFields with
  | [command, extraArgs, env, workingDir] =>
    return {
      command := ← Json.fieldOr (Json.asOptional Json.asString) none command
      extraArgs := ← Json.fieldOr (Json.asList Json.asString) [] extraArgs
      env := ← Json.fieldOr Environment.ofJson ∅ env
      workingDir := ← Json.fieldOr (Json.asOptional Path.ofJson) none workingDir }
  | _ => throw .malformed

end RunnerConfig

namespace Config

/-- A configuration as JSON. -/
def toJson (c : Config) : Json :=
  .ofMembers [("runner", c.runner.toJson),
    ("suite_extensions", .array (c.suiteExtensions.map Json.ofString))]

/-- The fields of a configuration. -/
def jsonFields : List JsonField :=
  [.of "runner" .defaulted RunnerConfig.ofJson,
    .of "suite_extensions" .defaulted (Json.asList Json.asString)]

/-- The configuration that a JSON value describes. -/
def ofJson (j : Json) : Except ShapeError Config := do
  match ← j.readRecord jsonFields with
  | [runner, suiteExtensions] =>
    return {
      runner := ← Json.fieldOr RunnerConfig.ofJson .default runner
      suiteExtensions := ← Json.fieldOr (Json.asList Json.asString)
        Config.default.suiteExtensions suiteExtensions }
  | _ => throw .malformed

/-- The text of a configuration file. -/
def write (c : Config) : String := c.toJson.pretty

/-- The configuration that the text of a file describes. -/
def read? (text : String) : Option Config := (Json.read? text).bind fun j => (ofJson j).toOption

end Config

end RunMarkers
