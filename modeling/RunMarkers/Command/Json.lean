import RunMarkers.Command.Basic
import RunMarkers.Config.Json

/-!
# Commands as JSON

The working directory and the variables are left out when there are none. A variable is an array of
its name and its text.
-/

namespace RunMarkers.Command

/-- A variable as JSON. -/
def settingToJson (e : String × String) : Json := .array [.ofString e.1, .ofString e.2]

/-- The variable that a JSON value describes. -/
def settingOfJson : Json → Except ShapeError (String × String)
  | .array [name, value] => do return (← name.asString, ← value.asString)
  | _ => .error .malformed

/-- A command as JSON. -/
def toJson (c : Command) : Json :=
  .ofMembers ([("program", .ofString c.program), ("args", .array (c.args.map Json.ofString))]
    ++ (c.workingDir.map fun dir => ("working_dir", dir.toJson)).toList
    ++ if c.env.isEmpty then [] else [("env", .array (c.env.map settingToJson))])

/-- The fields of a command. -/
def jsonFields : List JsonField :=
  [.of "program" .required Json.asString,
    .of "args" .required (Json.asList Json.asString),
    .of "working_dir" .optional (Json.asOptional Path.ofJson),
    .of "env" .defaulted (Json.asList settingOfJson)]

/-- The command that a JSON value describes. -/
def ofJson (j : Json) : Except ShapeError Command := do
  match ← j.readRecord jsonFields with
  | [some program, some args, workingDir, env] =>
    return {
      program := ← program.asString
      args := ← args.asList Json.asString
      workingDir := ← Json.fieldOr (Json.asOptional Path.ofJson) none workingDir
      env := ← Json.fieldOr (Json.asList settingOfJson) [] env }
  | _ => throw .malformed

end RunMarkers.Command
