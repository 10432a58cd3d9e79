import RunMarkers.Command.Json
import RunMarkers.Proofs.Config.Json

/-!
# Reading back commands

A command is read back from its JSON, its variables in the order in which they were set, names that
are set twice included.
-/

namespace RunMarkers.Command

open Json (RoundTrips fieldMembers readRecord_fieldMembers isPlain_fieldMembers)

theorem roundTrips_setting (e : String × String) : RoundTrips settingToJson settingOfJson e where
  isPlain := by
    refine .array fun j hj => ?_
    rcases List.mem_pair.1 hj with rfl | rfl
    · exact .string (some e.1)
    · exact .string (some e.2)
  read_write := rfl

theorem roundTrips (c : Command) : RoundTrips toJson ofJson c := by
  have hprogram := Json.roundTrips_ofString c.program
  have hargs := RoundTrips.list c.args fun arg _ => Json.roundTrips_ofString arg
  have hworkingDir := RoundTrips.conveys_optional c.workingDir
    (fun dir _ => Path.roundTrips dir) (fun _ _ => nofun) "working_dir"
  have henv := (RoundTrips.list c.env fun e _ => roundTrips_setting e).conveys_defaulted
    (List.isEmpty_iff (l := c.env)).1 "env"
  have hwritten : c.toJson = .ofMembers (fieldMembers jsonFields [some (.ofString c.program),
      some (.array (c.args.map Json.ofString)), c.workingDir.map Path.toJson,
      if c.env.isEmpty then none else some (.array (c.env.map settingToJson))]) := by
    simp [toJson, fieldMembers, jsonFields, JsonField.of]
  constructor
  · rw [hwritten]
    refine isPlain_fieldMembers fun j hj => ?_
    simp only [List.mem_cons, List.not_mem_nil, or_false] at hj
    rcases hj with ⟨⟨⟩⟩ | ⟨⟨⟩⟩ | hj | hj
    · exact hprogram.isPlain
    · exact hargs.isPlain
    · exact hworkingDir.isPlain j hj
    · exact henv.isPlain j hj
  · rw [ofJson, hwritten, readRecord_fieldMembers jsonFields (by decide) (.cons hprogram.takes
      (.cons hargs.takes (.cons hworkingDir.takes (.cons henv.takes .nil))))]
    simp only [bind, Except.bind, hprogram.read_write, hargs.read_write,
      hworkingDir.fieldOr_eq_ok, henv.fieldOr_eq_ok]
    rfl

end RunMarkers.Command
