import RunMarkers.Config.Json
import RunMarkers.Proofs.Json.Records

/-!
# Reading back configurations

A configuration is read back from the text of its file. Settings that were left out come back as
their defaults, and the variables come back in the order of their names, in which they are kept.
-/

namespace RunMarkers

open Json (RoundTrips fieldMembers readRecord_fieldMembers isPlain_fieldMembers)

namespace Environment

theorem insertEntry_of_forall_lt {name : String} (value : String) {es : List (String × String)}
    (h : ∀ e ∈ es, e.1 < name) : insertEntry name value es = es ++ [(name, value)] := by
  induction es with
  | nil => rfl
  | cons e es ih =>
      have hlt := h e List.mem_cons_self
      rw [insertEntry, if_neg (String.lt_asymm hlt), if_neg, ih, List.cons_append]
      · exact fun f hf => h f (List.mem_cons_of_mem e hf)
      · rintro rfl
        exact String.lt_irrefl _ hlt

/-- Settings in the order of their names are added behind those that are there. -/
theorem entries_foldl_insert {env : Environment} {settings : List (String × String)}
    (h : (env.entries ++ settings).Pairwise fun a b => a.1 < b.1) :
    (settings.foldl (fun env s => env.insert s.1 s.2) env).entries = env.entries ++ settings := by
  induction settings generalizing env with
  | nil => exact (List.append_nil _).symm
  | cons s settings ih =>
      have hinsert : (env.insert s.1 s.2).entries = env.entries ++ [s] := by
        rw [entries_insert]
        exact insertEntry_of_forall_lt s.2 fun e he =>
          (List.pairwise_append.1 h).2.2 e he s List.mem_cons_self
      rw [List.foldl_cons, ih] <;> rw [hinsert, List.append_assoc, List.singleton_append]
      exact h

theorem ofList_entries (env : Environment) : ofList env.entries = env := by
  have h : (ofList env.entries).entries = env.entries := entries_foldl_insert env.sorted
  generalize ofList env.entries = read at h
  cases read
  cases env
  cases h
  rfl

theorem eq_empty_of_isEmpty {env : Environment} (h : env.entries.isEmpty = true) : env = ∅ := by
  rw [← ofList_entries env, List.isEmpty_iff.1 h]
  rfl

theorem roundTrips (env : Environment) : RoundTrips toJson ofJson env where
  isPlain := by
    refine Json.isPlain_ofMembers fun m hm => ?_
    obtain ⟨e, -, rfl⟩ := List.mem_map.1 hm
    exact .string (some e.2)
  read_write := by
    have hsettings : ((env.entries.map fun e => (e.1, Json.ofString e.2)).map
        fun m => (some m.1, m.2)).mapM settingOfMember = .ok env.entries := by
      rw [mapM_eq_ok_iff, List.map_map, List.forall₂_map_left_iff, List.forall₂_same]
      exact fun e _ => rfl
    rw [toJson, Json.ofMembers, ofJson, hsettings]
    exact congrArg Except.ok (ofList_entries env)

end Environment

theorem Path.roundTrips (p : Path) : RoundTrips toJson ofJson p where
  isPlain := .string (some p.text)
  read_write := rfl

namespace RunnerConfig

theorem roundTrips (r : RunnerConfig) : RoundTrips toJson ofJson r := by
  have hcommand := RoundTrips.conveys_optional r.command
    (fun text _ => Json.roundTrips_ofString text) (fun _ _ => nofun) "command"
  have hextraArgs := (RoundTrips.list r.extraArgs
    fun arg _ => Json.roundTrips_ofString arg).conveys_defaulted
      (List.isEmpty_iff (l := r.extraArgs)).1 "extra_args"
  have henv := (Environment.roundTrips r.env).conveys_defaulted
    Environment.eq_empty_of_isEmpty "env"
  have hworkingDir := RoundTrips.conveys_optional r.workingDir
    (fun dir _ => Path.roundTrips dir) (fun _ _ => nofun) "working_dir"
  have hwritten : r.toJson = .ofMembers (fieldMembers jsonFields [r.command.map Json.ofString,
      if r.extraArgs.isEmpty then none else some (.array (r.extraArgs.map Json.ofString)),
      if r.env.entries.isEmpty then none else some r.env.toJson,
      r.workingDir.map Path.toJson]) := by
    simp [toJson, fieldMembers, jsonFields, JsonField.of]
  constructor
  · rw [hwritten]
    refine isPlain_fieldMembers fun j hj => ?_
    simp only [List.mem_cons, List.not_mem_nil, or_false] at hj
    rcases hj with hj | hj | hj | hj
    · exact hcommand.isPlain j hj
    · exact hextraArgs.isPlain j hj
    · exact henv.isPlain j hj
    · exact hworkingDir.isPlain j hj
  · rw [ofJson, hwritten, readRecord_fieldMembers jsonFields (by decide) (.cons hcommand.takes
      (.cons hextraArgs.takes (.cons henv.takes (.cons hworkingDir.takes .nil))))]
    simp only [bind, Except.bind, hcommand.fieldOr_eq_ok, hextraArgs.fieldOr_eq_ok,
      henv.fieldOr_eq_ok, hworkingDir.fieldOr_eq_ok]
    rfl

end RunnerConfig

namespace Config

theorem roundTrips (c : Config) : RoundTrips toJson ofJson c := by
  have hrunner := RunnerConfig.roundTrips c.runner
  have hsuiteExtensions := RoundTrips.list c.suiteExtensions
    fun extension _ => Json.roundTrips_ofString extension
  have hwritten : c.toJson = .ofMembers (fieldMembers jsonFields
      [some c.runner.toJson, some (.array (c.suiteExtensions.map Json.ofString))]) := rfl
  constructor
  · rw [hwritten]
    refine isPlain_fieldMembers ?_
    simp [hrunner.isPlain, hsuiteExtensions.isPlain]
  · rw [ofJson, hwritten, readRecord_fieldMembers jsonFields (by decide) (.cons hrunner.takes
      (.cons hsuiteExtensions.takes .nil))]
    simp only [bind, Except.bind, Json.fieldOr, hrunner.read_write, hsuiteExtensions.read_write]
    rfl

/-- A configuration is the one that the text of its file describes. -/
theorem read?_write (c : Config) : read? c.write = some c := by
  have h := roundTrips c
  rw [read?, write, Json.read?_pretty h.isPlain, Option.bind_some, h.read_write]
  rfl

end Config

end RunMarkers
