import RunMarkers.Cli.Init
import RunMarkers.Proofs.Config.Lookup
import RunMarkers.Proofs.Saving

/-!
# What starting a project changes

Without force, `init` keeps a configuration file with the hidden name. It does not look for one with
the plain name, which the new hidden file goes before.
-/

namespace RunMarkers.Cli.Init

open Config (fileIn? fileNames findFile? governing)

variable {files after : FileTree} {cwd root config : Path} {directory : Option String}

theorem isAbsolute_of_canonical {p : Path} (h : files.canonical p = .ok root) :
    root.isAbsolute = true := by
  obtain ⟨names, -, hroot⟩ := bind_eq_ok_iff.1 h
  rw [← pure_eq_ok_iff.1 hroot]
  refine Path.isAbsolute_iff.2 ⟨("/".intercalate names).toList, ?_⟩
  rw [String.toList_append]
  rfl

theorem isAbsolute_of_rootFor (h : rootFor files cwd directory = .ok root) :
    root.isAbsolute = true := by
  cases directory with
  | none => exact isAbsolute_of_canonical h
  | some dir =>
      rw [rootFor] at h
      split at h
      next => cases h
      next => exact isAbsolute_of_canonical h

/-- A run keeps the files, or writes the default configuration where nothing stood. -/
theorem run_cases (h : rootFor files cwd directory = .ok root) :
    (files.existsAt (root.entry ".robot-runner.json") = true ∨
        (run files cwd directory false).1.error ≠ none) ∧
      (run files cwd directory false).2 = files ∨
    (files.existsAt (root.entry ".robot-runner.json") = false ∧
        (run files cwd directory false).1.error = none) ∧
      Config.default.save files (root.entry ".robot-runner.json") =
        .ok (run files cwd directory false).2 := by
  simp only [run, h]
  cases hexists : files.existsAt (root.entry ".robot-runner.json") with
  | true => exact .inl ⟨.inl rfl, rfl⟩
  | false =>
      cases Config.default.save files (root.entry ".robot-runner.json") with
      | error fault => exact .inl ⟨.inr (Option.some_ne_none _), rfl⟩
      | ok after => exact .inr ⟨⟨rfl, rfl⟩, rfl⟩

/-- A configuration file with the hidden name is the first one looked at. -/
theorem findFile?_of_save (hroot : root.isAbsolute = true)
    (hsave : Config.default.save files (root.entry ".robot-runner.json") = .ok after) :
    findFile? after root = some (root.entry ".robot-runner.json") := by
  refine Config.findFile?_of_fileIn?_eq_some hroot ?_
  have hfile : after.isFileAt (root.entry ".robot-runner.json") = true :=
    FileTree.isFileAt_iff.2 ⟨_, FileTree.find_of_writeText hsave⟩
  rw [fileIn?, fileNames, List.map_cons, List.find?_cons_of_pos hfile]

theorem existsAt_of_findFile?_eq_some (h : findFile? files root = some config) :
    files.existsAt config = true := by
  obtain ⟨bytes, hfind⟩ := FileTree.isFileAt_iff.1 (Config.isFileAt_of_findFile?_eq_some h)
  exact FileTree.existsAt_of_find_eq_ok hfind

/-- A run without force leaves the governing configurations as they are exactly if something stands
under the hidden name or the run fails. Otherwise a configuration file with the plain name is
replaced by the default configuration. -/
theorem run_keeps_governing_iff (hroot : rootFor files cwd directory = .ok root) :
    ((∀ path, findFile? (run files cwd directory false).2 path = findFile? files path ∧
        governing (run files cwd directory false).2 path = governing files path) ↔
      files.existsAt (root.entry ".robot-runner.json") = true ∨
        (run files cwd directory false).1.error ≠ none) ∧
    ∀ config, fileIn? files root = some config →
      files.existsAt (root.entry ".robot-runner.json") = false →
        (run files cwd directory false).1.error = none →
          config = root.entry "robot-runner.json" ∧ findFile? files root = some config ∧
            findFile? (run files cwd directory false).2 root =
              some (root.entry ".robot-runner.json") ∧
            governing (run files cwd directory false).2 root = .ok .default := by
  have habsolute := isAbsolute_of_rootFor hroot
  rcases run_cases hroot with ⟨hkept, hfiles⟩ | ⟨⟨hnone, hran⟩, hsave⟩
  · refine ⟨iff_of_true (fun path => ?_) hkept, fun config _ hnone hran => ?_⟩
    · rw [hfiles]
      exact ⟨rfl, rfl⟩
    · rcases hkept with hexists | hfailed
      · exact absurd (hexists.symm.trans hnone) Bool.noConfusion
      · exact absurd hran hfailed
  · have hafter := findFile?_of_save habsolute hsave
    refine ⟨iff_of_false (fun hsame => ?_) ?_, fun config hconfig _ _ => ?_⟩
    · have hbefore := (hsame root).1.symm.trans hafter
      exact absurd (hnone.symm.trans (existsAt_of_findFile?_eq_some hbefore)) Bool.noConfusion
    · simp [hnone, hran]
    · have hbefore := Config.findFile?_of_fileIn?_eq_some habsolute hconfig
      have hexists := existsAt_of_findFile?_eq_some hbefore
      refine ⟨?_, hbefore, hafter, ?_⟩
      · rcases List.mem_pair.1 (List.mem_of_find?_eq_some hconfig) with rfl | rfl
        · exact absurd (hnone.symm.trans hexists) Bool.noConfusion
        · rfl
      · rw [governing, hafter]
        exact Config.load_of_save hsave

/-- A directory that holds a configuration file with the plain name. -/
def plainTree : FileTree :=
  .dir [("r", .dir [("robot-runner.json",
    .file (.ok "\x7b\"suite_extensions\": [\"txt\"]\x7d".toUTF8))])]

theorem rootFor_plainTree : rootFor plainTree ⟨"/"⟩ (some "r") = .ok ⟨"/r"⟩ := by rfl

theorem fileIn?_plainTree : fileIn? plainTree ⟨"/r"⟩ = some ⟨"/r/robot-runner.json"⟩ := by rfl

theorem run_plainTree :
    plainTree.existsAt (Path.entry ⟨"/r"⟩ ".robot-runner.json") = false ∧
      (run plainTree ⟨"/"⟩ (some "r") false).1.error = none :=
  ⟨by rfl, by rfl⟩

theorem run_keeps_governing_iff_plainTree :
    fileIn? plainTree ⟨"/r"⟩ = some ⟨"/r/robot-runner.json"⟩ ∧
      (run plainTree ⟨"/"⟩ (some "r") false).1.error = none ∧
      findFile? plainTree ⟨"/r"⟩ = some ⟨"/r/robot-runner.json"⟩ ∧
      findFile? (run plainTree ⟨"/"⟩ (some "r") false).2 ⟨"/r"⟩ =
        some (Path.entry ⟨"/r"⟩ ".robot-runner.json") := by
  have hkept := (run_keeps_governing_iff rootFor_plainTree).2 _ fileIn?_plainTree run_plainTree.1
    run_plainTree.2
  exact ⟨fileIn?_plainTree, run_plainTree.2, hkept.2.1, hkept.2.2.1⟩

/-- The configuration in the plain file no longer governs the directory. -/
theorem governing_run_plainTree_ne :
    plainTree.isFileAt ⟨"/r/robot-runner.json"⟩ = true ∧
      governing plainTree ⟨"/r"⟩ = .ok ⟨.default, ["txt"]⟩ ∧
      governing (run plainTree ⟨"/"⟩ (some "r") false).2 ⟨"/r"⟩ = .ok .default := by
  have habsolute := isAbsolute_of_rootFor rootFor_plainTree
  refine ⟨by rfl, ?_, ?_⟩
  · have hread : plainTree.readText ⟨"/r/robot-runner.json"⟩ =
        .ok "\x7b\"suite_extensions\": [\"txt\"]\x7d" := by rfl
    have hconfig : Config.read? "\x7b\"suite_extensions\": [\"txt\"]\x7d" =
        some ⟨.default, ["txt"]⟩ := by
      decide +kernel
    rw [governing, Config.findFile?_of_fileIn?_eq_some habsolute fileIn?_plainTree]
    exact Config.load_of_readText hread hconfig
  · rcases run_cases rootFor_plainTree with ⟨hkept, -⟩ | ⟨-, hsave⟩
    · simp [run_plainTree.1, run_plainTree.2] at hkept
    · rw [governing, findFile?_of_save habsolute hsave]
      exact Config.load_of_save hsave

end RunMarkers.Cli.Init
