import RunMarkers.Cli.Analyze
import RunMarkers.Proofs.FileTree.Find
import RunMarkers.Proofs.Project

/-!
# The report on a directory

Every suite below a directory is read under the configuration that governs the directory, a suite
that is analysed alone under the one that governs the suite. The two may differ, since a
configuration file can stand between them. `SuiteReport.agrees_iff` says when the report has the
markers that the suite alone has all the same.
-/

namespace RunMarkers

namespace Marker

theorem pretty_listToJson_eq_iff {ms : List Marker} :
    (listToJson ms).pretty = (listToJson []).pretty ↔ ms = [] := by
  constructor
  · intro h
    cases ms with
    | nil => rfl
    | cons m ms =>
        have hchars := String.ofList_injective h
        simp [listToJson, Json.chars, JsonLayout.indented] at hchars
  · rintro rfl
    rfl

end Marker

namespace Cli

theorem Printout.line_inj {s t : String} : Printout.line s = .line t ↔ s = t := by
  simp [Printout.line]

namespace Analyze

variable {files : FileTree} {cwd path : Path} {p : Project}

theorem reports_eq_ok_iff {suites : List Path} {rs : List SuiteReport} :
    reports p suites = .ok rs ↔
      rs.map SuiteReport.path = suites ∧ ∀ r ∈ rs, p.markers r.path = .ok r.markers := by
  rw [reports, mapM_eq_ok_iff]
  simp only [bind_eq_ok_iff, pure_eq_ok_iff]
  constructor
  · intro h
    induction h with
    | nil => simp
    | cons hfirst _ ih =>
        obtain ⟨ms, hms, rfl⟩ := hfirst
        obtain ⟨hpaths, hmarkers⟩ := ih
        refine ⟨by rw [List.map_cons, hpaths], ?_⟩
        rintro r (_ | ⟨_, hr⟩)
        · exact hms
        · exact hmarkers r hr
  · rintro ⟨rfl, hmarkers⟩
    rw [List.forall₂_map_left_iff, List.forall₂_same]
    intro r hr
    exact ⟨r.markers, hmarkers r hr, rfl⟩

theorem openProject_eq_ok_iff :
    openProject files path = .ok p ↔ Project.governing files path = .ok p := by
  rw [openProject, mapError_eq_ok_iff]

theorem resolve_eq_ok {found : FileTree} (hfind : files.find (cwd.join path) = .ok found) :
    resolve files cwd path = .ok (cwd.join path) :=
  if_pos (FileTree.existsAt_of_find_eq_ok hfind)

/-- The path that an argument names, its line aside. -/
def pathOf (cwd : Path) (arg : String) : Path := cwd.join (Target.ofArg arg).path

theorem run_directory {arg : String} (hdir : files.isDirAt (pathOf cwd arg) = true) :
    run files cwd arg true false false =
      match openProject files (pathOf cwd arg) with
      | .error e => .failed e
      | .ok p => .ofResult (reports p (p.suites (pathOf cwd arg))) fun rs =>
        .line (Json.array (rs.map SuiteReport.toJson)).pretty := by
  obtain ⟨found, hfind⟩ := FileTree.exists_find_eq_ok_of_isDirAt hdir
  have hresolve : resolve files cwd (Target.ofArg arg).path = .ok (pathOf cwd arg) :=
    resolve_eq_ok hfind
  unfold run
  simp only [hresolve]
  cases openProject files (pathOf cwd arg) with
  | error e => rfl
  | ok p => simp only [if_pos hdir, directory, if_true]

theorem exists_reports_of_run {arg : String} (hdir : files.isDirAt (pathOf cwd arg) = true)
    (hrun : (run files cwd arg true false false).error = none) :
    ∃ p rs, Project.governing files (pathOf cwd arg) = .ok p ∧
      reports p (p.suites (pathOf cwd arg)) = .ok rs ∧
      run files cwd arg true false false =
        .line (Json.array (rs.map SuiteReport.toJson)).pretty := by
  rw [run_directory hdir] at hrun ⊢
  cases hproject : openProject files (pathOf cwd arg) with
  | error e => simp [hproject, Printout.failed] at hrun
  | ok p =>
      cases hreports : reports p (p.suites (pathOf cwd arg)) with
      | error e => simp [hproject, hreports, Printout.ofResult, Printout.failed] at hrun
      | ok rs =>
          refine ⟨p, rs, openProject_eq_ok_iff.1 hproject, hreports, ?_⟩
          simp only [hreports, Printout.ofResult]

theorem run_file {content : Except AccessFault ByteArray}
    (htarget : Target.ofArg path.text = ⟨path, none⟩)
    (hfind : files.find path = .ok (.file content)) :
    run files cwd path.text true false false =
      match openProject files path with
      | .error e => .failed e
      | .ok own => .ofResult (own.analysis path) .line := by
  have hjoin := Path.join_of_isAbsolute cwd (FileTree.isAbsolute_of_find_eq_ok hfind)
  have hresolve : resolve files cwd path = .ok path := by
    rw [← hjoin] at hfind
    rw [resolve_eq_ok hfind, hjoin]
  have hdir : ¬ files.isDirAt path = true := by
    rw [FileTree.isDirAt_of_find_eq_ok hfind]
    simp [FileTree.isDir]
  unfold run
  simp only [htarget, hresolve]
  cases openProject files path with
  | error e => rfl
  | ok own => exact if_neg hdir

/-- A suite of any project, analysed alone, has its markers printed unless it is no suite under the
project that governs it. -/
theorem run_suite {ms : List Marker} (hfiles : p.files = files) (hsuite : p.isSuite path = true)
    (hmarkers : p.markers path = .ok ms) (htarget : Target.ofArg path.text = ⟨path, none⟩) :
    run files cwd path.text true false false =
      match openProject files path with
      | .error e => .failed e
      | .ok own => .line (Marker.listToJson (if own.isSuite path then ms else [])).pretty := by
  -- its markers were read, so a file stands there
  obtain ⟨bytes, hfind⟩ := Project.exists_find_of_markers hmarkers
  rw [run_file htarget (hfiles ▸ hfind)]
  cases hown : openProject files path with
  | error e => rfl
  | ok own =>
      have hown' := Project.files_of_governing (openProject_eq_ok_iff.1 hown)
      have hmarkers' := Project.markers_of_markers (hown'.trans hfiles.symm) hsuite hmarkers
      simp only [Project.analysis, hmarkers']
      rfl

/-- The suite alone has the markers of the report. -/
def SuiteReport.Agrees (files : FileTree) (cwd : Path) (r : SuiteReport) : Prop :=
  run files cwd r.path.text true false false = .line (Marker.listToJson r.markers).pretty

theorem SuiteReport.agrees_iff (cwd : Path) {r : SuiteReport} (hfiles : p.files = files)
    (hsuite : p.isSuite r.path = true) (hmarkers : p.markers r.path = .ok r.markers)
    (htarget : Target.ofArg r.path.text = ⟨r.path, none⟩) :
    r.Agrees files cwd ↔ ∃ own, Project.governing files r.path = .ok own ∧
      (own.isSuite r.path = true ∨ r.markers = []) := by
  rw [Agrees, run_suite hfiles hsuite hmarkers htarget]
  simp only [← openProject_eq_ok_iff]
  cases openProject files r.path with
  | error e => simp [Printout.failed, Printout.line]
  | ok own =>
      rw [Printout.line_inj]
      by_cases hown : own.isSuite r.path = true
      · simp [hown]
      · -- no markers are printed, and the text of none is that of no others
        simp [hown, eq_comm (a := (Marker.listToJson []).pretty), Marker.pretty_listToJson_eq_iff]

/-- The report on a directory has, for each suite below it, the markers that the suite alone has,
wherever the same project governs both. In general it does so exactly when the project that governs
the suite can be opened and holds it for a suite, or there is nothing to find in it. -/
theorem exists_reports_agree_iff {arg : String} (hdir : files.isDirAt (pathOf cwd arg) = true)
    (hrun : (run files cwd arg true false false).error = none) :
    ∃ p rs, Project.governing files (pathOf cwd arg) = .ok p ∧
      reports p (p.suites (pathOf cwd arg)) = .ok rs ∧
      run files cwd arg true false false =
        .line (Json.array (rs.map SuiteReport.toJson)).pretty ∧
      ∀ r ∈ rs, Target.ofArg r.path.text = ⟨r.path, none⟩ →
        (Project.governing files r.path = .ok p → r.Agrees files cwd) ∧
        (r.Agrees files cwd ↔ ∃ own, Project.governing files r.path = .ok own ∧
          (own.isSuite r.path = true ∨ r.markers = [])) := by
  obtain ⟨p, rs, hproject, hreports, hprint⟩ := exists_reports_of_run hdir hrun
  obtain ⟨hpaths, hmarkers⟩ := reports_eq_ok_iff.1 hreports
  have hfiles := Project.files_of_governing hproject
  refine ⟨p, rs, hproject, hreports, hprint, fun r hr htarget => ?_⟩
  have hsuite : p.isSuite r.path = true :=
    Project.isSuite_of_mem_suites (hpaths ▸ List.mem_map_of_mem hr)
  have hiff := SuiteReport.agrees_iff cwd hfiles hsuite (hmarkers r hr) htarget
  exact ⟨fun hsame => hiff.2 ⟨p, hsame, .inl hsuite⟩, hiff⟩

/-- A directory with a suite, and within it one whose own configuration calls no file a suite. -/
def nestedTree : FileTree :=
  let suite := FileTree.file (.ok "*** Tasks ***\nCase\n".toUTF8)
  .dir [("d", .dir [("a.robot", suite),
    ("sub", .dir [(".robot-runner.json", .file (.ok "\x7b\"suite_extensions\": []\x7d".toUTF8)),
      ("a.robot", suite)])])]

theorem ancestors_d : Path.ancestors ⟨"/d"⟩ = [⟨"/d"⟩, ⟨"/"⟩] := by
  rw [Path.ancestors_of_parent?_eq_some (q := ⟨"/"⟩) (by decide),
    Path.ancestors_of_parent?_eq_none (by decide)]

theorem governing_nestedTree :
    Project.governing nestedTree ⟨"/d"⟩ = .ok ⟨nestedTree, .default⟩ := by
  have hfile : Config.findFile? nestedTree ⟨"/d"⟩ = none := by
    rw [Config.findFile?, Config.searchPath, if_neg (by decide), ancestors_d]
    decide
  exact Project.governing_of_findFile?_eq_none hfile

theorem governing_nestedTree_sub :
    Project.governing nestedTree ⟨"/d/sub/a.robot"⟩ = .ok ⟨nestedTree, .default, []⟩ := by
  have hfile : Config.findFile? nestedTree ⟨"/d/sub/a.robot"⟩ =
      some ⟨"/d/sub/.robot-runner.json"⟩ := by
    rw [Config.findFile?, Config.searchPath, if_pos (by decide),
      Path.ancestors_of_parent?_eq_some (q := ⟨"/d/sub"⟩) (by decide),
      Path.ancestors_of_parent?_eq_some (q := ⟨"/d"⟩) (by decide)]
    rfl
  have hread : nestedTree.readText ⟨"/d/sub/.robot-runner.json"⟩ =
      .ok "\x7b\"suite_extensions\": []\x7d" := by rfl
  have hconfig : Config.read? "\x7b\"suite_extensions\": []\x7d" = some ⟨.default, []⟩ := by
    decide +kernel
  refine Project.governing_eq_ok_iff.2 ⟨⟨.default, []⟩, ?_, rfl⟩
  simp only [Config.governing, hfile, Config.load]
  refine bind_eq_ok_iff.2 ⟨_, mapError_eq_ok_iff.2 hread, ?_⟩
  rw [hconfig]
  rfl

theorem suites_nestedTree :
    Project.suites ⟨nestedTree, .default⟩ ⟨"/d"⟩ = [⟨"/d/a.robot"⟩, ⟨"/d/sub/a.robot"⟩] := by
  obtain ⟨t, hfind, hvisible⟩ : ∃ t, nestedTree.find ⟨"/d"⟩ = .ok t ∧
      t.visibleFiles isHidden = [["a.robot"], ["sub", "a.robot"]] := ⟨_, rfl, rfl⟩
  rw [Project.suites_of_visibleFiles hfind hvisible (by decide) (by decide)]
  rfl

def nestedReports : List SuiteReport :=
  [⟨"/d/a.robot"⟩, ⟨"/d/sub/a.robot"⟩].map fun suite =>
    ⟨suite, Suite.scan "*** Tasks ***\nCase\n".toList⟩

theorem reports_nestedTree :
    reports ⟨nestedTree, .default⟩ (Project.suites ⟨nestedTree, .default⟩ ⟨"/d"⟩) =
      .ok nestedReports := by
  have hsuite : Project.isSuite ⟨nestedTree, .default⟩ ⟨"/d/a.robot"⟩ = true := by decide
  have hinner : Project.isSuite ⟨nestedTree, .default⟩ ⟨"/d/sub/a.robot"⟩ = true := by decide
  rw [suites_nestedTree]
  refine reports_eq_ok_iff.2 ⟨rfl, ?_⟩
  intro r hr
  rcases List.mem_cons.1 hr with rfl | hr
  · exact Project.markers_of_isSuite hsuite rfl (by decide)
  · obtain rfl := List.mem_singleton.1 hr
    exact Project.markers_of_isSuite hinner rfl (by decide)

theorem run_nestedTree :
    run nestedTree ⟨"/"⟩ "d" true false false =
      .line (Json.array (nestedReports.map SuiteReport.toJson)).pretty := by
  have hpath : pathOf ⟨"/"⟩ "d" = ⟨"/d"⟩ := by decide
  rw [run_directory (by decide), hpath, openProject_eq_ok_iff.2 governing_nestedTree]
  simp only [reports_nestedTree, Printout.ofResult]

theorem exists_reports_agree_iff_nestedTree :
    nestedTree.isDirAt (pathOf ⟨"/"⟩ "d") = true ∧
      (run nestedTree ⟨"/"⟩ "d" true false false).error = none ∧
      ∃ p rs, Project.governing nestedTree (pathOf ⟨"/"⟩ "d") = .ok p ∧
        reports p (p.suites (pathOf ⟨"/"⟩ "d")) = .ok rs ∧
        run nestedTree ⟨"/"⟩ "d" true false false =
          .line (Json.array (rs.map SuiteReport.toJson)).pretty ∧
        ∀ r ∈ rs, Target.ofArg r.path.text = ⟨r.path, none⟩ →
          (Project.governing nestedTree r.path = .ok p → r.Agrees nestedTree ⟨"/"⟩) ∧
          (r.Agrees nestedTree ⟨"/"⟩ ↔ ∃ own, Project.governing nestedTree r.path = .ok own ∧
            (own.isSuite r.path = true ∨ r.markers = [])) := by
  have hdir : nestedTree.isDirAt (pathOf ⟨"/"⟩ "d") = true := by decide
  have hrun : (run nestedTree ⟨"/"⟩ "d" true false false).error = none := by
    rw [run_nestedTree]
    rfl
  exact ⟨hdir, hrun, exists_reports_agree_iff hdir hrun⟩

/-- The second suite of the report has no markers when it is analysed alone. -/
theorem exists_not_agrees_nestedTree :
    run nestedTree ⟨"/"⟩ "d" true false false =
        .line (Json.array (nestedReports.map SuiteReport.toJson)).pretty ∧
      ∃ r ∈ nestedReports, ¬ r.Agrees nestedTree ⟨"/"⟩ := by
  refine ⟨run_nestedTree, ⟨⟨"/d/sub/a.robot"⟩, _⟩, List.mem_cons_of_mem _ List.mem_cons_self, ?_⟩
  have hmarkers := (reports_eq_ok_iff.1 reports_nestedTree).2 _
    (List.mem_cons_of_mem _ List.mem_cons_self)
  rw [SuiteReport.agrees_iff _ rfl (by decide) hmarkers (by decide)]
  rintro ⟨own, hown, hsuite | hempty⟩
  · obtain rfl := Except.ok.inj (governing_nestedTree_sub.symm.trans hown)
    revert hsuite
    decide
  · revert hempty
    decide

end Analyze

end Cli

end RunMarkers
