import RunMarkers.Cli.Run
import RunMarkers.Proofs.Cli.Answer
import RunMarkers.Proofs.Marker.Range

/-!
# JSON for scripts

`analyze` in detail and `command` with JSON first compute their answer and then print it as one line
(`Analyze.run_eq_ofAnswer`, `PrintCommand.run_eq_ofAnswer`). So a script that reads the output gets
the whole answer or, whatever fails on the way to it, nothing at all.
-/

namespace RunMarkers

namespace Cli

open Analyze (SuiteReport pathOf openProject_eq_ok_iff)

theorem resolve_eq_ok_iff {files : FileTree} {cwd path full : Path} :
    resolve files cwd path = .ok full ↔
      files.existsAt (cwd.join path) = true ∧ cwd.join path = full := by
  by_cases h : files.existsAt (cwd.join path) = true
  · simp [resolve, h]
  · simp [resolve, h]

/-- The answer printed as JSON on a line, or the error alone. -/
def Printout.ofAnswer : Except RunError Answer → Printout
  | .ok a => .line a.toJson.pretty
  | .error e => .failed e

theorem Printout.ofAnswer_mapError (result : Except ProjectError Answer) :
    ofAnswer (result.mapError .project) = .ofResult result fun a => .line a.toJson.pretty := by
  cases result <;> rfl

namespace Analyze

/-- What a project finds for a target: the reports on its suites for a directory, the owner of the
line that is named, or else the entries or the markers of a file. -/
inductive IsFinding (p : Project) (path : Path) : Option Nat → Bool → Answer → Prop
  | reports {line : Option Nat} {merged : Bool} {rs : List SuiteReport}
      (isDir : p.files.isDirAt path = true) (paths : rs.map SuiteReport.path = p.suites path)
      (markers : ∀ r ∈ rs, p.markers r.path = .ok r.markers) :
      IsFinding p path line merged (.reports rs)
  | owner {line : Nat} {merged : Bool} {m : Option Marker}
      (markerAt : p.markerAt path (lineIndex line) = .ok m) :
      IsFinding p path (some line) merged (.owner m)
  | entries {es : List GutterEntry} (gutter : p.gutter path = .ok es) :
      IsFinding p path none true (.entries es)
  | markers {ms : List Marker} (markers : p.markers path = .ok ms) :
      IsFinding p path none false (.markers ms)

/-- The finding for a file. -/
def fileFinding (p : Project) (path : Path) : Option Nat → Bool → Except ProjectError Answer
  | some line, _ => (p.markerAt path (lineIndex line)).map .owner
  | none, true => (p.gutter path).map .entries
  | none, false => (p.markers path).map .markers

/-- The finding as a computation. -/
def finding (p : Project) (path : Path) (line : Option Nat) (merged : Bool) :
    Except ProjectError Answer :=
  if p.files.isDirAt path then (reports p (p.suites path)).map .reports
  else fileFinding p path line merged

section Finding

variable {p : Project} {path : Path} {line : Option Nat} {merged : Bool} {a : Answer}

/-- What is found for a file was found in its document. -/
theorem exists_find_of_fileFinding (h : fileFinding p path line merged = .ok a) :
    ∃ bytes, p.files.find path = .ok (.file (.ok bytes)) := by
  cases line with
  | some n =>
      obtain ⟨m, hm, -⟩ := map_eq_ok_iff.1 h
      obtain ⟨d, hd, -⟩ := bind_eq_ok_iff.1 hm
      exact Project.exists_find_of_document hd
  | none =>
      cases merged with
      | true =>
          obtain ⟨es, hes, -⟩ := map_eq_ok_iff.1 h
          obtain ⟨ms, hms, -⟩ := bind_eq_ok_iff.1 hes
          exact Project.exists_find_of_markers hms
      | false =>
          obtain ⟨ms, hms, -⟩ := map_eq_ok_iff.1 h
          exact Project.exists_find_of_markers hms

theorem finding_of_fileFinding (h : fileFinding p path line merged = .ok a) :
    finding p path line merged = .ok a := by
  obtain ⟨bytes, hfind⟩ := exists_find_of_fileFinding h
  have hdir : p.files.isDirAt path = false := FileTree.isDirAt_of_find_eq_ok hfind
  rw [finding, if_neg (Bool.eq_false_iff.1 hdir), h]

theorem exists_find_of_finding (h : finding p path line merged = .ok a) :
    ∃ found, p.files.find path = .ok found := by
  rw [finding] at h
  split at h
  next hdir => exact FileTree.exists_find_eq_ok_of_isDirAt hdir
  next =>
    obtain ⟨bytes, hfind⟩ := exists_find_of_fileFinding h
    exact ⟨_, hfind⟩

theorem finding_eq_ok_iff : finding p path line merged = .ok a ↔ IsFinding p path line merged a := by
  constructor
  · intro h
    rw [finding] at h
    split at h
    next hdir =>
      obtain ⟨rs, hrs, rfl⟩ := map_eq_ok_iff.1 h
      obtain ⟨hpaths, hmarkers⟩ := reports_eq_ok_iff.1 hrs
      exact .reports hdir hpaths hmarkers
    next =>
      cases line with
      | some n =>
          obtain ⟨m, hm, rfl⟩ := map_eq_ok_iff.1 h
          exact .owner hm
      | none =>
          cases merged with
          | true =>
              obtain ⟨es, hes, rfl⟩ := map_eq_ok_iff.1 h
              exact .entries hes
          | false =>
              obtain ⟨ms, hms, rfl⟩ := map_eq_ok_iff.1 h
              exact .markers hms
  · intro h
    cases h with
    | reports isDir paths markers =>
        rw [finding, if_pos isDir, map_eq_ok_iff]
        exact ⟨_, reports_eq_ok_iff.2 ⟨paths, markers⟩, rfl⟩
    | owner markerAt => exact finding_of_fileFinding (map_eq_ok_iff.2 ⟨_, markerAt, rfl⟩)
    | entries gutter => exact finding_of_fileFinding (map_eq_ok_iff.2 ⟨_, gutter, rfl⟩)
    | markers markers => exact finding_of_fileFinding (map_eq_ok_iff.2 ⟨_, markers, rfl⟩)

/-- A file's JSON is printed from the finding alone. -/
theorem verboseFile_eq_ofResult (p : Project) (path : Path) (line : Option Nat) (merged : Bool) :
    verboseFile p path line merged =
      .ofResult (fileFinding p path line merged) fun a => .line a.toJson.pretty := by
  cases line with
  | some n =>
      rw [verboseFile, fileFinding]
      cases p.markerAt path (lineIndex n) with
      | error e => rfl
      | ok m => cases m <;> rfl
  | none =>
      cases merged with
      | true =>
          rw [verboseFile, fileFinding, if_pos rfl]
          cases p.gutter path <;> rfl
      | false =>
          rw [verboseFile, fileFinding, if_neg Bool.false_ne_true, Project.analysis]
          cases p.markers path <;> rfl

theorem directory_eq_ofResult (p : Project) (path : Path) :
    directory p path true = .ofResult ((reports p (p.suites path)).map Answer.reports)
      fun a => .line a.toJson.pretty := by
  rw [directory, if_pos rfl]
  cases reports p (p.suites path) <;> rfl

/-- A directory has reports only if every suite in it can be read. -/
theorem IsFinding.exists_readText (h : IsFinding p path line merged a)
    (hdir : p.files.isDirAt path = true) {suite : Path} (hsuite : suite ∈ p.suites path) :
    ∃ text, p.files.readText suite = .ok text := by
  have hfinding := finding_eq_ok_iff.2 h
  rw [finding, if_pos hdir] at hfinding
  obtain ⟨rs, hrs, -⟩ := map_eq_ok_iff.1 hfinding
  obtain ⟨hpaths, hmarkers⟩ := reports_eq_ok_iff.1 hrs
  rw [← hpaths] at hsuite
  obtain ⟨r, hr, rfl⟩ := List.mem_map.1 hsuite
  obtain ⟨text, hread, -⟩ := Project.markers_eq_ok_iff.1 (hmarkers r hr)
  exact ⟨text, hread⟩

/-- What is found in files that fit in memory is in range. -/
theorem IsFinding.inRange (h : IsFinding p path line merged a) (hmemory : p.files.FitsInMemory) :
    a.InRange := by
  cases h with
  | reports _ _ markers =>
      intro r hr m hm
      exact Project.inRange_of_markers hmemory (markers r hr) hm
  | owner markerAt =>
      intro m hm
      obtain ⟨d, hd, hmarker⟩ := bind_eq_ok_iff.1 markerAt
      have hmarker := (pure_eq_ok_iff.1 hmarker).trans hm
      exact Project.inRange_of_document hmemory hd (Document.mem_markers_of_markerAt hmarker)
  | entries gutter =>
      obtain ⟨ms, hms, hentries⟩ := bind_eq_ok_iff.1 gutter
      obtain rfl := pure_eq_ok_iff.1 hentries
      intro e he
      exact Gutter.inRange_of_mem_ofMarkers (fun m hm => Project.inRange_of_markers hmemory hms hm) he
  | markers markers =>
      intro m hm
      exact Project.inRange_of_markers hmemory markers hm

end Finding

/-- The answer to a target. -/
def answer (files : FileTree) (cwd : Path) (arg : String) (merged : Bool) :
    Except RunError Answer := do
  let path ← resolve files cwd (Target.ofArg arg).path
  let p ← openProject files path
  (finding p path (Target.ofArg arg).line merged).mapError .project

theorem run_eq_ofAnswer (files : FileTree) (cwd : Path) (arg : String) (merged : Bool) :
    run files cwd arg true merged false = .ofAnswer (answer files cwd arg merged) := by
  unfold run
  simp only [answer, bind, Except.bind]
  cases resolve files cwd (Target.ofArg arg).path with
  | error e => rfl
  | ok path =>
      simp only
      cases hp : openProject files path with
      | error e => rfl
      | ok p =>
          have hfiles := Project.files_of_governing (openProject_eq_ok_iff.1 hp)
          simp only [Printout.ofAnswer_mapError, finding, hfiles]
          by_cases hdir : files.isDirAt path = true
          · rw [if_pos hdir, if_pos hdir, directory_eq_ofResult]
          · rw [if_neg hdir, if_neg hdir, if_neg Bool.false_ne_true, if_pos trivial,
              verboseFile_eq_ofResult]

theorem answer_eq_ok_iff {files : FileTree} {cwd : Path} {arg : String} {merged : Bool}
    {a : Answer} : answer files cwd arg merged = .ok a ↔
      ∃ p, Project.governing files (pathOf cwd arg) = .ok p ∧
        IsFinding p (pathOf cwd arg) (Target.ofArg arg).line merged a := by
  simp only [answer, bind_eq_ok_iff, mapError_eq_ok_iff, openProject_eq_ok_iff, resolve_eq_ok_iff]
  constructor
  · rintro ⟨path, ⟨-, rfl⟩, p, hp, hfinding⟩
    exact ⟨p, hp, finding_eq_ok_iff.1 hfinding⟩
  · rintro ⟨p, hp, hfinding⟩
    have hfinding := finding_eq_ok_iff.2 hfinding
    obtain ⟨found, hfind⟩ := exists_find_of_finding hfinding
    rw [Project.files_of_governing hp] at hfind
    exact ⟨pathOf cwd arg, ⟨FileTree.existsAt_of_find_eq_ok hfind, rfl⟩, p, hp, hfinding⟩

end Analyze

namespace PrintCommand

/-- The command of a target: that of the marker that owns the line named, or that of the file. -/
inductive IsCommand (p : Project) (path : Path) : Option Nat → Command → Prop
  | line {line : Nat} {c : Command} (commandAt : p.commandAt path (lineIndex line) = .ok c) :
      IsCommand p path (some line) c
  | file {c : Command} (fileCommand : p.fileCommand path = .ok (some c)) : IsCommand p path none c

variable {files : FileTree} {cwd path : Path} {p : Project} {line : Option Nat} {c : Command}
  {arg : String}

theorem commandFor_eq_ok_iff : commandFor p path line = .ok c ↔ IsCommand p path line c := by
  constructor
  · intro h
    cases line with
    | some n => exact .line (mapError_eq_ok_iff.1 h)
    | none =>
        obtain ⟨command, hcommand, h⟩ := bind_eq_ok_iff.1 h
        cases command with
        | none => cases h
        | some c' =>
            obtain rfl := pure_eq_ok_iff.1 h
            exact .file (mapError_eq_ok_iff.1 hcommand)
  · intro h
    cases h with
    | line commandAt => exact mapError_eq_ok_iff.2 commandAt
    | file fileCommand =>
        exact bind_eq_ok_iff.2 ⟨_, mapError_eq_ok_iff.2 fileCommand, rfl⟩

theorem IsCommand.exists_find (h : IsCommand p path line c) :
    ∃ bytes, p.files.find path = .ok (.file (.ok bytes)) := by
  cases h with
  | line commandAt =>
      rw [Project.commandAt] at commandAt
      split at commandAt
      next =>
        obtain ⟨m, hm, -⟩ := bind_eq_ok_iff.1 commandAt
        obtain ⟨d, hd, -⟩ := bind_eq_ok_iff.1 hm
        exact Project.exists_find_of_document hd
      next => cases commandAt
  | file fileCommand =>
      obtain ⟨ms, hms, -⟩ := bind_eq_ok_iff.1 fileCommand
      exact Project.exists_find_of_markers hms

theorem find_eq_ok_iff : find files cwd arg = .ok c ↔
    ∃ p, Project.governing files (pathOf cwd arg) = .ok p ∧
      IsCommand p (pathOf cwd arg) (Target.ofArg arg).line c := by
  simp only [find, bind_eq_ok_iff, openProject_eq_ok_iff, resolve_eq_ok_iff, commandFor_eq_ok_iff]
  constructor
  · rintro ⟨path, ⟨-, rfl⟩, p, hp, hcommand⟩
    exact ⟨p, hp, hcommand⟩
  · rintro ⟨p, hp, hcommand⟩
    obtain ⟨bytes, hfind⟩ := hcommand.exists_find
    rw [Project.files_of_governing hp] at hfind
    exact ⟨pathOf cwd arg, ⟨FileTree.existsAt_of_find_eq_ok hfind, rfl⟩, p, hp, hcommand⟩

theorem run_eq_ofAnswer (files : FileTree) (cwd : Path) (arg : String) :
    run files cwd arg true = .ofAnswer ((find files cwd arg).map .command) := by
  unfold run
  cases find files cwd arg with
  | error e => rfl
  | ok c => exact congrArg Printout.line (if_pos rfl)

end PrintCommand

namespace Request

/-- The request is for JSON: for the details of an analysis that is no outline, or for a command as
JSON. -/
def WantsJson : Request → Prop
  | analyze _ verbose _ tree => verbose = true ∧ tree = false
  | command _ json => json = true
  | init _ _ => False

/-- What a request is answered with: what the project that governs the target finds there. -/
def IsAnsweredBy (files : FileTree) (cwd : Path) : Request → Answer → Prop
  | analyze target _ merged _, a => ∃ p, Project.governing files (pathOf cwd target) = .ok p ∧
    Analyze.IsFinding p (pathOf cwd target) (Target.ofArg target).line merged a
  | command target _, a => ∃ p c, Project.governing files (pathOf cwd target) = .ok p ∧
    PrintCommand.IsCommand p (pathOf cwd target) (Target.ofArg target).line c ∧ .command c = a
  | init _ _, _ => False

theorem IsAnsweredBy.inRange {files : FileTree} {cwd : Path} {request : Request} {a : Answer}
    (h : request.IsAnsweredBy files cwd a) (hmemory : files.FitsInMemory) : a.InRange := by
  cases request with
  | analyze target verbose merged tree =>
      obtain ⟨p, hp, hfinding⟩ := h
      exact hfinding.inRange ((Project.files_of_governing hp).symm ▸ hmemory)
  | command target json =>
      obtain ⟨p, c, -, -, rfl⟩ := h
      trivial
  | init directory force => exact h.elim

theorem exists_run_eq_ofAnswer {request : Request} (h : request.WantsJson) (files : FileTree)
    (cwd : Path) : ∃ result, request.run files cwd = (.ofAnswer result, files) ∧
      ∀ a, result = .ok a ↔ request.IsAnsweredBy files cwd a := by
  cases request with
  | analyze target verbose merged tree =>
      obtain ⟨rfl, rfl⟩ := h
      refine ⟨Analyze.answer files cwd target merged, ?_, fun a => Analyze.answer_eq_ok_iff⟩
      rw [run, Analyze.run_eq_ofAnswer]
  | command target json =>
      obtain rfl := h
      refine ⟨(PrintCommand.find files cwd target).map .command, ?_, fun a => ?_⟩
      · rw [run, PrintCommand.run_eq_ofAnswer]
      · simp only [map_eq_ok_iff, PrintCommand.find_eq_ok_iff, IsAnsweredBy]
        constructor
        · rintro ⟨c, ⟨p, hp, hcommand⟩, rfl⟩
          exact ⟨p, c, hp, hcommand, rfl⟩
        · rintro ⟨p, c, hp, hcommand, rfl⟩
          exact ⟨c, ⟨p, hp, hcommand⟩, rfl⟩
  | init directory force => exact h.elim

end Request

/-- The printout is the answer as one JSON value, which ends in no white space of its own, and one
line feed. What reads the value gets the answer again if its places are in range. -/
structure Printout.Delivers (out : Printout) (a : Answer) : Prop where
  error_eq : out.error = none
  text_eq : out.text = a.toJson.pretty ++ "\n"
  isSpace_getLast? : ∀ c ∈ a.toJson.pretty.toList.getLast?, Json.isSpace c = false
  read?_value : Json.read? a.toJson.pretty = some a.toJson
  read?_text : Json.read? out.text = some a.toJson
  isReadFrom : a.InRange → a.IsReadFrom a.toJson

/-- The run fails and has printed nothing. -/
def Printout.FailsSilently (out : Printout) : Prop := out.text = "" ∧ ∃ e, out.error = some e

theorem Printout.delivers_ofAnswer (a : Answer) : (ofAnswer (.ok a)).Delivers a where
  error_eq := rfl
  text_eq := rfl
  isSpace_getLast? := by
    rw [Json.pretty, String.toList_ofList]
    exact a.isPlain_toJson.isSpace_getLast? .indented 0
  read?_value := Json.read?_pretty a.isPlain_toJson
  read?_text := Json.read?_pretty_lineFeed a.isPlain_toJson
  isReadFrom := Answer.isReadFrom_toJson

/-- A request for JSON is answered whole or not at all. If it has an answer, which is then the only
one, the run delivers it, and its places are in range because the texts they come from were in
memory. Otherwise the run fails and has printed nothing, as for a directory with a suite that cannot
be opened or is no text, wherever the walk meets it. -/
theorem run_delivers_or_failsSilently {args : List String} {request : Request}
    (hargs : Request.ofArgs args = .ok request) (hjson : request.WantsJson) (files : FileTree)
    (cwd : Path) :
    ∃ out, run files cwd args = .ok (out, files) ∧
      ((∃ a, request.IsAnsweredBy files cwd a ∧ (∀ b, request.IsAnsweredBy files cwd b → b = a) ∧
          out.Delivers a ∧ (files.FitsInMemory → a.InRange)) ∨
        (∀ a, ¬ request.IsAnsweredBy files cwd a) ∧ out.FailsSilently) ∧
      ∀ target merged p suite fault, request = .analyze target true merged false →
        Project.governing files (pathOf cwd target) = .ok p →
        files.isDirAt (pathOf cwd target) = true → suite ∈ p.suites (pathOf cwd target) →
        files.readText suite = .error fault → out.FailsSilently := by
  obtain ⟨result, hrun, hanswer⟩ := Request.exists_run_eq_ofAnswer hjson files cwd
  refine ⟨.ofAnswer result, ?_, ?_, ?_⟩
  · rw [run, hargs]
    exact congrArg Except.ok hrun
  · cases result with
    | ok a =>
        have ha := (hanswer a).1 rfl
        refine .inl ⟨a, ha, ?_, Printout.delivers_ofAnswer a, ha.inRange⟩
        intro b hb
        exact (Except.ok.inj ((hanswer b).2 hb)).symm
    | error e =>
        refine .inr ⟨?_, rfl, e, rfl⟩
        intro a ha
        cases (hanswer a).2 ha
  · rintro target merged p suite fault rfl hp hdir hsuite hread
    cases result with
    | ok a =>
        obtain ⟨q, hq, hfinding⟩ := (hanswer a).1 rfl
        obtain rfl := Except.ok.inj (hq.symm.trans hp)
        rw [← Project.files_of_governing hp] at hdir hread
        obtain ⟨text, htext⟩ := hfinding.exists_readText hdir hsuite
        cases hread.symm.trans htext
    | error e => exact ⟨rfl, e, rfl⟩

/-- A directory with two suites and a third one between them. -/
def walkedTree (content : Except AccessFault ByteArray) : FileTree :=
  let suite := FileTree.file (.ok "*** Tasks ***\nCase\n".toUTF8)
  .dir [("d", .dir [("a.robot", suite), ("b.robot", .file content), ("c.robot", suite)])]

theorem governing_walkedTree (content : Except AccessFault ByteArray) :
    Project.governing (walkedTree content) ⟨"/d"⟩ = .ok ⟨walkedTree content, .default⟩ := by
  have hfile : Config.findFile? (walkedTree content) ⟨"/d"⟩ = none := by
    rw [Config.findFile?, Config.searchPath, if_neg (by exact Bool.false_ne_true),
      Analyze.ancestors_d]
    rfl
  exact Project.governing_of_findFile?_eq_none hfile

theorem suites_walkedTree (content : Except AccessFault ByteArray) :
    Project.suites ⟨walkedTree content, .default⟩ ⟨"/d"⟩ =
      [⟨"/d/a.robot"⟩, ⟨"/d/b.robot"⟩, ⟨"/d/c.robot"⟩] := by
  obtain ⟨t, hfind, hvisible⟩ : ∃ t, (walkedTree content).find ⟨"/d"⟩ = .ok t ∧
      t.visibleFiles isHidden = [["a.robot"], ["b.robot"], ["c.robot"]] := ⟨_, rfl, rfl⟩
  have hsuite : ∀ names ∈ [["a.robot"], ["b.robot"], ["c.robot"]],
      isOpenTo ⟨"/d"⟩ names = true ∧
        FileKind.ofPath (Path.below ⟨"/d"⟩ names) ["robot"] = .suite := by
    decide
  rw [Project.suites_of_visibleFiles hfind hvisible _ (by decide)]
  · rfl
  · intro names hnames
    exact (hsuite names hnames).imp_right Project.isSuite_iff.2

theorem run_delivers_or_failsSilently_directories :
    Request.ofArgs ["analyze", "d", "--verbose"] = .ok (.analyze "d" true false false) ∧
      (Request.analyze "d" true false false).WantsJson ∧
      (∃ out, run Analyze.nestedTree ⟨"/"⟩ ["analyze", "d", "--verbose"] =
          .ok (out, Analyze.nestedTree) ∧ out.Delivers (.reports Analyze.nestedReports)) ∧
      ∀ content ∈ [.error .denied, .error .device, .ok ⟨#[255]⟩],
        ∃ out, run (walkedTree content) ⟨"/"⟩ ["analyze", "d", "--verbose"] =
          .ok (out, walkedTree content) ∧ out.FailsSilently := by
  have hargs : Request.ofArgs ["analyze", "d", "--verbose"] =
      .ok (.analyze "d" true false false) := by decide
  have hjson : (Request.analyze "d" true false false).WantsJson := ⟨rfl, rfl⟩
  refine ⟨hargs, hjson, ?_, ?_⟩
  · obtain ⟨out, hrun, hcases, -⟩ :=
      run_delivers_or_failsSilently hargs hjson Analyze.nestedTree ⟨"/"⟩
    obtain ⟨hpaths, hmarkers⟩ := Analyze.reports_eq_ok_iff.1 Analyze.reports_nestedTree
    have hanswer : (Request.analyze "d" true false false).IsAnsweredBy Analyze.nestedTree ⟨"/"⟩
        (.reports Analyze.nestedReports) :=
      ⟨_, Analyze.governing_nestedTree, .reports (by decide) hpaths hmarkers⟩
    rcases hcases with ⟨a, -, hunique, hdelivers, -⟩ | ⟨hnone, -⟩
    · exact ⟨out, hrun, hunique _ hanswer ▸ hdelivers⟩
    · exact absurd hanswer (hnone _)
  · intro content hcontent
    obtain ⟨out, hrun, -, hsilent⟩ :=
      run_delivers_or_failsSilently hargs hjson (walkedTree content) ⟨"/"⟩
    have hsuite : (⟨"/d/b.robot"⟩ : Path) ∈
        Project.suites ⟨walkedTree content, .default⟩ ⟨"/d"⟩ := by
      rw [suites_walkedTree]
      exact List.mem_cons_of_mem _ List.mem_cons_self
    obtain ⟨fault, hread⟩ : ∃ fault, (walkedTree content).readText ⟨"/d/b.robot"⟩ = .error fault := by
      simp only [List.mem_cons, List.not_mem_nil, or_false] at hcontent
      rcases hcontent with rfl | rfl | rfl
      · exact ⟨.access .denied, rfl⟩
      · exact ⟨.access .device, rfl⟩
      · exact ⟨.notText, rfl⟩
    exact ⟨out, hrun, hsilent "d" false _ _ fault rfl (governing_walkedTree content) rfl hsuite hread⟩

end Cli

end RunMarkers
