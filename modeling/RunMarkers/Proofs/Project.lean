import RunMarkers.Project
import RunMarkers.Proofs.FileTree.Find
import RunMarkers.Proofs.Marker.LineScan

/-!
# What a project answers

The markers of a file depend on its text and on whether the configuration calls it a suite, and on
nothing else of the project.
-/

namespace RunMarkers

theorem Document.markers_of_ne_suite {text : String} {path : Option Path} {kind : FileKind}
    (hkind : kind ≠ .suite) : (Suite.document text path kind).markers = [] := by
  rw [markers, if_neg]
  simpa [Suite.document, isSuite] using hkind

theorem Config.load_of_readText {files : FileTree} {path : Path} {text : String} {c : Config}
    (hread : files.readText path = .ok text) (htext : read? text = some c) :
    load files path = .ok c := by
  rw [load, hread]
  simp only [Except.mapError, bind, Except.bind, htext]
  rfl

namespace Project

variable {files : FileTree} {p q : Project} {path : Path} {ms : List Marker}

theorem governing_eq_ok_iff :
    governing files path = .ok p ↔
      ∃ config, Config.governing files path = .ok config ∧ ⟨files, config⟩ = p := by
  simp only [governing, bind_eq_ok_iff, pure_eq_ok_iff]

theorem files_of_governing (h : governing files path = .ok p) : p.files = files := by
  obtain ⟨config, -, rfl⟩ := governing_eq_ok_iff.1 h
  rfl

theorem isSuite_iff : p.isSuite path = true ↔ p.kindOf path = .suite := by
  rw [isSuite, beq_iff_eq]

/-- Without a configuration file the default one governs. -/
theorem governing_of_findFile?_eq_none (h : Config.findFile? files path = none) :
    governing files path = .ok ⟨files, .default⟩ := by
  refine governing_eq_ok_iff.2 ⟨.default, ?_, rfl⟩
  simp only [Config.governing, h]

theorem document_eq_ok_iff {d : Document} :
    p.document path = .ok d ↔ ∃ text, p.files.readText path = .ok text ∧
      Suite.document text (some path) (p.kindOf path) = d := by
  simp only [document, bind_eq_ok_iff, mapError_eq_ok_iff, Suite.parse_eq_ok, Except.ok.injEq]

theorem markers_eq_ok_iff :
    p.markers path = .ok ms ↔ ∃ text, p.files.readText path = .ok text ∧
      (Suite.document text (some path) (p.kindOf path)).markers = ms := by
  simp only [markers, bind_eq_ok_iff, pure_eq_ok_iff, document_eq_ok_iff]
  constructor
  · rintro ⟨_, ⟨text, hread, rfl⟩, hms⟩
    exact ⟨text, hread, hms⟩
  · rintro ⟨text, hread, hms⟩
    exact ⟨_, ⟨text, hread, rfl⟩, hms⟩

/-- Where a document was read there is a file that can be opened. -/
theorem exists_find_of_document {d : Document} (h : p.document path = .ok d) :
    ∃ bytes, p.files.find path = .ok (.file (.ok bytes)) := by
  obtain ⟨text, hread, -⟩ := document_eq_ok_iff.1 h
  obtain ⟨bytes, hfind, -⟩ := FileTree.readText_eq_ok_iff.1 hread
  exact ⟨bytes, hfind⟩

theorem exists_find_of_markers (h : p.markers path = .ok ms) :
    ∃ bytes, p.files.find path = .ok (.file (.ok bytes)) := by
  obtain ⟨d, hd, -⟩ := bind_eq_ok_iff.1 h
  exact exists_find_of_document hd

theorem markers_of_isSuite {text : String} (hsuite : p.isSuite path = true)
    (hread : p.files.readText path = .ok text) (hcount : text.toList.count '\n' < UInt32.size) :
    p.markers path = .ok (Suite.scan text.toList) := by
  refine markers_eq_ok_iff.2 ⟨text, hread, ?_⟩
  rw [isSuite_iff.1 hsuite, Document.markers_document hcount]

/-- Under another configuration a suite has the same markers, or none if it is no suite there. -/
theorem markers_of_markers (hfiles : q.files = p.files) (hsuite : p.isSuite path = true)
    (hmarkers : p.markers path = .ok ms) :
    q.markers path = .ok (if q.isSuite path then ms else []) := by
  obtain ⟨text, hread, rfl⟩ := markers_eq_ok_iff.1 hmarkers
  refine markers_eq_ok_iff.2 ⟨text, hfiles ▸ hread, ?_⟩
  rw [isSuite_iff.1 hsuite]
  split
  next hq => rw [isSuite_iff.1 hq]
  next hq => exact Document.markers_of_ne_suite fun hkind => hq (isSuite_iff.2 hkind)

/-- Visible files that are all suites and already in order are the suites of a directory. -/
theorem suites_of_visibleFiles {dir : Path} {t : FileTree} {rows : List (List String)}
    (hfind : p.files.find dir = .ok t) (hvisible : t.visibleFiles isHidden = rows)
    (hwanted : ∀ names ∈ rows, isOpenTo dir names = true ∧ p.isSuite (dir.below names) = true)
    (hsorted : rows.Pairwise fun a b => (!decide (b < a)) = true) :
    p.suites dir = rows.map dir.below := by
  rw [suites, suiteFiles, hfind]
  change (FileTree.search isHidden _ t).map dir.below = _
  rw [FileTree.search, hvisible, List.filter_eq_self.2, List.mergeSort_of_pairwise hsorted]
  intro names hnames
  rw [Bool.and_eq_true]
  exact hwanted names hnames

/-- The suites of a project are suites by its own configuration. -/
theorem isSuite_of_mem_suites {dir : Path} (h : path ∈ p.suites dir) : p.isSuite path = true := by
  rw [suites, suiteFiles] at h
  split at h
  next => simp at h
  next t _ =>
      obtain ⟨names, hnames, rfl⟩ := List.mem_map.1 h
      rw [FileTree.search, List.mem_mergeSort, List.mem_filter, Bool.and_eq_true] at hnames
      exact hnames.2.2

end Project

end RunMarkers
