import Mathlib.Data.List.Find
import RunMarkers.Config.Climb
import RunMarkers.Proofs.Path.Parts

/-!
# The nearest configuration file

From every start there is one way up (`IsWayUp`), and it ends since every directory on it has a
shorter text than the one before. The search goes along that way and takes the file of the first
directory that has one (`lookUp?_nearest`): first the distance decides and only then the name.
-/

namespace RunMarkers.Config

/-- A way from a directory to its lexical parent, and on until a directory has none. -/
inductive IsWayUp : Option Path → List Path → Prop
  | done : IsWayUp none []
  | step {dir : Path} {way : List Path} : IsWayUp dir.parent? way → IsWayUp (some dir) (dir :: way)

/-- The first directory that is searched: that of a file, or the path itself. -/
def firstDir? (kindAt : Path → Option EntryKind) (start : Path) : Option Path :=
  if kindAt start = some .file then start.parent? else some start

/-- A directory has no configuration file, whatever else stands under their names. -/
def HasNone (kindAt : Path → Option EntryKind) (dir : Path) : Prop :=
  kindAt (dir.entry ".robot-runner.json") ≠ some .file ∧
    kindAt (dir.entry "robot-runner.json") ≠ some .file

/-- The configuration file of a directory: the hidden one, or the plain one if that is no file. -/
def IsFileOf (kindAt : Path → Option EntryKind) (dir file : Path) : Prop :=
  kindAt file = some .file ∧
    (file = dir.entry ".robot-runner.json" ∨
      file = dir.entry "robot-runner.json" ∧
        kindAt (dir.entry ".robot-runner.json") ≠ some .file)

section Way

variable {dir : Path} {start : Option Path} {way : List Path}

theorem isWayUp_ancestors (dir : Path) : IsWayUp (some dir) dir.ancestors := by
  induction dir using Path.ancestors.induct with
  | case1 dir hparent =>
      rw [Path.ancestors_of_parent?_eq_none hparent]
      refine .step ?_
      rw [hparent]
      exact .done
  | case2 dir above hparent ih =>
      rw [Path.ancestors_of_parent?_eq_some hparent]
      refine .step ?_
      rw [hparent]
      exact ih

/-- Every start has a way up. -/
theorem exists_isWayUp (start : Option Path) : ∃ way, IsWayUp start way := by
  cases start with
  | none => exact ⟨[], .done⟩
  | some dir => exact ⟨dir.ancestors, isWayUp_ancestors dir⟩

theorem IsWayUp.of_cons (h : IsWayUp (some dir) (dir :: way)) : IsWayUp dir.parent? way := by
  cases h with
  | step hway => exact hway

/-- Everything on a way up from the parent is shorter than the directory. -/
theorem IsWayUp.length_lt (h : IsWayUp start way) (hstart : start = dir.parent?) :
    ∀ above ∈ way, above.text.toList.length < dir.text.toList.length := by
  induction h generalizing dir with
  | done => exact fun above habove => absurd habove List.not_mem_nil
  | @step parent way _ ih =>
      have hparent := Path.length_lt_of_parent? hstart.symm
      intro above habove
      rcases List.mem_cons.1 habove with rfl | habove
      · exact hparent
      · exact Nat.lt_trans (ih rfl above habove) hparent

theorem IsWayUp.pairwise_length (h : IsWayUp start way) :
    way.Pairwise fun lower upper => upper.text.toList.length < lower.text.toList.length := by
  induction h with
  | done => exact .nil
  | step hway ih => exact List.pairwise_cons.2 ⟨hway.length_lt rfl, ih⟩

end Way

section Search

variable {kindAt : Path → Option EntryKind} {dir file start : Path} {way : List Path}

theorem firstFile?_eq_some_iff : firstFile? kindAt dir fileNames = some file ↔
    IsFileOf kindAt dir file := by
  rw [IsFileOf, fileNames, firstFile?]
  by_cases hhidden : kindAt (dir.entry ".robot-runner.json") = some .file
  · rw [if_pos hhidden, Option.some_inj]
    constructor
    · rintro rfl
      exact ⟨hhidden, .inl rfl⟩
    · rintro ⟨-, rfl | ⟨-, hnone⟩⟩
      · rfl
      · exact absurd hhidden hnone
  · rw [if_neg hhidden, firstFile?, firstFile?]
    constructor
    · intro h
      rw [Option.ite_none_right_eq_some, Option.some_inj] at h
      obtain ⟨hplain, rfl⟩ := h
      exact ⟨hplain, .inr ⟨rfl, hhidden⟩⟩
    · rintro ⟨hfile, rfl | ⟨rfl, -⟩⟩
      · exact absurd hfile hhidden
      · rw [if_pos hfile]

theorem firstFile?_eq_none_iff : firstFile? kindAt dir fileNames = none ↔ HasNone kindAt dir := by
  rw [HasNone, fileNames, firstFile?, firstFile?, firstFile?]
  by_cases hhidden : kindAt (dir.entry ".robot-runner.json") = some .file
  · simp [hhidden]
  · by_cases hplain : kindAt (dir.entry "robot-runner.json") = some .file
    · simp [hhidden, hplain]
    · simp [hhidden, hplain]

/-- One round of the search: the file of the directory, or what is found from its parent. -/
theorem climb?_eq : climb? kindAt dir =
    (firstFile? kindAt dir fileNames).or (dir.parent?.bind (climb? kindAt)) := by
  rw [climb?]
  split
  next hfile => rw [hfile, Option.some_or]
  next hfile =>
    rw [hfile, Option.none_or]
    split
    next hparent => rw [hparent, Option.bind_none]
    next hparent => rw [hparent, Option.bind_some]

/-- The search takes the first file along the way up. -/
theorem bind_climb?_eq_findSome? {start : Option Path} (h : IsWayUp start way) :
    start.bind (climb? kindAt) = way.findSome? fun dir => firstFile? kindAt dir fileNames := by
  induction h with
  | done => rfl
  | step _ ih =>
      rw [Option.bind_some, climb?_eq, ih, List.findSome?_cons]
      cases firstFile? kindAt _ fileNames <;> rfl

theorem lookUp?_eq_bind : lookUp? kindAt start = (firstDir? kindAt start).bind (climb? kindAt) := by
  rw [lookUp?, firstDir?]
  split
  next => rfl
  next => rw [Option.bind_some]

theorem lookUp?_eq_none_iff (h : IsWayUp (firstDir? kindAt start) way) :
    lookUp? kindAt start = none ↔ ∀ dir ∈ way, HasNone kindAt dir := by
  rw [lookUp?_eq_bind, bind_climb?_eq_findSome? h, List.findSome?_eq_none_iff]
  simp only [firstFile?_eq_none_iff]

theorem lookUp?_eq_some_iff (h : IsWayUp (firstDir? kindAt start) way) :
    lookUp? kindAt start = some file ↔ ∃ nearer dir farther, way = nearer ++ dir :: farther ∧
      IsFileOf kindAt dir file ∧ ∀ lower ∈ nearer, HasNone kindAt lower := by
  rw [lookUp?_eq_bind, bind_climb?_eq_findSome? h, List.findSome?_eq_some_iff]
  simp only [firstFile?_eq_none_iff, firstFile?_eq_some_iff]

end Search

section Tree

variable {files : FileTree} {p dir start : Path}

theorem kindAt_eq_file_iff : files.kindAt p = some .file ↔ files.isFileAt p = true := by
  rw [FileTree.kindAt, FileTree.isFileAt]
  cases files.find p with
  | error => simp
  | ok found => cases found <;> simp [FileTree.isFile]

theorem firstFile?_kindAt (names : List String) :
    firstFile? files.kindAt dir names = (names.map dir.entry).find? files.isFileAt := by
  induction names with
  | nil => rfl
  | cons name names ih =>
      simp only [firstFile?, List.map_cons, List.find?_cons, ih, kindAt_eq_file_iff]
      cases files.isFileAt (dir.entry name) <;> rfl

theorem isWayUp_searchPath : IsWayUp (firstDir? files.kindAt start) (searchPath files start) := by
  simp only [firstDir?, searchPath, kindAt_eq_file_iff]
  split
  next =>
    obtain ⟨rest, hrest⟩ := start.exists_ancestors_eq_cons
    have hway := isWayUp_ancestors start
    rw [hrest] at hway ⊢
    exact hway.of_cons
  next => exact isWayUp_ancestors start

/-- On a file tree the loop is the search along the ancestors. -/
theorem findFile?_eq_lookUp? : findFile? files start = lookUp? files.kindAt start := by
  rw [lookUp?_eq_bind, bind_climb?_eq_findSome? isWayUp_searchPath, findFile?]
  refine congrArg (fun f => (searchPath files start).findSome? f) (funext fun dir => ?_)
  rw [fileIn?, firstFile?_kindAt]

end Tree

/-- In every file system and from every start, the search ends with the configuration file of the
nearest directory on the way up that has one, and with nothing if none has. A plain file goes before
any file farther up, and what is no regular file is passed over. -/
theorem lookUp?_nearest (start : Path) :
    (∀ files : FileTree, findFile? files start = lookUp? files.kindAt start) ∧
    ∀ kindAt : Path → Option EntryKind,
      ∃ way, IsWayUp (firstDir? kindAt start) way ∧
        (way.Pairwise fun lower upper => upper.text.toList.length < lower.text.toList.length) ∧
        (lookUp? kindAt start = none ↔ ∀ dir ∈ way, HasNone kindAt dir) ∧
        ∀ file, lookUp? kindAt start = some file ↔
          ∃ nearer dir farther, way = nearer ++ dir :: farther ∧ IsFileOf kindAt dir file ∧
            ∀ lower ∈ nearer, HasNone kindAt lower := by
  refine ⟨fun files => findFile?_eq_lookUp?, fun kindAt => ?_⟩
  obtain ⟨way, hway⟩ := exists_isWayUp (firstDir? kindAt start)
  exact ⟨way, hway, hway.pairwise_length, lookUp?_eq_none_iff hway,
    fun file => lookUp?_eq_some_iff hway⟩

end RunMarkers.Config
