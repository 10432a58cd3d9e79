import RunMarkers.Proofs.Config.Lookup
import RunMarkers.Proofs.Project

/-!
# Spellings of one place

Two paths that lead to the same place, in a tree without links, may differ by slashes, dots and
detours through two dots. The configuration of a place should be the one found straight up from it
(`nearestFile?`). A path without two dots finds that one. A path with a detour may find one in a
directory that it only passes, and then goes by that one.
-/

namespace RunMarkers

/-- An error without the path that it names. -/
def ProjectError.unplaced : ProjectError → ProjectError
  | badConfig _ => badConfig ⟨""⟩
  | e => e

namespace Config

variable {files : FileTree} {p q : Path} {place : List String}

/-- The configuration file nearest to a place, at it or above it. -/
def nearestFile? (files : FileTree) (place : List String) : Option (List String) :=
  place.inits.reverse.findSome? (fileAt? files)

/-- The configuration file found for a path, if there is one, stands at or above a place. -/
def FindsAbove (files : FileTree) (p : Path) (place : List String) : Prop :=
  ∀ file, filePlace? files p = some file → file.dropLast <+: place

theorem filePlace?_eq_nearestFile?_iff (hlocate : files.locate p = .ok place) (hroom : HasRoom p) :
    filePlace? files p = nearestFile? files place ↔ FindsAbove files p place := by
  obtain ⟨-, -, hleads⟩ := FileTree.locate_eq_ok_iff_leads.1 hlocate
  rw [FindsAbove, filePlace?_eq hlocate hroom, nearestFile?, ← resolved_counted hleads.filter]
  exact Path.findSome?_visited_iff fun dir file => dropLast_of_fileAt?_eq_some

/-- A path without detours only passes places above its end. -/
theorem findsAbove_of_forall_ne_dots (hlocate : files.locate p = .ok place) (hroom : HasRoom p)
    (hdots : ∀ piece ∈ p.body, piece ≠ ['.', '.']) : FindsAbove files p place := by
  obtain ⟨-, -, hleads⟩ := FileTree.locate_eq_ok_iff_leads.1 hlocate
  have hcounted : ∀ piece ∈ p.counted, piece ≠ ['.', '.'] :=
    fun piece hpiece => hdots piece (List.mem_filter.1 hpiece).1
  intro file hfile
  rw [filePlace?_eq hlocate hroom] at hfile
  obtain ⟨front, back, hsplit, hfront, -⟩ := findSome?_inits_eq_some_iff.1 hfile
  rw [← resolved_counted hleads.filter, dropLast_of_fileAt?_eq_some hfront]
  rw [hsplit] at hcounted ⊢
  rw [Path.resolved, Path.resolved, Path.foldl_turn hcounted,
    Path.foldl_turn fun piece hpiece => hcounted piece (List.mem_append_left back hpiece),
    List.map_append]
  exact (List.prefix_append_right_inj []).2 (List.prefix_append _ _)

theorem load_mapError_congr {f g : Path} (h : files.readText f = files.readText g) :
    (load files f).mapError ProjectError.unplaced =
      (load files g).mapError ProjectError.unplaced := by
  simp only [load, h]
  cases files.readText g with
  | error fault => rfl
  | ok text =>
      simp only [Except.mapError, bind, Except.bind]
      cases read? text with
      | none => rfl
      | some config => rfl

/-- The result for a path depends on the place of the configuration file alone. -/
theorem governing_congr (h : filePlace? files p = filePlace? files q) :
    (governing files p).mapError ProjectError.unplaced =
      (governing files q).mapError ProjectError.unplaced := by
  cases hp : findFile? files p with
  | none =>
      rw [filePlace?_eq_none_iff.2 hp, eq_comm, filePlace?_eq_none_iff] at h
      rw [governing, governing, hp, h]
  | some f =>
      obtain ⟨content, file, hfind, hfile, hat⟩ := exists_filePlace?_eq_some hp
      cases hq : findFile? files q with
      | none =>
          rw [hfile, filePlace?_eq_none_iff.2 hq] at h
          exact absurd h (Option.some_ne_none file)
      | some g =>
          obtain ⟨other, _, hfind', hfile', hat'⟩ := exists_filePlace?_eq_some hq
          obtain rfl := Option.some.inj (hfile.symm.trans (h.trans hfile'))
          rw [governing, governing, hp, hq]
          apply load_mapError_congr
          have hsame := Option.some.inj (hat.symm.trans hat')
          rw [FileTree.readText, FileTree.readText, FileTree.readBytes, FileTree.readBytes,
            hfind, hfind', hsame]

/-- Two spellings of one place are governed alike if both find their configuration above it, which
is then the nearest one. A spelling without two dots does, and any other spelling finds what that
one finds exactly if it finds it above the place. -/
theorem governing_spellings (hp : files.locate p = .ok place) (hq : files.locate q = .ok place)
    (hroomp : HasRoom p) (hroomq : HasRoom q) :
    (FindsAbove files p place → FindsAbove files q place →
      (governing files p).mapError ProjectError.unplaced =
        (governing files q).mapError ProjectError.unplaced) ∧
    (FindsAbove files p place ↔ filePlace? files p = nearestFile? files place) ∧
    ((∀ piece ∈ q.body, piece ≠ ['.', '.']) →
      FindsAbove files q place ∧
        (filePlace? files p = filePlace? files q ↔ FindsAbove files p place)) := by
  have hnearestp := filePlace?_eq_nearestFile?_iff hp hroomp
  have hnearestq := filePlace?_eq_nearestFile?_iff hq hroomq
  refine ⟨?_, hnearestp.symm, ?_⟩
  · intro habovep haboveq
    exact governing_congr ((hnearestp.2 habovep).trans (hnearestq.2 haboveq).symm)
  · intro hdots
    have haboveq := findsAbove_of_forall_ne_dots hq hroomq hdots
    refine ⟨haboveq, ?_⟩
    rw [hnearestq.2 haboveq]
    exact hnearestp

/-- A suite beside a directory that has its own configuration. -/
def detourTree : FileTree :=
  .dir [("r", .dir [
    ("a", .dir [(".robot-runner.json",
      .file (.ok "\x7b\"runner\": \x7b\"command\": \"other\"\x7d\x7d".toUTF8))]),
    ("s.robot", .file (.ok "*** Tasks ***\nCase\n".toUTF8))])]

theorem governing_spellings_detourTree :
    (detourTree.locate (Path.join ⟨"/r/a"⟩ ⟨"../s.robot"⟩) = .ok ["r", "s.robot"] ∧
      detourTree.locate ⟨"/r//./s.robot"⟩ = .ok ["r", "s.robot"]) ∧
      (filePlace? detourTree (Path.join ⟨"/r/a"⟩ ⟨"../s.robot"⟩) =
          filePlace? detourTree ⟨"/r//./s.robot"⟩ ↔
        FindsAbove detourTree (Path.join ⟨"/r/a"⟩ ⟨"../s.robot"⟩) ["r", "s.robot"]) := by
  have hp : detourTree.locate (Path.join ⟨"/r/a"⟩ ⟨"../s.robot"⟩) = .ok ["r", "s.robot"] := by
    rfl
  have hq : detourTree.locate ⟨"/r//./s.robot"⟩ = .ok ["r", "s.robot"] := by rfl
  have hroomp : HasRoom (Path.join ⟨"/r/a"⟩ ⟨"../s.robot"⟩) := by
    rw [HasRoom]
    decide
  have hroomq : HasRoom ⟨"/r//./s.robot"⟩ := by
    rw [HasRoom]
    decide
  have hbody : Path.body ⟨"/r//./s.robot"⟩ = ["r".toList, [], ['.'], "s.robot".toList] := by rfl
  refine ⟨⟨hp, hq⟩, ((governing_spellings hp hq hroomp hroomq).2.2 ?_).2⟩
  rw [hbody]
  simp

/-- From inside the directory, its configuration governs the suite; from above, the default one
does. -/
theorem governing_detourTree_ne :
    detourTree.locate (Path.join ⟨"/r/a"⟩ ⟨"../s.robot"⟩) =
        detourTree.locate (Path.join ⟨"/r"⟩ ⟨"s.robot"⟩) ∧
      governing detourTree (Path.join ⟨"/r/a"⟩ ⟨"../s.robot"⟩) =
        .ok ⟨⟨some "other", [], ∅, none⟩, ["robot"]⟩ ∧
      governing detourTree (Path.join ⟨"/r"⟩ ⟨"s.robot"⟩) = .ok .default := by
  have hjoin : Path.join ⟨"/r/a"⟩ ⟨"../s.robot"⟩ = ⟨"/r/a/../s.robot"⟩ := by decide
  have hjoined : Path.join ⟨"/r"⟩ ⟨"s.robot"⟩ = ⟨"/r/s.robot"⟩ := by decide
  rw [hjoin, hjoined]
  refine ⟨by rfl, ?_, ?_⟩
  · have hfile : findFile? detourTree ⟨"/r/a/../s.robot"⟩ = some ⟨"/r/a/.robot-runner.json"⟩ := by
      rw [findFile?, searchPath, if_pos (by decide),
        Path.ancestors_of_parent?_eq_some (q := ⟨"/r/a/.."⟩) (by decide),
        Path.ancestors_of_parent?_eq_some (q := ⟨"/r/a"⟩) (by decide),
        Path.ancestors_of_parent?_eq_some (q := ⟨"/r"⟩) (by decide)]
      rfl
    have hread : detourTree.readText ⟨"/r/a/.robot-runner.json"⟩ =
        .ok "\x7b\"runner\": \x7b\"command\": \"other\"\x7d\x7d" := by rfl
    have hconfig : read? "\x7b\"runner\": \x7b\"command\": \"other\"\x7d\x7d" =
        some ⟨⟨some "other", [], ∅, none⟩, ["robot"]⟩ := by
      decide +kernel
    rw [governing, hfile]
    exact load_of_readText hread hconfig
  · have hfile : findFile? detourTree ⟨"/r/s.robot"⟩ = none := by
      rw [findFile?, searchPath, if_pos (by decide),
        Path.ancestors_of_parent?_eq_some (q := ⟨"/r"⟩) (by decide),
        Path.ancestors_of_parent?_eq_some (q := ⟨"/"⟩) (by decide),
        Path.ancestors_of_parent?_eq_none (by decide)]
      decide
    rw [governing, hfile]

end Config

end RunMarkers
