import RunMarkers.FileTree.Basic
import RunMarkers.Proofs.Except

/-!
# Where a path leads

A path leads somewhere in a file tree when it is absolute, can be opened, and its pieces can be
followed. Reading a file and asking what stands at a path are stated by `FileTree.find` alone.
-/

namespace RunMarkers

theorem Path.join_of_isAbsolute {q : Path} (p : Path) (hq : q.isAbsolute = true) : p.join q = q :=
  if_pos hq

namespace FileTree

variable {t found : FileTree} {p : Path}

theorem locate_eq_ok_iff {names : List String} :
    t.locate p = .ok names ↔
      p.text.toList.contains '\x00' = false ∧ p.isAbsolute = true ∧
        t.follow [] t p.body = .ok names := by
  rw [locate]
  cases p.text.toList.contains '\x00' <;> cases p.isAbsolute <;> simp

theorem find_eq_ok_iff :
    t.find p = .ok found ↔
      accept p = .ok () ∧ ∃ names, t.locate p = .ok names ∧ t.at? names = some found := by
  simp only [find, bind_eq_ok_iff]
  constructor
  · rintro ⟨_, haccept, names, hlocate, hat⟩
    refine ⟨haccept, names, hlocate, ?_⟩
    split at hat
    next h => rwa [pure_eq_ok_iff.1 hat] at h
    next => cases hat
  · rintro ⟨haccept, names, hlocate, hat⟩
    refine ⟨(), haccept, names, hlocate, ?_⟩
    rw [hat]
    rfl

/-- Only an absolute path leads anywhere. -/
theorem isAbsolute_of_find_eq_ok (h : t.find p = .ok found) : p.isAbsolute = true := by
  obtain ⟨-, names, hlocate, -⟩ := find_eq_ok_iff.1 h
  exact (locate_eq_ok_iff.1 hlocate).2.1

theorem existsAt_of_find_eq_ok (h : t.find p = .ok found) : t.existsAt p = true := by
  rw [existsAt, h]
  rfl

theorem isDirAt_of_find_eq_ok (h : t.find p = .ok found) : t.isDirAt p = found.isDir := by
  rw [isDirAt, h]

theorem isFileAt_iff : t.isFileAt p = true ↔ ∃ content, t.find p = .ok (.file content) := by
  rw [isFileAt]
  cases t.find p with
  | error fault => simp
  | ok found => cases found <;> simp [isFile]

theorem exists_find_eq_ok_of_isDirAt (h : t.isDirAt p = true) :
    ∃ found, t.find p = .ok found := by
  rw [isDirAt] at h
  split at h
  next found hfind => exact ⟨found, hfind⟩
  next => simp at h

theorem readBytes_eq_ok_iff {bytes : ByteArray} :
    t.readBytes p = .ok bytes ↔ t.find p = .ok (.file (.ok bytes)) := by
  simp only [readBytes, bind_eq_ok_iff]
  constructor
  · rintro ⟨found, hfind, hfile⟩
    cases found with
    | file content => rwa [← mapError_eq_ok_iff.1 hfile]
    | dir entries => cases hfile
  · intro hfind
    exact ⟨.file (.ok bytes), hfind, rfl⟩

theorem readText_eq_ok_iff {text : String} :
    t.readText p = .ok text ↔
      ∃ bytes, t.find p = .ok (.file (.ok bytes)) ∧ String.fromUTF8? bytes = some text := by
  simp only [readText, bind_eq_ok_iff, readBytes_eq_ok_iff]
  refine exists_congr fun bytes => and_congr_right fun _ => ?_
  cases String.fromUTF8? bytes with
  | none => simp
  | some read => rw [Option.some.injEq, pure_eq_ok_iff]

end FileTree

end RunMarkers
