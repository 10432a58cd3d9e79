import Mathlib.Data.List.Find
import RunMarkers.Config.Lookup
import RunMarkers.Proofs.FileTree.Visits

/-!
# Where a configuration file is found

The search for a configuration file goes back along the places that a path visits
(`filePlace?_eq`). At each of them it finds what stands there in the tree (`fileAt?`), as long as
the path leaves room for the name of a configuration file.
-/

namespace RunMarkers.Config

open RunMarkers.Path (IsName resolved)

/-- The name of the configuration file that stands in a directory. -/
def nameAt? (files : FileTree) (dir : List String) : Option String :=
  fileNames.find? fun name => (files.at? (dir ++ [name])).any FileTree.isFile

/-- The place of that file. -/
def fileAt? (files : FileTree) (dir : List String) : Option (List String) :=
  (nameAt? files dir).map fun name => dir ++ [name]

theorem dropLast_of_fileAt?_eq_some {files : FileTree} {dir file : List String}
    (h : fileAt? files dir = some file) : file.dropLast = dir := by
  obtain ⟨name, -, rfl⟩ := Option.map_eq_some_iff.1 h
  exact List.dropLast_concat

theorem any_isFile_of_nameAt? {files : FileTree} {dir : List String} {name : String}
    (h : nameAt? files dir = some name) :
    (files.at? (dir ++ [name])).any FileTree.isFile = true := by
  rw [nameAt?] at h
  exact List.find?_some (p := fun name => (files.at? (dir ++ [name])).any FileTree.isFile) h

/-- The place of the configuration file that governs a path. -/
def filePlace? (files : FileTree) (start : Path) : Option (List String) :=
  (findFile? files start).bind fun file => (files.locate file).toOption

/-- A slash and the name of a configuration file can be put behind a path. -/
def HasRoom (p : Path) : Prop := Text.byteLength p.text.toList + 19 < FileTree.pathLimit

theorem isName_of_mem_fileNames {name : String} (h : name ∈ fileNames) : IsName name.toList := by
  rcases List.mem_pair.1 h with rfl | rfl
  · exact ⟨by decide, by decide, by decide⟩
  · exact ⟨by decide, by decide, by decide⟩

theorem byteLength_of_mem_fileNames {name : String} (h : name ∈ fileNames) :
    Text.byteLength name.toList ≤ 18 ∧ name.toList.contains '\x00' = false := by
  rcases List.mem_pair.1 h with rfl | rfl
  · exact ⟨by decide, by decide⟩
  · exact ⟨by decide, by decide⟩

theorem byteLength_le_of_mem_fileNames {name : String} (h : name ∈ fileNames) :
    Text.byteLength name.toList ≤ FileTree.nameLimit :=
  Nat.le_trans (byteLength_of_mem_fileNames h).1 (by decide)

variable {files : FileTree} {p q f : Path} {name : String} {place : List String}

theorem isFileAt_of_findFile?_eq_some (h : findFile? files p = some f) :
    files.isFileAt f = true := by
  obtain ⟨_, dir, _, -, hdir, -⟩ := List.findSome?_eq_some_iff.1 h
  exact List.find?_some hdir

/-- The configuration file that is found is a file at its place. -/
theorem exists_filePlace?_eq_some (h : findFile? files p = some f) :
    ∃ content file, files.find f = .ok (.file content) ∧ filePlace? files p = some file ∧
      files.at? file = some (.file content) := by
  obtain ⟨content, hfind⟩ := FileTree.isFileAt_iff.1 (isFileAt_of_findFile?_eq_some h)
  obtain ⟨-, file, hlocate, hat⟩ := FileTree.find_eq_ok_iff.1 hfind
  refine ⟨content, file, hfind, ?_, hat⟩
  rw [filePlace?, h, Option.bind_some, hlocate]
  rfl

theorem filePlace?_eq_none_iff : filePlace? files p = none ↔ findFile? files p = none := by
  constructor
  · intro h
    cases hfile : findFile? files p with
    | none => rfl
    | some f =>
        obtain ⟨_, _, -, hplace, -⟩ := exists_filePlace?_eq_some hfile
        exact absurd (hplace.symm.trans h) (Option.some_ne_none _)
  · intro h
    rw [filePlace?, h]
    rfl

section Directory

variable (hp : p.isAbsolute = true)
include hp

theorem accept_entry (hnul : p.text.toList.contains '\x00' = false) (hroom : HasRoom p)
    (hname : name ∈ fileNames) : FileTree.accept (p.entry name) = .ok () := by
  obtain ⟨hlength, hnulName⟩ := byteLength_of_mem_fileNames hname
  rw [FileTree.accept_eq_ok_iff, Path.toList_text_entry hp (isName_of_mem_fileNames hname)]
  constructor
  · simp only [List.contains_eq_any_beq, List.any_append, Bool.or_eq_false_iff] at hnul hnulName ⊢
    refine ⟨⟨hnul, ?_⟩, hnulName⟩
    split <;> decide
  · have hslash : Text.byteLength (if p.text.toList.getLast? = some '/' then [] else ['/']) ≤ 1 := by
      split <;> decide
    rw [Text.byteLength_append, Text.byteLength_append]
    rw [HasRoom] at hroom
    omega

theorem isFileAt_of_fileIn?_eq_some (h : fileIn? files p = some f) : files.isFileAt p = false := by
  rw [fileIn?, List.find?_map] at h
  obtain ⟨name, hfind, rfl⟩ := Option.map_eq_some_iff.1 h
  have hname := List.mem_of_find?_eq_some hfind
  have hfile : (files.isFileAt ∘ p.entry) name = true := List.find?_some hfind
  obtain ⟨content, hcontent⟩ := FileTree.isFileAt_iff.1 hfile
  exact FileTree.isFileAt_of_find_entry hp (isName_of_mem_fileNames hname)
    (byteLength_le_of_mem_fileNames hname) hcontent

/-- The search starts at the path itself, which holds nothing if it is a file. -/
theorem findFile?_eq_findSome?_ancestors :
    findFile? files p = p.ancestors.findSome? (fileIn? files) := by
  rw [findFile?, searchPath]
  split
  next hfile =>
    obtain ⟨rest, hrest⟩ := p.exists_ancestors_eq_cons
    cases hin : fileIn? files p with
    | some f => exact absurd (isFileAt_of_fileIn?_eq_some hp hin) (by simp [hfile])
    | none => rw [hrest, List.tail_cons, List.findSome?_cons, hin]
  next => rfl

theorem findFile?_of_fileIn?_eq_some (h : fileIn? files p = some f) : findFile? files p = some f := by
  obtain ⟨rest, hrest⟩ := p.exists_ancestors_eq_cons
  rw [findFile?_eq_findSome?_ancestors hp, hrest, List.findSome?_cons, h]

section Place

variable (hnul : p.text.toList.contains '\x00' = false) (hroom : HasRoom p)
  (hleads : files.Leads [] p.counted place)
include hnul hroom hleads

theorem isFileAt_entry (hname : name ∈ fileNames) :
    files.isFileAt (p.entry name) = (files.at? (place ++ [name])).any FileTree.isFile := by
  have haccept := accept_entry hp hnul hroom hname
  rw [Bool.eq_iff_iff, FileTree.isFileAt_iff, Option.any_eq_true]
  simp only [FileTree.find_entry_eq_ok_iff hp (isName_of_mem_fileNames hname)
    (byteLength_le_of_mem_fileNames hname), haccept, true_and]
  constructor
  · rintro ⟨content, place', hplace', hfile⟩
    obtain rfl := hplace'.unique hleads
    exact ⟨_, hfile, rfl⟩
  · rintro ⟨found, hfound, hfile⟩
    cases found with
    | dir entries => exact absurd hfile Bool.false_ne_true
    | file content => exact ⟨content, place, hleads, hfound⟩

/-- What is found in a directory is what stands there in the tree. -/
theorem fileIn?_eq : fileIn? files p = (nameAt? files place).map p.entry := by
  have hcongr : ∀ name ∈ fileNames, (files.isFileAt ∘ p.entry) name =
      (files.at? (place ++ [name])).any FileTree.isFile :=
    fun name hname => isFileAt_entry hp hnul hroom hleads hname
  rw [fileIn?, List.find?_map, List.find?_congr hcongr, nameAt?]

theorem locate_entry (h : nameAt? files place = some name) :
    files.locate (p.entry name) = .ok (place ++ [name]) := by
  have hname : name ∈ fileNames := List.mem_of_find?_eq_some h
  obtain ⟨found, hfound, -⟩ := (Option.any_eq_true _ _).1 (any_isFile_of_nameAt? h)
  rw [FileTree.locate_entry_eq_ok_iff hp (isName_of_mem_fileNames hname)
    (byteLength_le_of_mem_fileNames hname)]
  have haccept := FileTree.accept_eq_ok_iff.1 (accept_entry hp hnul hroom hname)
  exact ⟨haccept.1, place, hleads, Option.isSome_of_eq_some hfound, rfl⟩

end Place

end Directory

theorem resolved_counted (hleads : files.Leads [] p.counted place) : resolved p.counted = place := by
  have h := hleads.eq_foldl_turn
  rwa [Path.counted, List.filter_filter, funext fun piece => Bool.and_self _] at h

/-- The search goes back along the places that the path visits. -/
theorem filePlace?_eq (hlocate : files.locate p = .ok place) (hroom : HasRoom p) :
    filePlace? files p =
      p.counted.inits.reverse.findSome? fun front => fileAt? files (resolved front) := by
  obtain ⟨hnul, hp, hleads⟩ := FileTree.locate_eq_ok_iff_leads.1 hlocate
  replace hleads : files.Leads [] p.counted place := hleads.filter
  rw [filePlace?, findFile?_eq_findSome?_ancestors hp]
  clear hlocate
  induction p using Path.ancestors.induct generalizing place with
  | case1 p hparent =>
      have hresolved := resolved_counted hleads
      rw [Path.counted_of_parent?_eq_none hp hparent] at hresolved ⊢
      rw [Path.ancestors_of_parent?_eq_none hparent, List.findSome?_singleton, List.inits,
        List.reverse_singleton, List.findSome?_singleton, hresolved, fileAt?,
        fileIn?_eq hp hnul hroom hleads]
      cases hname : nameAt? files place with
      | none => rfl
      | some name =>
          rw [Option.map_some, Option.bind_some, locate_entry hp hnul hroom hleads hname]
          rfl
  | case2 p q hparent ih =>
      obtain ⟨hq, ⟨piece, hcounted⟩, rest, hrest⟩ := Path.of_parent?_eq_some hp hparent
      have hresolved := resolved_counted hleads
      rw [hcounted] at hresolved ⊢
      rw [Path.ancestors_of_parent?_eq_some hparent, List.findSome?_cons,
        findSome?_inits_concat, hresolved, fileAt?, fileIn?_eq hp hnul hroom hleads]
      cases hname : nameAt? files place with
      | some name =>
          rw [Option.map_some, Option.bind_some, locate_entry hp hnul hroom hleads hname]
          rfl
      | none =>
          rw [hcounted] at hleads
          obtain ⟨above, habove, -⟩ := FileTree.leads_append_iff.1 hleads
          rw [hrest] at hnul
          rw [HasRoom, hrest, Text.byteLength_append] at hroom
          refine ih (Nat.lt_of_le_of_lt (Nat.add_le_add_right (Nat.le_add_right _ _) 19) hroom)
            ?_ hq habove
          rw [List.contains_eq_any_beq, List.any_append, Bool.or_eq_false_iff] at hnul
          rw [List.contains_eq_any_beq]
          exact hnul.1

end RunMarkers.Config
