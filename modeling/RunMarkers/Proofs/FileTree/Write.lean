import RunMarkers.FileTree.Edit
import RunMarkers.Proofs.FileTree.Leads

/-!
# Writing a file

Placing a file changes what stands at its own place. Everything else is still there, and directories
are still directories, so paths lead to where they led before (`Keeps.leads`). A text that was
written is read back at the same path.
-/

namespace RunMarkers.FileTree

theorem find?_setEntry (name other : String) (new : FileTree) (es : List (String × FileTree)) :
    (setEntry name new es).find? (fun e => e.1 == other) =
      if name = other then some (name, new) else es.find? fun e => e.1 == other := by
  induction es with
  | nil =>
      rw [setEntry, List.find?_singleton]
      simp
  | cons e es ih =>
      by_cases hname : name = other
      · rw [if_pos hname] at ih ⊢
        rw [setEntry]
        by_cases he : e.1 = name
        · rw [if_pos he, List.find?_cons_of_pos (by simp [hname])]
        · rw [if_neg he, List.find?_cons_of_neg (by simp [hname ▸ he]), ih]
      · rw [if_neg hname] at ih ⊢
        rw [setEntry]
        by_cases he : e.1 = name
        · rw [if_pos he, List.find?_cons_of_neg (by simpa using hname),
            List.find?_cons_of_neg (by simpa [he] using hname)]
        · rw [if_neg he, List.find?_cons, List.find?_cons, ih]

theorem child?_eq_find?_entries (t : FileTree) (name : String) :
    t.child? name = (t.entries.find? fun e => e.1 == name).map (·.2) := by
  cases t with
  | file content => rfl
  | dir entries => rfl

theorem child?_put (new t : FileTree) (name other : String) (names : List String) :
    (put new (name :: names) t).child? other =
      if name = other then some (put new names ((t.child? name).getD emptyDir))
      else t.child? other := by
  rw [put, child?, find?_setEntry, child?_eq_find?_entries t other]
  split <;> rfl

theorem at?_put (new t : FileTree) (place : List String) : (put new place t).at? place = some new := by
  induction place generalizing t with
  | nil => rfl
  | cons name names ih =>
      rw [at?, child?_put, if_pos rfl]
      exact ih _

/-- What stands in the one tree stands in the other, and directories are directories there. -/
def Keeps (t after : FileTree) : Prop :=
  ∀ place here, t.at? place = some here →
    ∃ there, after.at? place = some there ∧ (here.isDir = true → there.isDir = true)

/-- All is kept when something is placed where no directory stands. -/
theorem keeps_put {t : FileTree} (new : FileTree) {target : List String}
    (htarget : ¬ t.HasDir target) : t.Keeps (put new target t) := by
  induction target generalizing t with
  | nil =>
      intro place here hhere
      cases t with
      | dir entries => exact absurd ⟨entries, rfl⟩ htarget
      | file content =>
          cases place with
          | nil =>
              obtain rfl := Option.some.inj hhere
              exact ⟨new, rfl, nofun⟩
          | cons name names => exact absurd hhere.symm (Option.some_ne_none here)
  | cons name names ih =>
      intro place here hhere
      cases place with
      | nil => exact ⟨_, rfl, fun _ => rfl⟩
      | cons other place =>
          rw [at?, child?_put]
          by_cases hname : name = other
          · subst hname
            rw [at?] at hhere
            cases hbelow : t.child? name with
            | none => simp [hbelow] at hhere
            | some below =>
                rw [hbelow, Option.bind_some] at hhere
                rw [if_pos rfl, Option.bind_some, Option.getD_some]
                refine ih ?_ place here hhere
                rintro ⟨entries, hentries⟩
                refine htarget ⟨entries, ?_⟩
                rw [at?, hbelow]
                exact hentries
          · rw [if_neg hname, ← at?]
            exact ⟨here, hhere, id⟩

namespace Keeps

variable {t after : FileTree} {place reached : List String} {pieces : List (List Char)}

theorem hasDir (h : t.Keeps after) (hdir : t.HasDir place) : after.HasDir place := by
  obtain ⟨entries, hentries⟩ := hdir
  obtain ⟨there, hthere, hisDir⟩ := h place _ hentries
  cases there with
  | file content => exact absurd (hisDir rfl) Bool.false_ne_true
  | dir entries => exact ⟨entries, hthere⟩

theorem isSome_at? (h : t.Keeps after) (hplace : (t.at? place).isSome = true) :
    (after.at? place).isSome = true := by
  obtain ⟨here, hhere⟩ := Option.isSome_iff_exists.1 hplace
  obtain ⟨there, hthere, -⟩ := h place here hhere
  exact Option.isSome_of_eq_some hthere

theorem leads (h : t.Keeps after) (hleads : t.Leads place pieces reached) :
    after.Leads place pieces reached := by
  induction hleads with
  | done place => exact .done place
  | stay hdir hpiece _ ih => exact .stay (h.hasDir hdir) hpiece ih
  | up hdir _ ih => exact .up (h.hasDir hdir) ih
  | down hpiece hdots hlength hthere _ ih =>
      exact .down hpiece hdots hlength (h.isSome_at? hthere) ih

end Keeps

variable {t after : FileTree} {p : Path} {place : List String} {name text : String}

theorem eq_concat_of_dropWhile_isEmpty {ps before : List (List Char)} {piece : List Char}
    (h : ps.reverse.dropWhile List.isEmpty = piece :: before) (hlast : ps.getLast? ≠ some []) :
    ps = before.reverse ++ [piece] ∧ piece.isEmpty = false := by
  rcases List.eq_nil_or_concat ps with rfl | ⟨front, last, rfl⟩
  · cases h
  · rw [List.concat_eq_append] at h hlast ⊢
    have hne : last.isEmpty = false := by
      rw [Bool.eq_false_iff, ne_eq, List.isEmpty_iff]
      rintro rfl
      exact hlast List.getLast?_concat
    rw [List.reverse_concat, List.dropWhile_cons_of_neg (by simp [hne])] at h
    obtain ⟨rfl, rfl⟩ := List.cons.inj h
    exact ⟨by rw [List.reverse_reverse], hne⟩

/-- The target of a path is where its pieces before the last one lead, and the last piece. -/
theorem of_target_eq_ok (h : t.target p = .ok (place, name)) :
    accept p = .ok () ∧ p.isAbsolute = true ∧ ∃ front, p.body = front ++ [name.toList] ∧
      t.Leads [] front place ∧ Path.isIdle name.toList = false ∧ name.toList ≠ ['.', '.'] ∧
        Text.byteLength name.toList ≤ nameLimit := by
  have hroot : t.at? ([] : List String).reverse = some t := rfl
  rw [target, bind_eq_ok_iff] at h
  obtain ⟨_, haccept, h⟩ := h
  have habsolute : p.isAbsolute = true := by
    cases hp : p.isAbsolute with
    | true => rfl
    | false =>
        rw [hp] at h
        cases h
  simp only [habsolute, Bool.not_true, Bool.false_eq_true, if_false] at h
  split at h
  next => cases h
  next piece before hpieces =>
    obtain ⟨names, hfollow, h⟩ := bind_eq_ok_iff.1 h
    rw [follow_eq_ok_iff hroot] at hfollow
    split at h
    next =>
      split at h
      next => cases h
      next hends =>
        split at h
        next => cases h
        next hlength =>
          obtain ⟨rfl, rfl⟩ := Prod.mk.inj (pure_eq_ok_iff.1 h)
          simp only [not_or] at hends
          obtain ⟨hslash, hdot, hdots⟩ := hends
          obtain ⟨hbody, hne⟩ := eq_concat_of_dropWhile_isEmpty hpieces hslash
          rw [String.toList_ofList]
          refine ⟨haccept, habsolute, before.reverse, hbody, hfollow, ?_, hdots,
            Nat.not_lt.1 hlength⟩
          rw [Path.isIdle, hne]
          simpa using hdot
    next => cases h
    next => cases h

/-- A text is written where neither a directory stands nor a file that cannot be opened. -/
theorem writeText_eq_ok_iff :
    t.writeText p text = .ok after ↔ ∃ place name, t.target p = .ok (place, name) ∧
      ¬ t.HasDir (place ++ [name]) ∧
        (∀ fault, t.at? (place ++ [name]) ≠ some (.file (.error fault))) ∧
          put (.file (.ok text.toUTF8)) (place ++ [name]) t = after := by
  simp only [writeText, bind_eq_ok_iff, Prod.exists]
  refine exists₂_congr fun place name => and_congr_right fun _ => ?_
  split
  next entries hentries => simp [HasDir, hentries]
  next fault hfault => simp [hfault]
  next hdir hopen =>
    rw [pure_eq_ok_iff]
    refine ⟨fun hafter => ⟨?_, hopen, hafter⟩, fun ⟨_, _, hafter⟩ => hafter⟩
    rintro ⟨entries, hentries⟩
    exact hdir entries hentries

/-- The file stands where it was written. -/
theorem find_of_writeText (h : t.writeText p text = .ok after) :
    after.find p = .ok (.file (.ok text.toUTF8)) := by
  obtain ⟨place, name, htarget, hdir, -, rfl⟩ := writeText_eq_ok_iff.1 h
  obtain ⟨haccept, habsolute, front, hbody, hleads, hcounts, hdots, hlength⟩ :=
    of_target_eq_ok htarget
  have hwritten := at?_put (.file (.ok text.toUTF8)) t (place ++ [name])
  refine find_eq_ok_iff.2 ⟨haccept, place ++ [name], ?_, hwritten⟩
  rw [locate_eq_ok_iff_leads, hbody]
  refine ⟨(accept_eq_ok_iff.1 haccept).1, habsolute, ?_⟩
  refine leads_append_iff.2 ⟨place, (keeps_put _ hdir).leads hleads, ?_⟩
  rw [leads_name_iff hcounts hdots, String.ofList_toList]
  exact ⟨hlength, Option.isSome_of_eq_some hwritten, .done _⟩

/-- A text that was written is read back. -/
theorem readText_of_writeText (h : t.writeText p text = .ok after) :
    after.readText p = .ok text := by
  refine readText_eq_ok_iff.2 ⟨text.toUTF8, find_of_writeText h, ?_⟩
  exact dif_pos text.isValidUTF8

/-- Whether a file can be written does not depend on the text. -/
theorem exists_writeText_eq_ok (h : t.writeText p text = .ok after) (other : String) :
    ∃ files, t.writeText p other = .ok files := by
  obtain ⟨place, name, htarget, hdir, hopen, -⟩ := writeText_eq_ok_iff.1 h
  exact ⟨_, writeText_eq_ok_iff.2 ⟨place, name, htarget, hdir, hopen, rfl⟩⟩

end RunMarkers.FileTree
