import RunMarkers.Proofs.FileTree.Find
import RunMarkers.Proofs.Path.Parts

/-!
# Following the pieces of a path

`Leads t place pieces reached` says that the pieces, followed from a place of a tree, lead to
another place; a place is the row of names that leads to it from the root. It has one rule for each
kind of piece, and holds exactly when `FileTree.follow` ends there (`follow_eq_ok_iff`). Everything
about where paths lead is by induction on it.
-/

namespace RunMarkers.FileTree

open RunMarkers.Path (isIdle IsName)

section Names

variable {Name : Type} [DecidableEq Name]

theorem at?_append (t : FileTree Name) (place names : List Name) :
    t.at? (place ++ names) = (t.at? place).bind fun below => below.at? names := by
  induction place generalizing t with
  | nil => rfl
  | cons name place ih =>
      rw [List.cons_append, at?, at?]
      cases t.child? name with
      | none => rfl
      | some below => exact ih below

theorem at?_concat (t : FileTree Name) (place : List Name) (name : Name) :
    t.at? (place ++ [name]) = (t.at? place).bind (child? name) := by
  rw [at?_append]
  refine congrArg _ (funext fun below => ?_)
  simp [at?]

/-- A directory stands at a place. -/
def HasDir (t : FileTree Name) (place : List Name) : Prop :=
  ∃ entries, t.at? place = some (.dir entries)

theorem isSome_at?_of_append {t : FileTree Name} {place : List Name} (names : List Name)
    (h : (t.at? (place ++ names)).isSome = true) : (t.at? place).isSome = true := by
  rw [at?_append] at h
  cases hplace : t.at? place with
  | none => simp [hplace] at h
  | some _ => rfl

/-- Only directories have entries. -/
theorem hasDir_of_isSome_at?_concat {t : FileTree Name} {place : List Name} {name : Name}
    (h : (t.at? (place ++ [name])).isSome = true) : t.HasDir place := by
  rw [at?_concat] at h
  cases hplace : t.at? place with
  | none => simp [hplace] at h
  | some here =>
      cases here with
      | file content => simp [hplace, child?] at h
      | dir entries => exact ⟨entries, hplace⟩

end Names

variable {t : FileTree} {place reached : List String} {piece : List Char}
  {pieces more : List (List Char)}

/-- Following pieces from one place leads to another. -/
inductive Leads (t : FileTree) : List String → List (List Char) → List String → Prop where
  | done (place : List String) : Leads t place [] place
  | stay {place reached : List String} {piece : List Char} {pieces : List (List Char)}
      (hdir : t.HasDir place) (hpiece : isIdle piece = true) (h : Leads t place pieces reached) :
      Leads t place (piece :: pieces) reached
  | up {place reached : List String} {pieces : List (List Char)}
      (hdir : t.HasDir place) (h : Leads t place.dropLast pieces reached) :
      Leads t place (['.', '.'] :: pieces) reached
  | down {place reached : List String} {piece : List Char} {pieces : List (List Char)}
      (hpiece : isIdle piece = false) (hdots : piece ≠ ['.', '.'])
      (hlength : Text.byteLength piece ≤ nameLimit)
      (hthere : (t.at? (place ++ [String.ofList piece])).isSome = true)
      (h : Leads t (place ++ [String.ofList piece]) pieces reached) :
      Leads t place (piece :: pieces) reached

theorem leads_idle_iff (hpiece : isIdle piece = true) :
    t.Leads place (piece :: pieces) reached ↔ t.HasDir place ∧ t.Leads place pieces reached := by
  constructor
  · intro h
    cases h with
    | stay hdir _ h => exact ⟨hdir, h⟩
    | up _ _ => exact absurd hpiece (by decide)
    | down hcounts _ _ _ _ => exact absurd (hpiece.symm.trans hcounts) Bool.noConfusion
  · rintro ⟨hdir, h⟩
    exact .stay hdir hpiece h

theorem leads_dots_iff :
    t.Leads place (['.', '.'] :: pieces) reached ↔
      t.HasDir place ∧ t.Leads place.dropLast pieces reached := by
  constructor
  · intro h
    cases h with
    | stay _ hpiece _ => exact absurd hpiece (by decide)
    | up hdir h => exact ⟨hdir, h⟩
    | down _ hdots _ _ _ => exact absurd rfl hdots
  · rintro ⟨hdir, h⟩
    exact .up hdir h

theorem leads_name_iff (hpiece : isIdle piece = false) (hdots : piece ≠ ['.', '.']) :
    t.Leads place (piece :: pieces) reached ↔ Text.byteLength piece ≤ nameLimit ∧
      (t.at? (place ++ [String.ofList piece])).isSome = true ∧
        t.Leads (place ++ [String.ofList piece]) pieces reached := by
  constructor
  · intro h
    cases h with
    | stay _ hidle _ => exact absurd (hidle.symm.trans hpiece) Bool.noConfusion
    | up _ _ => exact absurd rfl hdots
    | down _ _ hlength hthere h => exact ⟨hlength, hthere, h⟩
  · rintro ⟨hlength, hthere, h⟩
    exact .down hpiece hdots hlength hthere h

/-- A piece can only be followed in a directory. -/
theorem Leads.hasDir (h : t.Leads place (piece :: pieces) reached) : t.HasDir place := by
  cases h with
  | stay hdir _ _ => exact hdir
  | up hdir _ => exact hdir
  | down _ _ _ hthere _ => exact hasDir_of_isSome_at?_concat hthere

theorem follow_eq_ok_iff {names : List String} {here : FileTree}
    (hhere : t.at? names.reverse = some here) :
    t.follow names here pieces = .ok reached ↔ t.Leads names.reverse pieces reached := by
  induction pieces generalizing names here with
  | nil =>
      rw [follow, Except.ok.injEq]
      constructor
      · rintro rfl
        exact .done _
      · rintro ⟨⟩
        rfl
  | cons piece pieces ih =>
      rw [follow.eq_def]
      cases hfound : here with
      | file content =>
          simp only [isDir, Bool.not_false, if_true, reduceCtorEq, false_iff]
          intro h
          obtain ⟨entries, hentries⟩ := h.hasDir
          simp [hhere, hfound] at hentries
      | dir entries =>
          have hdir : t.HasDir names.reverse := ⟨entries, hfound ▸ hhere⟩
          simp only [isDir, Bool.not_true, Bool.false_eq_true, if_false]
          by_cases hidle : isIdle piece = true
          · rw [if_pos hidle, leads_idle_iff hidle, ← hfound, ih hhere, and_iff_right hdir]
          rw [if_neg hidle]
          by_cases hdots : piece = ['.', '.']
          · subst hdots
            rw [if_pos rfl, leads_dots_iff, and_iff_right hdir]
            cases names with
            | nil => exact ih rfl
            | cons name above =>
                rw [List.reverse_cons] at hhere ⊢
                have habove := isSome_at?_of_append [name] (Option.isSome_of_eq_some hhere)
                obtain ⟨up, hup⟩ := Option.isSome_iff_exists.1 habove
                rw [List.dropLast_concat]
                simp only [hup]
                exact ih hup
          · rw [if_neg hdots, leads_name_iff (Bool.eq_false_iff.2 hidle) hdots]
            have hconcat := at?_concat t names.reverse (String.ofList piece)
            rw [hhere, Option.bind_some, hfound, ← List.reverse_cons] at hconcat
            by_cases hlength : nameLimit < Text.byteLength piece
            · rw [if_pos hlength]
              simp [Nat.not_le_of_lt hlength]
            · rw [if_neg hlength, and_iff_right (Nat.not_lt.1 hlength), ← List.reverse_cons,
                hconcat]
              cases hbelow : child? (String.ofList piece) (.dir entries) with
              | none => simp
              | some below => simpa using ih (hconcat.trans hbelow)

/-- An absolute path leads to where its pieces lead from the root. -/
theorem locate_eq_ok_iff_leads {p : Path} {place : List String} :
    t.locate p = .ok place ↔
      p.text.toList.contains '\x00' = false ∧ p.isAbsolute = true ∧ t.Leads [] p.body place := by
  have hroot : t.at? ([] : List String).reverse = some t := rfl
  rw [locate_eq_ok_iff, follow_eq_ok_iff hroot]
  rfl

namespace Leads

theorem unique {other : List String} (h : t.Leads place pieces reached)
    (hother : t.Leads place pieces other) : reached = other := by
  induction h with
  | done place =>
      cases hother
      rfl
  | stay _ hpiece _ ih => exact ih ((leads_idle_iff hpiece).1 hother).2
  | up _ _ ih => exact ih (leads_dots_iff.1 hother).2
  | down hpiece hdots _ _ _ ih => exact ih ((leads_name_iff hpiece hdots).1 hother).2.2

end Leads

theorem leads_append_iff :
    t.Leads place (pieces ++ more) reached ↔
      ∃ middle, t.Leads place pieces middle ∧ t.Leads middle more reached := by
  constructor
  · intro h
    induction pieces generalizing place with
    | nil => exact ⟨place, .done place, h⟩
    | cons piece pieces ih =>
        cases h with
        | stay hdir hpiece h =>
            obtain ⟨middle, hmiddle, hmore⟩ := ih h
            exact ⟨middle, .stay hdir hpiece hmiddle, hmore⟩
        | up hdir h =>
            obtain ⟨middle, hmiddle, hmore⟩ := ih h
            exact ⟨middle, .up hdir hmiddle, hmore⟩
        | down hpiece hdots hlength hthere h =>
            obtain ⟨middle, hmiddle, hmore⟩ := ih h
            exact ⟨middle, .down hpiece hdots hlength hthere hmiddle, hmore⟩
  · rintro ⟨middle, hmiddle, hmore⟩
    induction hmiddle with
    | done _ => exact hmore
    | stay hdir hpiece _ ih => exact .stay hdir hpiece (ih hmore)
    | up hdir _ ih => exact .up hdir (ih hmore)
    | down hpiece hdots hlength hthere _ ih => exact .down hpiece hdots hlength hthere (ih hmore)

/-- Pieces that name nothing only ask for directories, so they can be left out. -/
theorem Leads.filter (h : t.Leads place pieces reached) :
    t.Leads place (pieces.filter fun piece => !isIdle piece) reached := by
  induction h with
  | done place => exact .done place
  | stay _ hpiece _ ih => rwa [List.filter_cons_of_neg (by simp [hpiece])]
  | up hdir _ ih =>
      rw [List.filter_cons_of_pos (by decide)]
      exact .up hdir ih
  | down hpiece hdots hlength hthere _ ih =>
      rw [List.filter_cons_of_pos (by simp [hpiece])]
      exact .down hpiece hdots hlength hthere ih

/-- They can be put in before a piece, which asks for the directory itself. -/
theorem Leads.of_filter_append (hmore : more ≠ [])
    (h : t.Leads place ((pieces.filter fun piece => !isIdle piece) ++ more) reached) :
    t.Leads place (pieces ++ more) reached := by
  induction pieces generalizing place with
  | nil => exact h
  | cons piece pieces ih =>
      by_cases hpiece : isIdle piece = true
      · rw [List.filter_cons_of_neg (by simp [hpiece])] at h
        have hrest := ih h
        obtain ⟨next, rest, hnext⟩ := List.exists_cons_of_ne_nil
          (List.append_ne_nil_of_right_ne_nil pieces hmore)
        exact .stay (hnext ▸ hrest).hasDir hpiece hrest
      · rw [List.filter_cons_of_pos (by simp [hpiece]), List.cons_append] at h
        cases h with
        | stay _ hidle _ => exact absurd hidle hpiece
        | up hdir h => exact .up hdir (ih h)
        | down hcounts hdots hlength hthere h => exact .down hcounts hdots hlength hthere (ih h)

theorem accept_eq_ok_iff {p : Path} :
    accept p = .ok () ↔ p.text.toList.contains '\x00' = false ∧
      Text.byteLength p.text.toList < pathLimit := by
  rw [accept]
  cases p.text.toList.contains '\x00' with
  | true => simp
  | false => by_cases h : pathLimit ≤ Text.byteLength p.text.toList <;> simp [h, Nat.lt_of_not_le]

section Entry

variable {d : Path} (hd : d.isAbsolute = true) {name : String} (hname : IsName name.toList)
  (hlength : Text.byteLength name.toList ≤ nameLimit) {found : FileTree}
include hd hname hlength

/-- An entry of a directory is found from where the counted pieces of the directory lead. -/
theorem locate_entry_eq_ok_iff :
    t.locate (d.entry name) = .ok reached ↔
      (d.entry name).text.toList.contains '\x00' = false ∧ ∃ place, t.Leads [] d.counted place ∧
        (t.at? (place ++ [name])).isSome = true ∧ place ++ [name] = reached := by
  obtain ⟨habsolute, front, hbody, hfront⟩ := Path.exists_body_entry hd hname
  have hlast : ∀ {place}, t.Leads place [name.toList] reached ↔
      (t.at? (place ++ [name])).isSome = true ∧ place ++ [name] = reached := by
    intro place
    rw [leads_name_iff hname.counts hname.ne_dots, String.ofList_toList, and_iff_right hlength]
    refine and_congr_right fun _ => ?_
    constructor
    · rintro ⟨⟩
      rfl
    · rintro rfl
      exact .done _
  rw [locate_eq_ok_iff_leads, and_iff_right habsolute, hbody, ← hfront]
  refine and_congr_right fun _ => ?_
  constructor
  · intro hleads
    obtain ⟨place, hplace, hreached⟩ := leads_append_iff.1 hleads
    exact ⟨place, hplace.filter, hlast.1 hreached⟩
  · rintro ⟨place, hplace, hreached⟩
    refine Leads.of_filter_append (List.cons_ne_nil _ _) ?_
    exact leads_append_iff.2 ⟨place, hplace, hlast.2 hreached⟩

theorem find_entry_eq_ok_iff :
    t.find (d.entry name) = .ok found ↔ accept (d.entry name) = .ok () ∧
      ∃ place, t.Leads [] d.counted place ∧ t.at? (place ++ [name]) = some found := by
  rw [find_eq_ok_iff]
  refine and_congr_right fun haccept => ?_
  simp only [locate_entry_eq_ok_iff hd hname hlength, (accept_eq_ok_iff.1 haccept).1, true_and]
  constructor
  · rintro ⟨_, ⟨place, hplace, -, rfl⟩, hfound⟩
    exact ⟨place, hplace, hfound⟩
  · rintro ⟨place, hplace, hfound⟩
    exact ⟨_, ⟨place, hplace, Option.isSome_of_eq_some hfound, rfl⟩, hfound⟩

/-- A path that has an entry leads to no file. -/
theorem isFileAt_of_find_entry (h : t.find (d.entry name) = .ok found) :
    t.isFileAt d = false := by
  obtain ⟨-, place, hplace, hfound⟩ := (find_entry_eq_ok_iff hd hname hlength).1 h
  obtain ⟨entries, hentries⟩ := hasDir_of_isSome_at?_concat (Option.isSome_of_eq_some hfound)
  rw [isFileAt]
  split
  next here hfind =>
    obtain ⟨-, reached, hlocate, hhere⟩ := find_eq_ok_iff.1 hfind
    have hreached := (locate_eq_ok_iff_leads.1 hlocate).2.2.filter
    obtain rfl := hreached.unique hplace
    obtain rfl := Option.some.inj (hentries.symm.trans hhere)
    rfl
  next => rfl

end Entry

end RunMarkers.FileTree
