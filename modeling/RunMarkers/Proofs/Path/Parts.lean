import Mathlib.Data.List.Basic
import RunMarkers.Path.Ancestors
import RunMarkers.Text.Bytes

/-!
# The pieces of an absolute path that count

An absolute path is its pieces, of which some count. The parent of a path has all of them but the
last, and an entry of a directory has one more. So for where a path leads it does not matter how
many slashes and dots are written between the pieces.
-/

namespace RunMarkers.Path

theorem slash_not_mem_of_mem_pieces {cs piece : List Char} (h : piece ∈ pieces cs) :
    '/' ∉ piece := by
  induction cs generalizing piece with
  | nil =>
      rw [List.mem_singleton.1 h]
      exact List.not_mem_nil
  | cons c cs ih =>
      rw [pieces] at h
      split at h
      next =>
        rcases List.mem_cons.1 h with rfl | h
        · exact List.not_mem_nil
        · exact ih h
      next hc =>
        split at h
        next hnil => exact absurd hnil (pieces_ne_nil cs)
        next p ps hps =>
          rw [hps] at ih
          rcases List.mem_cons.1 h with rfl | h
          · rw [List.mem_cons, not_or]
            exact ⟨Ne.symm hc, ih List.mem_cons_self⟩
          · exact ih (List.mem_cons_of_mem p h)

theorem pieces_append_slash (cs ds : List Char) :
    pieces (cs ++ '/' :: ds) = pieces cs ++ pieces ds := by
  induction cs with
  | nil => rfl
  | cons c cs ih =>
      rw [List.cons_append, pieces, pieces]
      split
      next => rw [ih, List.cons_append]
      next =>
        obtain ⟨p, ps, hps⟩ := List.exists_cons_of_ne_nil (pieces_ne_nil cs)
        rw [ih, hps, List.cons_append]
        rfl

theorem pieces_of_slash_not_mem {cs : List Char} (h : '/' ∉ cs) : pieces cs = [cs] := by
  induction cs with
  | nil => rfl
  | cons c cs ih =>
      rw [List.mem_cons, not_or] at h
      rw [pieces, if_neg (Ne.symm h.1), ih h.2]

theorem pieces_joinPieces {ps : List (List Char)} (hne : ps ≠ []) (h : ∀ p ∈ ps, '/' ∉ p) :
    pieces (joinPieces ps) = ps := by
  fun_induction joinPieces ps with
  | case1 => exact absurd rfl hne
  | case2 p => exact pieces_of_slash_not_mem (h p List.mem_cons_self)
  | case3 p q ps ih =>
      rw [pieces_append_slash, pieces_of_slash_not_mem (h p List.mem_cons_self),
        ih (List.cons_ne_nil q ps) fun r hr => h r (List.mem_cons_of_mem p hr),
        List.singleton_append]

/-- The pieces that count. -/
def counted (p : Path) : List (List Char) := p.body.filter fun piece => !isIdle piece

variable {p q : Path}

theorem isAbsolute_iff : p.isAbsolute = true ↔ ∃ cs, p.text.toList = '/' :: cs := by
  rw [isAbsolute]
  split
  next cs h => simp [h]
  next h =>
    simp only [Bool.false_eq_true, false_iff, not_exists]
    exact h

theorem body_of_toList_text {cs : List Char} (h : p.text.toList = '/' :: cs) :
    p.body = pieces cs := by
  rw [body]
  split
  next ds hds => rw [List.cons.inj (hds.symm.trans h) |>.2]
  next hne => exact absurd h (hne cs)

theorem marked_of_isAbsolute (hp : p.isAbsolute = true) :
    p.marked = p.body.map fun piece => (piece, !isIdle piece) := by
  rw [marked]
  split
  next h => rw [h, List.map_nil]
  next first rest h => rw [h, if_pos hp, List.map_cons]

theorem counted_eq (hp : p.isAbsolute = true) :
    p.counted = (p.marked.filter (·.2)).map (·.1) := by
  rw [marked_of_isAbsolute hp, List.filter_map, List.map_map, counted]
  exact (List.map_id _).symm

theorem filter_dropIdleEnd (ms : List (List Char × Bool)) :
    (dropIdleEnd ms).filter (·.2) = ms.filter (·.2) := by
  have hdrop : ∀ ms : List (List Char × Bool),
      (ms.dropWhile fun m => !m.2).filter (·.2) = ms.filter (·.2) := by
    intro ms
    induction ms with
    | nil => rfl
    | cons m ms ih =>
        cases h : m.2 with
        | true => rw [List.dropWhile_cons_of_neg (by simp [h])]
        | false => rw [List.dropWhile_cons_of_pos (by simp [h]), ih, List.filter_cons_of_neg (by simp [h])]
  rw [dropIdleEnd, List.filter_reverse, hdrop, List.filter_reverse, List.reverse_reverse]

theorem counted_of_parent?_eq_none (hp : p.isAbsolute = true) (h : p.parent? = none) :
    p.counted = [] := by
  rw [parent?] at h
  split at h
  next hnil => rw [counted_eq hp, ← filter_dropIdleEnd, hnil, List.filter_nil, List.map_nil]
  next => exact absurd h (Option.some_ne_none _)

theorem toList_text_ofPieces (ms : List (List Char × Bool)) :
    (ofPieces true ms).text.toList = '/' :: joinPieces (ms.map (·.1)) := by
  simp [ofPieces]

theorem counted_ofPieces {ms : List (List Char × Bool)}
    (hms : ∀ m ∈ ms, m.2 = !isIdle m.1 ∧ '/' ∉ m.1) :
    (ofPieces true ms).counted = (ms.filter (·.2)).map (·.1) := by
  have hfilter : (ms.map (·.1)).filter (fun piece => !isIdle piece) =
      (ms.filter (·.2)).map (·.1) := by
    rw [List.filter_map]
    refine congrArg _ (List.filter_congr fun m hm => ?_)
    exact (hms m hm).1.symm
  rw [counted, body_of_toList_text (toList_text_ofPieces ms), ← hfilter]
  by_cases hnil : ms = []
  · subst hnil
    rfl
  · rw [pieces_joinPieces (by simpa using hnil)]
    intro piece hpiece
    obtain ⟨m, hm, rfl⟩ := List.mem_map.1 hpiece
    exact (hms m hm).2

theorem of_mem_marked (hp : p.isAbsolute = true) {m : List Char × Bool} (hm : m ∈ p.marked) :
    m.2 = !isIdle m.1 ∧ '/' ∉ m.1 := by
  obtain ⟨cs, hcs⟩ := isAbsolute_iff.1 hp
  rw [marked_of_isAbsolute hp, body_of_toList_text hcs] at hm
  obtain ⟨piece, hpiece, rfl⟩ := List.mem_map.1 hm
  exact ⟨rfl, slash_not_mem_of_mem_pieces hpiece⟩

/-- The parent keeps the first pieces of a path; of the others, one counts. -/
theorem exists_marked_of_parent?_eq_some (hp : p.isAbsolute = true) (h : p.parent? = some q) :
    ∃ kept more piece, q = ofPieces true kept ∧ p.marked = kept ++ more ∧
      more.filter (·.2) = [(piece, true)] := by
  rw [parent?, hp] at h
  split at h
  next => simp at h
  next hkept =>
    obtain ⟨front, piece, rest, hdrop, hmarked⟩ := eq_concat_of_dropIdleEnd hkept
    obtain ⟨mid, hmid⟩ := dropIdleEnd_append front
    rw [hdrop, List.dropLast_concat] at h
    have hsplit : p.marked = dropIdleEnd front ++ (mid ++ (piece, true) :: rest) := by
      rw [hmarked, ← List.append_assoc, ← hmid]
    refine ⟨dropIdleEnd front, _, piece, (Option.some.inj h).symm, hsplit, ?_⟩
    have hfilter : p.marked.filter (·.2) =
        (dropIdleEnd front).filter (·.2) ++ [(piece, true)] := by
      rw [← filter_dropIdleEnd p.marked, hdrop, List.filter_append, filter_dropIdleEnd]
      rfl
    rw [hsplit, List.filter_append] at hfilter
    exact List.append_cancel_left hfilter

theorem exists_joinPieces_append (l m : List (List Char)) :
    ∃ rest, joinPieces (l ++ m) = joinPieces l ++ rest := by
  by_cases hl : l = []
  · subst hl
    exact ⟨_, rfl⟩
  by_cases hm : m = []
  · subst hm
    exact ⟨[], by rw [List.append_nil, List.append_nil]⟩
  · exact ⟨_, joinPieces_append hl hm⟩

/-- The parent of an absolute path has the counted pieces but the last, and its text is the start
of the path's. -/
theorem of_parent?_eq_some (hp : p.isAbsolute = true) (h : p.parent? = some q) :
    q.isAbsolute = true ∧ (∃ piece, p.counted = q.counted ++ [piece]) ∧
      ∃ rest, p.text.toList = q.text.toList ++ rest := by
  obtain ⟨kept, more, piece, rfl, hmarked, hmore⟩ := exists_marked_of_parent?_eq_some hp h
  have htext := toList_text_ofPieces kept
  refine ⟨isAbsolute_iff.2 ⟨_, htext⟩, ⟨piece, ?_⟩, ?_⟩
  · have hkept : ∀ m ∈ kept, m.2 = !isIdle m.1 ∧ '/' ∉ m.1 := by
      intro m hm
      exact of_mem_marked hp (hmarked ▸ List.mem_append_left more hm)
    rw [counted_eq hp, hmarked, List.filter_append, hmore, List.map_append, counted_ofPieces hkept]
    rfl
  · obtain ⟨rest, hrest⟩ := exists_joinPieces_append (kept.map (·.1)) (more.map (·.1))
    refine ⟨rest, ?_⟩
    rw [toList_text p, if_pos hp, ← map_fst_marked, hmarked, List.map_append, hrest, htext]
    rfl

theorem exists_ancestors_eq_cons (p : Path) : ∃ rest, p.ancestors = p :: rest := by
  cases hparent : p.parent? with
  | none => exact ⟨[], ancestors_of_parent?_eq_none hparent⟩
  | some q => exact ⟨q.ancestors, ancestors_of_parent?_eq_some hparent⟩

/-- A name that an entry of a directory can have. -/
structure IsName (piece : List Char) : Prop where
  counts : isIdle piece = false
  ne_dots : piece ≠ ['.', '.']
  slash_not_mem : '/' ∉ piece

theorem toList_text_entry (hp : p.isAbsolute = true) {name : String} (hname : IsName name.toList) :
    (p.entry name).text.toList = p.text.toList
      ++ (if p.text.toList.getLast? = some '/' then [] else ['/']) ++ name.toList := by
  obtain ⟨cs, hcs⟩ := isAbsolute_iff.1 hp
  have hrelative : (⟨name⟩ : Path).isAbsolute = false := by
    rw [Bool.eq_false_iff]
    intro h
    obtain ⟨ds, hds⟩ := isAbsolute_iff.1 h
    exact hname.slash_not_mem (hds ▸ List.mem_cons_self)
  have hne : p.text.toList.isEmpty = false := by rw [hcs]; rfl
  rw [entry, join, hrelative, hne]
  simp only [Bool.false_eq_true, if_false, Bool.false_or, beq_iff_eq]
  split <;> simp

/-- The pieces of an entry are those of the directory, slashes at its end aside, and the name. -/
theorem exists_body_entry (hp : p.isAbsolute = true) {name : String}
    (hname : IsName name.toList) :
    (p.entry name).isAbsolute = true ∧ ∃ front, (p.entry name).body = front ++ [name.toList] ∧
      front.filter (fun piece => !isIdle piece) = p.counted := by
  obtain ⟨cs, hcs⟩ := isAbsolute_iff.1 hp
  have htext := toList_text_entry hp hname
  have hlast := pieces_of_slash_not_mem hname.slash_not_mem
  by_cases hend : p.text.toList.getLast? = some '/'
  · rw [if_pos hend, List.append_nil, hcs] at htext
    rcases List.eq_nil_or_concat cs with rfl | ⟨front, c, rfl⟩
    · change (p.entry name).text.toList = '/' :: name.toList at htext
      refine ⟨isAbsolute_iff.2 ⟨_, htext⟩, [], ?_, ?_⟩
      · rw [body_of_toList_text htext, hlast, List.nil_append]
      · rw [counted, body_of_toList_text hcs]
        rfl
    · obtain rfl : c = '/' := by
        rw [hcs, List.concat_eq_append, ← List.cons_append, List.getLast?_concat] at hend
        exact Option.some.inj hend
      have htext : (p.entry name).text.toList = '/' :: (front ++ '/' :: name.toList) := by
        simpa using htext
      refine ⟨isAbsolute_iff.2 ⟨_, htext⟩, pieces front, ?_, ?_⟩
      · rw [body_of_toList_text htext, pieces_append_slash, hlast]
      · rw [counted, body_of_toList_text hcs, List.concat_eq_append, pieces_append_slash,
          List.filter_append]
        simp [pieces, isIdle]
  · rw [if_neg hend, hcs] at htext
    have htext : (p.entry name).text.toList = '/' :: (cs ++ '/' :: name.toList) := by
      simpa using htext
    refine ⟨isAbsolute_iff.2 ⟨_, htext⟩, pieces cs, ?_, ?_⟩
    · rw [body_of_toList_text htext, pieces_append_slash, hlast]
    · rw [counted, body_of_toList_text hcs]

end RunMarkers.Path
