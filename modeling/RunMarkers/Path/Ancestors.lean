import RunMarkers.Path

/-!
# Ancestors of a path

The ancestors of a path are the path itself, its parent, the parent of that and so on, as far as the
text of the path goes. The chain ends because a parent's text is always shorter
(`length_lt_of_parent?`).
-/

namespace RunMarkers.Path

theorem pieces_ne_nil (cs : List Char) : pieces cs ≠ [] := by
  cases cs with
  | nil => simp [pieces]
  | cons c cs =>
    rw [pieces]
    split
    · simp
    · split <;> simp

theorem joinPieces_cons {p : List Char} {ps : List (List Char)} (h : ps ≠ []) :
    joinPieces (p :: ps) = p ++ '/' :: joinPieces ps := by
  cases ps with
  | nil => simp at h
  | cons q qs => rfl

theorem joinPieces_pieces (cs : List Char) : joinPieces (pieces cs) = cs := by
  induction cs with
  | nil => rfl
  | cons c cs ih =>
    rw [pieces]
    split
    next h => rw [joinPieces_cons (pieces_ne_nil cs), ih, h, List.nil_append]
    next =>
      split
      next hp => exact absurd hp (pieces_ne_nil cs)
      next p ps hp =>
        rw [hp] at ih
        cases ps with
        | nil => simpa [joinPieces] using ih
        | cons q qs => simpa [joinPieces] using ih

theorem length_le_joinPieces {p : List Char} {ps : List (List Char)} (h : p ∈ ps) :
    p.length ≤ (joinPieces ps).length := by
  fun_induction joinPieces ps with
  | case1 => simp at h
  | case2 q => simp at h; simp [h]
  | case3 q r qs ih =>
    rw [List.length_append, List.length_cons]
    rcases List.mem_cons.1 h with rfl | h
    · omega
    · have := ih h
      omega

theorem joinPieces_append {l m : List (List Char)} (hl : l ≠ []) (hm : m ≠ []) :
    joinPieces (l ++ m) = joinPieces l ++ '/' :: joinPieces m := by
  fun_induction joinPieces l with
  | case1 => simp at hl
  | case2 p => cases m with
    | nil => simp at hm
    | cons q qs => simp [joinPieces]
  | case3 p q ps ih =>
    have := ih (by simp)
    simp only [List.cons_append, joinPieces] at this ⊢
    simp [this]

theorem length_joinPieces_lt {l m : List (List Char)} (h : ∃ p ∈ m, p ≠ []) :
    (joinPieces l).length < (joinPieces (l ++ m)).length := by
  obtain ⟨p, hp, hne⟩ := h
  cases hl : l with
  | nil =>
    have := length_le_joinPieces hp
    have := List.length_pos_iff.2 hne
    simp only [joinPieces, List.length_nil, List.nil_append]
    omega
  | cons q qs =>
    have hm : m ≠ [] := List.ne_nil_of_mem hp
    rw [joinPieces_append (by simp) hm, List.length_append, List.length_cons]
    omega

theorem map_fst_marked (p : Path) : p.marked.map (·.1) = p.body := by
  rw [marked]
  split
  next h => simp [h]
  next first rest h => simp [h, Function.comp_def]

theorem ne_nil_of_mem_marked {p : Path} {piece : List Char} (h : (piece, true) ∈ p.marked) :
    piece ≠ [] := by
  rintro rfl
  rw [marked] at h
  split at h
  · simp at h
  · rcases List.mem_cons.1 h with h | h
    · rw [Prod.mk.injEq] at h
      obtain ⟨rfl, h⟩ := h
      split at h <;> simp [isIdle] at h
    · obtain ⟨piece, _, hpiece⟩ := List.mem_map.1 h
      rw [Prod.mk.injEq] at hpiece
      obtain ⟨rfl, hpiece⟩ := hpiece
      simp [isIdle] at hpiece

/-- The text of a path is its pieces, after a slash if it is absolute. -/
theorem toList_text (p : Path) :
    p.text.toList = (if p.isAbsolute then ['/'] else []) ++ joinPieces p.body := by
  rw [isAbsolute, body]
  split <;> simp [*, joinPieces_pieces]

theorem dropIdleEnd_append (ms : List (List Char × Bool)) :
    ∃ rest, ms = dropIdleEnd ms ++ rest := by
  refine ⟨(ms.reverse.takeWhile fun m => !m.2).reverse, ?_⟩
  rw [dropIdleEnd, ← List.reverse_append, List.takeWhile_append_dropWhile, List.reverse_reverse]

/-- What is left after the end is dropped ends with a piece that counts. -/
theorem eq_concat_of_dropIdleEnd {ms : List (List Char × Bool)} (h : dropIdleEnd ms ≠ []) :
    ∃ front piece rest,
      dropIdleEnd ms = front ++ [(piece, true)] ∧ ms = front ++ (piece, true) :: rest := by
  obtain ⟨rest, hrest⟩ := dropIdleEnd_append ms
  have hne : ms.reverse.dropWhile (fun m => !m.2) ≠ [] := by simpa [dropIdleEnd] using h
  obtain ⟨m, back, hback⟩ := List.exists_cons_of_ne_nil hne
  have hm : m.2 = true := by
    have := List.head_dropWhile_not (fun m : List Char × Bool => !m.2) hne
    simpa [hback] using this
  have hdrop : dropIdleEnd ms = back.reverse ++ [(m.1, true)] := by
    rw [dropIdleEnd, hback, List.reverse_cons, ← hm]
  exact ⟨back.reverse, m.1, rest, hdrop, by rw [hrest, hdrop]; simp⟩

/-- A parent is shorter than what it is the parent of. -/
theorem length_lt_of_parent? {p q : Path} (h : p.parent? = some q) :
    q.text.toList.length < p.text.toList.length := by
  rw [parent?] at h
  split at h
  next => simp at h
  next hkept =>
    obtain ⟨front, piece, rest, hdrop, hms⟩ := eq_concat_of_dropIdleEnd hkept
    obtain ⟨mid, hmid⟩ := dropIdleEnd_append front
    have hne : piece ≠ [] := ne_nil_of_mem_marked (p := p) (by simp [hms])
    have hbody : p.body = (dropIdleEnd front).map (·.1)
        ++ (mid ++ (piece, true) :: rest).map (·.1) := by
      rw [← map_fst_marked, hms, ← List.map_append]
      conv => lhs; rw [hmid]
      simp
    have hlt := length_joinPieces_lt (l := (dropIdleEnd front).map (·.1))
      (m := (mid ++ (piece, true) :: rest).map (·.1)) ⟨piece, by simp, hne⟩
    rw [← hbody] at hlt
    obtain rfl := Option.some.inj h
    rw [toList_text p, ofPieces, hdrop, List.dropLast_concat]
    cases p.isAbsolute <;> simpa using hlt

/-- A path, its parent, and so on. -/
def ancestors (p : Path) : List Path :=
  match _h : p.parent? with
  | none => [p]
  | some q => p :: ancestors q
termination_by p.text.toList.length
decreasing_by exact length_lt_of_parent? _h

theorem ancestors_of_parent?_eq_none {p : Path} (h : p.parent? = none) : p.ancestors = [p] := by
  rw [ancestors]
  split
  next => rfl
  next q hq => simp [h] at hq

theorem ancestors_of_parent?_eq_some {p q : Path} (h : p.parent? = some q) :
    p.ancestors = p :: q.ancestors := by
  rw [ancestors]
  split
  next hp => simp [h] at hp
  next r hr => rw [Option.some.inj (h.symm.trans hr)]

end RunMarkers.Path
