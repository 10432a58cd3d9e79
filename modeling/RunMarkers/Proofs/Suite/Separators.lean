import RunMarkers.Proofs.Suite.Cells
import RunMarkers.Suite.Pieces
import RunMarkers.Suite.Tokenizer

/-!
# Matches of a separator

Each of the three parts of a separator could take the blanks of a run, but all of them together
take the whole run, if it is long enough or has a tab (`behind?_separator`). So the matches in a
line are where its cells are cut, and the steps found along the matches are the steps of the pieces
(`tokenizeLine_eq`, `tokenize_eq`).
-/

namespace RunMarkers.Suite

open Text

theorem isBlank_iff {c : Char} : isBlank c = true ↔ c = ' ' ∨ c = '\t' := by
  rw [isBlank, Bool.or_eq_true_iff, beq_iff_eq, beq_iff_eq]

theorem contains_blanks (c : Char) : blanks.contains c = isBlank c := by
  rw [Bool.eq_iff_iff, isBlank_iff, List.contains_iff_mem, blanks, List.mem_cons,
    List.mem_singleton]

/-- A text starts with two spaces or a tab. -/
def startsSeparator : List Char → Bool
  | [] => false
  | c :: cs => c == '\t' || c == ' ' && cs.head? == some ' '

theorem runMany_blanks_some (cs : List Char) :
    Pattern.runMany blanks some cs = some (cs.dropWhile isBlank) := by
  induction cs with
  | nil => rfl
  | cons c cs ih =>
      rw [Pattern.runMany, contains_blanks]
      cases hc : isBlank c with
      | true =>
          rw [if_pos rfl, ih, List.dropWhile_cons_of_pos hc]
          rfl
      | false => rw [if_neg Bool.false_ne_true, List.dropWhile_cons_of_neg (by simp [hc])]

theorem run_twoSpacesOrTab_many (cs : List Char) :
    (Pattern.seq twoSpacesOrTab (.many blanks)).run some cs =
      if startsSeparator cs then some (cs.dropWhile isBlank) else none := by
  have hmany : (Pattern.many blanks).run some = fun cs => some (cs.dropWhile isBlank) :=
    funext runMany_blanks_some
  rw [Pattern.run, hmany, twoSpacesOrTab]
  cases cs with
  | nil => rfl
  | cons c cs =>
      simp only [Pattern.run, List.contains_cons, List.contains_nil, Bool.or_false, startsSeparator]
      by_cases htab : c = '\t'
      · simp [htab, isBlank]
      · by_cases hspace : c = ' '
        · cases cs with
          | nil => simp [hspace, Pattern.run]
          | cons b cs =>
              by_cases hb : b = ' '
              · simp [hspace, hb, Pattern.run, isBlank]
              · simp [hspace, hb, Pattern.run]
        · simp [htab, hspace]

/-- A run of blanks is a separator from a blank on if it is one behind it, or starts like one. -/
theorem isSeparator_takeWhile_cons {c : Char} (hc : isBlank c = true) (cs : List Char) :
    isSeparator ((c :: cs).takeWhile isBlank) =
      (isSeparator (cs.takeWhile isBlank) || startsSeparator (c :: cs)) := by
  rw [List.takeWhile_cons_of_pos hc]
  rcases isBlank_iff.1 hc with rfl | rfl
  · cases cs with
    | nil => rfl
    | cons b cs =>
        cases hb : isBlank b with
        | false =>
            have hspace : b ≠ ' ' := by
              rintro rfl
              cases hb
            rw [List.takeWhile_cons_of_neg (by simp [hb])]
            simp [isSeparator, startsSeparator, hspace]
        | true =>
            rw [List.takeWhile_cons_of_pos hb]
            rcases isBlank_iff.1 hb with rfl | rfl
            · simp [isSeparator, startsSeparator]
            · simp [isSeparator, startsSeparator]
  · simp [isSeparator, startsSeparator]

theorem startsSeparator_of_isBlank_eq_false {c : Char} (hc : isBlank c = false) (cs : List Char) :
    startsSeparator (c :: cs) = false := by
  obtain ⟨hspace, htab⟩ := Bool.or_eq_false_iff.1 hc
  rw [startsSeparator, hspace, htab]
  rfl

/-- A separator matches the whole run of blanks at the start of a text, if that run is one. -/
theorem behind?_separator (cs : List Char) :
    separator.behind? cs =
      if isSeparator (cs.takeWhile isBlank) then some (cs.dropWhile isBlank) else none := by
  change Pattern.runMany blanks ((Pattern.seq twoSpacesOrTab (.many blanks)).run some) cs = _
  -- the first part of the pattern gives blanks back up to the last place where the others match
  induction cs with
  | nil => rfl
  | cons c cs ih =>
      rw [Pattern.runMany, contains_blanks, ih, run_twoSpacesOrTab_many]
      cases hc : isBlank c with
      | true =>
          rw [if_pos rfl, isSeparator_takeWhile_cons hc, List.dropWhile_cons_of_pos hc]
          cases isSeparator (cs.takeWhile isBlank) with
          | true => rfl
          | false => rfl
      | false =>
          rw [if_neg Bool.false_ne_true, startsSeparator_of_isBlank_eq_false hc,
            List.takeWhile_cons_of_neg (by simp [hc])]
          rfl

theorem spans_separator_of_isSeparator {cs : List Char}
    (h : isSeparator (cs.takeWhile isBlank) = true) (start : Nat) :
    separator.spans start cs =
      ⟨start, start + byteLength (cs.takeWhile isBlank)⟩ ::
        separator.spans (start + byteLength (cs.takeWhile isBlank)) (cs.dropWhile isBlank) := by
  cases cs with
  | nil => cases h
  | cons c cs =>
      rw [Pattern.spans, behind?_separator, if_pos h]
      simp only [length_dropWhile_isBlank_lt h, ↓reduceDIte, byteLength_sub_dropWhile]

theorem spans_separator_of_not_isSeparator {c : Char} {cs : List Char}
    (h : ¬ isSeparator ((c :: cs).takeWhile isBlank) = true) (start : Nat) :
    separator.spans start (c :: cs) = separator.spans (start + c.utf8Size) cs := by
  rw [Pattern.spans, behind?_separator, if_neg h]

/-- The first match in a text is where its first cell ends. -/
theorem spans_separator (start : Nat) (cs : List Char) :
    separator.spans start cs =
      if (cutCell cs).2 = [] then []
      else
        ⟨start + byteLength (cutCell cs).1, start + byteLength (cutCell cs).1 +
            byteLength ((cutCell cs).2.takeWhile isBlank)⟩ ::
          separator.spans
            (start + byteLength (cutCell cs).1 + byteLength ((cutCell cs).2.takeWhile isBlank))
            ((cutCell cs).2.dropWhile isBlank) := by
  induction cs generalizing start with
  | nil => rw [Pattern.spans]; rfl
  | cons c cs ih =>
      by_cases hsep : isSeparator ((c :: cs).takeWhile isBlank) = true
      · rw [spans_separator_of_isSeparator hsep, cutCell, if_pos hsep,
          if_neg (List.cons_ne_nil _ _), byteLength_nil, Nat.add_zero]
      · rw [spans_separator_of_not_isSeparator hsep, ih, cutCell, if_neg hsep]
        simp only [byteLength_cons, Nat.add_assoc]

theorem cellSteps_eq (first : Bool) (cell : List Char) :
    cellSteps first cell = (pieceOfCell first cell).steps := by
  rw [cellSteps, pieceOfCell]
  split
  next => rfl
  next => split <;> rfl

theorem head?_cutCell_eq_iff (cs : List Char) :
    (cutCell cs).1.head? = some '#' ↔ cs.head? = some '#' := by
  cases cs with
  | nil => rfl
  | cons c cs =>
      rw [cutCell]
      split
      next hsep =>
          refine iff_of_false (fun h => by cases h) ?_
          intro h
          obtain rfl := Option.some.inj h
          cases hsep
      next => rfl

theorem tokenizeCells_end (line : List Char) (first : Bool) (separators : List Span) :
    tokenizeCells line first (byteLength line) separators = some [] := by
  rw [tokenizeCells.eq_def, if_neg (Nat.lt_irrefl _)]

/-- The last cell of a line. -/
theorem tokenizeCells_nil (first : Bool) (pre : List Char) {cell : List Char} (hcell : cell ≠ []) :
    tokenizeCells (pre ++ cell) first (byteLength pre) [] =
      some (if cell.head? = some '#' then [.token .leaf (byteLength cell)]
        else cellSteps first cell) := by
  have hbytes : bytesBetween? (byteLength pre) (byteLength (pre ++ cell)) (pre ++ cell) =
      some cell := by
    have h := bytesBetween?_append pre cell []
    rwa [List.append_nil, ← byteLength_append] at h
  have hpos := byteLength_pos hcell
  rw [tokenizeCells.eq_def, if_pos (by rw [byteLength_append]; omega)]
  dsimp only
  rw [hbytes, Option.map_some, byteLength_append, Nat.add_sub_cancel_left]

/-- A cell of a line, and the separator behind it. -/
theorem tokenizeCells_cons (first : Bool) (pre cell run rest : List Char) (hrun : run ≠ [])
    (later : List Span) :
    tokenizeCells (pre ++ (cell ++ (run ++ rest))) first (byteLength pre)
        (⟨byteLength pre + byteLength cell, byteLength pre + byteLength cell + byteLength run⟩ ::
          later) =
      if cell.head? = some '#' then some [.token .leaf (byteLength (cell ++ (run ++ rest)))]
      else
        (tokenizeCells (pre ++ (cell ++ (run ++ rest))) false
          (byteLength pre + byteLength cell + byteLength run) later).map fun steps =>
            cellSteps first cell ++ .token .leaf (byteLength run) :: steps := by
  have hbytes : bytesBetween? (byteLength pre) (byteLength pre + byteLength cell)
      (pre ++ (cell ++ (run ++ rest))) = some cell := by
    rw [← List.append_assoc]
    exact bytesBetween?_append pre cell (run ++ rest)
  have hpos := byteLength_pos hrun
  rw [tokenizeCells, if_pos (by simp only [byteLength_append]; omega), hbytes, Option.bind_some]
  simp only [byteLength_append, Nat.add_sub_cancel_left]

/-- The cells of a line from the first separator on, or all of it. -/
theorem tokenizeCells_spans (first : Bool) (pre : List Char) {cs : List Char} (hcs : cs ≠ []) :
    tokenizeCells (pre ++ cs) first (byteLength pre) (separator.spans (byteLength pre) cs) =
      if cs.head? = some '#' then some [.token .leaf (byteLength cs)]
      else if (cutCell cs).2 = [] then some (cellSteps first cs)
      else
        (tokenizeCells
            (pre ++ (cutCell cs).1 ++ (cutCell cs).2.takeWhile isBlank ++
              (cutCell cs).2.dropWhile isBlank) false
            (byteLength (pre ++ (cutCell cs).1 ++ (cutCell cs).2.takeWhile isBlank))
            (separator.spans
              (byteLength (pre ++ (cutCell cs).1 ++ (cutCell cs).2.takeWhile isBlank))
              ((cutCell cs).2.dropWhile isBlank))).map fun steps =>
          cellSteps first (cutCell cs).1 ++
            .token .leaf (byteLength ((cutCell cs).2.takeWhile isBlank)) :: steps := by
  rw [spans_separator]
  by_cases hcut : (cutCell cs).2 = []
  · rw [if_pos hcut, if_pos hcut, tokenizeCells_nil first pre hcs]
    split <;> rfl
  · have hline : (cutCell cs).1 ++
        ((cutCell cs).2.takeWhile isBlank ++ (cutCell cs).2.dropWhile isBlank) = cs := by
      rw [List.takeWhile_append_dropWhile, cutCell_append]
    have hstep := tokenizeCells_cons first pre (cutCell cs).1 ((cutCell cs).2.takeWhile isBlank)
      ((cutCell cs).2.dropWhile isBlank) (takeWhile_cutCell_ne_nil hcut)
    rw [hline] at hstep
    rw [if_neg hcut, if_neg hcut, hstep]
    simp only [head?_cutCell_eq_iff, byteLength_append, List.append_assoc, Nat.add_assoc, hline]

/-- The pieces of the cells are found along the matches of a separator. -/
theorem tokenizeCells_eq (first : Bool) (pre cs : List Char) :
    tokenizeCells (pre ++ cs) first (byteLength pre) (separator.spans (byteLength pre) cs) =
      some ((cellPieces first cs).flatMap Piece.steps) := by
  fun_induction cellPieces first cs generalizing pre with
  | case1 first =>
      rw [List.append_nil, tokenizeCells_end]
      rfl
  | case2 first rest =>
      rw [tokenizeCells_spans first pre (List.cons_ne_nil _ _), List.head?_cons, if_pos rfl]
      rfl
  | case3 first c rest hc hcut =>
      have hhash : (c :: rest).head? ≠ some '#' := fun h => hc (Option.some.inj h)
      rw [tokenizeCells_spans first pre (List.cons_ne_nil _ _), if_neg hhash, if_pos hcut,
        cellSteps_eq, List.flatMap_singleton]
  | case4 first c rest hc hcut ih =>
      have hhash : (c :: rest).head? ≠ some '#' := fun h => hc (Option.some.inj h)
      rw [tokenizeCells_spans first pre (List.cons_ne_nil _ _), if_neg hhash, if_neg hcut, ih,
        Option.map_some, cellSteps_eq]
      rfl

theorem leafUnlessEmpty_byteLength (text : List Char) :
    leafUnlessEmpty (byteLength text) = (plainUnlessEmpty text).flatMap Piece.steps := by
  cases text with
  | nil => rfl
  | cons c cs =>
      rw [leafUnlessEmpty, if_pos (byteLength_pos (List.cons_ne_nil c cs))]
      rfl

/-- The steps found along the matches of a separator are those of the pieces of the line. -/
theorem tokenizeLine_eq (content : List Char) :
    tokenizeLine content = some ((linePieces content).flatMap Piece.steps) := by
  have hrest : dropBytes? (byteLength ((dropTrailingBlanks content).takeWhile isBlank))
      (dropTrailingBlanks content) = some ((dropTrailingBlanks content).dropWhile isBlank) := by
    have h := dropBytes?_append ((dropTrailingBlanks content).takeWhile isBlank)
      ((dropTrailingBlanks content).dropWhile isBlank)
    rwa [List.takeWhile_append_dropWhile] at h
  have htrailing : byteLength content - byteLength (dropTrailingBlanks content) =
      byteLength (trailingBlanks content) := by
    have h := congrArg byteLength (dropTrailingBlanks_append content)
    rw [byteLength_append] at h
    omega
  have hfirst : (byteLength ((dropTrailingBlanks content).takeWhile isBlank) == 0) =
      ((dropTrailingBlanks content).takeWhile isBlank).isEmpty := by
    rw [Bool.eq_iff_iff, beq_iff_eq, byteLength_eq_zero_iff, List.isEmpty_iff]
  have hcells := tokenizeCells_eq ((dropTrailingBlanks content).takeWhile isBlank).isEmpty []
    ((dropTrailingBlanks content).dropWhile isBlank)
  rw [List.nil_append, byteLength_nil] at hcells
  rw [tokenizeLine]
  simp only [byteLength_sub_dropWhile, htrailing, hrest, hfirst, hcells, Option.bind_some,
    Option.map_some, leafUnlessEmpty_byteLength, linePieces, List.flatMap_append]

theorem tokenizeLines_eq (lines : List PhysicalLine) :
    tokenizeLines lines = some (lines.flatMap PhysicalLine.steps) := by
  induction lines with
  | nil => rfl
  | cons line lines ih =>
      rw [tokenizeLines, tokenizeLine_eq, ih, List.flatMap_cons, PhysicalLine.steps]
      rfl

/-- A text is built by the steps found along the matches of a separator in its lines. -/
theorem tokenize_eq (cs : List Char) : tokenize cs = some (steps cs) := by
  cases cs with
  | nil => rfl
  | cons c rest =>
      rw [tokenize, steps, tokenizeLines_eq, tokenizeLines_eq]
      split <;> rfl

end RunMarkers.Suite
