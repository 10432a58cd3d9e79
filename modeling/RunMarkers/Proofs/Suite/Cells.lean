import Mathlib.Data.List.TakeWhile
import RunMarkers.Suite.Line

/-!
# The first piece of a line

A heading or a case name is decided by the first piece of its line. `firstCell` reads it off the
line from the left: it ends where a separator starts or where only blanks are left. A line that
starts with a blank or a number sign starts with a plain piece (`linePieces_of_isQuiet`), any other
line with the piece of its first cell (`linePieces_of_not_isQuiet`), and no later piece is a
heading.
-/

namespace RunMarkers.Suite

/-- The text up to the first separator, or up to the blanks at its end. -/
def firstCell : List Char → List Char
  | [] => []
  | c :: cs =>
    if isSeparator ((c :: cs).takeWhile isBlank) || (c :: cs).all isBlank then []
    else c :: firstCell cs

/-- A line without a first cell that could be named: it is empty or starts with a blank or with a
comment. -/
def isQuiet (content : List Char) : Bool :=
  match content with
  | [] => true
  | c :: _ => isBlank c || c == '#'

theorem dropTrailingBlanks_cons (c : Char) (cs : List Char) :
    dropTrailingBlanks (c :: cs) =
      if (c :: cs).all isBlank then [] else c :: dropTrailingBlanks cs := by
  have hempty : (cs.reverse.dropWhile isBlank).isEmpty = cs.all isBlank := by
    rw [Bool.eq_iff_iff, List.isEmpty_iff, List.dropWhile_eq_nil_iff, List.all_eq_true]
    simp
  rw [dropTrailingBlanks, List.reverse_cons, List.dropWhile_append, hempty, List.all_cons]
  cases hall : cs.all isBlank with
  | true =>
      rw [hall, List.isEmpty_iff] at hempty
      rw [dropTrailingBlanks, hempty]
      cases hc : isBlank c with
      | true => simp [hc]
      | false => simp [hc]
  | false => simp [dropTrailingBlanks]

theorem takeWhile_dropTrailingBlanks {cs : List Char} (h : cs.all isBlank = false) :
    (dropTrailingBlanks cs).takeWhile isBlank = cs.takeWhile isBlank := by
  induction cs with
  | nil => rfl
  | cons c cs ih =>
      rw [dropTrailingBlanks_cons, if_neg (by simp [h])]
      cases hc : isBlank c with
      | true =>
          rw [List.all_cons, hc, Bool.true_and] at h
          rw [List.takeWhile_cons_of_pos hc, List.takeWhile_cons_of_pos hc, ih h]
      | false =>
          rw [List.takeWhile_cons_of_neg (by simp [hc]), List.takeWhile_cons_of_neg (by simp [hc])]

theorem firstCell_eq_cutCell (cs : List Char) :
    firstCell cs = (cutCell (dropTrailingBlanks cs)).1 := by
  induction cs with
  | nil => rfl
  | cons c cs ih =>
      rw [firstCell, dropTrailingBlanks_cons]
      cases hall : (c :: cs).all isBlank with
      | true => simp [cutCell]
      | false =>
          have hrun := takeWhile_dropTrailingBlanks hall
          rw [dropTrailingBlanks_cons, hall, if_neg Bool.false_ne_true] at hrun
          rw [if_neg Bool.false_ne_true, cutCell, hrun, Bool.or_false]
          split
          next => rfl
          next => rw [ih]

theorem firstCell_cons {c : Char} (hc : isBlank c = false) (cs : List Char) :
    firstCell (c :: cs) = c :: firstCell cs := by
  have hrun : (c :: cs).takeWhile isBlank = [] := List.takeWhile_cons_of_neg (by simp [hc])
  rw [firstCell, hrun, List.all_cons, hc, Bool.false_and, Bool.or_false, if_neg (by decide)]

theorem isBlank_of_mem_head?_dropWhile {cs : List Char} {c : Char}
    (hc : c ∈ (cs.dropWhile isBlank).head?) : isBlank c = false := by
  have hdrop := List.head?_dropWhile_not isBlank cs
  rwa [Option.mem_def.1 hc] at hdrop

theorem isSeparator_nil : isSeparator [] = false := rfl

theorem takeWhile_cutCell_ne_nil {cs : List Char} (h : (cutCell cs).2 ≠ []) :
    (cutCell cs).2.takeWhile isBlank ≠ [] := by
  intro hnil
  have hsep := (isSeparator_cutCell cs).resolve_left h
  rw [hnil, isSeparator_nil] at hsep
  exact Bool.false_ne_true hsep

theorem text_ne_nil_of_mem_cellPieces {canHead : Bool} {cs : List Char} {p : Piece}
    (hcs : ∀ c ∈ cs.head?, isBlank c = false) (hp : p ∈ cellPieces canHead cs) : p.text ≠ [] := by
  fun_induction cellPieces canHead cs with
  | case1 => exact absurd hp List.not_mem_nil
  | case2 =>
      rw [List.mem_singleton.1 hp]
      exact List.cons_ne_nil _ _
  | case3 canHead c rest _ _ =>
      rw [List.mem_singleton.1 hp, text_pieceOfCell]
      exact List.cons_ne_nil _ _
  | case4 canHead c rest _ hcut ih =>
      have hrun : (c :: rest).takeWhile isBlank = [] :=
        List.takeWhile_cons_of_neg (by simp [hcs c rfl])
      rcases List.mem_cons.1 hp with rfl | hp
      · rw [text_pieceOfCell, cutCell, hrun, isSeparator_nil, if_neg Bool.false_ne_true]
        exact List.cons_ne_nil _ _
      · rcases List.mem_cons.1 hp with rfl | hp
        · exact takeWhile_cutCell_ne_nil hcut
        · exact ih (fun b => isBlank_of_mem_head?_dropWhile) hp

theorem text_ne_nil_of_mem_plainUnlessEmpty {text : List Char} {p : Piece}
    (hp : p ∈ plainUnlessEmpty text) : p.text ≠ [] := by
  rw [plainUnlessEmpty] at hp
  split at hp
  next => exact absurd hp List.not_mem_nil
  next h =>
      rw [List.mem_singleton.1 hp, Piece.text]
      simpa using h

theorem text_ne_nil_of_mem_linePieces {content : List Char} {p : Piece}
    (hp : p ∈ linePieces content) : p.text ≠ [] := by
  rw [linePieces, List.append_assoc] at hp
  rcases List.mem_append.1 hp with hp | hp
  · exact text_ne_nil_of_mem_plainUnlessEmpty hp
  · rcases List.mem_append.1 hp with hp | hp
    · exact text_ne_nil_of_mem_cellPieces (fun c => isBlank_of_mem_head?_dropWhile) hp
    · exact text_ne_nil_of_mem_plainUnlessEmpty hp

/-- The piece is the heading of its line. -/
def Piece.isHeading : Piece → Bool
  | heading _ => true
  | cell _ | plain _ => false

theorem isHeading_pieceOfCell {canHead : Bool} {text : List Char}
    (h : (pieceOfCell canHead text).isHeading = true) :
    canHead = true ∧ text.head? = some '*' := by
  rw [pieceOfCell] at h
  split at h
  next hhead =>
      obtain ⟨hcan, hstar⟩ := Bool.and_eq_true_iff.1 hhead
      exact ⟨hcan, beq_iff_eq.1 hstar⟩
  next =>
    split at h
    next => exact absurd h Bool.false_ne_true
    next => exact absurd h Bool.false_ne_true

theorem isHeading_of_mem_plainUnlessEmpty {text : List Char} {p : Piece}
    (hp : p ∈ plainUnlessEmpty text) : p.isHeading = false := by
  rw [plainUnlessEmpty] at hp
  split at hp
  next => exact absurd hp List.not_mem_nil
  next => rw [List.mem_singleton.1 hp]; rfl

theorem canHead_of_mem_cellPieces {canHead : Bool} {cs : List Char} {p : Piece}
    (hp : p ∈ cellPieces canHead cs) (h : p.isHeading = true) : canHead = true := by
  fun_induction cellPieces canHead cs with
  | case1 => exact absurd hp List.not_mem_nil
  | case2 =>
      rw [List.mem_singleton.1 hp] at h
      exact absurd h Bool.false_ne_true
  | case3 canHead c rest _ _ =>
      rw [List.mem_singleton.1 hp] at h
      exact (isHeading_pieceOfCell h).1
  | case4 canHead c rest _ _ ih =>
      rcases List.mem_cons.1 hp with heq | hp
      · exact (isHeading_pieceOfCell (heq ▸ h)).1
      · rcases List.mem_cons.1 hp with heq | hp
        · rw [heq] at h
          exact absurd h Bool.false_ne_true
        · exact absurd (ih hp) Bool.false_ne_true

theorem isHeading_of_mem_cellPieces_false {cs : List Char} {p : Piece}
    (hp : p ∈ cellPieces false cs) : p.isHeading = false := by
  cases h : p.isHeading with
  | false => rfl
  | true => exact (canHead_of_mem_cellPieces hp h).symm

/-- Unless it is a comment, a row of cells starts with the piece of its first cell. -/
theorem exists_cellPieces_cons (canHead : Bool) {c : Char} (hc : c ≠ '#') (cs : List Char) :
    ∃ later, cellPieces canHead (c :: cs) = pieceOfCell canHead (cutCell (c :: cs)).1 :: later ∧
      ∀ p ∈ later, p.isHeading = false := by
  rw [cellPieces]
  · split
    next h =>
        have hwhole := cutCell_append (c :: cs)
        rw [h, List.append_nil] at hwhole
        refine ⟨[], ?_, fun p hp => absurd hp List.not_mem_nil⟩
        rw [hwhole]
    next h =>
        refine ⟨_, rfl, ?_⟩
        intro p hp
        rcases List.mem_cons.1 hp with rfl | hp
        · rfl
        · exact isHeading_of_mem_cellPieces_false hp
  · exact hc

theorem dropTrailingBlanks_of_all_isBlank {cs : List Char} (h : cs.all isBlank = true) :
    dropTrailingBlanks cs = [] := by
  cases cs with
  | nil => rfl
  | cons c cs => rw [dropTrailingBlanks_cons, if_pos h]

theorem linePieces_of_all_isBlank {cs : List Char} (h : cs.all isBlank = true) :
    linePieces cs = plainUnlessEmpty cs := by
  have hbody := dropTrailingBlanks_of_all_isBlank h
  have htrailing := dropTrailingBlanks_append cs
  rw [hbody, List.nil_append] at htrailing
  rw [linePieces, hbody, htrailing, List.takeWhile_nil, List.dropWhile_nil, cellPieces]
  rfl

/-- The pieces of a line that starts with something other than a blank or a comment. -/
theorem linePieces_of_not_isQuiet {content : List Char} (h : isQuiet content = false) :
    ∃ later, linePieces content = pieceOfCell true (firstCell content) :: later ∧
      ∀ p ∈ later, p.isHeading = false := by
  cases content with
  | nil => exact absurd h.symm Bool.false_ne_true
  | cons c cs =>
      obtain ⟨hblank, hcomment⟩ : isBlank c = false ∧ c ≠ '#' := by simpa [isQuiet] using h
      have hbody : dropTrailingBlanks (c :: cs) = c :: dropTrailingBlanks cs := by
        rw [dropTrailingBlanks_cons, if_neg (by simp [hblank])]
      have hindent : (c :: dropTrailingBlanks cs).takeWhile isBlank = [] :=
        List.takeWhile_cons_of_neg (by simp [hblank])
      have hrest : (c :: dropTrailingBlanks cs).dropWhile isBlank = c :: dropTrailingBlanks cs :=
        List.dropWhile_cons_of_neg (by simp [hblank])
      obtain ⟨later, hcells, hlater⟩ :=
        exists_cellPieces_cons true hcomment (dropTrailingBlanks cs)
      refine ⟨later ++ plainUnlessEmpty (trailingBlanks (c :: cs)), ?_, ?_⟩
      · rw [linePieces, firstCell_eq_cutCell, hbody, hindent, hrest]
        change [] ++ cellPieces true _ ++ _ = _
        rw [List.nil_append, hcells, List.cons_append]
      · intro p hp
        rcases List.mem_append.1 hp with hp | hp
        · exact hlater p hp
        · exact isHeading_of_mem_plainUnlessEmpty hp

theorem linePieces_cons_of_isBlank {c : Char} (hc : isBlank c = true) (cs : List Char) :
    ∃ text later, linePieces (c :: cs) = .plain text :: later ∧
      ∀ p ∈ later, p.isHeading = false := by
  cases hall : (c :: cs).all isBlank with
  | true =>
      rw [linePieces_of_all_isBlank hall]
      exact ⟨c :: cs, [], rfl, fun p hp => absurd hp List.not_mem_nil⟩
  | false =>
      have hbody : dropTrailingBlanks (c :: cs) = c :: dropTrailingBlanks cs := by
        rw [dropTrailingBlanks_cons, if_neg (by simp [hall])]
      have hindent : (c :: dropTrailingBlanks cs).takeWhile isBlank =
          c :: (dropTrailingBlanks cs).takeWhile isBlank := List.takeWhile_cons_of_pos hc
      rw [linePieces, hbody, hindent]
      refine ⟨_, _, rfl, ?_⟩
      intro p hp
      rcases List.mem_append.1 hp with hp | hp
      · exact isHeading_of_mem_cellPieces_false hp
      · exact isHeading_of_mem_plainUnlessEmpty hp

theorem linePieces_comment (cs : List Char) :
    ∃ text later, linePieces ('#' :: cs) = .plain text :: later ∧
      ∀ p ∈ later, p.isHeading = false := by
  have hbody : dropTrailingBlanks ('#' :: cs) = '#' :: dropTrailingBlanks cs := by
    rw [dropTrailingBlanks_cons, List.all_cons, show isBlank '#' = false from rfl, Bool.false_and,
      if_neg Bool.false_ne_true]
  have hindent : ('#' :: dropTrailingBlanks cs).takeWhile isBlank = [] := rfl
  have hrest : ('#' :: dropTrailingBlanks cs).dropWhile isBlank = '#' :: dropTrailingBlanks cs :=
    rfl
  rw [linePieces, hbody, hindent, hrest, cellPieces]
  exact ⟨_, _, rfl, fun p hp => isHeading_of_mem_plainUnlessEmpty hp⟩

/-- A line that is empty or starts with a blank or a comment has no heading, and its first piece
is plain. -/
theorem linePieces_of_isQuiet {content : List Char} (h : isQuiet content = true) :
    linePieces content = [] ∨
      ∃ text later, linePieces content = .plain text :: later ∧
        ∀ p ∈ later, p.isHeading = false := by
  cases content with
  | nil => exact .inl (linePieces_of_all_isBlank rfl)
  | cons c cs =>
      right
      rcases Bool.or_eq_true_iff.1 h with hc | hc
      · exact linePieces_cons_of_isBlank hc cs
      · rw [beq_iff_eq.1 hc]
        exact linePieces_comment cs

theorem head?_firstCell {content : List Char} (h : isQuiet content = false) :
    (firstCell content).head? = content.head? := by
  cases content with
  | nil => exact absurd h.symm Bool.false_ne_true
  | cons c cs =>
      have hc : isBlank c = false := (Bool.or_eq_false_iff.1 h).1
      rw [firstCell_cons hc]
      rfl

theorem isQuiet_of_head?_star {content : List Char} (h : content.head? = some '*') :
    isQuiet content = false := by
  obtain ⟨cs, rfl⟩ := List.head?_eq_some_iff.1 h
  rfl

theorem isHeading_of_mem_later {content : List Char} {p q : Piece} {later : List Piece}
    (hpieces : linePieces content = p :: later) (hq : q ∈ later) : q.isHeading = false := by
  cases hquiet : isQuiet content with
  | true =>
      rcases linePieces_of_isQuiet hquiet with hnil | ⟨text, later', hplain, hlater⟩
      · exact absurd (hpieces.symm.trans hnil) (List.cons_ne_nil _ _)
      · obtain ⟨-, rfl⟩ := List.cons.inj (hpieces.symm.trans hplain)
        exact hlater q hq
  | false =>
      obtain ⟨later', hcell, hlater⟩ := linePieces_of_not_isQuiet hquiet
      obtain ⟨-, rfl⟩ := List.cons.inj (hpieces.symm.trans hcell)
      exact hlater q hq

/-- A line with a star in front starts with its heading. -/
theorem linePieces_of_head?_star {content : List Char} (h : content.head? = some '*') :
    ∃ later, linePieces content = .heading (firstCell content) :: later := by
  have hquiet := isQuiet_of_head?_star h
  obtain ⟨later, hpieces, -⟩ := linePieces_of_not_isQuiet hquiet
  refine ⟨later, ?_⟩
  rw [hpieces, pieceOfCell, head?_firstCell hquiet, h]
  rfl

/-- Any other line has no heading. -/
theorem isHeading_of_head?_ne_star {content : List Char} (h : content.head? ≠ some '*') {p : Piece}
    (hp : p ∈ linePieces content) : p.isHeading = false := by
  cases hquiet : isQuiet content with
  | true =>
      rcases linePieces_of_isQuiet hquiet with hnil | ⟨text, later, hplain, hlater⟩
      · rw [hnil] at hp
        exact absurd hp List.not_mem_nil
      · rw [hplain] at hp
        rcases List.mem_cons.1 hp with rfl | hp
        · rfl
        · exact hlater p hp
  | false =>
      obtain ⟨later, hcell, hlater⟩ := linePieces_of_not_isQuiet hquiet
      rw [hcell] at hp
      rcases List.mem_cons.1 hp with rfl | hp
      · cases hheading : (pieceOfCell true (firstCell content)).isHeading with
        | false => rfl
        | true =>
            have hstar := (isHeading_pieceOfCell hheading).2
            rw [head?_firstCell hquiet] at hstar
            exact absurd hstar h
      · exact hlater p hp

end RunMarkers.Suite
