import Mathlib.Data.List.Basic
import RunMarkers.Proofs.Suite.Separators

/-!
# The layout of a line

A line that is not all blank is an indentation, a row of cells, and trailing blanks. The cells stand
apart by separators, and a cell has no separator in it and no blanks at its ends, so that each
separator is a whole run of blanks. Every such line has a layout (`exists_isLayout`), and the pieces
of the line can be read off any layout (`IsLayout.linePieces_eq`).
-/

namespace RunMarkers.Suite

/-- A text without a separator in it or blanks at its end. -/
structure IsUnbroken (cs : List Char) : Prop where
  last : ∀ c ∈ cs.getLast?, isBlank c = false
  tab : '\t' ∉ cs
  single : ∀ a b, [a, b] <:+: cs → isBlank a = true → isBlank b = false

/-- A cell: it is not empty, has no blanks at its ends, no tab, and no two blanks next to each
other. -/
structure IsCell (cell : List Char) : Prop extends IsUnbroken cell where
  ne_nil : cell ≠ []
  head : ∀ c ∈ cell.head?, isBlank c = false

/-- A text that is not empty and has no blanks at its ends. -/
structure IsTrimmed (cs : List Char) : Prop where
  ne_nil : cs ≠ []
  head : ∀ c ∈ cs.head?, isBlank c = false
  last : ∀ c ∈ cs.getLast?, isBlank c = false

/-- Cells with the runs of blanks between them. -/
inductive Row where
  | last (cell : List Char)
  | cons (cell run : List Char) (later : Row)

namespace Row

def text : Row → List Char
  | last cell => cell
  | cons cell run later => cell ++ (run ++ later.text)

/-- The cells are cells, and the runs between them are separators. -/
def IsCut : Row → Prop
  | last cell => IsCell cell
  | cons cell run later =>
    IsCell cell ∧ (run.all isBlank = true ∧ isSeparator run = true) ∧ later.IsCut

/-- The pieces of a row. A cell that starts with a number sign and all that follows is one. -/
def pieces (canHead : Bool) : Row → List Piece
  | last cell => if cell.head? = some '#' then [.plain cell] else [pieceOfCell canHead cell]
  | cons cell run later =>
    if cell.head? = some '#' then [.plain (cell ++ (run ++ later.text))]
    else pieceOfCell canHead cell :: .plain run :: later.pieces false

end Row

/-- A line as an indentation, a row of cells and trailing blanks. -/
structure IsLayout (content indent : List Char) (row : Row) (trailing : List Char) : Prop where
  content_eq : content = indent ++ (row.text ++ trailing)
  isBlank_indent : indent.all isBlank = true
  isCut : row.IsCut
  isBlank_trailing : trailing.all isBlank = true

theorem IsCell.isTrimmed {cell : List Char} (h : IsCell cell) : IsTrimmed cell :=
  ⟨h.ne_nil, h.head, h.last⟩

namespace IsTrimmed

theorem takeWhile {cs : List Char} (h : IsTrimmed cs) : cs.takeWhile isBlank = [] := by
  cases cs with
  | nil => rfl
  | cons c cs => exact List.takeWhile_cons_of_neg (by simp [h.head c rfl])

theorem dropWhile {cs : List Char} (h : IsTrimmed cs) : cs.dropWhile isBlank = cs := by
  cases cs with
  | nil => rfl
  | cons c cs => exact List.dropWhile_cons_of_neg (by simp [h.head c rfl])

theorem append {l m : List Char} (hl : IsTrimmed l) (hm : IsTrimmed m) (run : List Char) :
    IsTrimmed (l ++ (run ++ m)) where
  ne_nil := List.append_ne_nil_of_left_ne_nil hl.ne_nil _
  head := by
    intro c hc
    rw [List.head?_append_of_ne_nil l hl.ne_nil] at hc
    exact hl.head c hc
  last := by
    intro c hc
    rw [← List.append_assoc, List.getLast?_append_of_ne_nil _ hm.ne_nil] at hc
    exact hm.last c hc

end IsTrimmed

theorem IsUnbroken.of_cons {c : Char} {cs : List Char} (h : IsUnbroken (c :: cs)) :
    IsUnbroken cs where
  last := by
    intro b hb
    refine h.last b ?_
    cases cs with
    | nil => cases hb
    | cons a cs => rwa [List.getLast?_cons_cons]
  tab := fun hmem => h.tab (List.mem_cons_of_mem c hmem)
  single := fun a b hab => h.single a b (hab.trans (List.suffix_cons c cs).isInfix)

theorem IsUnbroken.cons {c : Char} {cs : List Char} (h : IsUnbroken cs)
    (hlast : cs = [] → isBlank c = false) (htab : c ≠ '\t')
    (hsingle : ∀ b ∈ cs.head?, isBlank c = true → isBlank b = false) : IsUnbroken (c :: cs) where
  last := by
    intro b hb
    cases cs with
    | nil => exact Option.some.inj hb ▸ hlast rfl
    | cons a cs => exact h.last b (by rwa [List.getLast?_cons_cons] at hb)
  tab := fun hmem => (List.mem_cons.1 hmem).elim (fun heq => htab heq.symm) h.tab
  single := by
    intro a b hab
    rcases List.infix_cons_iff.1 hab with hprefix | hinfix
    · obtain ⟨rfl, hb⟩ := List.cons_prefix_cons.1 hprefix
      obtain ⟨rest, rfl⟩ := hb
      exact hsingle b rfl
    · exact h.single a b hinfix

theorem isUnbroken_nil : IsUnbroken [] where
  last := fun c hc => by cases hc
  tab := List.not_mem_nil
  single := fun a b hab => by cases List.eq_nil_of_infix_nil hab

/-- No separator starts in an unbroken text. -/
theorem IsUnbroken.isSeparator_eq_false {c : Char} {cs : List Char} (h : IsUnbroken (c :: cs))
    (tail : List Char) : isSeparator ((c :: (cs ++ tail)).takeWhile isBlank) = false := by
  cases hc : isBlank c with
  | false =>
      rw [List.takeWhile_cons_of_neg (by simp [hc])]
      rfl
  | true =>
      -- the blank is one space, as it is no tab and what follows it is no blank
      have hspace : c = ' ' :=
        (isBlank_iff.1 hc).resolve_right fun htab => h.tab (htab ▸ List.mem_cons_self)
      cases cs with
      | nil => exact absurd (hc.symm.trans (h.last c rfl)) Bool.false_ne_true.symm
      | cons b cs =>
          have hb : isBlank b = false := h.single c b ⟨[], cs, rfl⟩ hc
          rw [List.takeWhile_cons_of_pos hc, List.cons_append,
            List.takeWhile_cons_of_neg (by simp [hb]), hspace]
          rfl

/-- Behind an unbroken text, a cut is at the next separator, or at the end. -/
theorem cutCell_append_of_isUnbroken {cs : List Char} (h : IsUnbroken cs) {tail : List Char}
    (htail : tail = [] ∨ isSeparator (tail.takeWhile isBlank) = true) :
    cutCell (cs ++ tail) = (cs, tail) := by
  induction cs with
  | nil =>
      cases tail with
      | nil => rfl
      | cons c tail =>
          rw [List.nil_append, cutCell, if_pos (htail.resolve_left (List.cons_ne_nil c tail))]
  | cons c cs ih =>
      rw [List.cons_append, cutCell, h.isSeparator_eq_false tail, if_neg Bool.false_ne_true,
        ih h.of_cons]

theorem isSeparator_of_isBlank {a b : Char} (ha : isBlank a = true) (hb : isBlank b = true)
    (cs : List Char) : isSeparator ((a :: b :: cs).takeWhile isBlank) = true := by
  rw [List.takeWhile_cons_of_pos ha, List.takeWhile_cons_of_pos hb, isSeparator,
    Bool.or_eq_true_iff, decide_eq_true_iff]
  exact .inl (Nat.le_add_left 2 _)

theorem cutCell_fst_eq_nil {cs : List Char} (h : (cutCell cs).1 = []) :
    cs = [] ∨ isSeparator (cs.takeWhile isBlank) = true := by
  cases cs with
  | nil => exact .inl rfl
  | cons c cs =>
      rw [cutCell] at h
      split at h
      next hsep => exact .inr hsep
      next => cases h

theorem head?_of_mem_head?_cutCell {cs : List Char} {b : Char} (hb : b ∈ (cutCell cs).1.head?) :
    b ∈ cs.head? := by
  rw [← cutCell_append cs, List.head?_append, Option.mem_def.1 hb]
  rfl

/-- What a cut leaves on its left is unbroken, if it cuts or there are no blanks at the end. -/
theorem isUnbroken_cutCell {cs : List Char}
    (hlast : (cutCell cs).2 = [] → ∀ c ∈ cs.getLast?, isBlank c = false) :
    IsUnbroken (cutCell cs).1 := by
  induction cs with
  | nil => exact isUnbroken_nil
  | cons c cs ih =>
      by_cases hsep : isSeparator ((c :: cs).takeWhile isBlank) = true
      · rw [cutCell, if_pos hsep]
        exact isUnbroken_nil
      · have hcut : cutCell (c :: cs) = (c :: (cutCell cs).1, (cutCell cs).2) := by
          rw [cutCell, if_neg hsep]
        rw [hcut] at hlast ⊢
        refine (ih ?_).cons ?_ ?_ ?_
        · intro hrest b hb
          refine hlast hrest b ?_
          cases cs with
          | nil => cases hb
          | cons a cs => rwa [List.getLast?_cons_cons]
        · intro hnil
          cases hc : isBlank c with
          | false => rfl
          | true =>
              rcases cutCell_fst_eq_nil hnil with rfl | hnext
              · exact hc.symm.trans (hlast rfl c rfl)
              · exact absurd (by rw [isSeparator_takeWhile_cons hc, hnext, Bool.true_or]) hsep
        · rintro rfl
          exact absurd (by rw [isSeparator_takeWhile_cons rfl]; exact Bool.or_true _) hsep
        · intro b hb hc
          cases hblank : isBlank b with
          | false => rfl
          | true =>
              obtain ⟨rest, rfl⟩ := List.head?_eq_some_iff.1 (head?_of_mem_head?_cutCell hb)
              exact absurd (isSeparator_of_isBlank hc hblank rest) hsep

theorem isTrimmed_dropWhile {cs : List Char} (hne : cs ≠ [])
    (hlast : ∀ c ∈ cs.getLast?, isBlank c = false) : IsTrimmed (cs.dropWhile isBlank) := by
  have hrest : cs.dropWhile isBlank ≠ [] := by
    intro hnil
    have hblank := List.dropWhile_eq_nil_iff.1 hnil _ (List.getLast_mem hne)
    rw [hlast _ (List.getLast?_eq_getLast_of_ne_nil hne)] at hblank
    exact Bool.false_ne_true hblank
  refine ⟨hrest, fun c => isBlank_of_mem_head?_dropWhile, ?_⟩
  rwa [← List.takeWhile_append_dropWhile (p := isBlank) (l := cs),
    List.getLast?_append_of_ne_nil _ hrest] at hlast

theorem cutCell_fst_ne_nil {cs : List Char} (h : IsTrimmed cs) : (cutCell cs).1 ≠ [] := by
  intro hnil
  rcases cutCell_fst_eq_nil hnil with hcs | hsep
  · exact h.ne_nil hcs
  · rw [h.takeWhile] at hsep
    cases hsep

/-- A trimmed text is a row of cells. -/
theorem exists_isCut {cs : List Char} (h : IsTrimmed cs) :
    ∃ row : Row, row.text = cs ∧ row.IsCut := by
  have hcell : IsCell (cutCell cs).1 :=
    ⟨isUnbroken_cutCell fun _ => h.last, cutCell_fst_ne_nil h,
      fun c hc => h.head c (head?_of_mem_head?_cutCell hc)⟩
  have hwhole := cutCell_append cs
  by_cases hcut : (cutCell cs).2 = []
  · rw [hcut, List.append_nil] at hwhole
    exact ⟨.last (cutCell cs).1, hwhole, hcell⟩
  · have hshort := length_cutCell_lt hcut
    have hlast := h.last
    rw [← hwhole, List.getLast?_append_of_ne_nil _ hcut] at hlast
    obtain ⟨row, htext, hrow⟩ := exists_isCut (isTrimmed_dropWhile hcut hlast)
    refine ⟨.cons (cutCell cs).1 ((cutCell cs).2.takeWhile isBlank) row, ?_, hcell,
      ⟨List.all_takeWhile, (isSeparator_cutCell cs).resolve_left hcut⟩, hrow⟩
    rw [Row.text, htext, List.takeWhile_append_dropWhile, hwhole]
termination_by cs.length

theorem Row.IsCut.isTrimmed {row : Row} (h : row.IsCut) : IsTrimmed row.text := by
  induction row with
  | last cell => exact IsCell.isTrimmed h
  | cons cell run later ih => exact h.1.isTrimmed.append (ih h.2.2) run

theorem cellPieces_of_head?_hash (canHead : Bool) {cs : List Char} (h : cs.head? = some '#') :
    cellPieces canHead cs = [.plain cs] := by
  obtain ⟨rest, rfl⟩ := List.head?_eq_some_iff.1 h
  rw [cellPieces]

theorem cellPieces_of_head?_ne_hash (canHead : Bool) {cs : List Char} (hne : cs ≠ [])
    (h : cs.head? ≠ some '#') :
    cellPieces canHead cs =
      if (cutCell cs).2 = [] then [pieceOfCell canHead cs]
      else
        pieceOfCell canHead (cutCell cs).1 :: .plain ((cutCell cs).2.takeWhile isBlank) ::
          cellPieces false ((cutCell cs).2.dropWhile isBlank) := by
  cases cs with
  | nil => exact absurd rfl hne
  | cons c rest =>
      rw [cellPieces]
      · split <;> rfl
      · exact fun hc => h (congrArg some hc)

/-- The pieces of a row of cells are found by cutting its text. -/
theorem cellPieces_text (canHead : Bool) {row : Row} (h : row.IsCut) :
    cellPieces canHead row.text = row.pieces canHead := by
  induction row generalizing canHead with
  | last cell =>
      have hcut := cutCell_append_of_isUnbroken h.toIsUnbroken (.inl rfl)
      rw [List.append_nil] at hcut
      rw [Row.text, Row.pieces]
      split
      next hhash => exact cellPieces_of_head?_hash canHead hhash
      next hhash => rw [cellPieces_of_head?_ne_hash canHead h.ne_nil hhash, hcut, if_pos rfl]
  | cons cell run later ih =>
      obtain ⟨hcell, ⟨hblank, hsep⟩, hlater⟩ := h
      have htrimmed := hlater.isTrimmed
      have hblank := List.all_eq_true.1 hblank
      have htake : (run ++ later.text).takeWhile isBlank = run := by
        rw [List.takeWhile_append_of_pos hblank, htrimmed.takeWhile, List.append_nil]
      have hdrop : (run ++ later.text).dropWhile isBlank = later.text := by
        rw [List.dropWhile_append_of_pos hblank, htrimmed.dropWhile]
      have hcut := cutCell_append_of_isUnbroken hcell.toIsUnbroken
        (.inr (htake.symm ▸ hsep : isSeparator ((run ++ later.text).takeWhile isBlank) = true))
      have hne : run ++ later.text ≠ [] := List.append_ne_nil_of_right_ne_nil _ htrimmed.ne_nil
      have hhead : (cell ++ (run ++ later.text)).head? = cell.head? :=
        List.head?_append_of_ne_nil cell hcell.ne_nil
      rw [Row.text, Row.pieces]
      split
      next hhash => exact cellPieces_of_head?_hash canHead (hhead.trans hhash)
      next hhash =>
          rw [cellPieces_of_head?_ne_hash canHead
            (List.append_ne_nil_of_left_ne_nil hcell.ne_nil _) (hhead ▸ hhash), hcut, if_neg hne,
            htake, hdrop, ih false hlater]

theorem dropTrailingBlanks_append_of_all {cs blanks : List Char}
    (hcs : ∀ c ∈ cs.getLast?, isBlank c = false) (hblanks : blanks.all isBlank = true) :
    dropTrailingBlanks (cs ++ blanks) = cs := by
  have hall : ∀ c ∈ blanks.reverse, isBlank c = true :=
    fun c hc => List.all_eq_true.1 hblanks c (List.mem_reverse.1 hc)
  rw [dropTrailingBlanks, List.reverse_append, List.dropWhile_append_of_pos hall]
  cases hlast : cs.reverse with
  | nil => rw [List.reverse_eq_nil_iff.1 hlast]; rfl
  | cons c rest =>
      have hc : isBlank c = false := hcs c (by rw [← List.head?_reverse, hlast]; rfl)
      rw [List.dropWhile_cons_of_neg (by simp [hc]), ← hlast, List.reverse_reverse]

/-- The pieces of a line can be read off any layout of it. -/
theorem IsLayout.linePieces_eq {content indent : List Char} {row : Row} {trailing : List Char}
    (h : IsLayout content indent row trailing) :
    linePieces content =
      plainUnlessEmpty indent ++ row.pieces indent.isEmpty ++ plainUnlessEmpty trailing := by
  have htrimmed := h.isCut.isTrimmed
  have hindent := List.all_eq_true.1 h.isBlank_indent
  have hlast : ∀ c ∈ (indent ++ row.text).getLast?, isBlank c = false := by
    rw [List.getLast?_append_of_ne_nil _ htrimmed.ne_nil]
    exact htrimmed.last
  have hcontent : content = indent ++ row.text ++ trailing :=
    h.content_eq.trans (List.append_assoc _ _ _).symm
  have hbody : dropTrailingBlanks content = indent ++ row.text := by
    rw [hcontent]
    exact dropTrailingBlanks_append_of_all hlast h.isBlank_trailing
  have htrailing : trailingBlanks content = trailing := by
    have hparts := dropTrailingBlanks_append content
    rw [hbody] at hparts
    exact List.append_cancel_left (hparts.trans hcontent)
  have htake : (indent ++ row.text).takeWhile isBlank = indent := by
    rw [List.takeWhile_append_of_pos hindent, htrimmed.takeWhile, List.append_nil]
  have hdrop : (indent ++ row.text).dropWhile isBlank = row.text := by
    rw [List.dropWhile_append_of_pos hindent, htrimmed.dropWhile]
  rw [linePieces, hbody, htrailing, htake, hdrop, cellPieces_text _ h.isCut]

theorem dropTrailingBlanks_ne_nil {content : List Char} (h : content.all isBlank = false) :
    dropTrailingBlanks content ≠ [] := by
  intro hnil
  rw [dropTrailingBlanks, List.reverse_eq_nil_iff, List.dropWhile_eq_nil_iff] at hnil
  have hall : content.all isBlank = true :=
    List.all_eq_true.2 fun c hc => hnil c (List.mem_reverse.2 hc)
  exact Bool.false_ne_true (h.symm.trans hall)

theorem isBlank_getLast?_dropTrailingBlanks {content : List Char} {c : Char}
    (hc : c ∈ (dropTrailingBlanks content).getLast?) : isBlank c = false := by
  rw [dropTrailingBlanks, List.getLast?_reverse] at hc
  exact isBlank_of_mem_head?_dropWhile hc

/-- Every line that is not all blank has a layout. -/
theorem exists_isLayout {content : List Char} (h : content.all isBlank = false) :
    ∃ indent row trailing, IsLayout content indent row trailing := by
  obtain ⟨row, htext, hcut⟩ := exists_isCut
    (isTrimmed_dropWhile (dropTrailingBlanks_ne_nil h)
      fun c => isBlank_getLast?_dropTrailingBlanks)
  refine ⟨(dropTrailingBlanks content).takeWhile isBlank, row, trailingBlanks content, ?_,
    List.all_takeWhile, hcut, ?_⟩
  · rw [htext, ← List.append_assoc, List.takeWhile_append_dropWhile, dropTrailingBlanks_append]
  · rw [trailingBlanks, List.all_reverse]
    exact List.all_takeWhile

/-- A heading or a cell of content has the text of a cell. -/
theorem plain_or_isCell_of_mem_pieces {canHead : Bool} {row : Row} (h : row.IsCut) {p : Piece}
    (hp : p ∈ row.pieces canHead) : (∃ text, p = .plain text) ∨ IsCell p.text := by
  induction row generalizing canHead with
  | last cell =>
      rw [Row.pieces] at hp
      split at hp
      next => exact .inl ⟨cell, List.mem_singleton.1 hp⟩
      next =>
          rw [List.mem_singleton.1 hp, text_pieceOfCell]
          exact .inr h
  | cons cell run later ih =>
      obtain ⟨hcell, -, hlater⟩ := h
      rw [Row.pieces] at hp
      split at hp
      next => exact .inl ⟨_, List.mem_singleton.1 hp⟩
      next =>
          rcases List.mem_cons.1 hp with rfl | hp
          · rw [text_pieceOfCell]
            exact .inr hcell
          · rcases List.mem_cons.1 hp with rfl | hp
            · exact .inl ⟨run, rfl⟩
            · exact ih hlater hp

theorem plain_of_mem_plainUnlessEmpty {text : List Char} {p : Piece}
    (hp : p ∈ plainUnlessEmpty text) : ∃ text, p = .plain text := by
  rw [plainUnlessEmpty] at hp
  split at hp
  next => cases hp
  next => exact ⟨text, List.mem_singleton.1 hp⟩

theorem plain_or_isCell_of_mem_linePieces {content : List Char} {p : Piece}
    (hp : p ∈ linePieces content) : (∃ text, p = .plain text) ∨ IsCell p.text := by
  cases hall : content.all isBlank with
  | true =>
      rw [linePieces_of_all_isBlank hall] at hp
      exact .inl (plain_of_mem_plainUnlessEmpty hp)
  | false =>
      obtain ⟨indent, row, trailing, hlayout⟩ := exists_isLayout hall
      rw [hlayout.linePieces_eq] at hp
      rcases List.mem_append.1 hp with hp | hp
      · rcases List.mem_append.1 hp with hp | hp
        · exact .inl (plain_of_mem_plainUnlessEmpty hp)
        · exact plain_or_isCell_of_mem_pieces hlayout.isCut hp
      · exact .inl (plain_of_mem_plainUnlessEmpty hp)

/-- The steps of a line, found along the matches of a separator, are those of its pieces: a line of
blanks is one leaf, and any other line has a layout, by which its pieces can be told. All but plain
pieces have the text of a cell. -/
theorem tokenizeLine_exact (content : List Char) :
    tokenizeLine content = some ((linePieces content).flatMap Piece.steps) ∧
      (linePieces content).flatMap Piece.text = content ∧
      (content.all isBlank = true → linePieces content = plainUnlessEmpty content) ∧
      (content.all isBlank = false → ∃ indent row trailing, IsLayout content indent row trailing) ∧
      (∀ indent row trailing, IsLayout content indent row trailing →
        linePieces content =
          plainUnlessEmpty indent ++ row.pieces indent.isEmpty ++ plainUnlessEmpty trailing) ∧
      ∀ p ∈ linePieces content, (∃ text, p = .plain text) ∨ IsCell p.text :=
  ⟨tokenizeLine_eq content, flatMap_text_linePieces content, linePieces_of_all_isBlank,
    exists_isLayout, fun _ _ _ h => h.linePieces_eq, fun _ => plain_or_isCell_of_mem_linePieces⟩

end RunMarkers.Suite
