import Mathlib.Data.Prod.Lex
import Mathlib.Data.Set.Function
import RunMarkers.Proofs.Source.Boundary
import RunMarkers.Proofs.Text.Encoded

/-!
# Positions counted in bytes

The position of an offset is found by a binary search in the table of line starts, which is sorted
(`Source.pairwise_lineStarts`) and complete (`Source.mem_lineStarts_iff`). It is what counting says
(`Source.IsExactAt`): the line is the number of line feed bytes before the offset, and on a
character boundary the character is the number of code points since the last of them. No other
character has a byte of a line feed (`Text.lineFeed_mem_utf8EncodeChar_iff`), so an offset inside a
character counts like the start of that character. From one boundary to the next the position grows.
-/

namespace RunMarkers

/-- Line by line, and along a line character by character. -/
instance : Preorder Position := Preorder.lift fun p => toLex (p.line, p.character)

theorem Position.lt_iff {p q : Position} :
    p < q ↔ p.line < q.line ∨ p.line = q.line ∧ p.character < q.character :=
  Prod.Lex.toLex_lt_toLex

theorem Position.line_le_of_le {p q : Position} (h : p ≤ q) : p.line ≤ q.line :=
  Prod.Lex.monotone_fst _ _ h

namespace Text

theorem lineFeed_mem_utf8EncodeChar_iff {c : Char} : 10 ∈ String.utf8EncodeChar c ↔ c = '\n' :=
  mem_utf8EncodeChar_iff rfl

theorem count_encoded (cs : List Char) : (encoded cs).count 10 = cs.count '\n' := by
  induction cs with
  | nil => rfl
  | cons c cs ih =>
      have hchar : (String.utf8EncodeChar c).count 10 = if c = '\n' then 1 else 0 := by
        split
        next hc => rw [hc]; rfl
        next hc => exact List.count_eq_zero.2 fun h => hc (lineFeed_mem_utf8EncodeChar_iff.1 h)
      rw [encoded, List.flatMap_cons, List.count_append, hchar, ← encoded, ih, List.count_cons,
        Nat.add_comm]
      simp only [beq_iff_eq]

/-- The part of a text before a byte offset, and the character that the offset is at or in. -/
theorem exists_cut {cs : List Char} {offset : Nat} (h : offset ≤ byteLength cs) :
    ∃ pre rest, cs = pre ++ rest ∧ byteLength pre ≤ offset ∧
      ∀ c ∈ rest.head?, offset < byteLength pre + c.utf8Size := by
  induction cs generalizing offset with
  | nil => exact ⟨[], [], rfl, Nat.zero_le _, fun c hc => by cases hc⟩
  | cons c cs ih =>
      by_cases hc : offset < c.utf8Size
      · refine ⟨[], c :: cs, rfl, Nat.zero_le _, ?_⟩
        intro b hb
        obtain rfl := Option.some.inj hb
        rwa [byteLength_nil, Nat.zero_add]
      · rw [byteLength_cons] at h
        have hrest : offset - c.utf8Size ≤ byteLength cs := by omega
        obtain ⟨pre, rest, rfl, hle, hlt⟩ := ih hrest
        refine ⟨c :: pre, rest, rfl, ?_, ?_⟩
        · rw [byteLength_cons]
          omega
        · intro b hb
          have := hlt b hb
          rw [byteLength_cons]
          omega

/-- An offset inside a character counts the line feeds before that character. -/
theorem count_take_encoded {pre rest : List Char} {offset : Nat} (hle : byteLength pre ≤ offset)
    (hlt : ∀ c ∈ rest.head?, offset < byteLength pre + c.utf8Size) :
    ((encoded (pre ++ rest)).take offset).count 10 = pre.count '\n' := by
  have hpre : ((encoded pre).take offset) = encoded pre :=
    List.take_of_length_le ((length_encoded pre).symm ▸ hle)
  rw [encoded_append, List.take_append, hpre, List.count_append, count_encoded, length_encoded,
    Nat.add_eq_left, List.count_eq_zero]
  cases rest with
  | nil => simp [encoded]
  | cons c rest =>
      have hinside := hlt c rfl
      have htake : (encoded (c :: rest)).take (offset - byteLength pre) =
          (String.utf8EncodeChar c).take (offset - byteLength pre) := by
        rw [encoded, List.flatMap_cons]
        exact List.take_append_of_le_length (by rw [String.length_utf8EncodeChar]; omega)
      rw [htake]
      intro hmem
      -- a line feed has one byte, so the offset is at its start
      obtain rfl := lineFeed_mem_utf8EncodeChar_iff.1 (List.mem_of_mem_take hmem)
      have hzero : offset - byteLength pre = 0 := by
        have : ('\n').utf8Size = 1 := rfl
        omega
      rw [hzero, List.take_zero] at hmem
      exact List.not_mem_nil hmem

theorem isSome_takeBytesOnto? (taken : List Char) (n : Nat) (cs : List Char) :
    (takeBytesOnto? taken n cs).isSome = (dropBytes? n cs).isSome := by
  induction cs generalizing taken n with
  | nil =>
      cases n with
      | zero => rfl
      | succ n => rfl
  | cons c cs ih =>
      cases n with
      | zero => rfl
      | succ n =>
          rw [takeBytesOnto?, dropBytes?]
          split
          next => exact ih (c :: taken) _
          next => rfl

end Text

open Text

namespace LineStart

/-- The search for the line of an offset ends behind the line starts that are not beyond it. -/
theorem getElem?_length_takeWhile (offset : Nat) (found : LineStart) (ls : List LineStart) :
    (found :: ls)[(ls.takeWhile fun l => decide (l.offset ≤ offset)).length]? =
      some (lastUpTo offset found ls) := by
  induction ls generalizing found with
  | nil => rfl
  | cons l ls ih =>
      rw [lastUpTo, List.takeWhile_cons]
      by_cases hle : l.offset ≤ offset
      · rw [if_pos hle, if_pos (decide_eq_true hle), List.length_cons, List.getElem?_cons_succ, ih]
      · rw [if_neg hle, if_neg (by simpa using hle), List.length_nil, List.getElem?_cons_zero]

theorem line_lastUpTo_after (offset line start : Nat) {found : LineStart}
    (hfound : found.line = line) (cs : List Char) :
    (lastUpTo offset found (after line start cs)).line =
      line + ((after line start cs).takeWhile fun l => decide (l.offset ≤ offset)).length := by
  induction cs generalizing line start found with
  | nil => exact hfound
  | cons c cs ih =>
      rw [after]
      split
      next =>
          rw [lastUpTo, List.takeWhile_cons]
          by_cases hle : start + c.utf8Size ≤ offset
          · rw [if_pos hle, if_pos (decide_eq_true hle), ih (line + 1) _ rfl, List.length_cons]
            omega
          · rw [if_neg hle, if_neg (by simpa using hle), hfound, List.length_nil, Nat.add_zero]
      next => exact ih line _ hfound

theorem pairwise_offset_after (line start : Nat) (cs : List Char) :
    (after line start cs).Pairwise fun l m => l.offset < m.offset := by
  induction cs generalizing line start with
  | nil => exact List.Pairwise.nil
  | cons c cs ih =>
      rw [after]
      split
      next =>
          refine List.pairwise_cons.2 ⟨?_, ih _ _⟩
          intro m hm
          cases cs with
          | nil => exact absurd hm List.not_mem_nil
          | cons b cs =>
              have hle := le_offset_of_mem_after hm
              have hpos := b.utf8Size_pos
              simp only
              omega
      next => exact ih _ _

theorem mem_map_offset_after_iff {line start x : Nat} {cs : List Char} :
    x ∈ (after line start cs).map offset ↔
      ∃ pre rest, cs = pre ++ '\n' :: rest ∧ x = start + byteLength pre + 1 := by
  induction cs generalizing line start with
  | nil => simp [after]
  | cons c cs ih =>
      have hcut : (∃ pre rest, c :: cs = pre ++ '\n' :: rest ∧ x = start + byteLength pre + 1) ↔
          c = '\n' ∧ x = start + 1 ∨
            ∃ pre rest, cs = pre ++ '\n' :: rest ∧ x = start + c.utf8Size + byteLength pre + 1 := by
        constructor
        · rintro ⟨pre, rest, hcs, rfl⟩
          rcases List.cons_eq_append_iff.1 hcs with ⟨rfl, hrest⟩ | ⟨pre', rfl, hcs'⟩
          · exact .inl ⟨(List.cons.inj hrest).1.symm, rfl⟩
          · exact .inr ⟨pre', rest, hcs', by rw [byteLength_cons]; omega⟩
        · rintro (⟨rfl, rfl⟩ | ⟨pre, rest, rfl, rfl⟩)
          · exact ⟨[], cs, rfl, rfl⟩
          · exact ⟨c :: pre, rest, rfl, by rw [byteLength_cons]; omega⟩
      rw [hcut, after]
      split
      next hc =>
          have hsize : c.utf8Size = 1 := hc ▸ rfl
          rw [List.map_cons, List.mem_cons, ih, hsize]
          simp only [hc, true_and]
      next hc =>
          rw [ih]
          simp only [hc, false_and, false_or]

end LineStart

namespace Source

variable {s : Source}

/-- The table of line starts is sorted, which a binary search in it relies on. -/
theorem pairwise_lineStarts (s : Source) : s.lineStarts.Pairwise (· < ·) := by
  refine List.pairwise_cons.2 ⟨?_, ?_⟩
  · intro x hx
    rw [s.laterLines_eq] at hx
    obtain ⟨pre, rest, -, rfl⟩ := LineStart.mem_map_offset_after_iff.1 hx
    omega
  · rw [List.pairwise_map, s.laterLines_eq]
    exact LineStart.pairwise_offset_after 0 0 s.chars

/-- The table of line starts has the start of the text and what follows a line feed. -/
theorem mem_lineStarts_iff {x : Nat} :
    x ∈ s.lineStarts ↔
      x = 0 ∨ ∃ pre rest, s.chars = pre ++ '\n' :: rest ∧ x = byteLength pre + 1 := by
  rw [lineStarts, List.mem_cons, s.laterLines_eq, LineStart.mem_map_offset_after_iff]
  simp only [Nat.zero_add]

theorem line_lineStartAt (s : Source) (offset : Nat) :
    (s.lineStartAt offset).line =
      (s.laterLines.takeWhile fun l => decide (l.offset ≤ offset)).length := by
  rw [lineStartAt, s.laterLines_eq, LineStart.line_lastUpTo_after offset 0 0 rfl, Nat.zero_add]

theorem partitionPoint_eq (s : Source) (offset : Nat) :
    s.partitionPoint offset = (s.lineStartAt offset).line + 1 := by
  have hzero : decide (0 ≤ offset) = true := decide_eq_true (Nat.zero_le offset)
  rw [partitionPoint, lineStarts, List.takeWhile_cons, if_pos hzero, List.takeWhile_map,
    List.length_cons, List.length_map, line_lineStartAt]
  rfl

theorem getElem?_lineStarts (s : Source) (offset : Nat) :
    s.lineStarts[(s.lineStartAt offset).line]? = some (s.lineStartAt offset).offset := by
  have hmap : s.lineStarts = (LineStart.first s.chars :: s.laterLines).map LineStart.offset := rfl
  rw [hmap, List.getElem?_map, line_lineStartAt, LineStart.getElem?_length_takeWhile]
  rfl

theorem bytesBetween?_lineStartAt (s : Source) (offset : Nat) :
    bytesBetween? (s.lineStartAt offset).offset offset s.chars =
      takeBytes? (offset - (s.lineStartAt offset).offset) (s.lineStartAt offset).rest := by
  have hdrop : dropBytes? (s.lineStartAt offset).offset s.chars =
      some (s.lineStartAt offset).rest := s.isIn_lineStartAt offset
  rw [bytesBetween?, if_pos (s.offset_lineStartAt_le offset), hdrop, Option.bind_some]

/-- The search in the table finds the position of every offset. -/
theorem positionInTable?_eq_some (s : Source) (offset : Nat) :
    s.positionInTable? offset = some (s.positionAt offset) := by
  rw [positionInTable?]
  simp only [partitionPoint_eq, getElem?_lineStarts, Option.map_some, bytesBetween?_lineStartAt,
    positionAt, placeAt, Position.narrowed]

/-- The bytes of the source. -/
def bytes (s : Source) : List UInt8 := s.text.toUTF8.data.toList

theorem bytes_eq_encoded (s : Source) : s.bytes = encoded s.chars := by
  simp [bytes, text, encoded, String.toUTF8, String.toByteArray_ofList, List.utf8Encode]

theorem length_bytes (s : Source) : s.bytes.length = s.size := by
  rw [bytes_eq_encoded, length_encoded, s.size_eq]

/-- What the position of an offset is by counting: line feed bytes before the offset, and code
points since the last line feed. -/
structure IsExactAt (s : Source) (offset : Nat) (p : Position) : Prop where
  line_eq : p.line = (s.bytes.take (min offset s.size)).count 10
  character_eq : s.isBoundary (min offset s.size) = true → ∃ before here rest,
    s.chars = before ++ here ++ rest ∧ byteLength (before ++ here) = min offset s.size ∧
      (before = [] ∨ before.getLast? = some '\n') ∧ '\n' ∉ here ∧ p.character = here.length
  character_eq_zero : s.isBoundary (min offset s.size) = false → p.character = 0

theorem line_placeAt (s : Source) (offset : Nat) :
    (s.placeAt offset).line = (s.bytes.take (min offset s.size)).count 10 := by
  have hle : min offset s.size ≤ byteLength s.chars := s.size_eq ▸ Nat.min_le_right _ _
  obtain ⟨pre, rest, hchars, hpre, hlt⟩ := exists_cut hle
  rw [bytes_eq_encoded, hchars, count_take_encoded hpre hlt]
  simp only [placeAt, lineStartAt_append hchars hpre hlt]

theorem placeAt_min_size (s : Source) (offset : Nat) :
    s.placeAt (min offset s.size) = s.placeAt offset := by
  rw [placeAt, placeAt, Nat.min_assoc, Nat.min_self]

theorem isBoundary_eq_isSome_takeBytes? (s : Source) (offset : Nat) :
    s.isBoundary offset =
      (takeBytes? (offset - (s.lineStartAt offset).offset) (s.lineStartAt offset).rest).isSome := by
  rw [isBoundary, textFrom?, takeBytes?, isSome_takeBytesOnto?]

theorem isExactAt_placeAt (s : Source) (offset : Nat) :
    s.IsExactAt offset (s.placeAt offset) where
  line_eq := s.line_placeAt offset
  character_eq := by
    intro hboundary
    obtain ⟨pre, rest, hchars, hpre⟩ := isBoundary_iff.1 hboundary
    obtain ⟨before, hbefore, hlast⟩ := exists_append_lastLine pre
    refine ⟨before, lastLine pre, rest, ?_, ?_, hlast, not_mem_lastLine pre, ?_⟩
    · rw [← hbefore, hchars]
    · rw [← hbefore, hpre]
    · rw [← placeAt_min_size, ← hpre, placeAt_append hchars]
  character_eq_zero := by
    intro hboundary
    rw [isBoundary_eq_isSome_takeBytes?, Option.isSome_eq_false_iff, Option.isNone_iff_eq_none]
      at hboundary
    simp only [placeAt]
    rw [hboundary]
    rfl

theorem IsExactAt.line_le {offset : Nat} {p : Position} (h : s.IsExactAt offset p) :
    p.line ≤ s.size := by
  rw [h.line_eq, ← length_bytes]
  exact Nat.le_trans List.count_le_length (List.length_take_le' _ _)

theorem IsExactAt.character_le {offset : Nat} {p : Position} (h : s.IsExactAt offset p) :
    p.character ≤ s.size := by
  cases hboundary : s.isBoundary (min offset s.size) with
  | false =>
      rw [h.character_eq_zero hboundary]
      exact Nat.zero_le _
  | true =>
      obtain ⟨before, here, rest, -, hbyte, -, -, hcharacter⟩ := h.character_eq hboundary
      have hlength := length_le_byteLength here
      rw [byteLength_append] at hbyte
      omega

/-- In a source below 2 ^ 32 bytes, lines and characters fit in 32 bits. -/
theorem positionAt_of_size_lt (hsize : s.size < UInt32.size) (offset : Nat) :
    s.positionAt offset = s.placeAt offset :=
  Position.narrowed_of_lt (Nat.lt_of_le_of_lt (s.isExactAt_placeAt offset).line_le hsize)
    (Nat.lt_of_le_of_lt (s.isExactAt_placeAt offset).character_le hsize)

theorem strictMonoOn_placeAt (s : Source) :
    StrictMonoOn s.placeAt {offset | s.isBoundary offset = true} := by
  intro a ha b hb hlt
  obtain ⟨pre, mid, rest, hchars, rfl, rfl⟩ := exists_cut_of_isBoundary (Nat.le_of_lt hlt) ha hb
  have hmid : mid ≠ [] := by
    rintro rfl
    simp at hlt
  rw [Position.lt_iff, ← byteLength_append, placeAt_append hchars,
    placeAt_append (hchars.trans (List.append_assoc _ _ _)), List.count_append]
  by_cases hmem : '\n' ∈ mid
  · exact .inl (Nat.lt_add_of_pos_right (List.count_pos_iff.2 hmem))
  · refine .inr ⟨by rw [List.count_eq_zero.2 hmem, Nat.add_zero], ?_⟩
    rw [lastLine_append_of_not_mem pre hmem, List.length_append]
    exact Nat.lt_add_of_pos_right (List.length_pos_iff.2 hmid)

theorem strictMonoOn_positionAt (hsize : s.size < UInt32.size) :
    StrictMonoOn s.positionAt {offset | s.isBoundary offset = true} := by
  have hplace : s.positionAt = s.placeAt := funext (positionAt_of_size_lt hsize)
  rw [hplace]
  exact s.strictMonoOn_placeAt

/-- Of a source below 2 ^ 32 bytes, the search in the table of line starts finds the exact position
of every offset, and along the character boundaries the positions grow. The table is sorted and has
the start of the text and what follows each line feed. -/
theorem positionInTable?_exact (s : Source) (hsize : s.size < UInt32.size) :
    (∀ offset, s.positionInTable? offset = some (s.positionAt offset) ∧
      s.IsExactAt offset (s.positionAt offset)) ∧
      StrictMonoOn s.positionAt {offset | s.isBoundary offset = true} ∧
      Set.InjOn s.positionAt {offset | s.isBoundary offset = true} ∧
      s.lineStarts.Pairwise (· < ·) ∧
      ∀ x, x ∈ s.lineStarts ↔
        x = 0 ∨ ∃ pre rest, s.chars = pre ++ '\n' :: rest ∧ x = byteLength pre + 1 := by
  have hmono := strictMonoOn_positionAt hsize
  refine ⟨?_, hmono, hmono.injOn, s.pairwise_lineStarts, fun x => mem_lineStarts_iff⟩
  intro offset
  refine ⟨s.positionInTable?_eq_some offset, ?_⟩
  rw [positionAt_of_size_lt hsize]
  exact s.isExactAt_placeAt offset

/-- At the line feed, behind it, inside a character and past the end. -/
theorem positionInTable?_exact_twoLines :
    (ofChars ['é', '\n', 'ß', 'b']).size < UInt32.size ∧
      (ofChars ['é', '\n', 'ß', 'b']).positionInTable? 2 = some ⟨0, 1⟩ ∧
      (ofChars ['é', '\n', 'ß', 'b']).positionInTable? 3 = some ⟨1, 0⟩ ∧
      (ofChars ['é', '\n', 'ß', 'b']).positionInTable? 4 = some ⟨1, 0⟩ ∧
      (ofChars ['é', '\n', 'ß', 'b']).positionInTable? 9 = some ⟨1, 2⟩ := by
  have hsize : (ofChars ['é', '\n', 'ß', 'b']).size < UInt32.size := by decide
  obtain ⟨htable, -⟩ := positionInTable?_exact _ hsize
  exact ⟨hsize, (htable 2).1.trans (by decide), (htable 3).1.trans (by decide),
    (htable 4).1.trans (by decide), (htable 9).1.trans (by decide)⟩

end Source

end RunMarkers
