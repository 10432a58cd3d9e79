import RunMarkers.Proofs.Marker.Joined

/-!
# Markers of a file saved another way

An editor may save a text with a carriage return before each line feed, or with a byte order mark at
its start. Neither is part of a line's content, so the scan meets the same lines, each at another
place: `scanLines_withReturns` moves a line by one byte for each line above it, `scanLines_marked`
moves every line by the bytes of the mark, and the first one by a character. A mark is one more node
(`countOf_chunks_resaved`), and a return before a line feed is none.
-/

namespace RunMarkers

namespace Suite

/-- A text with a carriage return before each line feed. -/
def withReturns (cs : List Char) : List Char :=
  cs.flatMap fun c => if c = '\n' then ['\r', '\n'] else [c]

/-- A text saved with or without carriage returns, and with or without a byte order mark. -/
def resaved (returns mark : Bool) (cs : List Char) : List Char :=
  (if mark then [byteOrderMark] else []) ++ if returns then withReturns cs else cs

theorem withReturns_cons_of_ne {c : Char} (hc : c ≠ '\n') (cs : List Char) :
    withReturns (c :: cs) = c :: withReturns cs := by
  rw [withReturns, List.flatMap_cons, if_neg hc]
  rfl

theorem withReturns_append (l m : List Char) :
    withReturns (l ++ m) = withReturns l ++ withReturns m := List.flatMap_append

theorem withReturns_of_not_mem {cs : List Char} (h : '\n' ∉ cs) : withReturns cs = cs := by
  induction cs with
  | nil => rfl
  | cons c cs ih =>
      rw [List.mem_cons, not_or] at h
      rw [withReturns_cons_of_ne (Ne.symm h.1), ih h.2]

theorem head?_withReturns_ne {cs : List Char} (h : cs.head? ≠ some byteOrderMark) :
    (withReturns cs).head? ≠ some byteOrderMark := by
  cases cs with
  | nil => exact nofun
  | cons c cs =>
      by_cases hc : c = '\n'
      · subst hc
        change some '\r' ≠ some byteOrderMark
        decide
      · rw [withReturns_cons_of_ne hc]
        exact h

/-- The cuts stay where they are. -/
theorem cutAfterLineFeeds_withReturns (cs : List Char) :
    cutAfterLineFeeds (withReturns cs) = (cutAfterLineFeeds cs).map withReturns := by
  induction cs with
  | nil => rfl
  | cons c cs ih =>
      by_cases hc : c = '\n'
      · subst hc
        change cutAfterLineFeeds ('\r' :: '\n' :: withReturns cs) = _
        rw [cutAfterLineFeeds, cutAfterLineFeeds, cutAfterLineFeeds, ih]
        rfl
      · rw [withReturns_cons_of_ne hc, cutAfterLineFeeds, cutAfterLineFeeds, if_neg hc, if_neg hc,
          ih]
        cases cutAfterLineFeeds cs with
        | nil => rw [List.map_nil, List.map_singleton, withReturns_cons_of_ne hc]; rfl
        | cons raw later => rw [List.map_cons, List.map_cons, withReturns_cons_of_ne hc]

theorem withoutEnding_append_lineFeed {content : List Char} (h : '\r' ∉ content) :
    withoutEnding (content ++ ['\n']) = content := by
  induction content with
  | nil => rfl
  | cons c content ih =>
      rw [List.mem_cons, not_or] at h
      rw [List.cons_append, withoutEnding, if_neg (by simp [Ne.symm h.1]), ih h.2]

theorem withoutEnding_append_return (content : List Char) :
    withoutEnding (content ++ ['\r', '\n']) = content := by
  induction content with
  | nil => rfl
  | cons c content ih =>
      have hrest : content ++ ['\r', '\n'] ≠ ['\n'] := by
        intro h
        have hlength := congrArg List.length h
        simp at hlength
      rw [List.cons_append, withoutEnding, if_neg (by simp [hrest]), ih]

section Line

variable {raw : List Char} {later : List PhysicalLine}

theorem withoutEnding_of_ending_eq_nil (hending : (PhysicalLine.ofRaw raw).ending = []) :
    withoutEnding raw = raw := by
  have htext := PhysicalLine.text_ofRaw raw
  rw [PhysicalLine.text, hending, List.append_nil] at htext
  exact htext

/-- A carriage return before the line feed is part of the ending. -/
theorem withoutEnding_withReturns (h : EndOnce (.ofRaw raw :: later)) (hreturn : '\r' ∉ raw) :
    withoutEnding (withReturns raw) = withoutEnding raw := by
  by_cases hending : (PhysicalLine.ofRaw raw).ending = []
  · have hcontent : '\n' ∉ withoutEnding raw := h.1
    rw [withoutEnding_of_ending_eq_nil hending] at hcontent
    rw [withReturns_of_not_mem hcontent]
  · obtain ⟨content, rfl, hcontent⟩ := h.exists_append_lineFeed hending
    have hnone : '\r' ∉ content := fun hmem => hreturn (List.mem_append_left _ hmem)
    rw [withReturns_append, withReturns_of_not_mem hcontent, withoutEnding_append_lineFeed hnone]
    exact withoutEnding_append_return content

theorem byteLength_withReturns (h : EndOnce (.ofRaw raw :: later))
    (hending : (PhysicalLine.ofRaw raw).ending ≠ []) :
    Text.byteLength (withReturns raw) = Text.byteLength raw + 1 := by
  obtain ⟨content, rfl, hcontent⟩ := h.exists_append_lineFeed hending
  rw [withReturns_append, withReturns_of_not_mem hcontent, Text.byteLength_append,
    Text.byteLength_append]
  rfl

theorem countOf_chunks_line (line : PhysicalLine) :
    Chunk.countOf line.chunks =
      Chunk.countOf ((linePieces line.content).map Piece.chunk) +
        if line.ending.isEmpty then 0 else 1 := by
  rw [PhysicalLine.chunks, Chunk.countOf_append]
  cases line.ending with
  | nil => rfl
  | cons c cs => rfl

theorem ending_withReturns_ne_nil (h : EndOnce (.ofRaw raw :: later)) (hreturn : '\r' ∉ raw)
    (hending : (PhysicalLine.ofRaw raw).ending ≠ []) :
    (PhysicalLine.ofRaw (withReturns raw)).ending ≠ [] := by
  intro hnil
  have hlength := congrArg Text.byteLength (withoutEnding_of_ending_eq_nil hnil)
  have hraw := congrArg Text.byteLength (PhysicalLine.text_ofRaw raw)
  rw [withoutEnding_withReturns h hreturn, byteLength_withReturns h hending] at hlength
  rw [PhysicalLine.text, Text.byteLength_append] at hraw
  change Text.byteLength (withoutEnding raw) + _ = _ at hraw
  omega

/-- A line has as many nodes with a carriage return before its line feed as without it. -/
theorem countOf_chunks_withReturns (h : EndOnce (.ofRaw raw :: later)) (hreturn : '\r' ∉ raw) :
    Chunk.countOf (PhysicalLine.ofRaw (withReturns raw)).chunks =
      Chunk.countOf (PhysicalLine.ofRaw raw).chunks := by
  by_cases hending : (PhysicalLine.ofRaw raw).ending = []
  · have hcontent : '\n' ∉ withoutEnding raw := h.1
    rw [withoutEnding_of_ending_eq_nil hending] at hcontent
    rw [withReturns_of_not_mem hcontent]
  · have hcontent : (PhysicalLine.ofRaw (withReturns raw)).content =
        (PhysicalLine.ofRaw raw).content := withoutEnding_withReturns h hreturn
    rw [countOf_chunks_line, countOf_chunks_line, hcontent,
      if_neg (by simpa using ending_withReturns_ne_nil h hreturn hending),
      if_neg (by simpa using hending)]

end Line

theorem countOf_flatMap_withReturns {raws : List (List Char)} (hraws : EndOnce (raws.map .ofRaw))
    (hreturn : ∀ raw ∈ raws, '\r' ∉ raw) :
    Chunk.countOf (((raws.map withReturns).map PhysicalLine.ofRaw).flatMap PhysicalLine.chunks) =
      Chunk.countOf ((raws.map PhysicalLine.ofRaw).flatMap PhysicalLine.chunks) := by
  induction raws with
  | nil => rfl
  | cons raw later ih =>
      have hline := countOf_chunks_withReturns hraws (hreturn raw List.mem_cons_self)
      have hlater := ih hraws.2.2 fun r hr => hreturn r (List.mem_cons_of_mem raw hr)
      simp only [List.map_cons, List.flatMap_cons, Chunk.countOf_append, hline, hlater]

/-- With carriage returns, each line is behind as many further bytes as there are lines above it. -/
theorem scanLines_withReturns {raws : List (List Char)} (hraws : EndOnce (raws.map .ofRaw))
    (hreturn : ∀ raw ∈ raws, '\r' ∉ raw) (number offset column : Nat) (within : Option Section) :
    scanLines number (offset + number) column within (raws.map withReturns) =
      (scanLines number offset column within raws).map fun l => l.moved 0 l.number 0 := by
  induction raws generalizing number offset column within with
  | nil => rfl
  | cons raw later ih =>
      have hcontent := withoutEnding_withReturns hraws (hreturn raw List.mem_cons_self)
      rw [List.map_cons, scanLines, scanLines, List.map_cons, hcontent]
      by_cases hending : (PhysicalLine.ofRaw raw).ending = []
      -- the bytes of a line without an ending are not counted, as no line follows
      · have hlater : later = [] := List.map_eq_nil_iff.1 (hraws.later_eq_nil hending)
        subst hlater
        rfl
      · have hoffset : offset + number + Text.byteLength (withReturns raw) =
            offset + Text.byteLength raw + (number + 1) := by
          rw [byteLength_withReturns hraws hending, ← Nat.add_assoc, Nat.add_right_comm offset,
            ← Nat.add_assoc]
        rw [hoffset, ← ih hraws.2.2 (fun r hr => hreturn r (List.mem_cons_of_mem raw hr))]
        rfl

theorem return_not_mem_cutAfterLineFeeds {cs : List Char} (hreturn : '\r' ∉ cs) :
    ∀ raw ∈ cutAfterLineFeeds cs, '\r' ∉ raw := by
  intro raw hraw hmem
  apply hreturn
  rw [← flatten_cutAfterLineFeeds cs]
  exact List.mem_flatten_of_mem hraw hmem

theorem scan_withReturns {cs : List Char} (hreturn : '\r' ∉ cs)
    (hmark : cs.head? ≠ some byteOrderMark) :
    scan (withReturns cs) = (scan cs).map fun m => m.moved 0 m.line 0 := by
  have hraws := return_not_mem_cutAfterLineFeeds hreturn
  have hlines := scanLines_withReturns (endOnce_map_ofRaw cs) hraws 0 0 0 none
  rw [scan, scan, scanned_of_head?_ne hmark, scanned_of_head?_ne (head?_withReturns_ne hmark),
    cutAfterLineFeeds_withReturns]
  change (scanLines 0 (0 + 0) 0 none _).filterMap ScanLine.marker? = _
  rw [hlines]
  exact ScanLine.filterMap_marker?_map_moved 0 (fun number => number) (fun _ => 0) _

/-- Behind a byte order mark, every line is behind its bytes, and the first one has it in front. -/
theorem scanLines_marked (raws : List (List Char)) :
    scanLines 0 byteOrderMark.utf8Size 1 none raws =
      (scanLines 0 0 0 none raws).map fun l =>
        l.moved 0 byteOrderMark.utf8Size (if l.number = 0 then 1 else 0) := by
  cases raws with
  | nil => rfl
  | cons raw later =>
      have hlater := scanLines_moved 0 byteOrderMark.utf8Size 1 (0 + Text.byteLength raw) 0
        (ScanLine.scope ⟨0, 0, 0, none, withoutEnding raw⟩) later
      rw [Nat.add_zero, Nat.zero_add, Nat.add_comm (Text.byteLength raw)] at hlater
      rw [scanLines, scanLines, List.map_cons, Nat.zero_add, Nat.zero_add]
      congr 1
      refine hlater.trans (List.map_congr_left ?_)
      intro l hl
      rw [if_neg (Nat.ne_of_gt (number_le_of_mem_scanLines hl))]

theorem scan_byteOrderMark_cons {cs : List Char} (hmark : cs.head? ≠ some byteOrderMark) :
    scan (byteOrderMark :: cs) =
      (scan cs).map fun m => m.moved 0 byteOrderMark.utf8Size (if m.line = 0 then 1 else 0) := by
  rw [scan, scan, scanned_of_head?_ne hmark, scanned, if_pos rfl, scanLines_marked]
  exact ScanLine.filterMap_marker?_map_moved 0 (fun _ => byteOrderMark.utf8Size)
    (fun number => if number = 0 then 1 else 0) _

/-- The scan of a text that is saved another way finds the same markers, moved by a byte for each
line above them that has a carriage return, and by the byte order mark. -/
theorem scan_resaved {cs : List Char} (hreturn : '\r' ∉ cs)
    (hmark : cs.head? ≠ some byteOrderMark) (returns mark : Bool) :
    scan (resaved returns mark cs) = (scan cs).map fun m =>
      m.moved 0 ((if returns then m.line else 0) + if mark then byteOrderMark.utf8Size else 0)
        (if mark then if m.line = 0 then 1 else 0 else 0) := by
  have hreturns : scan (if returns then withReturns cs else cs) =
      (scan cs).map fun m => m.moved 0 (if returns then m.line else 0) 0 := by
    cases returns with
    | true => exact scan_withReturns hreturn hmark
    | false => exact (List.map_id'' Marker.moved_zero (scan cs)).symm
  have hhead : (if returns then withReturns cs else cs).head? ≠ some byteOrderMark := by
    cases returns with
    | true => exact head?_withReturns_ne hmark
    | false => exact hmark
  cases mark with
  | true =>
      rw [resaved, if_pos rfl, List.singleton_append, scan_byteOrderMark_cons hhead, hreturns,
        List.map_map]
      apply List.map_congr_left
      intro m _
      rw [Function.comp_apply, Marker.moved_moved, Nat.zero_add, Nat.zero_add, if_pos rfl,
        if_pos rfl]
      rfl
  | false =>
      rw [resaved, if_neg Bool.false_ne_true, List.nil_append, hreturns]
      simp only [Bool.false_eq_true, if_false, Nat.add_zero]

theorem countOf_chunks_resaved {cs : List Char} (hreturn : '\r' ∉ cs)
    (hmark : cs.head? ≠ some byteOrderMark) (returns mark : Bool) :
    Chunk.countOf (chunks (resaved returns mark cs)) =
      Chunk.countOf (chunks cs) + if mark then 1 else 0 := by
  have hreturns : Chunk.countOf
      ((physicalLines (if returns then withReturns cs else cs)).flatMap PhysicalLine.chunks) =
      Chunk.countOf (chunks cs) := by
    rw [chunks_of_head?_ne hmark]
    cases returns with
    | true =>
        rw [if_pos rfl, physicalLines_eq_map_ofRaw, physicalLines_eq_map_ofRaw,
          cutAfterLineFeeds_withReturns]
        exact countOf_flatMap_withReturns (endOnce_map_ofRaw cs)
          (return_not_mem_cutAfterLineFeeds hreturn)
    | false => rfl
  cases mark with
  | true =>
      rw [resaved, if_pos rfl, List.singleton_append, chunks, if_pos rfl, Chunk.countOf_cons,
        hreturns, Nat.add_comm]
      rfl
  | false =>
      have hhead : (if returns then withReturns cs else cs).head? ≠ some byteOrderMark := by
        cases returns with
        | true => exact head?_withReturns_ne hmark
        | false => exact hmark
      rw [resaved, if_neg Bool.false_ne_true, List.nil_append, chunks_of_head?_ne hhead, hreturns,
        if_neg Bool.false_ne_true, Nat.add_zero]

end Suite

namespace Document

open Suite

/-- A text with headings on its first line and below, and a case with a blank inside its name. -/
def taskList : String := "*** Tasks ***\nBuild  it\n\n*** Test Cases ***\nLög in\n"

/-- The same text with a byte order mark and the other line ending. -/
def savedTaskList : String :=
  "\uFEFF*** Tasks ***\r\nBuild  it\r\n\r\n*** Test Cases ***\r\nLög in\r\n"

end Document

end RunMarkers
