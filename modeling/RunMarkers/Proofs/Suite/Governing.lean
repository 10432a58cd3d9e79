import Mathlib.Data.List.Nodup
import RunMarkers.Proofs.Suite.Scan

/-!
# The heading that governs a line

A line of a text is governed by the last heading line at or above it. The scan carries no line back
to its heading, only the section of the last one; `scope_of_mem_scanLines` ties the two, by induction
on the lines. So each marker of the scan stands in the section that its governing heading opens
(`exists_governs_of_mem_scan`), and a heading that opens a section that can be run has a marker of
its own (`exists_mem_scan_of_isRunnable`).
-/

namespace RunMarkers.Suite

theorem map_number_scanLines (number offset column : Nat) (within : Option Section)
    (raws : List (List Char)) :
    (scanLines number offset column within raws).map ScanLine.number =
      List.range' number raws.length := by
  induction raws generalizing number offset column within with
  | nil => rfl
  | cons raw later ih =>
      rw [scanLines, List.map_cons, ih, List.length_cons, List.range'_succ]

theorem pairwise_number_scanLines (number offset column : Nat) (within : Option Section)
    (raws : List (List Char)) :
    (scanLines number offset column within raws).Pairwise fun k l => k.number < l.number := by
  have hrange : (List.range' number raws.length).Pairwise (· < ·) := List.pairwise_lt_range'
  rw [← map_number_scanLines number offset column within raws] at hrange
  exact List.pairwise_map.1 hrange

theorem number_le_of_mem_scanLines {number offset column : Nat} {within : Option Section}
    {raws : List (List Char)} {l : ScanLine}
    (hl : l ∈ scanLines number offset column within raws) : number ≤ l.number := by
  have hnumber := List.mem_map_of_mem (f := ScanLine.number) hl
  rw [map_number_scanLines] at hnumber
  exact (List.mem_range'_1.1 hnumber).1

/-- The heading line `h` is the last one at or above a line. -/
def Governs (lines : List ScanLine) (line : Nat) (h : ScanLine) : Prop :=
  (h ∈ lines ∧ h.isHeading = true ∧ h.number ≤ line) ∧
    ∀ g ∈ lines, g.isHeading = true → g.number ≤ line → g.number ≤ h.number

theorem Governs.cons {first : ScanLine} {later : List ScanLine} {line : Nat} {h : ScanLine}
    (hlater : ∀ g ∈ later, first.number < g.number) (hh : Governs later line h) :
    Governs (first :: later) line h := by
  obtain ⟨⟨hmem, hheading, hle⟩, hlast⟩ := hh
  refine ⟨⟨List.mem_cons_of_mem first hmem, hheading, hle⟩, ?_⟩
  intro g hg hgHeading hgLe
  rcases List.mem_cons.1 hg with rfl | hg
  · exact Nat.le_of_lt (hlater h hmem)
  · exact hlast g hg hgHeading hgLe

theorem governs_first {first : ScanLine} {later : List ScanLine} {line : Nat}
    (hheading : first.isHeading = true) (hle : first.number ≤ line)
    (hlater : ∀ g ∈ later, g.isHeading = true → line < g.number) :
    Governs (first :: later) line first := by
  refine ⟨⟨List.mem_cons_self, hheading, hle⟩, ?_⟩
  intro g hg hgHeading hgLe
  rcases List.mem_cons.1 hg with rfl | hg
  · exact Nat.le_refl _
  · exact absurd hgLe (Nat.not_le_of_lt (hlater g hg hgHeading))

/-- The section behind the start of a line is the one that the governing heading line opens, or,
above the first heading line, the one in force at the start. -/
theorem scope_of_mem_scanLines {number offset column : Nat} {within : Option Section}
    {raws : List (List Char)} {l : ScanLine}
    (hl : l ∈ scanLines number offset column within raws) :
    (∃ h, Governs (scanLines number offset column within raws) l.number h ∧
        l.scope = some h.opens) ∨
      (∀ g ∈ scanLines number offset column within raws, g.isHeading = true →
        l.number < g.number) ∧ l.scope = within := by
  induction raws generalizing number offset column within with
  | nil => exact absurd hl List.not_mem_nil
  | cons raw later ih =>
      let first : ScanLine := ⟨number, offset, column, within, withoutEnding raw⟩
      have hlater : ∀ g ∈ scanLines (number + 1) (offset + Text.byteLength raw) 0 first.scope later,
          number < g.number := fun g hg => number_le_of_mem_scanLines hg
      -- no heading comes between the first line and `l`, or a later heading governs `l`
      have hsplit : (∃ h, Governs (scanLines (number + 1) (offset + Text.byteLength raw) 0
            first.scope later) l.number h ∧ l.scope = some h.opens) ∨
          (∀ g ∈ scanLines (number + 1) (offset + Text.byteLength raw) 0 first.scope later,
            g.isHeading = true → l.number < g.number) ∧ number ≤ l.number ∧
              l.scope = first.scope := by
        rcases List.mem_cons.1 hl with rfl | hl
        · exact .inr ⟨fun g hg _ => hlater g hg, Nat.le_refl number, rfl⟩
        · rcases ih hl with hgoverns | ⟨hnone, hscope⟩
          · exact .inl hgoverns
          · exact .inr ⟨hnone, Nat.le_of_lt (hlater l hl), hscope⟩
      rw [scanLines]
      rcases hsplit with ⟨h, hgoverns, hscope⟩ | ⟨hnone, hle, hscope⟩
      · exact .inl ⟨h, hgoverns.cons hlater, hscope⟩
      · cases hheading : first.isHeading with
        | true =>
            left
            refine ⟨first, governs_first hheading hle hnone, ?_⟩
            rw [hscope, ScanLine.scope_of_isHeading hheading]
        | false =>
            right
            constructor
            · intro g hg hgHeading
              rcases List.mem_cons.1 hg with rfl | hg
              · exact absurd (hgHeading.symm.trans hheading) Bool.noConfusion
              · exact hnone g hg hgHeading
            · rw [hscope, ScanLine.scope_of_not_isHeading hheading]

/-- A text is scanned from line zero, with no section open. -/
theorem exists_scanned_eq (cs : List Char) :
    ∃ offset column raws, scanned cs = scanLines 0 offset column none raws := by
  cases cs with
  | nil => exact ⟨0, 0, [], rfl⟩
  | cons c rest =>
      rw [scanned]
      split
      next => exact ⟨_, _, _, rfl⟩
      next => exact ⟨_, _, _, rfl⟩

theorem length_cutAfterLineFeeds_le (cs : List Char) :
    (cutAfterLineFeeds cs).length ≤ cs.count '\n' + 1 := by
  induction cs with
  | nil => exact Nat.zero_le _
  | cons c cs ih =>
      rw [cutAfterLineFeeds]
      split
      next hc =>
          rw [List.length_cons, hc, List.count_cons_self]
          exact Nat.succ_le_succ ih
      next hc =>
          rw [List.count_cons_of_ne hc]
          cases hcut : cutAfterLineFeeds cs with
          | nil => exact Nat.le_add_left 1 _
          | cons raw later =>
              rw [hcut] at ih
              exact ih

/-- A line has a number for each line feed before it at most. -/
theorem number_le_count_of_mem_scanned {cs : List Char} {l : ScanLine} (hl : l ∈ scanned cs) :
    l.number ≤ cs.count '\n' := by
  have hlast : ∀ {offset column : Nat} (ds : List Char),
      l ∈ scanLines 0 offset column none (cutAfterLineFeeds ds) → l.number ≤ ds.count '\n' := by
    intro offset column ds hmem
    have hnumber := List.mem_map_of_mem (f := ScanLine.number) hmem
    rw [map_number_scanLines] at hnumber
    have hlt := (List.mem_range'_1.1 hnumber).2
    have hle := length_cutAfterLineFeeds_le ds
    omega
  cases cs with
  | nil => exact absurd hl List.not_mem_nil
  | cons c rest =>
      rw [scanned] at hl
      split at hl
      next => exact Nat.le_trans (hlast rest hl) (List.count_le_count_cons)
      next => exact hlast (c :: rest) hl

theorem column_le_of_mem_scanLines {number offset column : Nat} {within : Option Section}
    {raws : List (List Char)} {l : ScanLine}
    (hl : l ∈ scanLines number offset column within raws) : l.column ≤ column := by
  induction raws generalizing number offset column within with
  | nil => exact absurd hl List.not_mem_nil
  | cons raw later ih =>
      rcases List.mem_cons.1 hl with rfl | hl
      · exact Nat.le_refl column
      · exact Nat.le_trans (ih hl) (Nat.zero_le column)

theorem column_le_one_of_mem_scanned {cs : List Char} {l : ScanLine} (hl : l ∈ scanned cs) :
    l.column ≤ 1 := by
  cases cs with
  | nil => exact absurd hl List.not_mem_nil
  | cons c rest =>
      rw [scanned] at hl
      split at hl
      next => exact column_le_of_mem_scanLines hl
      next => exact Nat.le_trans (column_le_of_mem_scanLines hl) (Nat.zero_le 1)

theorem pairwise_number_scanned (cs : List Char) :
    (scanned cs).Pairwise fun k l => k.number < l.number := by
  obtain ⟨offset, column, raws, h⟩ := exists_scanned_eq cs
  rw [h]
  exact pairwise_number_scanLines 0 offset column none raws

theorem eq_of_number_eq {cs : List Char} {k l : ScanLine} (hk : k ∈ scanned cs)
    (hl : l ∈ scanned cs) (h : k.number = l.number) : k = l := by
  have hnodup : ((scanned cs).map ScanLine.number).Nodup :=
    List.pairwise_map.2 ((pairwise_number_scanned cs).imp Nat.ne_of_lt)
  exact List.inj_on_of_nodup_map hnodup hk hl h

theorem exists_governs_of_scope {cs : List Char} {l : ScanLine} (hl : l ∈ scanned cs)
    {s : Section} (hscope : l.scope = some s) :
    ∃ h, Governs (scanned cs) l.number h ∧ h.opens = s := by
  obtain ⟨offset, column, raws, hlines⟩ := exists_scanned_eq cs
  rw [hlines] at hl ⊢
  rcases scope_of_mem_scanLines hl with ⟨h, hgoverns, hopens⟩ | ⟨-, hnone⟩
  · exact ⟨h, hgoverns, Option.some.inj (hopens.symm.trans hscope)⟩
  · exact absurd (hnone.symm.trans hscope) nofun

/-- What the marker of a line says about the line. -/
theorem ScanLine.marker?_eq_some {l : ScanLine} {m : Marker} (h : l.marker? = some m) :
    m.position = l.place ∧ l.scope = some m.within ∧ m.within.isRunnable = true ∧
      m.isRunAll = l.isHeading := by
  cases hheading : l.isHeading with
  | true =>
      have hscope := scope_of_isHeading hheading
      rw [marker?, if_pos hheading] at h
      generalize l.opens = opens at h hscope
      cases hrunnable : opens.isRunnable with
      | true =>
          rw [if_pos hrunnable] at h
          obtain rfl := Option.some.inj h
          exact ⟨rfl, hscope, hrunnable, rfl⟩
      | false =>
          rw [if_neg (by rw [hrunnable]; exact Bool.false_ne_true)] at h
          exact absurd h.symm (Option.some_ne_none m)
  | false =>
      have hscope := scope_of_not_isHeading hheading
      rw [marker?, if_neg (by rw [hheading]; exact Bool.false_ne_true)] at h
      cases hwithin : l.within with
      | none =>
          rw [hwithin] at h
          exact absurd h.symm (Option.some_ne_none m)
      | some within =>
          rw [hwithin] at h hscope
          change (if within.isRunnable && l.hasName then
            some (Marker.runCase l.anchor l.place within (String.ofList l.content)) else none) =
              some m at h
          cases hcase : within.isRunnable && l.hasName with
          | true =>
              rw [if_pos hcase] at h
              obtain rfl := Option.some.inj h
              exact ⟨rfl, hscope, (Bool.and_eq_true_iff.1 hcase).1, rfl⟩
          | false =>
              rw [if_neg (by rw [hcase]; exact Bool.false_ne_true)] at h
              exact absurd h.symm (Option.some_ne_none m)

theorem ScanLine.line_eq_of_marker? {l : ScanLine} {m : Marker} (h : l.marker? = some m) :
    m.line = l.number := congrArg Position.line (marker?_eq_some h).1

/-- No two markers stand on one line, and they are found from the first line to the last. -/
theorem pairwise_line_scan (cs : List Char) :
    (scan cs).Pairwise fun m n => m.line < n.line := by
  rw [scan, List.pairwise_filterMap]
  refine (pairwise_number_scanned cs).imp ?_
  intro k l hlt m hm n hn
  rw [ScanLine.line_eq_of_marker? hm, ScanLine.line_eq_of_marker? hn]
  exact hlt

/-- A marker stands in the section that its governing heading line opens, which can be run, and it
is the marker of that heading line if it stands on it. -/
theorem exists_governs_of_mem_scan {cs : List Char} {m : Marker} (hm : m ∈ scan cs) :
    ∃ h, Governs (scanned cs) m.line h ∧ h.opens = m.within ∧ m.within.isRunnable = true ∧
      (m.isRunAll = true ↔ m.line = h.number) := by
  obtain ⟨l, hl, hmarker⟩ := List.mem_filterMap.1 hm
  obtain ⟨-, hscope, hrunnable, hall⟩ := ScanLine.marker?_eq_some hmarker
  obtain ⟨h, hgoverns, hopens⟩ := exists_governs_of_scope hl hscope
  rw [ScanLine.line_eq_of_marker? hmarker, hall]
  refine ⟨h, hgoverns, hopens, hrunnable, ?_⟩
  obtain ⟨⟨hmem, hheading, hle⟩, hlast⟩ := hgoverns
  constructor
  · intro hl'
    exact Nat.le_antisymm (hlast l hl hl' (Nat.le_refl _)) hle
  · intro hnumber
    rw [eq_of_number_eq hl hmem hnumber]
    exact hheading

/-- A text with less than 2 ^ 32 line feeds has its markers at places of 32 bits. -/
theorem narrowed_of_mem_scan {cs : List Char} (hcount : cs.count '\n' < UInt32.size) {m : Marker}
    (hm : m ∈ scan cs) : m.position.narrowed = m.position := by
  obtain ⟨l, hl, hmarker⟩ := List.mem_filterMap.1 hm
  rw [(ScanLine.marker?_eq_some hmarker).1]
  apply Position.narrowed_of_lt
  · exact Nat.lt_of_le_of_lt (number_le_count_of_mem_scanned hl) hcount
  · exact Nat.lt_of_le_of_lt (column_le_one_of_mem_scanned hl) (by decide)

/-- A heading line that opens a section that can be run has a marker. -/
theorem exists_mem_scan_of_isRunnable {cs : List Char} {h : ScanLine} (hh : h ∈ scanned cs)
    (hheading : h.isHeading = true) (hrunnable : h.opens.isRunnable = true) :
    ∃ m ∈ scan cs, m.line = h.number := by
  have hmarker : h.marker? = some (.runAll h.anchor h.place h.opens) := by
    rw [ScanLine.marker?, if_pos hheading, if_pos hrunnable]
  exact ⟨_, List.mem_filterMap.2 ⟨h, hh, hmarker⟩, rfl⟩

end RunMarkers.Suite
