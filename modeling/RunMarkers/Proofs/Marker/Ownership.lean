import RunMarkers.Proofs.Greatest
import RunMarkers.Proofs.Marker.Headings
import RunMarkers.Proofs.Suite.Governing

/-!
# The marker that a line belongs to

`Document.markerAt` goes back through the markers from a line, and gives up at a heading. Since the
markers of a suite stand on lines of their own, from the first to the last
(`Suite.pairwise_line_scan`), it finds the last marker of the section that the line is in. Over an
arena it does, too, if the walk along the links ends (`Document.exists_parseArena_markerAt_iff`).
-/

namespace RunMarkers

/-- The last of the markers at or above a line. -/
def IsLastMarker (ms : List Marker) (line : Nat) (m : Marker) : Prop :=
  (m ∈ ms ∧ m.line ≤ line) ∧ ∀ n ∈ ms, n.line ≤ line → n.line ≤ m.line

theorem isLastMarker_reverse {ms : List Marker} {line : Nat} {m : Marker} :
    IsLastMarker ms.reverse line m ↔ IsLastMarker ms line m := by
  simp only [IsLastMarker, List.mem_reverse]

/-- Among markers from the last line to the first, the first at or above a line is the last one. -/
theorem find?_eq_some_iff_isLastMarker {ms : List Marker}
    (hms : ms.Pairwise fun m n => n.line < m.line) (line : Nat) (m : Marker) :
    (ms.find? fun n => Nat.ble n.line line) = some m ↔ IsLastMarker ms line m := by
  rw [find?_eq_some_iff_isGreatestBy hms]
  simp only [IsGreatestBy, IsLastMarker, Nat.ble_eq]

theorem exists_isLastMarker {ms : List Marker} (hms : ms.Pairwise fun m n => m.line < n.line)
    {line : Nat} {m : Marker} (hm : m ∈ ms) (hle : m.line ≤ line) :
    ∃ n, IsLastMarker ms line n := by
  have hfind : (ms.reverse.find? fun n => Nat.ble n.line line).isSome = true :=
    List.find?_isSome.2 ⟨m, List.mem_reverse.2 hm, Nat.ble_eq_true_of_le hle⟩
  obtain ⟨n, hn⟩ := Option.isSome_iff_exists.1 hfind
  refine ⟨n, ?_⟩
  rw [← isLastMarker_reverse]
  exact (find?_eq_some_iff_isLastMarker (List.pairwise_reverse.2 hms) line n).1 hn

namespace Document

open Suite

variable {d : Document}

/-- The marker that a line belongs to is the last one at or above it, if no heading comes after. -/
theorem markerAt_eq_some_iff (hd : d.markers.Pairwise fun m n => m.line < n.line) (line : Nat)
    (m : Marker) :
    d.markerAt line = some m ↔
      IsLastMarker d.markers line m ∧
        ∀ heading ∈ d.headingLines, heading ≤ line → heading ≤ m.line := by
  have hfind := find?_eq_some_iff_isLastMarker (List.pairwise_reverse.2 hd) line m
  have hheadings : (!d.headingLines.any fun heading =>
        Nat.blt m.line heading && Nat.ble heading line) = true ↔
      ∀ heading ∈ d.headingLines, heading ≤ line → heading ≤ m.line := by
    rw [Bool.not_eq_true', List.any_eq_false]
    refine forall₂_congr ?_
    intro heading _
    rw [Bool.and_eq_true, Nat.blt_eq, Nat.ble_eq, not_and', Nat.not_lt]
  rw [markerAt, owner?, Option.filter_eq_some_iff, hfind, isLastMarker_reverse, hheadings]

/-- The document has the markers and the heading lines that the scan of a text finds. -/
structure IsScanOf (d : Document) (cs : List Char) : Prop where
  markers_eq : d.markers = scan cs
  headingLines_eq : d.headingLines = (headings cs).map ScanLine.number

theorem isScanOf_document {text : String} {path : Option Path}
    (hcount : (document text path .suite).nodeCount ≤ UInt32.size) :
    (document text path .suite).IsScanOf text.toList where
  markers_eq := markers_document (count_lineFeed_lt_size hcount) path
  headingLines_eq := headingLines_document (count_lineFeed_lt_size hcount) path .suite

namespace IsScanOf

variable {cs : List Char}

theorem pairwise_line_markers (hd : d.IsScanOf cs) :
    d.markers.Pairwise fun m n => m.line < n.line := by
  rw [hd.markers_eq]
  exact pairwise_line_scan cs

theorem markerAt_eq_some_iff (hd : d.IsScanOf cs) (line : Nat) (m : Marker) :
    d.markerAt line = some m ↔
      IsLastMarker d.markers line m ∧
        ∀ g ∈ scanned cs, g.isHeading = true → g.number ≤ line → g.number ≤ m.line := by
  have hheadings : (∀ heading ∈ d.headingLines, heading ≤ line → heading ≤ m.line) ↔
      ∀ g ∈ scanned cs, g.isHeading = true → g.number ≤ line → g.number ≤ m.line := by
    rw [hd.headingLines_eq, List.forall_mem_map, headings]
    simp only [List.mem_filter, and_imp]
  rw [Document.markerAt_eq_some_iff hd.pairwise_line_markers, hheadings]

theorem governs_of_markerAt (hd : d.IsScanOf cs) {line : Nat} {m : Marker}
    (hm : d.markerAt line = some m) {h : ScanLine} (hh : Governs (scanned cs) m.line h) :
    Governs (scanned cs) line h := by
  obtain ⟨⟨⟨-, hle⟩, -⟩, hnone⟩ := (hd.markerAt_eq_some_iff line m).1 hm
  obtain ⟨⟨hmem, hheading, hhle⟩, hlast⟩ := hh
  refine ⟨⟨hmem, hheading, Nat.le_trans hhle hle⟩, ?_⟩
  intro g hg hgHeading hgle
  exact hlast g hg hgHeading (hnone g hg hgHeading hgle)

/-- A line belongs to a marker if the heading line that governs it opens a section that can be
run. -/
theorem isSome_markerAt_iff (hd : d.IsScanOf cs) (line : Nat) :
    (d.markerAt line).isSome = true ↔
      ∃ h, Governs (scanned cs) line h ∧ h.opens.isRunnable = true := by
  constructor
  · intro hsome
    obtain ⟨m, hm⟩ := Option.isSome_iff_exists.1 hsome
    have hmem : m ∈ scan cs := by
      rw [← hd.markers_eq]
      exact ((hd.markerAt_eq_some_iff line m).1 hm).1.1.1
    obtain ⟨h, hgoverns, hopens, hrunnable, -⟩ := exists_governs_of_mem_scan hmem
    refine ⟨h, hd.governs_of_markerAt hm hgoverns, ?_⟩
    rw [hopens]
    exact hrunnable
  · rintro ⟨h, ⟨⟨hmem, hheading, hle⟩, hlast⟩, hrunnable⟩
    obtain ⟨own, hown, hline⟩ := exists_mem_scan_of_isRunnable hmem hheading hrunnable
    rw [← hline] at hle hlast
    rw [← hd.markers_eq] at hown
    obtain ⟨m, hm⟩ := exists_isLastMarker hd.pairwise_line_markers hown hle
    rw [Option.isSome_iff_exists]
    refine ⟨m, (hd.markerAt_eq_some_iff line m).2 ⟨hm, ?_⟩⟩
    intro g hg hgHeading hgle
    exact Nat.le_trans (hlast g hg hgHeading hgle) (hm.2 own hown hle)

/-- A line belongs to the last marker at or above it of those that its own heading line governs. -/
theorem markerAt_eq_some_iff_of_governs (hd : d.IsScanOf cs) {line : Nat} {h : ScanLine}
    (hh : Governs (scanned cs) line h) (m : Marker) :
    d.markerAt line = some m ↔
      (m ∈ d.markers ∧ Governs (scanned cs) m.line h ∧ m.line ≤ line) ∧
        ∀ n ∈ d.markers, Governs (scanned cs) n.line h → n.line ≤ line → n.line ≤ m.line := by
  obtain ⟨⟨hmem, hheading, hle⟩, hlast⟩ := hh
  have hgoverns : ∀ n : Marker, h.number ≤ n.line → n.line ≤ line →
      Governs (scanned cs) n.line h := by
    intro n hn hnle
    refine ⟨⟨hmem, hheading, hn⟩, ?_⟩
    intro g hg hgHeading hgle
    exact hlast g hg hgHeading (Nat.le_trans hgle hnle)
  rw [hd.markerAt_eq_some_iff]
  constructor
  · rintro ⟨⟨⟨hm, hmle⟩, hmax⟩, hnone⟩
    refine ⟨⟨hm, hgoverns m (hnone h hmem hheading hle) hmle, hmle⟩, ?_⟩
    intro n hn _ hnle
    exact hmax n hn hnle
  · rintro ⟨⟨hm, ⟨⟨-, -, hhm⟩, -⟩, hmle⟩, hmax⟩
    refine ⟨⟨⟨hm, hmle⟩, ?_⟩, ?_⟩
    · intro n hn hnle
      by_cases hlt : n.line < h.number
      · exact Nat.le_of_lt (Nat.lt_of_lt_of_le hlt hhm)
      · exact hmax n hn (hgoverns n (Nat.le_of_not_lt hlt) hnle) hnle
    · intro g hg hgHeading hgle
      exact Nat.le_trans (hlast g hg hgHeading hgle) hhm

/-- The lines that belong to a marker are those from its own up to the next marker or heading
line. -/
theorem markerAt_eq_some_iff_of_mem (hd : d.IsScanOf cs) {m : Marker} (hm : m ∈ d.markers)
    (line : Nat) :
    d.markerAt line = some m ↔
      m.line ≤ line ∧ (∀ n ∈ d.markers, m.line < n.line → line < n.line) ∧
        ∀ g ∈ headings cs, m.line < g.number → line < g.number := by
  have hheadings : (∀ g ∈ headings cs, m.line < g.number → line < g.number) ↔
      ∀ g ∈ scanned cs, g.isHeading = true → g.number ≤ line → g.number ≤ m.line := by
    simp only [headings, List.mem_filter, and_imp]
    refine forall₂_congr fun g _ => forall_congr' fun _ => ?_
    rw [← Nat.not_le, ← Nat.not_le, not_imp_not]
  have hmarkers : (∀ n ∈ d.markers, m.line < n.line → line < n.line) ↔
      ∀ n ∈ d.markers, n.line ≤ line → n.line ≤ m.line := by
    refine forall₂_congr fun n _ => ?_
    rw [← Nat.not_le, ← Nat.not_le, not_imp_not]
  rw [hd.markerAt_eq_some_iff, hheadings, hmarkers, IsLastMarker, and_assoc, and_assoc]
  exact and_iff_right hm

theorem exists_governs_of_mem_markers (hd : d.IsScanOf cs) {m : Marker} (hm : m ∈ d.markers) :
    ∃ h, Governs (scanned cs) m.line h ∧ h.opens = m.within ∧
      (m.isRunAll = true ↔ m.line = h.number) := by
  rw [hd.markers_eq] at hm
  obtain ⟨h, hgoverns, hopens, -, hall⟩ := exists_governs_of_mem_scan hm
  exact ⟨h, hgoverns, hopens, hall⟩

theorem markerAt_line (hd : d.IsScanOf cs) {m : Marker} (hm : m ∈ d.markers) :
    d.markerAt m.line = some m :=
  (hd.markerAt_eq_some_iff_of_mem hm m.line).2
    ⟨Nat.le_refl _, fun _ _ hlt => hlt, fun _ _ hlt => hlt⟩

end IsScanOf

end Document

end RunMarkers
