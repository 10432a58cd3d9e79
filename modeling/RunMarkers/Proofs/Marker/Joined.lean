import RunMarkers.Proofs.Marker.LineScan
import RunMarkers.Proofs.Suite.Governing

/-!
# Markers of joined texts

A text that starts with a heading can be put behind whole lines without a change to the markers of
either. The scan meets the lines of the first text as before (`scanLines_append`). What it carries
from there into the second is the place, which moves its markers (`scanLines_moved`), and a section,
which the heading overrides (`filterMap_marker?_scanLines`). The joined text has the nodes of both
texts, so it may have too many for the numbers of an arena when neither text has.
-/

namespace RunMarkers

/-- A span behind `bytes` further bytes. -/
def Span.moved (bytes : Nat) (s : Span) : Span := ⟨s.start + bytes, s.stop + bytes⟩

/-- A place behind further lines, and further characters on its own line. -/
def Position.moved (lines characters : Nat) (p : Position) : Position :=
  ⟨p.line + lines, p.character + characters⟩

namespace Marker

/-- The same marker at another place in its text. -/
def moved (lines bytes characters : Nat) (m : Marker) : Marker :=
  { m with span := m.span.moved bytes, position := m.position.moved lines characters }

@[simp] theorem moved_zero (m : Marker) : m.moved 0 0 0 = m := rfl

theorem moved_moved (lines bytes characters lines' bytes' characters' : Nat) (m : Marker) :
    (m.moved lines bytes characters).moved lines' bytes' characters' =
      m.moved (lines + lines') (bytes + bytes') (characters + characters') := by
  simp only [moved, Span.moved, Position.moved, Nat.add_assoc]

end Marker

namespace Suite

/-- A text that is empty or ends with a line feed. -/
def EndsLine (cs : List Char) : Prop := cs = [] ∨ cs.getLast? = some '\n'

theorem EndsLine.of_cons {c : Char} {cs : List Char} (h : EndsLine (c :: cs)) :
    EndsLine cs ∧ (cs = [] → c = '\n') := by
  have hlast : (c :: cs).getLast? = some '\n' := h.resolve_left (List.cons_ne_nil c cs)
  cases cs with
  | nil => exact ⟨.inl rfl, fun _ => Option.some.inj hlast⟩
  | cons b cs =>
      rw [List.getLast?_cons_cons] at hlast
      exact ⟨.inr hlast, fun hnil => absurd hnil (List.cons_ne_nil b cs)⟩

theorem cutAfterLineFeeds_ne_nil {cs : List Char} (h : cs ≠ []) : cutAfterLineFeeds cs ≠ [] := by
  intro hnil
  have hflatten := flatten_cutAfterLineFeeds cs
  rw [hnil] at hflatten
  exact h hflatten.symm

/-- Behind whole lines, a text is cut as it is alone. -/
theorem cutAfterLineFeeds_append {a : List Char} (ha : EndsLine a) (b : List Char) :
    cutAfterLineFeeds (a ++ b) = cutAfterLineFeeds a ++ cutAfterLineFeeds b := by
  induction a with
  | nil => rfl
  | cons c a ih =>
      obtain ⟨hrest, hlast⟩ := ha.of_cons
      rw [List.cons_append, cutAfterLineFeeds, cutAfterLineFeeds, ih hrest]
      by_cases hc : c = '\n'
      · rw [if_pos hc, if_pos hc, List.cons_append]
      · rw [if_neg hc, if_neg hc]
        cases hcut : cutAfterLineFeeds a with
        | nil => exact absurd hcut (cutAfterLineFeeds_ne_nil fun hnil => hc (hlast hnil))
        | cons raw later => rfl

theorem length_cutAfterLineFeeds {a : List Char} (ha : EndsLine a) :
    (cutAfterLineFeeds a).length = a.count '\n' := by
  induction a with
  | nil => rfl
  | cons c a ih =>
      obtain ⟨hrest, hlast⟩ := ha.of_cons
      rw [cutAfterLineFeeds]
      by_cases hc : c = '\n'
      · rw [if_pos hc, List.length_cons, ih hrest, hc, List.count_cons_self]
      · rw [if_neg hc, List.count_cons_of_ne hc, ← ih hrest]
        cases hcut : cutAfterLineFeeds a with
        | nil => exact absurd hcut (cutAfterLineFeeds_ne_nil fun hnil => hc (hlast hnil))
        | cons raw later => rfl

namespace ScanLine

/-- The same line at another place in its text. -/
def moved (lines bytes characters : Nat) (l : ScanLine) : ScanLine :=
  { l with
    number := l.number + lines
    offset := l.offset + bytes
    column := l.column + characters }

theorem anchor_moved (lines bytes characters : Nat) (l : ScanLine) :
    (l.moved lines bytes characters).anchor = l.anchor.moved bytes := by
  rw [anchor, anchor, Span.moved, Nat.add_right_comm]
  rfl

theorem marker?_moved (lines bytes characters : Nat) (l : ScanLine) :
    (l.moved lines bytes characters).marker? =
      l.marker?.map (Marker.moved lines bytes characters) := by
  have hheading : (l.moved lines bytes characters).isHeading = l.isHeading := rfl
  have hopens : (l.moved lines bytes characters).opens = l.opens := rfl
  have hname : (l.moved lines bytes characters).hasName = l.hasName := rfl
  have hwithin : (l.moved lines bytes characters).within = l.within := rfl
  rw [marker?, marker?, anchor_moved, hheading, hopens, hname, hwithin]
  generalize l.opens = opens
  cases l.isHeading with
  | true =>
      cases opens.isRunnable with
      | true => rfl
      | false => rfl
  | false =>
      cases l.within with
      | none => rfl
      | some within =>
          change (if within.isRunnable && l.hasName then some _ else none) =
            (if within.isRunnable && l.hasName then some _ else none).map _
          cases within.isRunnable && l.hasName with
          | true => rfl
          | false => rfl

/-- Lines that are moved by their numbers have their markers moved with them. -/
theorem filterMap_marker?_map_moved (lines : Nat) (bytes characters : Nat → Nat)
    (ls : List ScanLine) :
    (ls.map fun l => l.moved lines (bytes l.number) (characters l.number)).filterMap marker? =
      (ls.filterMap marker?).map fun m => m.moved lines (bytes m.line) (characters m.line) := by
  rw [List.filterMap_map, List.map_filterMap]
  apply List.filterMap_congr
  intro l _
  rw [Function.comp_apply, marker?_moved]
  cases hmarker : l.marker? with
  | none => rfl
  | some m => rw [Option.map_some, Option.map_some, line_eq_of_marker? hmarker]

end ScanLine

/-- The scan of the same lines from another place. -/
theorem scanLines_moved (lines bytes number offset column : Nat) (within : Option Section)
    (raws : List (List Char)) :
    scanLines (number + lines) (offset + bytes) column within raws =
      (scanLines number offset column within raws).map fun l => l.moved lines bytes 0 := by
  induction raws generalizing number offset column within with
  | nil => rfl
  | cons raw later ih =>
      have hlater := ih (number + 1) (offset + Text.byteLength raw) 0
        (ScanLine.scope ⟨number, offset, column, within, withoutEnding raw⟩)
      rw [Nat.add_right_comm number, Nat.add_right_comm offset] at hlater
      rw [scanLines, scanLines, List.map_cons, ← hlater]
      rfl

/-- Behind the first lines of a text the scan takes up the others at the bytes and lines passed. -/
theorem scanLines_append {raws : List (List Char)} (hraws : raws ≠ [])
    (number offset column : Nat) (within : Option Section) (others : List (List Char)) :
    ∃ scope, scanLines number offset column within (raws ++ others) =
      scanLines number offset column within raws ++
        scanLines (number + raws.length) (offset + Text.byteLength raws.flatten) 0 scope
          others := by
  induction raws generalizing number offset column within with
  | nil => exact absurd rfl hraws
  | cons raw later ih =>
      rw [List.cons_append, scanLines, scanLines, List.flatten_cons, Text.byteLength_append,
        List.length_cons, ← Nat.add_assoc, ← Nat.add_assoc, Nat.add_right_comm number]
      cases later with
      | nil => exact ⟨_, rfl⟩
      | cons next later =>
          obtain ⟨scope, hscope⟩ := ih (List.cons_ne_nil next later) (number + 1)
            (offset + Text.byteLength raw) 0
            (ScanLine.scope ⟨number, offset, column, within, withoutEnding raw⟩)
          exact ⟨scope, congrArg (_ :: ·) hscope⟩

/-- A heading in front overrides the section in force before it. -/
theorem filterMap_marker?_scanLines {raw : List Char} (hraw : raw.head? = some '*')
    (number offset column : Nat) (within within' : Option Section) (later : List (List Char)) :
    (scanLines number offset column within (raw :: later)).filterMap ScanLine.marker? =
      (scanLines number offset column within' (raw :: later)).filterMap ScanLine.marker? := by
  obtain ⟨cs, rfl⟩ := List.head?_eq_some_iff.1 hraw
  have hcontent : withoutEnding ('*' :: cs) = '*' :: withoutEnding cs := by
    rw [withoutEnding, if_neg (by simp)]
  rw [scanLines, scanLines, ScanLine.filterMap_marker?_cons, ScanLine.filterMap_marker?_cons,
    hcontent]
  rfl

theorem exists_cutAfterLineFeeds_eq_cons {b : List Char} (hb : b.head? = some '*') :
    ∃ raw later, cutAfterLineFeeds b = raw :: later ∧ raw.head? = some '*' := by
  obtain ⟨cs, rfl⟩ := List.head?_eq_some_iff.1 hb
  rw [cutAfterLineFeeds, if_neg (by decide)]
  cases cutAfterLineFeeds cs with
  | nil => exact ⟨_, _, rfl, rfl⟩
  | cons raw later => exact ⟨_, _, rfl, rfl⟩

theorem scanned_of_head?_ne {cs : List Char} (h : cs.head? ≠ some byteOrderMark) :
    scanned cs = scanLines 0 0 0 none (cutAfterLineFeeds cs) := by
  cases cs with
  | nil => rfl
  | cons c rest => rw [scanned, if_neg fun hc => h (congrArg some hc)]

/-- A text that does not start with a byte order mark is cut into the chunks of its lines. -/
theorem chunks_of_head?_ne {cs : List Char} (h : cs.head? ≠ some byteOrderMark) :
    chunks cs = (physicalLines cs).flatMap PhysicalLine.chunks := by
  cases cs with
  | nil => rfl
  | cons c rest => rw [chunks, if_neg fun hc => h (congrArg some hc)]

theorem physicalLines_append {a : List Char} (ha : EndsLine a) (b : List Char) :
    physicalLines (a ++ b) = physicalLines a ++ physicalLines b := by
  simp only [physicalLines_eq_map_ofRaw, cutAfterLineFeeds_append ha, List.map_append]

theorem chunks_append {a b : List Char} (ha : EndsLine a) (hb : b.head? ≠ some byteOrderMark) :
    chunks (a ++ b) = chunks a ++ chunks b := by
  rw [chunks_of_head?_ne hb]
  cases a with
  | nil => exact chunks_of_head?_ne hb
  | cons c a =>
      rw [List.cons_append, chunks, chunks]
      split
      next hbom =>
          -- a mark is no line feed, so the rest of whole lines behind it are whole lines
          rw [physicalLines_append ha.of_cons.1, List.flatMap_append, List.cons_append]
      next => rw [← List.cons_append, physicalLines_append ha, List.flatMap_append]

theorem nodeCount_document_append {a b : String} (ha : EndsLine a.toList)
    (hb : b.toList.head? ≠ some byteOrderMark) (path : Option Path) (fileKind : FileKind) :
    (document (a ++ b) path fileKind).nodeCount + 1 =
      (document a path fileKind).nodeCount + (document b path fileKind).nodeCount := by
  rw [nodeCount_document, nodeCount_document, nodeCount_document, String.toList_append,
    chunks_append ha hb, Chunk.countOf_append]
  omega

/-- The scan of whole lines and a text that starts with a heading, from any place in the first
line. -/
theorem filterMap_marker?_joined {a b : List Char} (ha : EndsLine a) (hne : a ≠ [])
    (hb : b.head? = some '*') (offset column : Nat) :
    (scanLines 0 offset column none (cutAfterLineFeeds (a ++ b))).filterMap ScanLine.marker? =
      (scanLines 0 offset column none (cutAfterLineFeeds a)).filterMap ScanLine.marker? ++
        (scan b).map (Marker.moved (a.count '\n') (offset + Text.byteLength a) 0) := by
  obtain ⟨scope, hscan⟩ := scanLines_append (cutAfterLineFeeds_ne_nil hne) 0 offset column none
    (cutAfterLineFeeds b)
  obtain ⟨raw, later, hcut, hraw⟩ := exists_cutAfterLineFeeds_eq_cons hb
  have hmoved := scanLines_moved (a.count '\n') (offset + Text.byteLength a) 0 0 0 none
    (cutAfterLineFeeds b)
  rw [Nat.zero_add (offset + _)] at hmoved
  rw [cutAfterLineFeeds_append ha, hscan, List.filterMap_append, flatten_cutAfterLineFeeds,
    length_cutAfterLineFeeds ha, hcut, filterMap_marker?_scanLines hraw _ _ _ scope none, ← hcut,
    hmoved, scan, scanned_of_head?_ne (by rw [hb]; decide)]
  congr 1
  exact ScanLine.filterMap_marker?_map_moved (a.count '\n')
    (fun _ => offset + Text.byteLength a) (fun _ => 0) _

/-- The scan of whole lines and a text that starts with a heading is the scan of each. -/
theorem scan_append {a b : List Char} (ha : EndsLine a) (hb : b.head? = some '*') :
    scan (a ++ b) =
      scan a ++ (scan b).map (Marker.moved (a.count '\n') (Text.byteLength a) 0) := by
  cases a with
  | nil =>
      have hmoved : Marker.moved 0 0 0 = id := funext Marker.moved_zero
      rw [List.count_nil, Text.byteLength_nil, hmoved, List.map_id]
      rfl
  | cons c a =>
      rw [scan, scan, List.cons_append, scanned, scanned]
      split
      next hbom =>
          -- a text of nothing but the mark does not end a line
          obtain ⟨hrest, hlast⟩ := ha.of_cons
          have hne : a ≠ [] := fun hnil => absurd (hbom.symm.trans (hlast hnil)) (by decide)
          have hcount : c ≠ '\n' := fun hc => absurd (hbom.symm.trans hc) (by decide)
          rw [filterMap_marker?_joined hrest hne hb, List.count_cons_of_ne hcount,
            Text.byteLength_cons]
      next =>
          have hjoined := filterMap_marker?_joined ha (List.cons_ne_nil c a) hb 0 0
          rw [Nat.zero_add] at hjoined
          exact hjoined

end Suite

namespace Document

open Suite

/-- Tasks behind a byte order mark, with both kinds of line ending. -/
def taskSection : String := "\uFEFF*** Tasks ***\r\nBuild  it\n"

/-- Test cases with a letter of two bytes, and no line feed at the end. -/
def caseSection : String := "*** Test Cases ***\nLög in"

end Document

end RunMarkers
