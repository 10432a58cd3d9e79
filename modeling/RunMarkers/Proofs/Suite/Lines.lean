import RunMarkers.Proofs.Source.Place
import RunMarkers.Suite.Line

/-!
# Lines from the left

`physicalLines` reads a text from the right and mends a line when a carriage return turns out to
stand before its line feed. Read from the left, a text is cut after each of its line feeds
(`cutAfterLineFeeds`), and the ending is then taken off each piece (`withoutEnding`). The two
readings agree (`physicalLines_eq_map_ofRaw`). Only the last line of a text can lack an ending, and
a line feed is never part of a content (`endOnce_physicalLines`).
-/

namespace RunMarkers.Suite

/-- A text cut after each of its line feeds. -/
def cutAfterLineFeeds : List Char → List (List Char)
  | [] => []
  | c :: cs =>
    if c = '\n' then [c] :: cutAfterLineFeeds cs
    else
      match cutAfterLineFeeds cs with
      | [] => [[c]]
      | raw :: later => (c :: raw) :: later

/-- A line without the line feed, or the carriage return and line feed, at its end. -/
def withoutEnding : List Char → List Char
  | [] => []
  | c :: cs => if c :: cs = ['\n'] ∨ c :: cs = ['\r', '\n'] then [] else c :: withoutEnding cs

theorem withoutEnding_append_drop (raw : List Char) :
    withoutEnding raw ++ raw.drop (withoutEnding raw).length = raw := by
  induction raw with
  | nil => rfl
  | cons c cs ih =>
      rw [withoutEnding]
      split
      next => rfl
      next => exact congrArg (c :: ·) ih

namespace PhysicalLine

/-- The line of a text that has a line feed at most at its end. -/
def ofRaw (raw : List Char) : PhysicalLine :=
  ⟨withoutEnding raw, raw.drop (withoutEnding raw).length⟩

@[simp] theorem text_ofRaw (raw : List Char) : (ofRaw raw).text = raw :=
  withoutEnding_append_drop raw

theorem ofRaw_cons {c : Char} {cs : List Char}
    (h : ¬(c :: cs = ['\n'] ∨ c :: cs = ['\r', '\n'])) :
    ofRaw (c :: cs) = ⟨c :: (ofRaw cs).content, (ofRaw cs).ending⟩ := by
  rw [ofRaw, withoutEnding, if_neg h]
  rfl

theorem consChar_ofRaw {c : Char} (hc : c ≠ '\n') (raw : List Char) (lines : List PhysicalLine) :
    consChar c (ofRaw raw :: lines) = ofRaw (c :: raw) :: lines := by
  simp only [consChar, if_neg hc]
  split
  next h =>
      obtain ⟨rfl, hcontent, hending⟩ := h
      have hraw : raw = ['\n'] := by
        rw [← text_ofRaw raw, text, hcontent, hending, List.nil_append]
      rw [hraw]
      rfl
  next h =>
      have hne : ¬(c :: raw = ['\n'] ∨ c :: raw = ['\r', '\n']) := by
        rintro (heq | heq)
        · exact hc (List.cons.inj heq).1
        · obtain ⟨rfl, rfl⟩ := List.cons.inj heq
          exact h ⟨rfl, rfl, rfl⟩
      rw [ofRaw_cons hne]

end PhysicalLine

/-- The lines of a text are its pieces between line feeds, each with its ending taken off. -/
theorem physicalLines_eq_map_ofRaw (cs : List Char) :
    physicalLines cs = (cutAfterLineFeeds cs).map PhysicalLine.ofRaw := by
  induction cs with
  | nil => rfl
  | cons c cs ih =>
      change PhysicalLine.consChar c (physicalLines cs) = _
      rw [ih, cutAfterLineFeeds]
      by_cases hc : c = '\n'
      · subst hc
        rfl
      · rw [if_neg hc]
        -- the character goes to the first line of the rest, or makes a line of its own
        cases cutAfterLineFeeds cs with
        | nil =>
            rw [List.map_cons, PhysicalLine.ofRaw_cons (by simpa using hc)]
            simp only [List.map_nil, PhysicalLine.consChar, if_neg hc]
            rfl
        | cons raw later => rw [List.map_cons, PhysicalLine.consChar_ofRaw hc, List.map_cons]

theorem flatten_cutAfterLineFeeds (cs : List Char) : (cutAfterLineFeeds cs).flatten = cs := by
  have hlines := flatMap_text_physicalLines cs
  rw [physicalLines_eq_map_ofRaw, List.flatMap_map] at hlines
  simpa using hlines

/-- Lines whose contents hold no line feed, and of which only the last may lack an ending. -/
def EndOnce : List PhysicalLine → Prop
  | [] => True
  | line :: later =>
    '\n' ∉ line.content ∧
      (line.ending = ['\n'] ∨ line.ending = ['\r', '\n'] ∨ line.ending = [] ∧ later = []) ∧
      EndOnce later

theorem lineFeed_not_mem_content {lines : List PhysicalLine} (h : EndOnce lines)
    {line : PhysicalLine} (hline : line ∈ lines) : '\n' ∉ line.content := by
  induction lines with
  | nil => exact absurd hline List.not_mem_nil
  | cons first later ih =>
      rcases List.mem_cons.1 hline with rfl | hline
      · exact h.1
      · exact ih h.2.2 hline

theorem endOnce_consChar (c : Char) {lines : List PhysicalLine} (h : EndOnce lines) :
    EndOnce (PhysicalLine.consChar c lines) := by
  unfold PhysicalLine.consChar
  split
  next => exact ⟨List.not_mem_nil, .inl rfl, h⟩
  next hc =>
      have hmem : ∀ {content : List Char}, '\n' ∉ content → '\n' ∉ c :: content := by
        intro content hcontent hmem
        rcases List.mem_cons.1 hmem with heq | hmem
        · exact hc heq.symm
        · exact hcontent hmem
      cases lines with
      | nil => exact ⟨hmem List.not_mem_nil, .inr (.inr ⟨rfl, rfl⟩), trivial⟩
      | cons line later =>
          obtain ⟨hcontent, hending, hlater⟩ := h
          simp only
          split
          next => exact ⟨List.not_mem_nil, .inr (.inl rfl), hlater⟩
          next => exact ⟨hmem hcontent, hending, hlater⟩

theorem endOnce_physicalLines (cs : List Char) : EndOnce (physicalLines cs) := by
  induction cs with
  | nil => trivial
  | cons c cs ih => exact endOnce_consChar c ih

theorem endOnce_map_ofRaw (cs : List Char) :
    EndOnce ((cutAfterLineFeeds cs).map PhysicalLine.ofRaw) := by
  rw [← physicalLines_eq_map_ofRaw]
  exact endOnce_physicalLines cs

/-- A line with an ending has its one line feed last. -/
theorem EndOnce.exists_append_lineFeed {raw : List Char} {later : List PhysicalLine}
    (h : EndOnce (.ofRaw raw :: later)) (hending : (PhysicalLine.ofRaw raw).ending ≠ []) :
    ∃ before, raw = before ++ ['\n'] ∧ '\n' ∉ before := by
  obtain ⟨hcontent, hline, -⟩ := h
  have htext : (PhysicalLine.ofRaw raw).content ++ (PhysicalLine.ofRaw raw).ending = raw :=
    PhysicalLine.text_ofRaw raw
  rcases hline with hline | hline | ⟨hline, -⟩
  · refine ⟨(PhysicalLine.ofRaw raw).content, ?_, hcontent⟩
    rw [← hline, htext]
  · refine ⟨(PhysicalLine.ofRaw raw).content ++ ['\r'], ?_, by simpa using hcontent⟩
    rw [List.append_assoc, List.singleton_append, ← hline, htext]
  · exact absurd hline hending

theorem EndOnce.count_append {raw : List Char} {later : List PhysicalLine}
    (h : EndOnce (.ofRaw raw :: later)) (hending : (PhysicalLine.ofRaw raw).ending ≠ [])
    (pre : List Char) : (pre ++ raw).count '\n' = pre.count '\n' + 1 := by
  obtain ⟨before, hraw, hbefore⟩ := h.exists_append_lineFeed hending
  rw [hraw, List.count_append, List.count_append, List.count_eq_zero.2 hbefore]
  rfl

theorem EndOnce.lastLine_append {raw : List Char} {later : List PhysicalLine}
    (h : EndOnce (.ofRaw raw :: later)) (hending : (PhysicalLine.ofRaw raw).ending ≠ [])
    (pre : List Char) : Text.lastLine (pre ++ raw) = [] := by
  obtain ⟨before, hraw, -⟩ := h.exists_append_lineFeed hending
  rw [hraw, ← List.append_assoc, Text.lastLine_append_lineFeed]
  rfl

theorem EndOnce.later_eq_nil {line : PhysicalLine} {later : List PhysicalLine}
    (h : EndOnce (line :: later)) (hending : line.ending = []) : later = [] := by
  obtain ⟨-, hline, -⟩ := h
  rw [hending] at hline
  rcases hline with hline | hline | ⟨-, hlater⟩
  · exact absurd hline nofun
  · exact absurd hline nofun
  · exact hlater

end RunMarkers.Suite
