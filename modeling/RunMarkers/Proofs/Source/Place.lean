import Mathlib.Data.List.TakeWhile
import RunMarkers.Source

/-!
# Places of character boundaries

A character boundary cuts the text of a source in two. `lineStartAt_append` finds the line of an
offset from the part before it: its number is the count of line feeds there, and it starts with the
part's last line, `Text.lastLine`. Hence the place of a boundary (`placeAt_append`), and the
text of a span between two of them (`slice_append`).
-/

namespace RunMarkers

namespace Text

/-- What follows the last line feed of a text, or all of it. -/
def lastLine (cs : List Char) : List Char := (cs.reverse.takeWhile fun c => c != '\n').reverse

theorem lastLine_append_of_not_mem (l : List Char) {m : List Char} (h : '\n' ∉ m) :
    lastLine (l ++ m) = lastLine l ++ m := by
  have hall : ∀ c ∈ m.reverse, (c != '\n') = true := by
    intro c hc
    rw [bne_iff_ne]
    rintro rfl
    exact h (List.mem_reverse.1 hc)
  rw [lastLine, lastLine, List.reverse_append, List.takeWhile_append_of_pos hall,
    List.reverse_append, List.reverse_reverse]

theorem lastLine_of_not_mem {cs : List Char} (h : '\n' ∉ cs) : lastLine cs = cs :=
  lastLine_append_of_not_mem [] h

theorem lastLine_append_lineFeed (l m : List Char) : lastLine (l ++ '\n' :: m) = lastLine m := by
  rw [lastLine, lastLine, List.reverse_append, List.reverse_cons, List.append_assoc,
    List.singleton_append, List.takeWhile_append, List.takeWhile_cons_of_neg (by simp),
    List.append_nil]
  split
  next h =>
      have hdrop := List.takeWhile_append_dropWhile (p := fun c => c != '\n') (l := m.reverse)
      have hlength := congrArg List.length hdrop
      rw [List.length_append, h, Nat.add_eq_left, List.length_eq_zero_iff] at hlength
      rw [hlength, List.append_nil] at hdrop
      rw [hdrop]
  next => rfl

/-- The last line of a text follows a line feed, or is all of it. -/
theorem exists_append_lastLine (cs : List Char) :
    ∃ l, cs = l ++ lastLine cs ∧ (l = [] ∨ l.getLast? = some '\n') := by
  refine ⟨(cs.reverse.dropWhile fun c => c != '\n').reverse, ?_, ?_⟩
  · rw [lastLine, ← List.reverse_append, List.takeWhile_append_dropWhile, List.reverse_reverse]
  · rw [List.reverse_eq_nil_iff, List.getLast?_reverse]
    cases hdrop : cs.reverse.dropWhile fun c => c != '\n' with
    | nil => exact .inl rfl
    | cons c rest =>
        have hhead := List.head?_dropWhile_not (fun c => c != '\n') cs.reverse
        rw [hdrop] at hhead
        exact .inr (by simpa using hhead)

theorem not_mem_lastLine (cs : List Char) : '\n' ∉ lastLine cs := by
  intro h
  have hne := List.mem_takeWhile_imp (List.mem_reverse.1 h)
  simp at hne

theorem byteLength_lastLine_le (cs : List Char) : byteLength (lastLine cs) ≤ byteLength cs := by
  obtain ⟨l, hl, -⟩ := exists_append_lastLine cs
  have h := congrArg byteLength hl
  rw [byteLength_append] at h
  omega

end Text

namespace LineStart

open Text

theorem le_offset_of_mem_after {line offset : Nat} {c : Char} {cs : List Char} {l : LineStart}
    (hl : l ∈ after line offset (c :: cs)) : offset + c.utf8Size ≤ l.offset := by
  induction cs generalizing line offset c with
  | nil =>
      rw [after] at hl
      split at hl
      · rw [after, List.mem_singleton] at hl
        exact hl ▸ Nat.le_refl _
      · simp [after] at hl
  | cons b cs ih =>
      rw [after] at hl
      split at hl
      · rcases List.mem_cons.1 hl with rfl | hl
        · exact Nat.le_refl _
        · exact Nat.le_trans (Nat.le_add_right _ _) (ih hl)
      · exact Nat.le_trans (Nat.le_add_right _ _) (ih hl)

theorem lastUpTo_after_self {line start offset : Nat} (found : LineStart) {cs : List Char}
    (h : ∀ c ∈ cs.head?, offset < start + c.utf8Size) :
    lastUpTo offset found (after line start cs) = found := by
  cases cs with
  | nil => rfl
  | cons c cs =>
      cases hls : after line start (c :: cs) with
      | nil => rfl
      | cons l ls =>
          have hle : start + c.utf8Size ≤ l.offset :=
            le_offset_of_mem_after (hls ▸ List.mem_cons_self)
          have hlt := h c rfl
          rw [lastUpTo, if_neg (by omega)]

/-- The search for the line of an offset, taken up at byte `here` of a line that so far reads
`current`. -/
theorem lastUpTo_after (current pre rest : List Char) (line base here offset : Nat)
    (hcurrent : '\n' ∉ current) (hhere : here = base + byteLength current)
    (hle : here + byteLength pre ≤ offset)
    (hlt : ∀ c ∈ rest.head?, offset < here + byteLength pre + c.utf8Size) :
    lastUpTo offset ⟨line, base, current ++ (pre ++ rest)⟩ (after line here (pre ++ rest)) =
      ⟨line + pre.count '\n', here + byteLength pre - byteLength (lastLine (current ++ pre)),
        lastLine (current ++ pre) ++ rest⟩ := by
  induction pre generalizing current line base here with
  | nil =>
      rw [List.append_nil, lastLine_of_not_mem hcurrent, List.nil_append,
        lastUpTo_after_self _ (by simpa using hlt), byteLength_nil, hhere]
      simp
  | cons c pre ih =>
      rw [byteLength_cons, ← Nat.add_assoc] at hle hlt ⊢
      rw [List.cons_append, after]
      split
      next hc =>
          -- the line found so far gives way to the one that starts here
          have hnext := ih [] (line + 1) (here + c.utf8Size) (here + c.utf8Size) List.not_mem_nil
            rfl hle hlt
          rw [List.nil_append, List.nil_append] at hnext
          rw [lastUpTo, if_pos (Nat.le_trans (Nat.le_add_right _ _) hle), hnext, hc,
            lastLine_append_lineFeed, List.count_cons_self, Nat.add_assoc line,
            Nat.add_comm 1]
      next hc =>
          have hmem : '\n' ∉ current ++ [c] := by
            simpa [hcurrent] using fun h => hc h.symm
          have hbyte : here + c.utf8Size = base + byteLength (current ++ [c]) := by
            rw [hhere, byteLength_append, byteLength_cons, byteLength_nil, Nat.add_zero,
              Nat.add_assoc]
          have hnext := ih (current ++ [c]) line base (here + c.utf8Size) hmem hbyte hle hlt
          rw [List.append_assoc, List.append_assoc, List.singleton_append,
            List.singleton_append] at hnext
          rw [hnext, List.count_cons_of_ne hc]

end LineStart

namespace Source

open Text

variable {s : Source} {pre rest : List Char}

theorem lineStartAt_append (hs : s.chars = pre ++ rest) {offset : Nat}
    (hle : byteLength pre ≤ offset)
    (hlt : ∀ c ∈ rest.head?, offset < byteLength pre + c.utf8Size) :
    s.lineStartAt offset =
      ⟨pre.count '\n', byteLength pre - byteLength (lastLine pre), lastLine pre ++ rest⟩ := by
  have h := LineStart.lastUpTo_after [] pre rest 0 0 0 offset List.not_mem_nil rfl
    (by simpa using hle) (by simpa using hlt)
  rw [lineStartAt, LineStart.first, s.laterLines_eq, hs]
  simpa using h

/-- A boundary is on the line of the line feeds before it, behind the characters of that line. -/
theorem placeAt_append (hs : s.chars = pre ++ rest) :
    s.placeAt (byteLength pre) = ⟨pre.count '\n', (lastLine pre).length⟩ := by
  have hsize : s.size = byteLength pre + byteLength rest := by
    rw [s.size_eq, hs, byteLength_append]
  have hline := s.lineStartAt_append hs (Nat.le_refl _)
    (by intro c _; have := c.utf8Size_pos; omega)
  have hback : byteLength pre - (byteLength pre - byteLength (lastLine pre)) =
      byteLength (lastLine pre) := by
    have := byteLength_lastLine_le pre
    omega
  rw [placeAt, Nat.min_eq_left (by omega)]
  simp only [hline]
  rw [hback, takeBytes?_append, Option.getD_some]

theorem slice_append {mid : List Char} (hs : s.chars = pre ++ mid ++ rest) :
    s.slice ⟨byteLength pre, byteLength pre + byteLength mid⟩ = String.ofList mid := by
  rw [slice, charsOf?_eq_bytesBetween?, hs, bytesBetween?_append, Option.getD_some]

theorem isBoundary_append (hs : s.chars = pre ++ rest) : s.isBoundary (byteLength pre) = true := by
  rw [isBoundary, textFrom?_eq_dropBytes?, hs, dropBytes?_append, Option.isSome_some]

end Source

end RunMarkers
