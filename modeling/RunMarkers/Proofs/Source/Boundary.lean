import RunMarkers.Proofs.Source.Place

/-!
# Boundaries as cuts

An offset is a character boundary just when it is the length of a part of the text that comes before
the rest (`isBoundary_iff`). So two boundaries in order cut the text in three, and the span between
them has a text: `slice` falls back to the empty text on no span with `Span.Fits`.
-/

namespace RunMarkers

namespace Text

theorem exists_append_of_dropBytes? {n : Nat} {cs rest : List Char}
    (h : dropBytes? n cs = some rest) : ∃ pre, cs = pre ++ rest ∧ byteLength pre = n := by
  induction cs generalizing n with
  | nil =>
      cases n with
      | zero => exact ⟨[], by simpa using h, rfl⟩
      | succ n => simp [dropBytes?] at h
  | cons c cs ih =>
      cases n with
      | zero => exact ⟨[], by simpa using h, rfl⟩
      | succ n =>
          rw [dropBytes?] at h
          split at h
          next hc =>
              obtain ⟨pre, rfl, hpre⟩ := ih h
              refine ⟨c :: pre, rfl, ?_⟩
              rw [byteLength_cons]
              omega
          next => simp at h

/-- Of two parts that a text starts with, the one of no more bytes starts the other. -/
theorem exists_append_of_byteLength_le {l l' r r' : List Char} (h : l ++ r = l' ++ r')
    (hle : byteLength l ≤ byteLength l') : ∃ mid, l' = l ++ mid := by
  rcases List.append_eq_append_iff.1 h with ⟨mid, hmid, -⟩ | ⟨mid, rfl, -⟩
  · exact ⟨mid, hmid⟩
  · rw [byteLength_append] at hle
    have hnil : mid = [] := byteLength_eq_zero_iff.1 (by omega)
    exact ⟨[], by simp [hnil]⟩

end Text

/-- A span lies in a source: its ends are character boundaries, in order. -/
structure Span.Fits (s : Source) (span : Span) : Prop where
  start_le_stop : span.start ≤ span.stop
  stop_le_size : span.stop ≤ s.size
  isBoundary_start : s.isBoundary span.start = true
  isBoundary_stop : s.isBoundary span.stop = true

namespace Source

open Text

variable {s : Source}

theorem isBoundary_iff {offset : Nat} :
    s.isBoundary offset = true ↔ ∃ pre rest, s.chars = pre ++ rest ∧ byteLength pre = offset := by
  constructor
  · intro h
    rw [isBoundary, textFrom?_eq_dropBytes?, Option.isSome_iff_exists] at h
    obtain ⟨rest, hrest⟩ := h
    obtain ⟨pre, hchars, hpre⟩ := exists_append_of_dropBytes? hrest
    exact ⟨pre, rest, hchars, hpre⟩
  · rintro ⟨pre, rest, hchars, rfl⟩
    exact isBoundary_append hchars

theorem isBoundary_zero : s.isBoundary 0 = true := isBoundary_iff.2 ⟨[], s.chars, rfl, rfl⟩

theorem isBoundary_size : s.isBoundary s.size = true :=
  isBoundary_iff.2 ⟨s.chars, [], by simp, s.size_eq.symm⟩

theorem le_size_of_isBoundary {offset : Nat} (h : s.isBoundary offset = true) :
    offset ≤ s.size := by
  obtain ⟨pre, rest, hchars, rfl⟩ := isBoundary_iff.1 h
  rw [s.size_eq, hchars, byteLength_append]
  exact Nat.le_add_right _ _

theorem exists_cut_of_isBoundary {start stop : Nat} (hle : start ≤ stop)
    (hstart : s.isBoundary start = true) (hstop : s.isBoundary stop = true) :
    ∃ pre mid rest, s.chars = pre ++ mid ++ rest ∧
      byteLength pre = start ∧ byteLength pre + byteLength mid = stop := by
  obtain ⟨pre, rest, hchars, rfl⟩ := isBoundary_iff.1 hstart
  obtain ⟨pre', rest', hchars', rfl⟩ := isBoundary_iff.1 hstop
  obtain ⟨mid, rfl⟩ := exists_append_of_byteLength_le (hchars.symm.trans hchars') hle
  exact ⟨pre, mid, rest', hchars', rfl, (byteLength_append pre mid).symm⟩

theorem isSome_charsOf? {span : Span} (h : span.Fits s) : (s.charsOf? span).isSome = true := by
  obtain ⟨pre, mid, rest, hchars, hstart, hstop⟩ :=
    exists_cut_of_isBoundary h.start_le_stop h.isBoundary_start h.isBoundary_stop
  rw [charsOf?_eq_bytesBetween?, ← hstart, ← hstop, hchars, bytesBetween?_append]
  rfl

/-- A slice is cut in two at any boundary within it. -/
theorem slice_append_slice {start mid stop : Nat} (hstart : s.isBoundary start = true)
    (hmid : s.isBoundary mid = true) (hstop : s.isBoundary stop = true) (hle : start ≤ mid)
    (hle' : mid ≤ stop) :
    s.slice ⟨start, mid⟩ ++ s.slice ⟨mid, stop⟩ = s.slice ⟨start, stop⟩ := by
  obtain ⟨pre, first, rest, hchars, rfl, rfl⟩ := exists_cut_of_isBoundary hle hstart hmid
  obtain ⟨whole, rest', hchars', rfl⟩ := isBoundary_iff.1 hstop
  rw [← byteLength_append] at hle'
  obtain ⟨second, rfl⟩ := exists_append_of_byteLength_le (hchars.symm.trans hchars') hle'
  have hfirst := slice_append hchars
  have hsecond := slice_append hchars'
  rw [List.append_assoc pre first second] at hchars'
  have hboth := slice_append hchars'
  rw [byteLength_append, Nat.add_assoc] at hsecond
  rw [byteLength_append] at hboth
  rw [byteLength_append, byteLength_append, Nat.add_assoc, hfirst, hsecond, hboth,
    String.ofList_append]

end Source

end RunMarkers
