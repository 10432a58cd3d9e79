import Mathlib.Data.List.Forall2
import RunMarkers.Proofs.Text.Lowercase
import RunMarkers.Section

/-!
# Spellings of a heading

The section that a heading opens depends on its words alone. They stay the same when stars and white
space are put around the heading, when ASCII letters change their case, and when spaces take the
place of stars inside (`Section.headingWords_padded`, `Section.headingWords_respelled`).
-/

namespace RunMarkers

namespace Section

/-- A text of stars and white space alone. -/
def IsPadding (text : String) : Prop :=
  ∀ c ∈ text.toList, c = '*' ∨ Text.isWhiteSpace c = true

/-- The second character is the first one, perhaps in the other case of an ASCII letter, or a space
in the place of a star. -/
def RespellsChar (c r : Char) : Prop := r.toLower = c.toLower ∨ c = '*' ∧ r = ' '

/-- The second text is another spelling of the first one, character by character. -/
def Respells (text respelled : String) : Prop :=
  List.Forall₂ RespellsChar text.toList respelled.toList

/-- How a character of a heading is read. -/
def spaced (c : Char) : Char := if c = '*' then ' ' else c

theorem headingWords_eq (heading : String) :
    headingWords heading =
      String.ofList (Text.trim (Text.lowercase (heading.toList.map spaced))) := rfl

theorem eq_star_of_toLower {c : Char} (h : c.toLower = '*') : c = '*' := by
  have hcodes : ∀ n ∈ List.range' 65 26, (Char.ofNat n).toLower ≠ '*' := by decide
  rcases Text.toLower_eq_or_exists_capital c with hsmall | ⟨n, hn, rfl⟩
  · exact hsmall.symm.trans h
  · exact absurd h (hcodes n hn)

theorem RespellsChar.toLower_spaced {c r : Char} (h : RespellsChar c r) :
    (spaced r).toLower = (spaced c).toLower := by
  rcases h with hcase | ⟨rfl, rfl⟩
  · by_cases hc : c = '*'
    · rw [hc] at hcase ⊢
      rw [eq_star_of_toLower hcase]
    · have hr : r ≠ '*' := by
        rintro rfl
        exact hc (eq_star_of_toLower hcase.symm)
      rw [spaced, spaced, if_neg hr, if_neg hc, hcase]
  · rfl

theorem map_toLower_spaced {cs rs : List Char} (h : List.Forall₂ RespellsChar cs rs) :
    (rs.map spaced).map Char.toLower = (cs.map spaced).map Char.toLower := by
  induction h with
  | nil => rfl
  | cons hchar _ ih =>
      simp only [List.map_cons, hchar.toLower_spaced, ih]

theorem IsPadding.isWhiteSpace_spaced {text : String} (h : IsPadding text) :
    ∀ c ∈ text.toList.map spaced, Text.isWhiteSpace c = true := by
  intro c hc
  obtain ⟨x, hx, rfl⟩ := List.mem_map.1 hc
  rw [spaced]
  split
  next => rfl
  next hstar => exact (h x hx).resolve_left hstar

/-- Stars and white space around a heading are not among its words. -/
theorem headingWords_padded {before after : String} (hbefore : IsPadding before)
    (hafter : IsPadding after) (text : String) :
    headingWords (before ++ text ++ after) = headingWords text := by
  have hbefore' := hbefore.isWhiteSpace_spaced
  have hafter' := hafter.isWhiteSpace_spaced
  rw [headingWords_eq, String.toList_append, String.toList_append, List.map_append, List.map_append,
    Text.lowercase_append hbefore' hafter', Text.trim_append hbefore' hafter', headingWords_eq]

/-- A heading has the same words in another spelling. -/
theorem headingWords_respelled {text respelled : String} (h : Respells text respelled) :
    headingWords respelled = headingWords text := by
  rw [headingWords_eq, headingWords_eq, ← Text.lowercase_map_toLower, map_toLower_spaced h,
    Text.lowercase_map_toLower]

/-- A heading opens the same section with stars and white space put around it, ASCII letters in
another case, and spaces in the place of stars. -/
theorem ofHeading_respelled {before text respelled after : String} (hbefore : IsPadding before)
    (hafter : IsPadding after) (h : Respells text respelled) :
    ofHeading (before ++ respelled ++ after) = ofHeading text := by
  rw [ofHeading, ofHeading, headingWords_padded hbefore hafter, headingWords_respelled h]

/-- The star inside is read as a space, and the ideographic space before the words is padding. -/
theorem ofHeading_respelled_testCases :
    IsPadding "*\u3000" ∧ IsPadding "\t**" ∧ Respells "Test*cases" "tEST caSes" ∧
      ofHeading ("*\u3000" ++ "tEST caSes" ++ "\t**") = ofHeading "Test*cases" ∧
      ofHeading "Test*cases" = .testCases := by
  have hspace : Text.isWhiteSpace '\u3000' = true := by decide
  have htab : Text.isWhiteSpace '\t' = true := by decide
  have hbefore : IsPadding "*\u3000" := by simp [IsPadding, hspace]
  have hafter : IsPadding "\t**" := by simp [IsPadding, htab]
  have h : Respells "Test*cases" "tEST caSes" := by simp [Respells, RespellsChar]
  exact ⟨hbefore, hafter, h, ofHeading_respelled hbefore hafter h, by decide +kernel⟩

end Section

end RunMarkers
