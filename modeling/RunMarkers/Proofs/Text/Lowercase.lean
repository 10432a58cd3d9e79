import Mathlib.Data.List.TakeWhile
import RunMarkers.Text.Blank
import RunMarkers.Text.Lowercase

/-!
# Lower case of a text in its surroundings

The lower case of a capital sigma depends on the letters around it. White space is no letter and is
not looked through, so white space before and after a text leaves its lower case alone
(`Text.lowercase_append`). Nor does it matter in which case the ASCII letters of the text are
written (`Text.lowercase_map_toLower`).
-/

namespace RunMarkers.Text

/-- The code points of the ranges. -/
def CodeRanges.codes (ranges : CodeRanges) : List Nat :=
  ranges.flatMap fun r => List.range' r.1 (r.2 + 1 - r.1)

theorem CodeRanges.mem_codes_iff {ranges : CodeRanges} {n : Nat} :
    n ∈ ranges.codes ↔ ranges.contains n = true := by
  rw [codes, contains_iff, List.mem_flatMap]
  refine exists_congr fun r => and_congr_right fun _ => ?_
  rw [List.mem_range'_1]
  omega

/-- The code points of white space. -/
def whiteSpaceCodes : List Nat := List.range' 9 5 ++ 32 :: whiteSpaceRanges.codes

theorem toNat_mem_whiteSpaceCodes {c : Char} (hc : isWhiteSpace c = true) :
    c.toNat ∈ whiteSpaceCodes := by
  rw [isWhiteSpace] at hc
  rw [whiteSpaceCodes, List.mem_append, List.mem_cons, List.mem_range'_1]
  split at hc
  next =>
      rw [Bool.or_eq_true, Bool.and_eq_true, decide_eq_true_eq, decide_eq_true_eq] at hc
      rcases hc with hc | ⟨hlow, hhigh⟩
      · rw [beq_iff_eq.1 hc]
        exact .inr (.inl rfl)
      · exact .inl ⟨hlow, Nat.lt_succ_of_le hhigh⟩
  next => exact .inr (.inr (CodeRanges.mem_codes_iff.2 hc))

/-- White space has no case, and is not looked through when a letter is sought. -/
theorem caseless_of_isWhiteSpace {c : Char} (hc : isWhiteSpace c = true) :
    isCased c = false ∧ isCaseIgnorable c = false ∧ lowercaseChar c = [c] ∧ c ≠ '\u03A3' := by
  have hcodes : ∀ n ∈ whiteSpaceCodes, isCased (.ofNat n) = false ∧
      isCaseIgnorable (.ofNat n) = false ∧ lowercaseChar (.ofNat n) = [.ofNat n] ∧
        Char.ofNat n ≠ '\u03A3' := by
    decide +kernel
  rw [← Char.ofNat_toNat c]
  exact hcodes c.toNat (toNat_mem_whiteSpaceCodes hc)

/-- Only the capital letters of ASCII have a small one. -/
theorem toLower_eq_or_exists_capital (c : Char) :
    c.toLower = c ∨ ∃ n ∈ List.range' 65 26, Char.ofNat n = c := by
  by_cases hupper : 'A'.val ≤ c.val ∧ c.val ≤ 'Z'.val
  · obtain ⟨hlow, hhigh⟩ := hupper
    refine .inr ⟨c.toNat, List.mem_range'_1.2 ?_, Char.ofNat_toNat c⟩
    exact ⟨UInt32.le_iff_toNat_le.1 hlow, Nat.lt_succ_of_le (UInt32.le_iff_toNat_le.1 hhigh)⟩
  · exact .inl (dif_neg hupper)

/-- A small letter has the case properties and the lower case of the capital one. -/
theorem caseless_toLower (c : Char) :
    isCased c.toLower = isCased c ∧ isCaseIgnorable c.toLower = isCaseIgnorable c ∧
      lowercaseChar c.toLower = lowercaseChar c ∧ (c.toLower = '\u03A3' ↔ c = '\u03A3') := by
  have hcodes : ∀ n ∈ List.range' 65 26,
      isCased (Char.ofNat n).toLower = isCased (.ofNat n) ∧
        isCaseIgnorable (Char.ofNat n).toLower = isCaseIgnorable (.ofNat n) ∧
        lowercaseChar (Char.ofNat n).toLower = lowercaseChar (.ofNat n) ∧
        ((Char.ofNat n).toLower = '\u03A3' ↔ Char.ofNat n = '\u03A3') := by
    decide +kernel
  rcases toLower_eq_or_exists_capital c with hsmall | ⟨n, hn, rfl⟩
  · rw [hsmall]
    exact ⟨rfl, rfl, rfl, Iff.rfl⟩
  · exact hcodes n hn

section WhiteSpace

variable {ws : List Char}

theorem meetsCased_cons (c : Char) (cs : List Char) :
    meetsCased (c :: cs) = if isCaseIgnorable c then meetsCased cs else isCased c := by
  rw [meetsCased, List.dropWhile_cons]
  cases isCaseIgnorable c with
  | true => rfl
  | false => rfl

theorem meetsCased_of_isWhiteSpace (hws : ∀ c ∈ ws, isWhiteSpace c = true) :
    meetsCased ws = false := by
  cases ws with
  | nil => rfl
  | cons w ws =>
      obtain ⟨hcased, hignorable, -⟩ := caseless_of_isWhiteSpace (hws w List.mem_cons_self)
      rw [meetsCased_cons, hignorable, if_neg Bool.false_ne_true, hcased]

/-- No letter is met beyond white space. -/
theorem meetsCased_append (hws : ∀ c ∈ ws, isWhiteSpace c = true) (cs : List Char) :
    meetsCased (cs ++ ws) = meetsCased cs := by
  induction cs with
  | nil => exact meetsCased_of_isWhiteSpace hws
  | cons c cs ih => rw [List.cons_append, meetsCased_cons, meetsCased_cons, ih]

theorem lowercaseAfter_of_isWhiteSpace (hws : ∀ c ∈ ws, isWhiteSpace c = true)
    (before cs : List Char) :
    lowercaseAfter before (ws ++ cs) = ws ++ lowercaseAfter (ws.reverse ++ before) cs := by
  induction ws generalizing before with
  | nil => rfl
  | cons w ws ih =>
      obtain ⟨-, -, hlower, hsigma⟩ := caseless_of_isWhiteSpace (hws w List.mem_cons_self)
      rw [List.cons_append, lowercaseAfter_cons, if_neg hsigma, hlower,
        ih (fun c hc => hws c (List.mem_cons_of_mem w hc)), List.reverse_cons, List.append_assoc]
      rfl

theorem lowercaseAfter_append (hws : ∀ c ∈ ws, isWhiteSpace c = true) (before cs : List Char) :
    lowercaseAfter before (cs ++ ws) = lowercaseAfter before cs ++ ws := by
  induction cs generalizing before with
  | nil =>
      have hlower := lowercaseAfter_of_isWhiteSpace hws before []
      rw [List.append_nil] at hlower
      rw [List.nil_append, hlower, lowercaseAfter, lowercaseAfter, List.append_nil, List.nil_append]
  | cons c cs ih =>
      rw [List.cons_append, lowercaseAfter_cons, lowercaseAfter_cons, meetsCased_append hws, ih,
        List.append_assoc]

theorem lowercaseAfter_append_before (hws : ∀ c ∈ ws, isWhiteSpace c = true)
    (before cs : List Char) : lowercaseAfter (before ++ ws) cs = lowercaseAfter before cs := by
  induction cs generalizing before with
  | nil => rfl
  | cons c cs ih =>
      rw [lowercaseAfter_cons, lowercaseAfter_cons, meetsCased_append hws, ← List.cons_append, ih]

/-- White space around a text stays as it is, and does not change the lower case of the text. -/
theorem lowercase_append {vs : List Char} (hvs : ∀ c ∈ vs, isWhiteSpace c = true)
    (hws : ∀ c ∈ ws, isWhiteSpace c = true) (cs : List Char) :
    lowercase (vs ++ cs ++ ws) = vs ++ lowercase cs ++ ws := by
  have hbefore : ∀ c ∈ vs.reverse, isWhiteSpace c = true := fun c hc => hvs c (List.mem_reverse.1 hc)
  rw [lowercase, lowercaseAfter_append hws, lowercaseAfter_of_isWhiteSpace hvs,
    List.append_nil, ← List.nil_append vs.reverse, lowercaseAfter_append_before hbefore]
  rfl

/-- White space around a text is taken away with that at its ends. -/
theorem trim_append {vs : List Char} (hvs : ∀ c ∈ vs, isWhiteSpace c = true)
    (hws : ∀ c ∈ ws, isWhiteSpace c = true) (cs : List Char) :
    trim (vs ++ cs ++ ws) = trim cs := by
  have hend : ∀ xs, trimEnd (xs ++ ws) = trimEnd xs := by
    intro xs
    rw [trimEnd, List.reverse_append, List.dropWhile_append_of_pos]
    · rfl
    · exact fun c hc => hws c (List.mem_reverse.1 hc)
  rw [List.append_assoc, trim, trimStart, List.dropWhile_append_of_pos hvs, List.dropWhile_append]
  split
  next hempty =>
      rw [List.dropWhile_eq_nil_iff.2 hws, trim, trimStart, List.isEmpty_iff.1 hempty]
  next => exact hend _

end WhiteSpace

theorem meetsCased_map_toLower (cs : List Char) :
    meetsCased (cs.map Char.toLower) = meetsCased cs := by
  induction cs with
  | nil => rfl
  | cons c cs ih =>
      obtain ⟨hcased, hignorable, -⟩ := caseless_toLower c
      rw [List.map_cons, meetsCased_cons, meetsCased_cons, ih, hcased, hignorable]

theorem lowercaseAfter_map_toLower (before cs : List Char) :
    lowercaseAfter (before.map Char.toLower) (cs.map Char.toLower) = lowercaseAfter before cs := by
  induction cs generalizing before with
  | nil => rfl
  | cons c cs ih =>
      obtain ⟨-, -, hlower, hsigma⟩ := caseless_toLower c
      rw [List.map_cons, lowercaseAfter_cons, lowercaseAfter_cons, meetsCased_map_toLower,
        meetsCased_map_toLower, hlower, ← List.map_cons, ih]
      simp only [hsigma]

/-- The case of ASCII letters makes no difference to the lower case of a text. -/
theorem lowercase_map_toLower (cs : List Char) :
    lowercase (cs.map Char.toLower) = lowercase cs := lowercaseAfter_map_toLower [] cs

end RunMarkers.Text
