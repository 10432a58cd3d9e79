import Mathlib.Data.List.TakeWhile
import RunMarkers.Cli.Target
import RunMarkers.Proofs.Json.Tokens

/-!
# Reading targets

A path, a colon and a number name a line of the path. What stands before the last colon belongs to
the path, further colons included. The rule asks for digits alone (`Target.IsNamedBy`); a plus sign
before them is let through, and nothing else departs from the rule (`Target.isNamedBy_ofArg_iff`).
-/

namespace RunMarkers.Cli

theorem splitAtLastColon?_append (before : List Char) {after : List Char} (h : ':' ∉ after) :
    splitAtLastColon? (before ++ ':' :: after) = some (before, after) := by
  have hne : ∀ c ∈ after.reverse, (c != ':') = true := by
    intro c hc
    rw [bne_iff_ne]
    rintro rfl
    exact h (List.mem_reverse.1 hc)
  have hreverse : (before ++ ':' :: after).reverse = after.reverse ++ ':' :: before.reverse := by
    simp
  rw [splitAtLastColon?, hreverse, List.dropWhile_append_of_pos hne, List.takeWhile_append_of_pos hne]
  simp

theorem splitAtLastColon?_eq_some_iff {cs before after : List Char} :
    splitAtLastColon? cs = some (before, after) ↔ cs = before ++ ':' :: after ∧ ':' ∉ after := by
  constructor
  · intro h
    by_cases hcolon : ':' ∈ cs
    · obtain ⟨back, front, hsplit, hback⟩ := List.eq_append_cons_of_mem (List.mem_reverse.2 hcolon)
      have hcs : cs = front.reverse ++ ':' :: back.reverse := by
        rw [← List.reverse_reverse cs, hsplit]
        simp
      have hafter : ':' ∉ back.reverse := fun hmem => hback (List.mem_reverse.1 hmem)
      rw [hcs, splitAtLastColon?_append front.reverse hafter] at h
      obtain ⟨rfl, rfl⟩ := Prod.mk.inj (Option.some.inj h)
      exact ⟨hcs, hafter⟩
    · have hne : ∀ c ∈ cs.reverse, (c != ':') = true := by
        intro c hc
        rw [bne_iff_ne]
        rintro rfl
        exact hcolon (List.mem_reverse.1 hc)
      rw [splitAtLastColon?, List.dropWhile_eq_nil_iff.2 hne] at h
      exact absurd h.symm (Option.some_ne_none _)
  · rintro ⟨rfl, hafter⟩
    exact splitAtLastColon?_append before hafter

/-- A row of digits whose value fits in 64 bits. -/
structure IsNumeral (digits : List Char) (n : Nat) : Prop where
  ne_nil : digits ≠ []
  isDigit : ∀ c ∈ digits, c.isDigit = true
  value_eq : Nat.ofDigitChars 10 digits 0 = n
  lt : n < Nat.pow 2 64

namespace IsNumeral

variable {digits : List Char} {n : Nat}

theorem not_mem (h : IsNumeral digits n) {c : Char} (hc : c.isDigit = false) : c ∉ digits :=
  fun hmem => Bool.false_ne_true (hc.symm.trans (h.isDigit c hmem))

theorem toDigits (hn : n < Nat.pow 2 64) : IsNumeral (Nat.toDigits 10 n) n where
  ne_nil := Nat.toDigits_ne_nil
  isDigit := fun _ hc => Nat.isDigit_of_mem_toDigits (by decide) (by decide) hc
  value_eq := Nat.ofDigitChars_ten_toDigits
  lt := hn

/-- The test for digits and for their size. -/
theorem of_test_iff :
    (if digits.isEmpty || !digits.all Char.isDigit then none
      else if Nat.ofDigitChars 10 digits 0 < Nat.pow 2 64 then some (Nat.ofDigitChars 10 digits 0)
      else none) = some n ↔ IsNumeral digits n := by
  constructor
  · intro h
    split at h
    next => exact absurd h.symm (Option.some_ne_none n)
    next htest =>
      split at h
      next hlt =>
        rw [Bool.or_eq_true, not_or, List.isEmpty_iff, Bool.not_eq_true', Bool.not_eq_false,
          List.all_eq_true] at htest
        have hvalue := Option.some.inj h
        exact ⟨htest.1, htest.2, hvalue, hvalue ▸ hlt⟩
      next => exact absurd h.symm (Option.some_ne_none n)
  · rintro ⟨hne, hdigit, hvalue, hlt⟩
    have htest : (digits.isEmpty || !digits.all Char.isDigit) = false := by
      rw [List.all_eq_true.2 hdigit, Bool.or_eq_false_iff, List.isEmpty_eq_false_iff]
      exact ⟨hne, rfl⟩
    rw [htest, if_neg Bool.false_ne_true, hvalue, if_pos hlt]

end IsNumeral

/-- A line number is a row of digits, with or without a plus sign before it. -/
theorem lineNumber?_eq_some_iff {cs : List Char} {n : Nat} :
    lineNumber? cs = some n ↔ IsNumeral cs n ∨ ∃ digits, cs = '+' :: digits ∧ IsNumeral digits n := by
  by_cases hplus : ∃ digits, cs = '+' :: digits
  · obtain ⟨digits, rfl⟩ := hplus
    have hsign : ¬ IsNumeral ('+' :: digits) n :=
      fun h => h.not_mem (c := '+') (by decide) List.mem_cons_self
    rw [lineNumber?, or_iff_right hsign]
    exact IsNumeral.of_test_iff.trans (by simp)
  · have hunsigned : ¬ ∃ digits, cs = '+' :: digits ∧ IsNumeral digits n := by
      rintro ⟨digits, hcs, -⟩
      exact hplus ⟨digits, hcs⟩
    rw [or_iff_left hunsigned, lineNumber?]
    · exact IsNumeral.of_test_iff
    · exact fun digits hcs => hplus ⟨digits, hcs⟩

theorem lineNumber?_toDigits {n : Nat} (hn : n < Nat.pow 2 64) :
    lineNumber? (Nat.toDigits 10 n) = some n :=
  lineNumber?_eq_some_iff.2 (.inl (.toDigits hn))

namespace Target

variable {arg : String} {before after : List Char} {n : Nat}

theorem ofArg_of_lineNumber? (harg : arg.toList = before ++ ':' :: after) (hafter : ':' ∉ after)
    (hn : lineNumber? after = some n) : ofArg arg = ⟨⟨String.ofList before⟩, some (n - 1)⟩ := by
  simp only [ofArg, harg, splitAtLastColon?_append before hafter, Option.bind_some, hn,
    Option.map_some]

theorem ofArg_of_forall_ne
    (h : ∀ before after n, arg.toList = before ++ ':' :: after → ':' ∉ after →
      lineNumber? after ≠ some n) : ofArg arg = ⟨⟨arg⟩, none⟩ := by
  cases hsplit : splitAtLastColon? arg.toList with
  | none => simp only [ofArg, hsplit, Option.bind_none]
  | some split =>
      obtain ⟨before, after⟩ := split
      obtain ⟨harg, hafter⟩ := splitAtLastColon?_eq_some_iff.1 hsplit
      cases hnumber : lineNumber? after with
      | none => simp only [ofArg, hsplit, Option.bind_some, hnumber, Option.map_none]
      | some n => exact absurd hnumber (h before after n harg hafter)

/-- The line after the colon counts from one. -/
theorem ofArg_line (name : String) {n : Nat} (hn : n < Nat.pow 2 64) :
    ofArg (name ++ ":" ++ toString n) = ⟨⟨name⟩, some (n - 1)⟩ := by
  have htext : (name ++ ":" ++ toString n).toList = name.toList ++ ':' :: Nat.toDigits 10 n := by
    rw [Nat.toString_eq_ofList_toDigits]
    simp
  have hnumeral := IsNumeral.toDigits hn
  rw [ofArg_of_lineNumber? htext (hnumeral.not_mem (by decide)) (lineNumber?_toDigits hn),
    String.ofList_toList]

/-- The rule for arguments: digits after the last colon that fit in 64 bits are the line, counted
from one, and what stands before that colon is the path. Without such digits the path is all of the
argument. -/
def IsNamedBy (t : Target) (arg : String) : Prop :=
  match t.line with
  | some line => ∃ digits n, IsNumeral digits n ∧ line = n - 1 ∧
      arg.toList = t.path.text.toList ++ ':' :: digits
  | none => t.path.text = arg ∧
      ∀ name digits n, IsNumeral digits n → arg.toList ≠ name ++ ':' :: digits

/-- An argument is read by the rule unless a plus sign stands before the digits, which is then
passed over. In particular a path, colons in it included, a colon and the decimal form of a number
of 64 bits give back the path and the line. -/
theorem isNamedBy_ofArg_iff (arg : String) :
    ((ofArg arg).IsNamedBy arg ↔
      ∀ name digits n, IsNumeral digits n → arg.toList ≠ name ++ ':' :: '+' :: digits) ∧
    (∀ name digits n, IsNumeral digits n → arg.toList = name ++ ':' :: '+' :: digits →
      ofArg arg = ⟨⟨String.ofList name⟩, some (n - 1)⟩) ∧
    ∀ name n, n < Nat.pow 2 64 → arg = name ++ ":" ++ toString n →
      ofArg arg = ⟨⟨name⟩, some (n - 1)⟩ := by
  have hsigned : ∀ name digits n, IsNumeral digits n → arg.toList = name ++ ':' :: '+' :: digits →
      ofArg arg = ⟨⟨String.ofList name⟩, some (n - 1)⟩ := by
    intro name digits n hdigits harg
    have hcolon : ':' ∉ '+' :: digits := by
      rw [List.mem_cons, not_or]
      exact ⟨by decide, hdigits.not_mem (by decide)⟩
    exact ofArg_of_lineNumber? harg hcolon
      (lineNumber?_eq_some_iff.2 (.inr ⟨digits, rfl, hdigits⟩))
  refine ⟨⟨?_, ?_⟩, hsigned, ?_⟩
  · intro hnamed name digits n hdigits harg
    rw [hsigned name digits n hdigits harg] at hnamed
    obtain ⟨others, m, hothers, -, hsplit⟩ := hnamed
    rw [harg, String.toList_ofList, List.append_cancel_left_eq] at hsplit
    have hplus : '+' ∈ others := (List.cons.inj hsplit).2 ▸ List.mem_cons_self
    exact hothers.not_mem (by decide) hplus
  · intro hunsigned
    by_cases hnumeral : ∃ name digits n, IsNumeral digits n ∧ arg.toList = name ++ ':' :: digits
    · obtain ⟨name, digits, n, hdigits, harg⟩ := hnumeral
      rw [ofArg_of_lineNumber? harg (hdigits.not_mem (by decide))
        (lineNumber?_eq_some_iff.2 (.inl hdigits))]
      exact ⟨digits, n, hdigits, rfl, by rw [harg, String.toList_ofList]⟩
    · have hnone : ∀ name digits n, IsNumeral digits n → arg.toList ≠ name ++ ':' :: digits :=
        fun name digits n hdigits harg => hnumeral ⟨name, digits, n, hdigits, harg⟩
      rw [ofArg_of_forall_ne]
      · exact ⟨rfl, hnone⟩
      · intro before after n harg _ hn
        rcases lineNumber?_eq_some_iff.1 hn with hdigits | ⟨digits, rfl, hdigits⟩
        · exact hnone before after n hdigits harg
        · exact hunsigned before digits n hdigits harg
  · rintro name n hn rfl
    exact ofArg_line name hn

/-- Leading zeros and further colons. -/
theorem isNamedBy_ofArg_iff_leadingZeros :
    (ofArg "C:a:0018446744073709551615").IsNamedBy "C:a:0018446744073709551615" ∧
      ofArg "C:a:+07" = ⟨⟨"C:a"⟩, some 6⟩ ∧
      ofArg ("C:a" ++ ":" ++ toString 0) = ⟨⟨"C:a"⟩, some 0⟩ := by
  have hnumeral : IsNumeral ['0', '7'] 7 :=
    ⟨by decide, List.all_eq_true.1 (by decide), by decide, by decide⟩
  refine ⟨(isNamedBy_ofArg_iff _).1.2 ?_, ?_, ?_⟩
  · intro name digits n _ harg
    have hplus : '+' ∈ "C:a:0018446744073709551615".toList := by
      rw [harg]
      simp
    exact absurd hplus (by decide)
  · exact (isNamedBy_ofArg_iff _).2.1 "C:a".toList ['0', '7'] 7 hnumeral rfl
  · exact (isNamedBy_ofArg_iff _).2.2 "C:a" 0 (by decide) rfl

/-- The rule takes all of this argument for a path, but a line of another path is read. -/
theorem not_isNamedBy_ofArg_plus :
    IsNamedBy ⟨⟨"a.robot:+5"⟩, none⟩ "a.robot:+5" ∧ ofArg "a.robot:+5" = ⟨⟨"a.robot"⟩, some 4⟩ ∧
      ¬ (ofArg "a.robot:+5").IsNamedBy "a.robot:+5" := by
  have hsplit : splitAtLastColon? "a.robot:+5".toList = some ("a.robot".toList, ['+', '5']) := by
    decide
  -- what stands after the colon is no row of digits
  have hnone : ∀ name digits n, IsNumeral digits n → "a.robot:+5".toList ≠ name ++ ':' :: digits := by
    intro name digits n hdigits harg
    rw [harg, splitAtLastColon?_append name (hdigits.not_mem (by decide))] at hsplit
    obtain ⟨-, rfl⟩ := Prod.mk.inj (Option.some.inj hsplit)
    exact hdigits.not_mem (c := '+') (by decide) List.mem_cons_self
  have htarget : ofArg "a.robot:+5" = ⟨⟨"a.robot"⟩, some 4⟩ := by decide
  refine ⟨⟨rfl, hnone⟩, htarget, ?_⟩
  rw [htarget]
  rintro ⟨digits, n, hdigits, -, harg⟩
  exact hnone _ digits n hdigits harg

end Target

end RunMarkers.Cli
