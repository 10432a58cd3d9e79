import RunMarkers.Text.Quoted

/-!
# Quoted texts on a line

Quoting leaves no line feed in a text, so a list of quoted texts stays on the line it is printed on.
The more texts there are in the list, the more room it takes there (`listWidth_lt`).
-/

namespace RunMarkers

namespace Text

theorem lineFeed_not_mem_hexDigits (n : Nat) : '\n' ∉ hexDigits n := by
  rw [hexDigits]
  induction n using Nat.strongRecOn with
  | ind n ih =>
      have hdigit (d : Nat) : '\n' ∉ [d.digitChar] := by
        intro hmem
        exact Nat.digitChar_ne '\n' rfl (List.mem_singleton.1 hmem).symm
      rw [Nat.toDigits_eq_if (by decide)]
      split
      next => exact hdigit n
      next hle =>
          intro hmem
          rcases List.mem_append.1 hmem with hmem | hmem
          · exact ih (n / 16) (by omega) hmem
          · exact hdigit (n % 16) hmem

theorem lineFeed_not_mem_quoteChar (c : Char) : '\n' ∉ quoteChar c := by
  by_cases hc : c = '\n'
  · rw [hc]
    decide
  · simp [quoteChar, apply_ite (fun cs => '\n' ∈ cs), lineFeed_not_mem_hexDigits, Ne.symm hc]

theorem lineFeed_not_mem_quoted (text : String) : '\n' ∉ (quoted text).toList := by
  simp [quoted, lineFeed_not_mem_quoteChar]

/-- The quoted texts of a list, those after the first behind a comma. -/
theorem toList_intercalate_quoted (text : String) (texts : List String) :
    (", ".intercalate ((text :: texts).map quoted)).toList =
      (quoted text).toList ++ texts.flatMap fun t => ',' :: ' ' :: (quoted t).toList := by
  induction texts generalizing text with
  | nil =>
      rw [List.map_singleton, String.intercalate_singleton, List.flatMap_nil, List.append_nil]
  | cons t texts ih =>
      rw [List.map_cons, List.map_cons, String.intercalate_cons_cons, ← List.map_cons,
        String.toList_append, String.toList_append, ih, List.flatMap_cons, List.append_assoc]
      simp only [String.reduceToList, List.cons_append, List.nil_append]

theorem toList_quotedList_cons (text : String) (texts : List String) :
    (quotedList (text :: texts)).toList =
      '[' :: ((quoted text).toList ++
        texts.flatMap (fun t => ',' :: ' ' :: (quoted t).toList) ++ [']']) := by
  rw [quotedList, String.toList_append, String.toList_append, toList_intercalate_quoted]
  simp only [String.reduceToList, List.cons_append, List.nil_append]

/-- The quoted texts of a list stay on one line. -/
theorem lineFeed_not_mem_quotedList (texts : List String) : '\n' ∉ (quotedList texts).toList := by
  cases texts with
  | nil => decide
  | cons text texts =>
      rw [toList_quotedList_cons]
      simp [lineFeed_not_mem_quoted]

/-- The room that quoted texts take in a list, each with two marks of its own. -/
def listWidth : List String → Nat
  | [] => 0
  | text :: texts => (quoted text).toList.length + 2 + listWidth texts

theorem length_quotedList_cons (text : String) (texts : List String) :
    (quotedList (text :: texts)).toList.length = listWidth (text :: texts) := by
  have hlater : (texts.flatMap fun t => ',' :: ' ' :: (quoted t).toList).length =
      listWidth texts := by
    induction texts with
    | nil => rfl
    | cons t texts ih =>
        rw [List.flatMap_cons, List.length_append, ih, listWidth]
        rfl
  rw [toList_quotedList_cons, List.length_cons, List.length_append, List.length_append, hlater,
    List.length_singleton, listWidth]
  omega

theorem listWidth_le {xs ys : List String} (h : xs.Sublist ys) : listWidth xs ≤ listWidth ys := by
  induction h with
  | slnil => exact Nat.le_refl _
  | cons y h ih => exact Nat.le_trans ih (Nat.le_add_left _ _)
  | cons_cons y h ih => exact Nat.add_le_add_left ih _

theorem listWidth_lt {xs ys : List String} (h : xs.Sublist ys) (hne : xs ≠ ys) :
    listWidth xs < listWidth ys := by
  induction h with
  | slnil => exact absurd rfl hne
  | cons y h ih =>
      rw [listWidth]
      exact Nat.lt_of_le_of_lt (listWidth_le h) (Nat.lt_add_of_pos_left (Nat.succ_pos _))
  | cons_cons y h ih =>
      apply Nat.add_lt_add_left
      exact ih fun heq => hne (congrArg (List.cons y) heq)

/-- A line can be read off the text that it starts if no line feed is in it, nor in what follows. -/
theorem eq_of_append_lineFeed_eq {xs ys xs' ys' : List Char} (hxs : '\n' ∉ xs) (hys : '\n' ∉ ys)
    (h : xs ++ '\n' :: ys = xs' ++ '\n' :: ys') : xs = xs' := by
  rcases List.append_eq_append_iff.1 h with ⟨mid, rfl, hmid⟩ | ⟨mid, rfl, hmid⟩
  · cases mid with
    | nil => exact (List.append_nil xs).symm
    | cons c mid =>
        obtain ⟨-, hmid⟩ := List.cons.inj hmid
        rw [hmid] at hys
        exact absurd (List.mem_append_right mid List.mem_cons_self) hys
  · cases mid with
    | nil => exact List.append_nil xs'
    | cons c mid =>
        obtain ⟨rfl, -⟩ := List.cons.inj hmid
        exact absurd (List.mem_append_right xs' List.mem_cons_self) hxs

end Text

end RunMarkers
