import Mathlib.Data.List.Basic
import RunMarkers.Json.Printer
import RunMarkers.Json.Reader

/-!
# Reading back strings and numbers

What the printer writes for a string or an integer, the reader takes back, whatever text follows: a
string ends at its closing quote, and an integer as soon as no character comes that could continue
a number.
-/

namespace RunMarkers.Json

theorem skipSpace_append {space : List Char} (hspace : ∀ c ∈ space, isSpace c = true)
    (cs : List Char) : skipSpace (space ++ cs) = skipSpace cs :=
  List.dropWhile_append_of_pos hspace

theorem skipSpace_cons {c : Char} (hc : isSpace c = false) (cs : List Char) :
    skipSpace (c :: cs) = c :: cs := by
  rw [skipSpace, List.dropWhile_cons_of_neg (by rw [hc]; exact Bool.false_ne_true)]

theorem hexValue?_digitChar {n : Nat} (h : n < 16) : hexValue? (Nat.digitChar n) = some n := by
  have hall : ∀ n < 16, hexValue? (Nat.digitChar n) = some n := by decide
  exact hall n h

/-! ## Strings -/

section Pieces

variable {c e : Char} (rest : List Char)

theorem stringPieces?_shortEscape (he : shortEscape? e = some c) :
    stringPieces? ('\\' :: e :: rest) =
      (stringPieces? rest).map fun found => (.char c :: found.1, found.2) := by
  have hu : e ≠ 'u' := by
    rintro rfl
    cases he
  rw [stringPieces?.eq_4 _ _ (fun _ _ _ _ _ h _ => hu h), he]
  cases stringPieces? rest <;> rfl

theorem stringPieces?_control (hc : c.toNat < 32) :
    stringPieces? ('\\' :: 'u' :: '0' :: '0' :: Nat.digitChar (c.toNat / 16) ::
        Nat.digitChar (c.toNat % 16) :: rest) =
      (stringPieces? rest).map fun found => (.char c :: found.1, found.2) := by
  have hzero : hexValue? '0' = some 0 := by decide
  have hhigh : hexValue? (Nat.digitChar (c.toNat / 16)) = some (c.toNat / 16) :=
    hexValue?_digitChar (by omega)
  have hlow : hexValue? (Nat.digitChar (c.toNat % 16)) = some (c.toNat % 16) :=
    hexValue?_digitChar (by omega)
  have hvalue : ((0 * 16 + 0) * 16 + c.toNat / 16) * 16 + c.toNat % 16 = c.toNat := by omega
  have hunit : StringPiece.ofUnit c.toNat = .char c := by
    rw [StringPiece.ofUnit, if_neg (by omega), if_neg (by omega), Char.ofNat_toNat]
  have hquad : hexQuad? '0' '0' (Nat.digitChar (c.toNat / 16)) (Nat.digitChar (c.toNat % 16)) =
      some c.toNat := by
    simp only [hexQuad?, hzero, hhigh, hlow, Option.bind_eq_bind, Option.bind_some,
      Option.pure_def, hvalue]
  rw [stringPieces?, hquad]
  cases stringPieces? rest with
  | none => rfl
  | some found =>
      rw [Option.map_some, ← hunit]
      rfl

theorem stringPieces?_plain (hquote : c ≠ '"') (hslash : c ≠ '\\') (hc : 32 ≤ c.toNat) :
    stringPieces? (c :: rest) =
      (stringPieces? rest).map fun found => (.char c :: found.1, found.2) := by
  rw [stringPieces?.eq_5 _ _ hquote (fun _ _ _ _ _ h _ => hslash h) (fun _ _ h _ => hslash h),
    if_neg (by rintro (h | h); omega; exact hslash h)]
  cases stringPieces? rest <;> rfl

/-- A character is written as itself, as a short escape, or, if it is a control character without
one, by its number. -/
theorem stringPieces?_escapeChar (c : Char) :
    stringPieces? (escapeChar c ++ rest) =
      (stringPieces? rest).map fun found => (.char c :: found.1, found.2) := by
  unfold escapeChar
  iterate 7
    split
    next h =>
      rw [h]
      exact stringPieces?_shortEscape rest rfl
  split
  next h => exact stringPieces?_control rest h
  next hquote hslash _ _ _ _ _ hc => exact stringPieces?_plain rest hquote hslash (Nat.not_lt.1 hc)

theorem stringPieces?_flatMap_escapeChar (cs : List Char) :
    stringPieces? (cs.flatMap escapeChar ++ '"' :: rest) = some (cs.map .char, rest) := by
  induction cs with
  | nil => rfl
  | cons c cs ih =>
      rw [List.flatMap_cons, List.append_assoc, stringPieces?_escapeChar, ih]
      rfl

end Pieces

theorem spell?_map_char (cs : List Char) : spell? (cs.map .char) = some cs := by
  induction cs with
  | nil => rfl
  | cons c cs ih =>
      rw [List.map_cons, spell?, ih]
      rfl

/-- A string is read back, also one that spells no text. -/
theorem exists_stringChars_eq_cons (s : Option String) :
    ∃ body, stringChars s = '"' :: body ∧ ∀ rest, string? (body ++ rest) = some (s, rest) := by
  cases s with
  | none => exact ⟨_, rfl, fun rest => rfl⟩
  | some s =>
      refine ⟨_, rfl, fun rest => ?_⟩
      rw [List.append_assoc, List.singleton_append, string?, stringPieces?_flatMap_escapeChar]
      simp only [Option.bind_eq_bind, Option.bind_some, Option.pure_def, spell?_map_char,
        Option.map_some, String.ofList_toList]

/-! ## Numbers -/

/-- No character comes that could continue an integer. -/
def EndsNumber (rest : List Char) : Prop :=
  ∀ c ∈ rest.head?, c.isDigit = false ∧ c ≠ '.' ∧ c ≠ 'e' ∧ c ≠ 'E'

theorem endsNumber_nil : EndsNumber [] := nofun

theorem endsNumber_cons {c : Char} (hc : c ∈ [',', ']', '\x7d', ' ', '\n', '\t', '\r'])
    (rest : List Char) : EndsNumber (c :: rest) := by
  intro d hd
  obtain rfl := Option.some.inj hd
  simp only [List.mem_cons, List.not_mem_nil, or_false] at hc
  rcases hc with rfl | rfl | rfl | rfl | rfl | rfl | rfl <;> decide

theorem digits_append {ds rest : List Char} (hds : ∀ c ∈ ds, c.isDigit = true)
    (hrest : EndsNumber rest) : digits (ds ++ rest) = (ds, rest) := by
  have hnone : rest.takeWhile Char.isDigit = [] ∧ rest.dropWhile Char.isDigit = rest := by
    cases rest with
    | nil => exact ⟨rfl, rfl⟩
    | cons c cs => simp [(hrest c rfl).1]
  rw [digits, List.takeWhile_append_of_pos hds, List.dropWhile_append_of_pos hds, hnone.1,
    hnone.2, List.append_nil]

theorem natOfDigits_toDigits (n : Nat) : natOfDigits (Nat.toDigits 10 n) = n := by
  rw [natOfDigits, ← Nat.ofDigitChars_eq_foldl, Nat.ofDigitChars_ten_toDigits]

/-- Only the digits of zero start with a zero. -/
theorem head?_toDigits {n : Nat} (hn : n ≠ 0) : (Nat.toDigits 10 n).head? ≠ some '0' := by
  induction n using Nat.strongRecOn with
  | _ n ih =>
      rw [Nat.toDigits_eq_if (by decide)]
      split
      next hlt =>
        intro h
        exact hn (Nat.zero_eq_digitChar.1 (Option.some.inj h).symm)
      next hle =>
        rw [List.head?_append_of_ne_nil _ Nat.toDigits_ne_nil]
        exact ih (n / 10) (by omega) (by omega)

theorem exists_toDigits_eq_cons (n : Nat) :
    ∃ d ds, Nat.toDigits 10 n = d :: ds ∧ d.isDigit = true := by
  obtain ⟨d, ds, h⟩ := List.exists_cons_of_ne_nil (Nat.toDigits_ne_nil (n := n) (b := 10))
  exact ⟨d, ds, h, Nat.isDigit_of_mem_toDigits (by decide) (by decide) (h ▸ List.mem_cons_self)⟩

theorem whole?_toDigits (n : Nat) {rest : List Char} (hrest : EndsNumber rest) :
    whole? (Nat.toDigits 10 n ++ rest) = some (n, rest) := by
  by_cases hn : n = 0
  · subst hn
    rfl
  · have hhead := head?_toDigits hn
    have hvalue := natOfDigits_toDigits n
    have hdigits : digits (Nat.toDigits 10 n ++ rest) = (Nat.toDigits 10 n, rest) :=
      digits_append (fun _ hc => Nat.isDigit_of_mem_toDigits (by decide) (by decide) hc) hrest
    obtain ⟨d, ds, hds, -⟩ := exists_toDigits_eq_cons n
    rw [hds] at hhead hvalue hdigits ⊢
    rw [List.cons_append] at hdigits ⊢
    rw [whole?.eq_2 _ (fun _ h => hhead (by rw [(List.cons.inj h).1]; rfl)), someDigits?, hdigits]
    simp only [Option.map_some, hvalue]

theorem fraction?_of_endsNumber {rest : List Char} (hrest : EndsNumber rest) :
    fraction? rest = some ([], rest) := by
  unfold fraction?
  split
  next => exact absurd rfl (hrest _ rfl).2.1
  next => rfl

theorem exponent?_of_endsNumber {rest : List Char} (hrest : EndsNumber rest) :
    exponent? rest = some ([], rest) := by
  cases rest with
  | nil => rfl
  | cons c cs =>
      obtain ⟨-, -, he, hE⟩ := hrest c rfl
      rw [exponent?, if_neg (not_or.2 ⟨he, hE⟩)]

/-- A character that the text of an integer can start with. -/
def StartsNumber (c : Char) : Prop := c = '-' ∨ c.isDigit = true

theorem StartsNumber.ne {c d : Char} (hc : StartsNumber c)
    (hd : d ≠ '-' ∧ d.isDigit = false) : c ≠ d := by
  rintro rfl
  rcases hc with rfl | hc
  · exact hd.1 rfl
  · exact Bool.false_ne_true (hd.2.symm.trans hc)

theorem StartsNumber.isSpace {c : Char} (hc : StartsNumber c) : isSpace c = false := by
  simp only [Json.isSpace, Bool.or_eq_false_iff, beq_eq_false_iff_ne]
  exact ⟨⟨⟨hc.ne (by decide), hc.ne (by decide)⟩, hc.ne (by decide)⟩, hc.ne (by decide)⟩

theorem exists_numberChars_eq_cons (negative : Bool) (n : Nat) :
    ∃ c cs, numberChars ⟨negative, n, []⟩ = c :: cs ∧ StartsNumber c := by
  cases negative with
  | true => exact ⟨_, _, rfl, .inl rfl⟩
  | false =>
      obtain ⟨d, ds, hds, hd⟩ := exists_toDigits_eq_cons n
      exact ⟨d, ds, by simp [numberChars, hds], .inr hd⟩

theorem number?_numberChars (negative : Bool) (n : Nat) {rest : List Char}
    (hrest : EndsNumber rest) :
    number? (numberChars ⟨negative, n, []⟩ ++ rest) = some (⟨negative, n, []⟩, rest) := by
  have hminus : minus (numberChars ⟨negative, n, []⟩ ++ rest) =
      (negative, Nat.toDigits 10 n ++ rest) := by
    cases negative with
    | true => simp only [numberChars, if_true, List.append_nil, List.cons_append,
        List.nil_append, minus]
    | false =>
        obtain ⟨d, ds, hds, hd⟩ := exists_toDigits_eq_cons n
        have hne : d ≠ '-' := by
          rintro rfl
          exact absurd hd (by decide)
        simp only [numberChars, Bool.false_eq_true, if_false, List.nil_append, List.append_nil]
        rw [hds, List.cons_append, minus.eq_2 _ (fun _ h => hne (List.cons.inj h).1)]
  rw [number?, hminus]
  simp only [whole?_toDigits n hrest, fraction?_of_endsNumber hrest,
    exponent?_of_endsNumber hrest, Option.bind_eq_bind, Option.bind_some, Option.pure_def,
    List.append_nil]

end RunMarkers.Json
