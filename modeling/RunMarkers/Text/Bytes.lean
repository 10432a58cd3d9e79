/-!
# Texts measured in bytes

Offsets into a text count the bytes of its UTF-8 form. A cut exists only where a character ends, so
`dropBytes?` and `takeBytes?` are partial; `byteLength` of a prefix is always such a place
(`dropBytes?_append`, `takeBytes?_append`).
-/

namespace RunMarkers.Text

/-- The number of bytes of a text in UTF-8. -/
def byteLength (cs : List Char) : Nat := cs.foldr (fun c n => c.utf8Size + n) 0

/-- The text after its first `n` bytes, if a character ends there. -/
def dropBytes? : Nat → List Char → Option (List Char)
  | 0, cs => some cs
  | _ + 1, [] => none
  | n + 1, c :: cs => if c.utf8Size ≤ n + 1 then dropBytes? (n + 1 - c.utf8Size) cs else none

/-- The characters of `taken`, last one first, and then the first `n` bytes of a text, if a
character ends there. -/
def takeBytesOnto? (taken : List Char) : Nat → List Char → Option (List Char)
  | 0, _ => some taken.reverse
  | _ + 1, [] => none
  | n + 1, c :: cs =>
    if c.utf8Size ≤ n + 1 then takeBytesOnto? (c :: taken) (n + 1 - c.utf8Size) cs else none

/-- The first `n` bytes of a text, if a character ends there. -/
def takeBytes? (n : Nat) (cs : List Char) : Option (List Char) := takeBytesOnto? [] n cs

/-- The text from byte `start` to byte `stop`, if both are character boundaries in order. -/
def bytesBetween? (start stop : Nat) (cs : List Char) : Option (List Char) :=
  if start ≤ stop then (dropBytes? start cs).bind (takeBytes? (stop - start)) else none

@[simp] theorem byteLength_nil : byteLength [] = 0 := rfl

@[simp] theorem byteLength_cons (c : Char) (cs : List Char) :
    byteLength (c :: cs) = c.utf8Size + byteLength cs := rfl

@[simp] theorem byteLength_append (l m : List Char) :
    byteLength (l ++ m) = byteLength l + byteLength m := by
  induction l with
  | nil => simp
  | cons c l ih => simp [ih, Nat.add_assoc]

/-- A character takes at least one byte. -/
theorem length_le_byteLength (cs : List Char) : cs.length ≤ byteLength cs := by
  induction cs with
  | nil => simp
  | cons c cs ih =>
    have := c.utf8Size_pos
    simp only [List.length_cons, byteLength_cons]
    omega

theorem byteLength_pos {cs : List Char} (h : cs ≠ []) : 0 < byteLength cs :=
  Nat.lt_of_lt_of_le (List.length_pos_iff.2 h) (length_le_byteLength cs)

theorem byteLength_eq_zero_iff {cs : List Char} : byteLength cs = 0 ↔ cs = [] := by
  constructor
  · intro h
    have := length_le_byteLength cs
    exact List.length_eq_zero_iff.1 (by omega)
  · rintro rfl
    rfl

theorem byteLength_sub_dropWhile (p : Char → Bool) (cs : List Char) :
    byteLength cs - byteLength (cs.dropWhile p) = byteLength (cs.takeWhile p) := by
  have h := congrArg byteLength (List.takeWhile_append_dropWhile (p := p) (l := cs))
  rw [byteLength_append] at h
  omega

theorem utf8ByteSize_ofList (cs : List Char) :
    (String.ofList cs).utf8ByteSize = byteLength cs := by
  induction cs with
  | nil => simp
  | cons c cs ih => simp [String.ofList_cons, ih]

/-- The length in bytes of the characters of a string is the string's size. -/
theorem byteLength_toList (s : String) : byteLength s.toList = s.utf8ByteSize := by
  rw [← utf8ByteSize_ofList, String.ofList_toList]

@[simp] theorem dropBytes?_zero (cs : List Char) : dropBytes? 0 cs = some cs := by
  cases cs <;> rfl

@[simp] theorem takeBytesOnto?_zero (taken cs : List Char) :
    takeBytesOnto? taken 0 cs = some taken.reverse := by
  cases cs <;> rfl

@[simp] theorem takeBytes?_zero (cs : List Char) : takeBytes? 0 cs = some [] := by
  simp [takeBytes?]

theorem dropBytes?_utf8Size_add (n : Nat) (c : Char) (cs : List Char) :
    dropBytes? (c.utf8Size + n) (c :: cs) = dropBytes? n cs := by
  obtain ⟨k, hk⟩ : ∃ k, c.utf8Size + n = k + 1 :=
    ⟨c.utf8Size + n - 1, by have := c.utf8Size_pos; omega⟩
  rw [hk, dropBytes?, if_pos (by omega)]
  congr 1
  omega

theorem dropBytes?_append (l m : List Char) : dropBytes? (byteLength l) (l ++ m) = some m := by
  induction l with
  | nil => simp
  | cons c l ih => simp [dropBytes?_utf8Size_add, ih]

theorem takeBytesOnto?_utf8Size_add (taken : List Char) (n : Nat) (c : Char) (cs : List Char) :
    takeBytesOnto? taken (c.utf8Size + n) (c :: cs) = takeBytesOnto? (c :: taken) n cs := by
  obtain ⟨k, hk⟩ : ∃ k, c.utf8Size + n = k + 1 :=
    ⟨c.utf8Size + n - 1, by have := c.utf8Size_pos; omega⟩
  rw [hk, takeBytesOnto?, if_pos (by omega)]
  congr 1
  omega

theorem takeBytesOnto?_append (taken l m : List Char) :
    takeBytesOnto? taken (byteLength l) (l ++ m) = some (taken.reverse ++ l) := by
  induction l generalizing taken with
  | nil => simp
  | cons c l ih => simp [takeBytesOnto?_utf8Size_add, ih]

theorem takeBytes?_append (l m : List Char) : takeBytes? (byteLength l) (l ++ m) = some l := by
  simp [takeBytes?, takeBytesOnto?_append]

/-- Bytes can be dropped in two goes if a character ends between them. -/
theorem dropBytes?_add {m : Nat} {cs rest : List Char} (h : dropBytes? m cs = some rest) (n : Nat) :
    dropBytes? (m + n) cs = dropBytes? n rest := by
  induction cs generalizing m with
  | nil =>
    cases m with
    | zero => simp_all
    | succ m => simp [dropBytes?] at h
  | cons c cs ih =>
    cases m with
    | zero => simp_all
    | succ m =>
      rw [dropBytes?] at h
      split at h
      next hc =>
        rw [← ih h, ← dropBytes?_utf8Size_add _ c cs]
        congr 1
        omega
      next => simp at h

theorem bytesBetween?_append (l m r : List Char) :
    bytesBetween? (byteLength l) (byteLength l + byteLength m) (l ++ m ++ r) = some m := by
  rw [bytesBetween?, if_pos (by omega), List.append_assoc, dropBytes?_append]
  simp [takeBytes?_append]

end RunMarkers.Text
