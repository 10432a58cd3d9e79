import Mathlib.Data.List.Basic
import Mathlib.Order.RelIso.Basic
import RunMarkers.Text.Bytes

/-!
# Texts as bytes

The bytes of a character determine it, so a text can be read back from its bytes, and they sort like
its number: texts and their UTF-8 forms have the same order (`Text.encoded_lt_encoded_iff`).
-/

namespace RunMarkers.Text

/-- The bytes of a text in UTF-8. -/
def encoded (cs : List Char) : List UInt8 := cs.flatMap String.utf8EncodeChar

theorem encoded_nil : encoded [] = [] := rfl

theorem encoded_append (l m : List Char) : encoded (l ++ m) = encoded l ++ encoded m :=
  List.flatMap_append

theorem length_encoded (cs : List Char) : (encoded cs).length = byteLength cs := by
  induction cs with
  | nil => rfl
  | cons c cs ih =>
      rw [encoded, List.flatMap_cons, List.length_append, String.length_utf8EncodeChar,
        byteLength_cons, ← ih, encoded]

/-- A byte below 128 is all of its character. -/
theorem toNat_eq_of_mem_utf8EncodeChar {c : Char} {b : UInt8} (hb : b ∈ String.utf8EncodeChar c)
    (hlt : b.toNat < 128) : c.toNat = b.toNat := by
  have hbyte : ∀ n, b = UInt8.ofNat n → b.toNat = n % 256 := by
    rintro n rfl
    rw [UInt8.toNat_ofNat']
  change c.val.toNat = b.toNat
  rw [String.utf8EncodeChar] at hb
  split at hb
  next =>
      have := hbyte _ (List.mem_singleton.1 hb)
      omega
  next =>
      -- every byte of a longer character has its highest bit set
      split at hb
      next =>
          simp only [List.mem_cons, List.not_mem_nil, or_false] at hb
          rcases hb with hb | hb <;> have := hbyte _ hb <;> omega
      next =>
          split at hb
          next =>
              simp only [List.mem_cons, List.not_mem_nil, or_false] at hb
              rcases hb with hb | hb | hb <;> have := hbyte _ hb <;> omega
          next =>
              simp only [List.mem_cons, List.not_mem_nil, or_false] at hb
              rcases hb with hb | hb | hb | hb <;> have := hbyte _ hb <;> omega

theorem utf8EncodeChar_ne_nil (c : Char) : String.utf8EncodeChar c ≠ [] := by
  rw [← List.length_pos_iff, String.length_utf8EncodeChar]
  exact c.utf8Size_pos

theorem encoded_singleton (c : Char) : encoded [c] = String.utf8EncodeChar c :=
  List.append_nil _

theorem encoded_eq_nil_iff {cs : List Char} : encoded cs = [] ↔ cs = [] := by
  rw [← List.length_eq_zero_iff, length_encoded, byteLength_eq_zero_iff]

section Ascii

variable {a : Char} {b : UInt8} (hbyte : String.utf8EncodeChar a = [b])
include hbyte

/-- No other character has the byte of a character of one byte. -/
theorem mem_utf8EncodeChar_iff {c : Char} : b ∈ String.utf8EncodeChar c ↔ c = a := by
  have hsize : a.utf8Size = 1 := by
    rw [← String.length_utf8EncodeChar, hbyte, List.length_singleton]
  have hlt : a.toNat < 128 ∧ b.toNat = a.toNat := by
    have hle := UInt32.le_iff_toNat_le.1 (Char.utf8Size_eq_one_iff.1 hsize)
    rw [String.utf8EncodeChar_eq_singleton hsize] at hbyte
    obtain rfl := (List.cons.inj hbyte).1
    have hmod := UInt32.toNat_toUInt8 a.val
    change a.val.toNat ≤ 127 at hle
    change a.val.toNat < 128 ∧ a.val.toUInt8.toNat = a.val.toNat
    omega
  constructor
  · intro h
    exact Char.toNat_inj.1 ((toNat_eq_of_mem_utf8EncodeChar h (hlt.2 ▸ hlt.1)).trans hlt.2)
  · rintro rfl
    rw [hbyte]
    exact List.mem_singleton_self b

theorem mem_encoded_iff {cs : List Char} : b ∈ encoded cs ↔ a ∈ cs := by
  rw [encoded, List.mem_flatMap]
  constructor
  · rintro ⟨c, hc, hb⟩
    exact (mem_utf8EncodeChar_iff hbyte).1 hb ▸ hc
  · intro h
    exact ⟨a, h, (mem_utf8EncodeChar_iff hbyte).2 rfl⟩

theorem head?_encoded_eq_some_iff {cs : List Char} :
    (encoded cs).head? = some b ↔ cs.head? = some a := by
  cases cs with
  | nil => exact iff_of_false nofun nofun
  | cons c cs =>
      rw [encoded, List.flatMap_cons, List.head?_append_of_ne_nil _ (utf8EncodeChar_ne_nil c),
        List.head?_cons, Option.some.injEq]
      constructor
      · intro h
        exact (mem_utf8EncodeChar_iff hbyte).1 (List.mem_of_mem_head? h)
      · rintro rfl
        rw [hbyte, List.head?_cons]

theorem getLast?_encoded_eq_some_iff {cs : List Char} :
    (encoded cs).getLast? = some b ↔ cs.getLast? = some a := by
  rcases List.eq_nil_or_concat cs with rfl | ⟨cs, c, rfl⟩
  · exact iff_of_false nofun nofun
  · rw [List.concat_eq_append, encoded_append, encoded_singleton,
      List.getLast?_append_of_ne_nil _ (utf8EncodeChar_ne_nil c), List.getLast?_concat,
      Option.some.injEq]
    constructor
    · intro h
      exact (mem_utf8EncodeChar_iff hbyte).1 (List.mem_of_getLast? h)
    · rintro rfl
      rw [hbyte, List.getLast?_singleton]

end Ascii

theorem ofNat_lt_ofNat_iff {m n : Nat} (hm : m < 256) (hn : n < 256) :
    UInt8.ofNat m < UInt8.ofNat n ↔ m < n := by
  rw [UInt8.lt_iff_toNat_lt, UInt8.toNat_ofNat', UInt8.toNat_ofNat', Nat.mod_eq_of_lt hm,
    Nat.mod_eq_of_lt hn]

theorem ofNat_eq_ofNat_iff {m n : Nat} (hm : m < 256) (hn : n < 256) :
    UInt8.ofNat m = UInt8.ofNat n ↔ m = n := by
  rw [← UInt8.toNat_inj, UInt8.toNat_ofNat', UInt8.toNat_ofNat', Nat.mod_eq_of_lt hm,
    Nat.mod_eq_of_lt hn]

/-- The bytes of a character sort before those of a later one, whatever follows. -/
theorem utf8EncodeChar_append_lt {c d : Char} (h : c < d) (l m : List UInt8) :
    String.utf8EncodeChar c ++ l < String.utf8EncodeChar d ++ m := by
  have hval : c.val.toNat < d.val.toNat := h
  have hmax : d.val.toNat < 1114112 := by
    rcases d.valid with hvalid | ⟨-, hvalid⟩
    · exact Nat.lt_trans hvalid (by decide)
    · exact hvalid
  rw [String.utf8EncodeChar, String.utf8EncodeChar]
  generalize c.val.toNat = v at hval ⊢
  generalize d.val.toNat = w at hval hmax ⊢
  -- the bytes are digits to the base 64, so the first place where the digits differ decides
  have hdigits : ∀ m n : Nat, m ≤ n → m / 64 < n / 64 ∨ m / 64 = n / 64 ∧ m % 64 ≤ n % 64 := by
    omega
  have hdiv : ∀ n, n / 4096 = n / 64 / 64 ∧ n / 262144 = n / 64 / 64 / 64 := by
    intro n
    omega
  have hlast : v / 64 < w / 64 ∨ v / 64 = w / 64 ∧ v % 64 < w % 64 := by omega
  have hsecond := hdigits (v / 64) (w / 64) (by omega)
  have hfirst := hdigits (v / 64 / 64) (w / 64 / 64) (by omega)
  simp only [hdiv]
  split_ifs <;>
    simp (disch := omega) only [List.cons_append, List.nil_append, List.cons_lt_cons_iff,
      ofNat_lt_ofNat_iff, ofNat_eq_ofNat_iff] <;>
    omega

theorem encoded_lt_encoded {cs ds : List Char} (h : cs < ds) : encoded cs < encoded ds := by
  induction cs generalizing ds with
  | nil =>
      cases ds with
      | nil => exact absurd h (List.lt_irrefl _)
      | cons d ds =>
          obtain ⟨b, bs, hbytes⟩ := List.exists_cons_of_ne_nil (utf8EncodeChar_ne_nil d)
          rw [encoded, encoded, List.flatMap_cons, hbytes]
          exact List.nil_lt_cons b _
  | cons c cs ih =>
      cases ds with
      | nil => exact absurd h (List.not_lt_nil _)
      | cons d ds =>
          rw [encoded, encoded, List.flatMap_cons, List.flatMap_cons]
          rcases List.cons_lt_cons_iff.1 h with hlt | ⟨rfl, hlt⟩
          · exact utf8EncodeChar_append_lt hlt _ _
          · exact List.append_left_lt (ih hlt)

theorem encoded_lt_encoded_iff {cs ds : List Char} : encoded cs < encoded ds ↔ cs < ds :=
  (RelEmbedding.ofMonotone encoded fun _ _ => encoded_lt_encoded).map_rel_iff

end RunMarkers.Text
