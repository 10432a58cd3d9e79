import RunMarkers.Proofs.Json.Tokens

/-!
# Reading back values

Every value whose numbers are integers is read back from its text, in either layout. The induction
is on the value; what stands after it must not continue a number, which holds at the end of the
text and before the comma, the bracket or the white space of the container.
-/

namespace RunMarkers

/-- The layout adds nothing but white space. -/
structure JsonLayout.IsSpacing (layout : JsonLayout) : Prop where
  lineBreak : ∀ depth, ∀ c ∈ layout.lineBreak depth, Json.isSpace c = true
  separator : ∃ space, layout.separator = ':' :: space ∧ ∀ c ∈ space, Json.isSpace c = true

theorem JsonLayout.isSpacing_indented : indented.IsSpacing where
  lineBreak := by
    intro depth c hc
    rcases List.mem_cons.1 hc with rfl | hc
    · rfl
    · rw [List.eq_of_mem_replicate hc]
      rfl
  separator := by
    refine ⟨[' '], rfl, ?_⟩
    intro c hc
    rw [List.mem_singleton.1 hc]
    rfl

theorem JsonLayout.isSpacing_compact : compact.IsSpacing where
  lineBreak _ _ hc := absurd hc List.not_mem_nil
  separator := ⟨[], rfl, fun _ hc => absurd hc List.not_mem_nil⟩

namespace Json

/-- Every number in the value is an integer. -/
inductive IsPlain : Json → Prop where
  | null : IsPlain .null
  | bool (b : Bool) : IsPlain (.bool b)
  | number (negative : Bool) (n : Nat) : IsPlain (.number ⟨negative, n, []⟩)
  | string (s : Option String) : IsPlain (.string s)
  | array {items : List Json} (h : ∀ j ∈ items, IsPlain j) : IsPlain (.array items)
  | object {members : List (Option String × Json)} (h : ∀ m ∈ members, IsPlain m.2) :
      IsPlain (.object members)

/-- The text of a value starts with a character that is neither white space nor the bracket that
closes an array. -/
def StartsValue (cs : List Char) : Prop := ∃ c rest, cs = c :: rest ∧ isSpace c = false ∧ c ≠ ']'

theorem IsPlain.startsValue {j : Json} (hj : j.IsPlain) (layout : JsonLayout) (depth : Nat) :
    StartsValue (j.chars layout depth) := by
  cases hj with
  | null => exact ⟨_, _, rfl, rfl, by decide⟩
  | bool b => cases b <;> exact ⟨_, _, rfl, rfl, by decide⟩
  | number negative n =>
      obtain ⟨c, cs, hcs, hc⟩ := exists_numberChars_eq_cons negative n
      exact ⟨c, cs, hcs, hc.isSpace, hc.ne (by decide)⟩
  | string s =>
      obtain ⟨body, hbody, -⟩ := exists_stringChars_eq_cons s
      exact ⟨_, _, hbody, rfl, by decide⟩
  | @array items _ => cases items <;> exact ⟨_, _, rfl, rfl, by decide⟩
  | @object members _ => cases members <;> exact ⟨_, _, rfl, rfl, by decide⟩

variable {layout : JsonLayout}

/-- Space before a value counts for nothing. -/
theorem value?_append {space : List Char} (hspace : ∀ c ∈ space, isSpace c = true) (fuel : Nat)
    (cs : List Char) : value? fuel (space ++ cs) = value? fuel cs := by
  cases fuel with
  | zero => rfl
  | succ fuel => rw [value?, value?, skipSpace_append hspace]

theorem items?_append {space : List Char} (hspace : ∀ c ∈ space, isSpace c = true) (fuel : Nat)
    (cs : List Char) : items? fuel (space ++ cs) = items? fuel cs := by
  cases fuel with
  | zero => rfl
  | succ fuel => rw [items?, items?, value?_append hspace]

theorem members?_append {space : List Char} (hspace : ∀ c ∈ space, isSpace c = true) (fuel : Nat)
    (cs : List Char) : members? fuel (space ++ cs) = members? fuel cs := by
  cases fuel with
  | zero => rfl
  | succ fuel => rw [members?, members?, skipSpace_append hspace]

/-- The value is read back from its text. Two steps for each character are enough. -/
def ReadsBack (layout : JsonLayout) (j : Json) : Prop :=
  ∀ depth fuel rest, 2 * (j.chars layout depth).length ≤ fuel → EndsNumber rest →
    value? fuel (j.chars layout depth ++ rest) = some (j, rest)

theorem value?_of_startsNumber {c : Char} (hc : StartsNumber c) (fuel : Nat) (cs : List Char) :
    value? (fuel + 1) (c :: cs) =
      (number? (c :: cs)).map fun found => (.number found.1, found.2) := by
  rw [value?, skipSpace_cons hc.isSpace]
  split
  case h_1 h => exact absurd (List.cons.inj h).1 (hc.ne (by decide))
  case h_2 h => exact absurd (List.cons.inj h).1 (hc.ne (by decide))
  case h_3 h => exact absurd (List.cons.inj h).1 (hc.ne (by decide))
  case h_4 h => exact absurd (List.cons.inj h).1 (hc.ne (by decide))
  case h_5 h => exact absurd (List.cons.inj h).1 (hc.ne (by decide))
  case h_6 h => exact absurd (List.cons.inj h).1 (hc.ne (by decide))
  case h_7 => rfl

theorem readsBack_number (negative : Bool) (n : Nat) :
    ReadsBack layout (.number ⟨negative, n, []⟩) := by
  intro depth fuel rest hfuel hrest
  obtain ⟨c, cs, hcs, hc⟩ := exists_numberChars_eq_cons negative n
  have hread := number?_numberChars negative n hrest
  rw [chars] at hfuel ⊢
  rw [hcs] at hfuel hread ⊢
  obtain ⟨fuel, rfl⟩ := Nat.exists_eq_succ_of_ne_zero (n := fuel) (by simp at hfuel; omega)
  rw [List.cons_append] at hread ⊢
  rw [value?_of_startsNumber hc, hread, Option.map_some]

theorem readsBack_string (s : Option String) : ReadsBack layout (.string s) := by
  intro depth fuel rest hfuel _
  obtain ⟨body, hbody, hread⟩ := exists_stringChars_eq_cons s
  rw [chars, hbody] at hfuel ⊢
  obtain ⟨fuel, rfl⟩ := Nat.exists_eq_succ_of_ne_zero (n := fuel) (by simp at hfuel; omega)
  rw [List.cons_append, value?, skipSpace_cons (by decide)]
  simp only [hread, Option.map_some]

theorem readsBack_word {j : Json} {word : List Char} (hword : ∀ depth, j.chars layout depth = word)
    (hread : ∀ fuel rest, value? (fuel + 1) (word ++ rest) = some (j, rest)) (hne : word ≠ []) :
    ReadsBack layout j := by
  intro depth fuel rest hfuel _
  rw [hword] at hfuel ⊢
  have hlength := List.length_pos_iff.2 hne
  obtain ⟨fuel, rfl⟩ := Nat.exists_eq_succ_of_ne_zero (n := fuel) (by omega)
  exact hread fuel rest

/-- What follows an item of a container is no part of a number. -/
theorem endsNumber_append {space : List Char} (hspace : ∀ c ∈ space, isSpace c = true)
    {rest : List Char} (hrest : EndsNumber rest) : EndsNumber (space ++ rest) := by
  cases space with
  | nil => exact hrest
  | cons c cs =>
      refine endsNumber_cons ?_ _
      have hc := hspace c List.mem_cons_self
      simp only [isSpace, Bool.or_eq_true, beq_iff_eq] at hc
      rcases hc with ((rfl | rfl) | rfl) | rfl <;> simp

/-- Items are read back up to the bracket, which may have space before it. -/
theorem items?_chars (hlayout : layout.IsSpacing) (depth : Nat) {item : Json} {items : List Json}
    (hitem : ReadsBack layout item) (hitems : ∀ j ∈ items, ReadsBack layout j)
    {space : List Char} (hspace : ∀ c ∈ space, isSpace c = true) {fuel : Nat} (rest : List Char)
    (hfuel : 2 * (item.chars layout depth ++ itemChars layout depth items).length < fuel) :
    items? fuel (item.chars layout depth ++ (itemChars layout depth items
      ++ (space ++ ']' :: rest))) = some (item :: items, rest) := by
  induction items generalizing item fuel with
  | nil =>
      obtain ⟨fuel, rfl⟩ := Nat.exists_eq_succ_of_ne_zero (n := fuel) (by omega)
      rw [itemChars, List.append_nil] at hfuel
      have hend : EndsNumber (space ++ ']' :: rest) :=
        endsNumber_append hspace (endsNumber_cons (by decide) rest)
      rw [items?, itemChars, List.nil_append, hitem depth fuel _ (by omega) hend]
      simp only [Option.bind_eq_bind, Option.bind_some, skipSpace_append hspace,
        skipSpace_cons (c := ']') (by decide)]
  | cons next items ih =>
      obtain ⟨fuel, rfl⟩ := Nat.exists_eq_succ_of_ne_zero (n := fuel) (by omega)
      rw [itemChars] at hfuel ⊢
      simp only [List.length_append, List.length_cons] at hfuel
      have hend := endsNumber_cons (c := ',') (by decide) (layout.lineBreak depth
        ++ next.chars layout depth ++ itemChars layout depth items ++ (space ++ ']' :: rest))
      rw [items?, List.cons_append, hitem depth fuel _ (by omega) hend]
      have hlength : 2 * (next.chars layout depth ++ itemChars layout depth items).length < fuel := by
        rw [List.length_append]
        omega
      have hlater := ih (hitems next List.mem_cons_self)
        (fun j hj => hitems j (List.mem_cons_of_mem next hj)) hlength
      simp only [Option.bind_eq_bind, Option.bind_some, skipSpace_cons (c := ',') (by decide),
        List.append_assoc, items?_append (hlayout.lineBreak depth), hlater, Option.map_some]

theorem readsBack_array (hlayout : layout.IsSpacing) {items : List Json}
    (hplain : ∀ j ∈ items, IsPlain j) (hitems : ∀ j ∈ items, ReadsBack layout j) :
    ReadsBack layout (.array items) := by
  cases items with
  | nil => exact readsBack_word (fun _ => rfl) (fun _ _ => rfl) (List.cons_ne_nil _ _)
  | cons item items =>
      intro depth fuel rest hfuel _
      rw [chars] at hfuel ⊢
      simp only [List.length_append, List.length_cons] at hfuel
      obtain ⟨fuel, rfl⟩ := Nat.exists_eq_succ_of_ne_zero (n := fuel) (by omega)
      have hlength : 2 * (item.chars layout (depth + 1)
          ++ itemChars layout (depth + 1) items).length < fuel := by
        rw [List.length_append]
        omega
      have hread := items?_chars hlayout (depth + 1) (hitems item List.mem_cons_self)
        (fun j hj => hitems j (List.mem_cons_of_mem item hj)) (hlayout.lineBreak depth) rest hlength
      obtain ⟨c, cs, hcs, hspace, hbracket⟩ :=
        (hplain item List.mem_cons_self).startsValue layout (depth + 1)
      rw [hcs] at hread ⊢
      simp only [List.cons_append, List.append_assoc, List.nil_append] at hread ⊢
      rw [value?, skipSpace_cons (by decide)]
      simp only [skipSpace_append (hlayout.lineBreak (depth + 1)), skipSpace_cons hspace]
      split
      next h => exact absurd (List.cons.inj h).1 hbracket
      next => rw [hread, Option.map_some]

/-- Members are read back up to the brace, which may have space before it. -/
theorem members?_chars (hlayout : layout.IsSpacing) (depth : Nat) (name : Option String)
    {value : Json} {members : List (Option String × Json)} (hvalue : ReadsBack layout value)
    (hmembers : ∀ m ∈ members, ReadsBack layout m.2) {space : List Char}
    (hspace : ∀ c ∈ space, isSpace c = true) {fuel : Nat} (rest : List Char)
    (hfuel : 2 * (value.chars layout depth ++ memberChars layout depth members).length < fuel) :
    members? fuel (stringChars name ++ (layout.separator ++ (value.chars layout depth
      ++ (memberChars layout depth members ++ (space ++ '\x7d' :: rest))))) =
        some ((name, value) :: members, rest) := by
  obtain ⟨gap, hseparator, hgap⟩ := hlayout.separator
  induction members generalizing name value fuel with
  | nil =>
      obtain ⟨fuel, rfl⟩ := Nat.exists_eq_succ_of_ne_zero (n := fuel) (by omega)
      rw [memberChars, List.append_nil] at hfuel
      obtain ⟨body, hbody, hname⟩ := exists_stringChars_eq_cons name
      have hend : EndsNumber (space ++ '\x7d' :: rest) :=
        endsNumber_append hspace (endsNumber_cons (by decide) rest)
      have hread := hvalue depth fuel _ (by omega) hend
      rw [members?, hbody, hseparator, memberChars, List.cons_append, List.nil_append]
      simp only [skipSpace_cons (c := '"') (by decide), hname, Option.bind_eq_bind,
        Option.bind_some, List.cons_append, skipSpace_cons (c := ':') (by decide),
        value?_append hgap, hread, skipSpace_append hspace,
        skipSpace_cons (c := '\x7d') (by decide)]
  | cons next members ih =>
      obtain ⟨fuel, rfl⟩ := Nat.exists_eq_succ_of_ne_zero (n := fuel) (by omega)
      obtain ⟨body, hbody, hname⟩ := exists_stringChars_eq_cons name
      rw [memberChars] at hfuel ⊢
      simp only [List.length_append, List.length_cons] at hfuel
      have hend := endsNumber_cons (c := ',') (by decide) (layout.lineBreak depth
        ++ stringChars next.1 ++ layout.separator ++ next.2.chars layout depth
        ++ memberChars layout depth members ++ (space ++ '\x7d' :: rest))
      have hread := hvalue depth fuel _ (by omega) hend
      have hlength : 2 * (next.2.chars layout depth
          ++ memberChars layout depth members).length < fuel := by
        rw [List.length_append]
        omega
      have hlater := ih next.1 (hmembers next List.mem_cons_self)
        (fun m hm => hmembers m (List.mem_cons_of_mem next hm)) hlength
      rw [List.cons_append, members?, hbody, hseparator]
      simp only [hseparator, List.cons_append, List.append_assoc] at hread hlater ⊢
      simp only [skipSpace_cons (c := '"') (by decide), hname, Option.bind_eq_bind,
        Option.bind_some, skipSpace_cons (c := ':') (by decide), value?_append hgap, hread,
        skipSpace_cons (c := ',') (by decide), members?_append (hlayout.lineBreak depth), hlater,
        Option.map_some]

theorem readsBack_object (hlayout : layout.IsSpacing) {members : List (Option String × Json)}
    (hmembers : ∀ m ∈ members, ReadsBack layout m.2) : ReadsBack layout (.object members) := by
  cases members with
  | nil => exact readsBack_word (fun _ => rfl) (fun _ _ => rfl) (List.cons_ne_nil _ _)
  | cons member members =>
      intro depth fuel rest hfuel _
      rw [chars] at hfuel ⊢
      simp only [List.length_append, List.length_cons] at hfuel
      obtain ⟨fuel, rfl⟩ := Nat.exists_eq_succ_of_ne_zero (n := fuel) (by omega)
      have hlength : 2 * (member.2.chars layout (depth + 1)
          ++ memberChars layout (depth + 1) members).length < fuel := by
        rw [List.length_append]
        omega
      have hread := members?_chars hlayout (depth + 1) member.1 (hmembers member List.mem_cons_self)
        (fun m hm => hmembers m (List.mem_cons_of_mem member hm)) (hlayout.lineBreak depth) rest
        hlength
      obtain ⟨body, hbody, -⟩ := exists_stringChars_eq_cons member.1
      rw [hbody] at hread ⊢
      simp only [List.cons_append, List.append_assoc, List.nil_append] at hread ⊢
      rw [value?, skipSpace_cons (by decide)]
      simp only [skipSpace_append (hlayout.lineBreak (depth + 1)),
        skipSpace_cons (c := '"') (by decide)]
      split
      next h => exact absurd (List.cons.inj h).1 (by decide)
      next => rw [hread, Option.map_some]

theorem IsPlain.readsBack (hlayout : layout.IsSpacing) {j : Json} (hj : j.IsPlain) :
    ReadsBack layout j := by
  induction hj with
  | null => exact readsBack_word (fun _ => rfl) (fun _ _ => rfl) (List.cons_ne_nil _ _)
  | bool b =>
      cases b with
      | true => exact readsBack_word (fun _ => rfl) (fun _ _ => rfl) (List.cons_ne_nil _ _)
      | false => exact readsBack_word (fun _ => rfl) (fun _ _ => rfl) (List.cons_ne_nil _ _)
  | number negative n => exact readsBack_number negative n
  | string s => exact readsBack_string s
  | array h ih => exact readsBack_array hlayout h ih
  | object h ih => exact readsBack_object hlayout ih

/-- A value is read back, and space behind it counts for nothing. -/
theorem readChars?_chars_append (hlayout : layout.IsSpacing) {j : Json} (hj : j.IsPlain)
    {space : List Char} (hspace : ∀ c ∈ space, isSpace c = true) :
    readChars? (j.chars layout 0 ++ space) = some j := by
  have hends : EndsNumber (space ++ []) := endsNumber_append hspace endsNumber_nil
  have hskip : skipSpace (space ++ []) = skipSpace [] := skipSpace_append hspace []
  rw [List.append_nil] at hends hskip
  have hfuel : 2 * (j.chars layout 0).length ≤ 2 * (j.chars layout 0 ++ space).length + 2 := by
    rw [List.length_append]
    omega
  rw [readChars?, hj.readsBack hlayout 0 _ space hfuel hends]
  simp only [hskip]
  rfl

theorem readChars?_chars (hlayout : layout.IsSpacing) {j : Json} (hj : j.IsPlain) :
    readChars? (j.chars layout 0) = some j := by
  have hread : readChars? (j.chars layout 0 ++ []) = some j :=
    readChars?_chars_append hlayout hj fun _ hc => absurd hc List.not_mem_nil
  rwa [List.append_nil] at hread

/-- A value is what its indented text spells. -/
theorem read?_pretty {j : Json} (hj : j.IsPlain) : read? j.pretty = some j := by
  rw [read?, pretty, String.toList_ofList]
  exact readChars?_chars JsonLayout.isSpacing_indented hj

/-- A value is what its text on one line spells. -/
theorem read?_compress {j : Json} (hj : j.IsPlain) : read? j.compress = some j := by
  rw [read?, compress, String.toList_ofList]
  exact readChars?_chars JsonLayout.isSpacing_compact hj

/-- The line that a value is printed on spells it too. -/
theorem read?_pretty_lineFeed {j : Json} (hj : j.IsPlain) : read? (j.pretty ++ "\n") = some j := by
  rw [read?, pretty, String.toList_append, String.toList_ofList]
  refine readChars?_chars_append JsonLayout.isSpacing_indented hj ?_
  intro c hc
  obtain rfl := List.mem_singleton.1 hc
  rfl

/-- The text of a value does not end in white space. -/
theorem IsPlain.isSpace_getLast? {j : Json} (hj : j.IsPlain) (layout : JsonLayout) (depth : Nat) :
    ∀ c ∈ (j.chars layout depth).getLast?, isSpace c = false := by
  have hlast : ∀ (first : Char) (body : List Char) (last : Char), isSpace last = false →
      ∀ c ∈ (first :: (body ++ [last])).getLast?, isSpace c = false := by
    intro first body last hlast c hc
    rw [← List.cons_append, List.getLast?_concat] at hc
    exact Option.some.inj hc ▸ hlast
  cases hj with
  | null => exact hlast 'n' ['u', 'l'] 'l' rfl
  | bool b =>
      cases b with
      | true => exact hlast 't' ['r', 'u'] 'e' rfl
      | false => exact hlast 'f' ['a', 'l', 's'] 'e' rfl
  | number negative n =>
      intro c hc
      have hc := List.mem_of_getLast? hc
      rw [chars, numberChars, List.append_nil, List.mem_append] at hc
      rcases hc with hc | hc
      · cases negative with
        | true => exact List.mem_singleton.1 hc ▸ rfl
        | false => exact absurd hc List.not_mem_nil
      · exact StartsNumber.isSpace (.inr (Nat.isDigit_of_mem_toDigits (by decide) (by decide) hc))
  | string s =>
      cases s with
      | none => exact hlast '"' ['\\', 'u', 'd', '8', '0', '0'] '"' rfl
      | some text => exact hlast '"' (text.toList.flatMap escapeChar) '"' rfl
  | @array items _ =>
      cases items with
      | nil => exact hlast '[' [] ']' rfl
      | cons item items => exact hlast '[' _ ']' rfl
  | @object members _ =>
      cases members with
      | nil => exact hlast '\x7b' [] '\x7d' rfl
      | cons member members => exact hlast '\x7b' _ '\x7d' rfl

end Json

end RunMarkers
