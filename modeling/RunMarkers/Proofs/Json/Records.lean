import Mathlib.Data.List.Forall2
import Mathlib.Data.List.Nodup
import RunMarkers.Json.Record
import RunMarkers.Proofs.Except
import RunMarkers.Proofs.Json.ReadBack
import RunMarkers.Proofs.Keys

/-!
# Reading back records

`fieldMembers fields values` are the members of an object that has a value for some of the fields, each
under the name of its field. Reading a record from it gives the values again, provided that each
passes the check of its field and no required field is without one (`readRecord_fieldMembers`). A value
`RoundTrips` when reading gives it back from what is written for it, and the text of that can be
read.
-/

namespace RunMarkers

/-- The field may have the value, or do without one. -/
def JsonField.Takes (f : JsonField) : Option Json → Prop
  | some j => f.check j = .ok ()
  | none => f.presence ≠ .required

theorem JsonField.takes_of_eq_ok {α : Type} {name : String} {presence : Presence}
    {read : Json → Except ShapeError α} {j : Json} {a : α} (h : read j = .ok a) :
    (JsonField.of name presence read).Takes (some j) := by
  change (read j).map _ = _
  rw [h]
  rfl

namespace Json

/-- The member of a field that has a value. -/
def memberOf (f : JsonField) (value : Option Json) : List (String × Json) :=
  (value.map fun j => (f.name, j)).toList

/-- The members of the fields that have values. -/
def fieldMembers (fields : List JsonField) (values : List (Option Json)) : List (String × Json) :=
  (List.zipWith memberOf fields values).flatten

section Members

variable {f : JsonField} {fields : List JsonField} {value : Option Json}
  {values : List (Option Json)} {name : String} {members : List (String × Json)}

theorem fieldMembers_cons :
    fieldMembers (f :: fields) (value :: values) = memberOf f value ++ fieldMembers fields values := rfl

@[simp] theorem memberOf_some (f : JsonField) (j : Json) : memberOf f (some j) = [(f.name, j)] :=
  rfl

@[simp] theorem memberOf_map {α : Type} (f : JsonField) (write : α → Json) (o : Option α) :
    memberOf f (o.map write) = (o.map fun a => (f.name, write a)).toList := by
  rw [memberOf, Option.map_map]
  rfl

@[simp] theorem memberOf_ite (f : JsonField) (c : Prop) [Decidable c] (j : Json) :
    memberOf f (if c then none else some j) = if c then [] else [(f.name, j)] := by
  split <;> rfl

theorem mem_fieldMembers {m : String × Json} (hm : m ∈ fieldMembers fields values) :
    m.1 ∈ fields.map JsonField.name ∧ some m.2 ∈ values := by
  induction fields generalizing values with
  | nil => simp [fieldMembers] at hm
  | cons f fields ih =>
      cases values with
      | nil => simp [fieldMembers] at hm
      | cons value values =>
          rcases List.mem_append.1 (fieldMembers_cons ▸ hm) with hm | hm
          · obtain ⟨j, hj, rfl⟩ := Option.map_eq_some_iff.1 (Option.mem_toList.1 hm)
            exact ⟨List.mem_cons_self, hj ▸ List.mem_cons_self⟩
          · exact ⟨List.mem_cons_of_mem _ (ih hm).1, List.mem_cons_of_mem _ (ih hm).2⟩

theorem member?_ofMembers_append (first later : List (String × Json)) :
    (ofMembers (first ++ later)).member? name =
      ((ofMembers later).member? name).or ((ofMembers first).member? name) := by
  simp only [member?, ofMembers, List.map_append, List.reverse_append, List.find?_append]
  cases (later.map fun m => (some m.1, m.2)).reverse.find? fun m => m.1 == some name <;> rfl

theorem member?_ofMembers_eq_none (h : ∀ m ∈ members, m.1 ≠ name) :
    (ofMembers members).member? name = none := by
  simp only [member?, ofMembers, Option.map_eq_none_iff, List.find?_eq_none, List.mem_reverse,
    List.mem_map, forall_exists_index, and_imp]
  rintro _ m hm rfl
  simpa using h m hm

theorem member?_memberOf : (ofMembers (memberOf f value)).member? f.name = value := by
  cases value with
  | none => rfl
  | some j => simp [memberOf, member?, ofMembers]

theorem map_member?_fieldMembers (hnames : (fields.map JsonField.name).Nodup)
    (hlength : fields.length = values.length) :
    fields.map (fun f => (ofMembers (fieldMembers fields values)).member? f.name) = values := by
  induction fields generalizing values with
  | nil => simpa using hlength.symm
  | cons f fields ih =>
      obtain ⟨value, values, rfl⟩ := List.exists_cons_of_length_eq_add_one hlength.symm
      rw [List.map_cons, List.nodup_cons] at hnames
      have hfirst : (ofMembers (fieldMembers fields values)).member? f.name = none := by
        refine member?_ofMembers_eq_none fun m hm h => hnames.1 ?_
        rw [← h]
        exact (mem_fieldMembers hm).1
      have hlater : ∀ g ∈ fields, (ofMembers (memberOf f value)).member? g.name = none := by
        intro g hg
        refine member?_ofMembers_eq_none fun m hm h => hnames.1 ?_
        obtain ⟨j, -, rfl⟩ := Option.map_eq_some_iff.1 (Option.mem_toList.1 hm)
        exact List.mem_map.2 ⟨g, hg, h.symm⟩
      rw [List.map_cons, fieldMembers_cons, member?_ofMembers_append, hfirst, member?_memberOf,
        Option.none_or]
      congr 1
      refine (List.map_congr_left fun g hg => ?_).trans (ih hnames.2 (Nat.succ.inj hlength))
      rw [member?_ofMembers_append, hlater g hg, Option.or_none]

theorem checkMembers_fieldMembers {all : List JsonField} (hall : (all.map JsonField.name).Nodup)
    (hvalues : List.Forall₂ JsonField.Takes fields values)
    (hnames : (fields.map JsonField.name).Nodup) (hsub : ∀ f ∈ fields, f ∈ all)
    {seen : List String} (hseen : ∀ f ∈ fields, f.name ∉ seen) :
    checkMembers all seen ((fieldMembers fields values).map fun m => (some m.1, m.2)) = .ok () := by
  induction hvalues generalizing seen with
  | nil => rfl
  | @cons f value fields values hfirst hlater ih =>
      rw [List.map_cons, List.nodup_cons] at hnames
      have hsub' := fun g hg => hsub g (List.mem_cons_of_mem f hg)
      rw [fieldMembers_cons]
      cases value with
      | none => exact ih hnames.2 hsub' fun g hg => hseen g (List.mem_cons_of_mem f hg)
      | some j =>
          change checkMembers all seen ((some f.name, j) :: _) = _
          rw [checkMembers, (find?_key_eq_some_iff hall).2 ⟨hsub f List.mem_cons_self, rfl⟩]
          have hcheck : f.check j = .ok () := hfirst
          simp only [hcheck, List.contains_iff_mem, if_neg (hseen f List.mem_cons_self)]
          refine ih hnames.2 hsub' fun g hg => ?_
          rw [List.mem_cons, not_or]
          refine ⟨fun h => hnames.1 (h ▸ List.mem_map_of_mem hg), ?_⟩
          exact hseen g (List.mem_cons_of_mem f hg)

theorem readRecord_ofMembers
    (hcheck : checkMembers fields [] (members.map fun m => (some m.1, m.2)) = .ok ())
    (hpresent : ∀ f ∈ fields, f.presence = .required →
      (ofMembers members).member? f.name ≠ none) :
    readRecord fields (ofMembers members) =
      .ok (fields.map fun f => (ofMembers members).member? f.name) := by
  have hmissing : (fields.map fun f => (f.presence, (ofMembers members).member? f.name)).any
      (fun v => decide (v.1 = .required ∧ v.2.isNone = true)) = false := by
    rw [List.any_eq_false]
    intro v hv hmissing
    obtain ⟨f, hf, rfl⟩ := List.mem_map.1 hv
    obtain ⟨hrequired, hnone⟩ := of_decide_eq_true hmissing
    exact hpresent f hf hrequired (Option.isNone_iff_eq_none.1 hnone)
  rw [ofMembers] at hmissing ⊢
  rw [readRecord, hcheck]
  simp only [bind, Except.bind, hmissing, Bool.false_eq_true, if_false, List.map_map]
  rfl

/-- A record is read back from the object that has its values. -/
theorem readRecord_fieldMembers (fields : List JsonField) (hnames : (fields.map JsonField.name).Nodup)
    (hvalues : List.Forall₂ JsonField.Takes fields values) :
    readRecord fields (ofMembers (fieldMembers fields values)) = .ok values := by
  have hread := map_member?_fieldMembers hnames hvalues.length_eq
  have htakes : List.Forall₂ JsonField.Takes fields
      (fields.map fun f => (ofMembers (fieldMembers fields values)).member? f.name) := by
    rw [hread]
    exact hvalues
  rw [List.forall₂_map_right_iff, List.forall₂_same] at htakes
  refine (readRecord_ofMembers ?_ ?_).trans (congrArg Except.ok hread)
  · exact checkMembers_fieldMembers hnames hvalues hnames (fun _ hf => hf)
      (fun _ _ => List.not_mem_nil)
  · intro f hf hrequired hnone
    have hf := htakes f hf
    rw [hnone] at hf
    exact hf hrequired

theorem isPlain_ofMembers (h : ∀ m ∈ members, m.2.IsPlain) : (ofMembers members).IsPlain := by
  refine .object fun _ hmember => ?_
  obtain ⟨m, hm, rfl⟩ := List.mem_map.1 hmember
  exact h m hm

theorem isPlain_fieldMembers (h : ∀ j, some j ∈ values → j.IsPlain) :
    (ofMembers (fieldMembers fields values)).IsPlain :=
  isPlain_ofMembers fun m hm => h m.2 (mem_fieldMembers hm).2

end Members

/-! ## Values -/

/-- Reading gives the value back from what is written for it. -/
structure RoundTrips {α : Type} (write : α → Json) (read : Json → Except ShapeError α) (a : α) :
    Prop where
  isPlain : (write a).IsPlain
  read_write : read (write a) = .ok a

/-- A field conveys a value by what is written for it, which may be nothing. -/
structure Conveys {α : Type} (f : JsonField) (read : Json → Except ShapeError α) (default : α)
    (written : Option Json) (a : α) : Prop where
  takes : f.Takes written
  isPlain : ∀ j, some j = written → j.IsPlain
  fieldOr_eq_ok : fieldOr read default written = .ok a

section Values

variable {α : Type} {write : α → Json} {read : Json → Except ShapeError α} {a : α}

theorem RoundTrips.takes (h : RoundTrips write read a) {name : String} {presence : Presence} :
    (JsonField.of name presence read).Takes (some (write a)) :=
  JsonField.takes_of_eq_ok h.read_write

/-- A value that round trips is read back from its text. -/
theorem RoundTrips.map_read?_pretty (h : RoundTrips write read a) :
    (read? (write a).pretty).map read = some (.ok a) := by
  rw [read?_pretty h.isPlain, Option.map_some, h.read_write]

/-- Values that are read back are told apart by what is written for them. -/
theorem RoundTrips.eq_of_write_eq {b : α} (ha : RoundTrips write read a)
    (hb : RoundTrips write read b) (h : write a = write b) : a = b := by
  have hread := ha.read_write
  rw [h, hb.read_write] at hread
  exact (Except.ok.inj hread).symm

theorem roundTrips_ofString (s : String) : RoundTrips ofString asString s where
  isPlain := .string (some s)
  read_write := rfl

theorem roundTrips_ofNat {bits n : Nat} (h : n < Nat.pow 2 bits) :
    RoundTrips ofNat (asNat bits) n where
  isPlain := .number false n
  read_write := if_pos h

theorem roundTrips_ofOptionString (o : Option String) :
    RoundTrips ofOptionString (asOptional asString) o := by
  cases o with
  | none => exact ⟨.null, rfl⟩
  | some s => exact ⟨.string (some s), rfl⟩

theorem RoundTrips.list (as : List α) (h : ∀ a ∈ as, RoundTrips write read a) :
    RoundTrips (fun as => .array (as.map write)) (asList read) as where
  isPlain := by
    refine .array fun j hj => ?_
    obtain ⟨a, ha, rfl⟩ := List.mem_map.1 hj
    exact (h a ha).isPlain
  read_write := by
    rw [asList, mapM_eq_ok_iff, List.forall₂_map_left_iff, List.forall₂_same]
    exact fun a ha => (h a ha).read_write

theorem asOptional_of_ne_null {j : Json} (hnull : j ≠ .null) :
    asOptional read j = (read j).map some := by
  cases j with
  | null => exact absurd rfl hnull
  | _ => rfl

/-- A value that a field may be without is left out, or is no `null`. -/
theorem RoundTrips.conveys_optional (o : Option α) (h : ∀ a ∈ o, RoundTrips write read a)
    (hnull : ∀ a ∈ o, write a ≠ .null) (name : String) :
    Conveys (.of name .optional (asOptional read)) (asOptional read) none (o.map write) o := by
  cases o with
  | none => exact ⟨nofun, nofun, rfl⟩
  | some a =>
      have hread : asOptional read (write a) = .ok (some a) := by
        rw [asOptional_of_ne_null (hnull a rfl), (h a rfl).read_write]
        rfl
      refine ⟨JsonField.takes_of_eq_ok hread, ?_, hread⟩
      rintro _ ⟨⟩
      exact (h a rfl).isPlain

/-- A value that is left out if it is the default. -/
theorem RoundTrips.conveys_defaulted (h : RoundTrips write read a) {default : α} {c : Prop}
    [Decidable c] (hc : c → a = default) (name : String) :
    Conveys (.of name .defaulted read) read default (if c then none else some (write a)) a := by
  split
  next hleft => exact ⟨nofun, nofun, congrArg Except.ok (hc hleft).symm⟩
  next =>
    refine ⟨h.takes, ?_, h.read_write⟩
    rintro _ ⟨⟩
    exact h.isPlain

end Values

end Json

end RunMarkers
