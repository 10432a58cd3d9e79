import RunMarkers.Marker.Json
import RunMarkers.Proofs.Json.Records

/-!
# Reading back markers

Markers and gutter entries are read back from their JSON as long as their places are numbers of
the sizes that JSON allows for them. Labels and names may be any texts.
-/

namespace RunMarkers

open Json (RoundTrips IsPlain fieldMembers readRecord_fieldMembers isPlain_fieldMembers isPlain_ofMembers)

namespace Position

/-- Line and character are numbers of 32 bits. -/
def InRange (p : Position) : Prop := p.line < Nat.pow 2 32 ∧ p.character < Nat.pow 2 32

instance (p : Position) : Decidable p.InRange :=
  inferInstanceAs (Decidable (p.line < Nat.pow 2 32 ∧ p.character < Nat.pow 2 32))

theorem inRange_narrowed (p : Position) : p.narrowed.InRange :=
  ⟨Nat.mod_lt _ (by decide), Nat.mod_lt _ (by decide)⟩

theorem isPlain_toJson (p : Position) : p.toJson.IsPlain := by
  refine isPlain_ofMembers fun m hm => ?_
  rcases List.mem_pair.1 hm with rfl | rfl
  · exact .number false p.line
  · exact .number false p.character

theorem roundTrips {p : Position} (hp : p.InRange) : RoundTrips toJson ofJson p := by
  have hline := Json.roundTrips_ofNat hp.1
  have hcharacter := Json.roundTrips_ofNat hp.2
  have hwritten : p.toJson = .ofMembers
      (fieldMembers jsonFields [some (.ofNat p.line), some (.ofNat p.character)]) := rfl
  refine ⟨p.isPlain_toJson, ?_⟩
  rw [ofJson, hwritten,
    readRecord_fieldMembers jsonFields (by decide) (.cons hline.takes (.cons hcharacter.takes .nil))]
  simp only [bind, Except.bind, hline.read_write, hcharacter.read_write]
  rfl

end Position

namespace Span

/-- Both ends are numbers of 64 bits. -/
def InRange (s : Span) : Prop := s.start < Nat.pow 2 64 ∧ s.stop < Nat.pow 2 64

instance (s : Span) : Decidable s.InRange :=
  inferInstanceAs (Decidable (s.start < Nat.pow 2 64 ∧ s.stop < Nat.pow 2 64))

theorem isPlain_toJson (s : Span) : s.toJson.IsPlain := by
  refine isPlain_ofMembers fun m hm => ?_
  rcases List.mem_pair.1 hm with rfl | rfl
  · exact .number false s.start
  · exact .number false s.stop

theorem roundTrips {s : Span} (hs : s.InRange) : RoundTrips toJson ofJson s := by
  have hstart := Json.roundTrips_ofNat hs.1
  have hstop := Json.roundTrips_ofNat hs.2
  have hwritten : s.toJson = .ofMembers
      (fieldMembers jsonFields [some (.ofNat s.start), some (.ofNat s.stop)]) := rfl
  refine ⟨s.isPlain_toJson, ?_⟩
  rw [ofJson, hwritten,
    readRecord_fieldMembers jsonFields (by decide) (.cons hstart.takes (.cons hstop.takes .nil))]
  simp only [bind, Except.bind, hstart.read_write, hstop.read_write]
  rfl

end Span

theorem Section.roundTrips (s : Section) : RoundTrips toJson ofJson s where
  isPlain := .string (some s.word)
  read_write := by cases s <;> rfl

namespace Marker

/-- The place of the marker is in range. -/
def InRange (m : Marker) : Prop := m.span.InRange ∧ m.position.InRange

instance (m : Marker) : Decidable m.InRange :=
  inferInstanceAs (Decidable (m.span.InRange ∧ m.position.InRange))

theorem toJson_eq_fieldMembers (m : Marker) :
    m.toJson = .ofMembers (fieldMembers jsonFields [some m.span.toJson, some m.position.toJson,
      some m.within.toJson, some (.ofString m.label), m.name.map Json.ofString]) := by
  rw [toJson]
  cases m.name <;> rfl

theorem isPlain_toJson (m : Marker) : m.toJson.IsPlain := by
  rw [toJson_eq_fieldMembers]
  refine isPlain_fieldMembers ?_
  simp only [List.mem_cons, List.not_mem_nil, or_false]
  rintro j (⟨⟨⟩⟩ | ⟨⟨⟩⟩ | ⟨⟨⟩⟩ | ⟨⟨⟩⟩ | hj)
  · exact m.span.isPlain_toJson
  · exact m.position.isPlain_toJson
  · exact m.within.roundTrips.isPlain
  · exact .string (some m.label)
  · obtain ⟨name, -, rfl⟩ := Option.map_eq_some_iff.1 hj.symm
    exact .string (some name)

theorem toJson_injective : Function.Injective toJson := by
  rintro ⟨⟨start, stop⟩, ⟨line, character⟩, within, label, name⟩
    ⟨⟨start', stop'⟩, ⟨line', character'⟩, within', label', name'⟩ h
  have hwithin := within.roundTrips.eq_of_write_eq within'.roundTrips
  cases name <;> cases name' <;>
    simp [toJson, Json.ofMembers, Span.toJson, Position.toJson, Json.ofNat, Json.ofString] at h ⊢ <;>
    grind

theorem roundTrips {m : Marker} (hm : m.InRange) : RoundTrips toJson ofJson m := by
  have hspan := Span.roundTrips hm.1
  have hposition := Position.roundTrips hm.2
  have hwithin := Section.roundTrips m.within
  have hlabel := Json.roundTrips_ofString m.label
  have hname := RoundTrips.conveys_optional m.name
    (fun name _ => Json.roundTrips_ofString name) (fun _ _ => nofun) "runnable_name"
  refine ⟨m.isPlain_toJson, ?_⟩
  rw [ofJson, toJson_eq_fieldMembers, readRecord_fieldMembers jsonFields (by decide) (.cons hspan.takes
    (.cons hposition.takes (.cons hwithin.takes (.cons hlabel.takes (.cons hname.takes .nil)))))]
  simp only [bind, Except.bind, hspan.read_write, hposition.read_write, hwithin.read_write,
    hlabel.read_write, hname.fieldOr_eq_ok]
  rfl

end Marker

namespace GutterEntry

/-- The place of the entry is in range. -/
def InRange (e : GutterEntry) : Prop := e.span.InRange ∧ e.position.InRange

instance (e : GutterEntry) : Decidable e.InRange :=
  inferInstanceAs (Decidable (e.span.InRange ∧ e.position.InRange))

theorem toJson_eq_fieldMembers (e : GutterEntry) :
    e.toJson = .ofMembers (fieldMembers jsonFields [some e.span.toJson, some e.position.toJson,
      some (.ofString e.label), some (.array (e.names.map Json.ofOptionString))]) := rfl

theorem isPlain_toJson (e : GutterEntry) : e.toJson.IsPlain := by
  have hnames := RoundTrips.list e.names fun name _ => Json.roundTrips_ofOptionString name
  rw [toJson_eq_fieldMembers]
  refine isPlain_fieldMembers ?_
  simp [e.span.isPlain_toJson, e.position.isPlain_toJson, (Json.roundTrips_ofString e.label).isPlain,
    hnames.isPlain]

theorem roundTrips {e : GutterEntry} (he : e.InRange) : RoundTrips toJson ofJson e := by
  have hspan := Span.roundTrips he.1
  have hposition := Position.roundTrips he.2
  have hlabel := Json.roundTrips_ofString e.label
  have hnames := RoundTrips.list e.names fun name _ => Json.roundTrips_ofOptionString name
  refine ⟨e.isPlain_toJson, ?_⟩
  rw [ofJson, toJson_eq_fieldMembers, readRecord_fieldMembers jsonFields (by decide)
    (.cons hspan.takes (.cons hposition.takes (.cons hlabel.takes (.cons hnames.takes .nil))))]
  simp only [bind, Except.bind, hspan.read_write, hposition.read_write, hlabel.read_write,
    hnames.read_write]
  rfl

end GutterEntry

end RunMarkers
