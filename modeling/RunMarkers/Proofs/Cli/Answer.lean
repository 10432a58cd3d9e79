import RunMarkers.Proofs.Cli.OwnedLine
import RunMarkers.Proofs.Command.Json

/-!
# Answers as JSON

An answer is what a request for JSON is about: markers, the owner of a line, gutter entries, the
reports on a directory or a command. Each is read back from its JSON as what it was written from, as
long as its places are in range.
-/

namespace RunMarkers.Cli

open Json (RoundTrips fieldMembers readRecord_fieldMembers isPlain_fieldMembers)

namespace Analyze.SuiteReport

/-- The fields of the report on a suite. -/
def jsonFields : List JsonField :=
  [.of "path" .required Path.ofJson, .of "markers" .required (Json.asList Marker.ofJson)]

/-- The report that a JSON value describes. -/
def ofJson (j : Json) : Except ShapeError SuiteReport := do
  match ← j.readRecord jsonFields with
  | [some path, some markers] =>
    return ⟨← Path.ofJson path, ← markers.asList Marker.ofJson⟩
  | _ => throw .malformed

theorem toJson_eq_fieldMembers (r : SuiteReport) :
    r.toJson = .ofMembers (fieldMembers jsonFields
      [some r.path.toJson, some (.array (r.markers.map Marker.toJson))]) := rfl

theorem isPlain_toJson (r : SuiteReport) : r.toJson.IsPlain := by
  rw [toJson_eq_fieldMembers]
  refine isPlain_fieldMembers fun j hj => ?_
  rcases List.mem_pair.1 hj with hj | hj
  · exact Option.some.inj hj ▸ (Path.roundTrips r.path).isPlain
  · obtain rfl := Option.some.inj hj
    refine .array fun j hj => ?_
    obtain ⟨m, -, rfl⟩ := List.mem_map.1 hj
    exact m.isPlain_toJson

theorem roundTrips {r : SuiteReport} (hr : ∀ m ∈ r.markers, m.InRange) :
    RoundTrips toJson ofJson r := by
  have hpath := Path.roundTrips r.path
  have hmarkers := RoundTrips.list r.markers fun m hm => Marker.roundTrips (hr m hm)
  refine ⟨r.isPlain_toJson, ?_⟩
  rw [ofJson, toJson_eq_fieldMembers, readRecord_fieldMembers jsonFields (by decide)
    (.cons hpath.takes (.cons hmarkers.takes .nil))]
  simp only [bind, Except.bind, hpath.read_write, hmarkers.read_write]
  rfl

end Analyze.SuiteReport

open Analyze (SuiteReport)

/-- What a request for JSON is answered with. -/
inductive Answer where
  /-- All markers of a file. -/
  | markers (ms : List Marker)
  /-- The marker that owns a line, if there is one. -/
  | owner (m : Option Marker)
  | entries (es : List GutterEntry)
  | reports (rs : List SuiteReport)
  | command (c : Command)

namespace Answer

/-- An answer as JSON. -/
def toJson : Answer → Json
  | markers ms => Marker.listToJson ms
  | owner m => ownerToJson m
  | entries es => GutterEntry.listToJson es
  | reports rs => .array (rs.map SuiteReport.toJson)
  | command c => c.toJson

/-- The JSON value is read as the answer. -/
def IsReadFrom (j : Json) : Answer → Prop
  | markers ms => j.asList Marker.ofJson = .ok ms
  | owner m => j.asOptional Marker.ofJson = .ok m
  | entries es => j.asList GutterEntry.ofJson = .ok es
  | reports rs => j.asList SuiteReport.ofJson = .ok rs
  | command c => Command.ofJson j = .ok c

/-- The places of the answer are in range. -/
def InRange : Answer → Prop
  | markers ms => ∀ m ∈ ms, m.InRange
  | owner m => ∀ n ∈ m, n.InRange
  | entries es => ∀ e ∈ es, e.InRange
  | reports rs => ∀ r ∈ rs, ∀ m ∈ r.markers, m.InRange
  | command _ => True

theorem isPlain_toJson (a : Answer) : a.toJson.IsPlain := by
  cases a with
  | markers ms =>
      refine .array fun j hj => ?_
      obtain ⟨m, -, rfl⟩ := List.mem_map.1 hj
      exact m.isPlain_toJson
  | owner m =>
      cases m with
      | none => exact .null
      | some m => exact m.isPlain_toJson
  | entries es =>
      refine .array fun j hj => ?_
      obtain ⟨e, -, rfl⟩ := List.mem_map.1 hj
      exact e.isPlain_toJson
  | reports rs =>
      refine .array fun j hj => ?_
      obtain ⟨r, -, rfl⟩ := List.mem_map.1 hj
      exact r.isPlain_toJson
  | command c => exact c.roundTrips.isPlain

/-- An answer in range is read back from its JSON. -/
theorem isReadFrom_toJson {a : Answer} (ha : a.InRange) : a.IsReadFrom a.toJson := by
  cases a with
  | markers ms => exact (RoundTrips.list ms fun m hm => Marker.roundTrips (ha m hm)).read_write
  | owner m =>
      cases m with
      | none => rfl
      | some m =>
          have hread := (Marker.roundTrips (ha m rfl)).read_write
          rw [IsReadFrom, toJson, ownerToJson, Json.asOptional_of_ne_null Json.noConfusion, hread]
          rfl
  | entries es => exact (RoundTrips.list es fun e he => GutterEntry.roundTrips (ha e he)).read_write
  | reports rs => exact (RoundTrips.list rs fun r hr => SuiteReport.roundTrips (ha r hr)).read_write
  | command c => exact c.roundTrips.read_write

end Answer

end RunMarkers.Cli
