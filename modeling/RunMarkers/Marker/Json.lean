import RunMarkers.Json.Words
import RunMarkers.Marker.Gutter

/-!
# Markers as JSON

Places, markers and gutter entries are records. Lines and characters are numbers of 32 bits, offsets
of 64. The name of a marker is left out when it has none.
-/

namespace RunMarkers

namespace Position

/-- A position as JSON. -/
def toJson (p : Position) : Json :=
  .ofMembers [("line", .ofNat p.line), ("character", .ofNat p.character)]

/-- The fields of a position. -/
def jsonFields : List JsonField :=
  [.of "line" .required (Json.asNat 32), .of "character" .required (Json.asNat 32)]

/-- The position that a JSON value describes. -/
def ofJson (j : Json) : Except ShapeError Position := do
  match ← j.readRecord jsonFields with
  | [some line, some character] => return ⟨← line.asNat 32, ← character.asNat 32⟩
  | _ => throw .malformed

end Position

namespace Span

/-- A span as JSON. -/
def toJson (s : Span) : Json :=
  .ofMembers [("start", .ofNat s.start), ("end", .ofNat s.stop)]

/-- The fields of a span. -/
def jsonFields : List JsonField :=
  [.of "start" .required (Json.asNat 64), .of "end" .required (Json.asNat 64)]

/-- The span that a JSON value describes; its ends may be in either order. -/
def ofJson (j : Json) : Except ShapeError Span := do
  match ← j.readRecord jsonFields with
  | [some start, some stop] => return ⟨← start.asNat 64, ← stop.asNat 64⟩
  | _ => throw .malformed

end Span

namespace Marker

/-- A marker as JSON. -/
def toJson (m : Marker) : Json :=
  .ofMembers ([("range", m.span.toJson), ("position", m.position.toJson),
    ("section", m.within.toJson), ("label", .ofString m.label)]
      ++ (m.name.map fun name => ("runnable_name", Json.ofString name)).toList)

/-- The fields of a marker. -/
def jsonFields : List JsonField :=
  [.of "range" .required Span.ofJson, .of "position" .required Position.ofJson,
    .of "section" .required Section.ofJson, .of "label" .required Json.asString,
    .of "runnable_name" .optional (Json.asOptional Json.asString)]

/-- The marker that a JSON value describes, with its label as given. -/
def ofJson (j : Json) : Except ShapeError Marker := do
  match ← j.readRecord jsonFields with
  | [some span, some position, some within, some label, name] =>
    return {
      span := ← Span.ofJson span
      position := ← Position.ofJson position
      within := ← Section.ofJson within
      label := ← label.asString
      name := ← Json.fieldOr (Json.asOptional Json.asString) none name }
  | _ => throw .malformed

/-- Markers as JSON. -/
def listToJson (markers : List Marker) : Json := .array (markers.map toJson)

end Marker

namespace GutterEntry

/-- A gutter entry as JSON. -/
def toJson (e : GutterEntry) : Json :=
  .ofMembers [("range", e.span.toJson), ("position", e.position.toJson),
    ("label", .ofString e.label), ("runnable_names", .array (e.names.map Json.ofOptionString))]

/-- The fields of a gutter entry. -/
def jsonFields : List JsonField :=
  [.of "range" .required Span.ofJson, .of "position" .required Position.ofJson,
    .of "label" .required Json.asString,
    .of "runnable_names" .required (Json.asList (Json.asOptional Json.asString))]

/-- The gutter entry that a JSON value describes. -/
def ofJson (j : Json) : Except ShapeError GutterEntry := do
  match ← j.readRecord jsonFields with
  | [some span, some position, some label, some names] =>
    return {
      span := ← Span.ofJson span
      position := ← Position.ofJson position
      label := ← label.asString
      names := ← names.asList (Json.asOptional Json.asString) }
  | _ => throw .malformed

/-- Gutter entries as JSON. -/
def listToJson (entries : List GutterEntry) : Json := .array (entries.map toJson)

end GutterEntry

end RunMarkers
