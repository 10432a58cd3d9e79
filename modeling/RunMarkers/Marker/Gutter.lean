import RunMarkers.Marker.Basic

/-!
# Gutter entries

An editor has room for one button on a line. `Gutter.ofMarkers` gathers the markers of a line into
one entry, which keeps the place of the first of them and the distinct names of all. When two
names compete, the entry loses its label to a general one.
-/

namespace RunMarkers

/-- The markers of one line as one button. -/
structure GutterEntry where
  span : Span
  position : Position
  label : String
  /-- Distinct names in the order first seen; `none` stands for all of the file. -/
  names : List (Option String)
  deriving DecidableEq, Repr

namespace GutterEntry

/-- The entry of one marker. -/
def ofMarker (m : Marker) : GutterEntry := ⟨m.span, m.position, m.label, [m.name]⟩

/-- Takes in another marker. -/
def absorb (e : GutterEntry) (m : Marker) : GutterEntry :=
  if e.names.contains m.name then e
  else { e with names := e.names ++ [m.name], label := "run" }

/-- Several names compete for the entry. -/
def isAmbiguous (e : GutterEntry) : Bool := decide (1 < e.names.length)

/-- The name that the entry runs, if it runs one and only that. -/
def name? (e : GutterEntry) : Option String :=
  match e.names with
  | [some name] => some name
  | _ => none

end GutterEntry

/-- Two markers belong to the same entry. -/
def Marker.sharesLine (m n : Marker) : Bool := m.line == n.line

namespace Gutter

/-- Adds a marker to entries, each of which is kept with the marker that began it. -/
def insert (m : Marker) : List (Marker × GutterEntry) → List (Marker × GutterEntry)
  | [] => [(m, .ofMarker m)]
  | (first, e) :: rest =>
    if first.sharesLine m then (first, e.absorb m) :: rest else (first, e) :: insert m rest

/-- One entry for each line that has markers, in the order of the first marker of each. -/
def ofMarkers (markers : List Marker) : List GutterEntry :=
  (markers.foldl (fun entries m => insert m entries) []).map (·.2)

end Gutter

end RunMarkers
