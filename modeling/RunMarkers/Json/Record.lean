import RunMarkers.Json.Basic
import RunMarkers.Text.AsciiCase

/-!
# Reading records from JSON

A record is written as an object, or as an array of its fields in their order. In an object, unknown
names are skipped and a known name may stand once. A field that may be left out of an object may be
left out of the end of an array only if it has a default. The first fault, in the order written, is
the one reported.
-/

namespace RunMarkers

/-- Why a value is not of the shape expected. -/
inductive ShapeError where
  /-- A word where one of a few was expected. -/
  | unknownWord (word : String) (expected : List String)
  /-- Any other fault of type, range or number of fields. -/
  | malformed
  deriving DecidableEq, Repr

/-- The account of an unknown word; other faults have none. -/
def ShapeError.message? : ShapeError → Option String
  | .unknownWord word expected =>
    some ("unknown variant '" ++ word ++ "', expected one of: " ++ ", ".intercalate expected)
  | .malformed => none

/-- Whether a field may be left out. -/
inductive Presence where
  | required
  /-- May be left out of an object, not of an array. -/
  | optional
  /-- May be left out of an object and of the end of an array. -/
  | defaulted
  deriving DecidableEq, Repr

/-- A field of a record, with the check that its value has to pass. -/
structure JsonField where
  name : String
  presence : Presence
  check : Json → Except ShapeError Unit

/-- The field whose values `read` accepts. -/
def JsonField.of {α : Type} (name : String) (presence : Presence)
    (read : Json → Except ShapeError α) : JsonField :=
  ⟨name, presence, fun j => (read j).map fun _ => ()⟩

namespace Json

/-- A text. -/
def asString : Json → Except ShapeError String
  | .string (some s) => .ok s
  | _ => .error .malformed

/-- An integer from zero up to, and not including, `2 ^ bits`. -/
def asNat (bits : Nat) : Json → Except ShapeError Nat
  | .number ⟨false, n, []⟩ => if n < Nat.pow 2 bits then .ok n else .error .malformed
  | _ => .error .malformed

/-- A value or `null`. -/
def asOptional {α : Type} (read : Json → Except ShapeError α) : Json → Except ShapeError (Option α)
  | .null => .ok none
  | j => (read j).map some

/-- A list of values. -/
def asList {α : Type} (read : Json → Except ShapeError α) : Json → Except ShapeError (List α)
  | .array items => items.mapM read
  | _ => .error .malformed

/-- One of a few words, in any ASCII case. -/
def asWord {α : Type} (words : List (String × α)) (j : Json) : Except ShapeError α := do
  let word ← j.asString
  match words.find? fun w => Text.eqIgnoringAsciiCase word w.1 with
  | some w => .ok w.2
  | none => .error (.unknownWord word (words.map (·.1)))

/-- The value of a field that may be left out. -/
def fieldOr {α : Type} (read : Json → Except ShapeError α) (default : α) :
    Option Json → Except ShapeError α
  | some j => read j
  | none => .ok default

/-- Checks the members of an object in their order; `seen` holds the known names passed. -/
def checkMembers (fields : List JsonField) (seen : List String) :
    List (Option String × Json) → Except ShapeError Unit
  | [] => .ok ()
  | (none, _) :: _ => .error .malformed
  | (some name, value) :: members =>
    match fields.find? fun f => f.name == name with
    | none => checkMembers fields seen members
    | some f =>
      if seen.contains name then .error .malformed
      else do
        f.check value
        checkMembers fields (name :: seen) members

/-- Checks the items of an array against the fields in their order. -/
def checkItems : List JsonField → List Json → Except ShapeError (List (Option Json))
  | [], [] => .ok []
  | [], _ :: _ => .error .malformed
  | f :: fields, [] => do
    if f.presence = .defaulted then return none :: (← checkItems fields [])
    else .error .malformed
  | f :: fields, item :: items => do
    f.check item
    return some item :: (← checkItems fields items)

/-- The values of the fields of a record, in the order of the fields; each has passed its check. -/
def readRecord (fields : List JsonField) (j : Json) : Except ShapeError (List (Option Json)) :=
  match j with
  | .array items => checkItems fields items
  | .object members => do
    checkMembers fields [] members
    let values := fields.map fun f => (f.presence, j.member? f.name)
    if values.any fun v => v.1 = .required ∧ v.2.isNone then .error .malformed
    else .ok (values.map (·.2))
  | _ => .error .malformed

end Json

end RunMarkers
