/-!
# JSON values

A value keeps everything its text says: members stay in the order written, repeated names included,
and a number keeps its fraction and exponent as written, so that an integer is told from a number
that merely has an integral value.
-/

namespace RunMarkers

/-- A number as written: `whole` is its integer part without sign, `tail` its fraction and
exponent. -/
structure JsonNumber where
  negative : Bool
  whole : Nat
  tail : List Char
  deriving DecidableEq, Repr

/-- A JSON value. A string or a name is `none` when an escape in it stands for half a surrogate
pair, so that it spells no text. -/
inductive Json where
  | null
  | bool (b : Bool)
  | number (n : JsonNumber)
  | string (s : Option String)
  | array (items : List Json)
  | object (members : List (Option String × Json))

namespace Json

/-- The string with the given text. -/
def ofString (s : String) : Json := .string (some s)

/-- The number with the given value. -/
def ofNat (n : Nat) : Json := .number ⟨false, n, []⟩

/-- The object with the given members. -/
def ofMembers (members : List (String × Json)) : Json :=
  .object (members.map fun m => (some m.1, m.2))

/-- A text, or `null` for none. -/
def ofOptionString (s : Option String) : Json :=
  match s with
  | some s => ofString s
  | none => .null

/-- The number, if the value is one written without sign, fraction and exponent. -/
def toNat? : Json → Option Nat
  | .number ⟨false, n, []⟩ => some n
  | _ => none

/-- The text of a string. -/
def toString? : Json → Option String
  | .string s => s
  | _ => none

/-- The items of an array. -/
def toList? : Json → Option (List Json)
  | .array items => some items
  | _ => none

/-- The last member of an object with the given name. -/
def member? (name : String) : Json → Option Json
  | .object members => (members.reverse.find? fun m => m.1 == some name).map (·.2)
  | _ => none

@[simp] theorem toNat?_ofNat (n : Nat) : (ofNat n).toNat? = some n := rfl

@[simp] theorem toString?_ofString (s : String) : (ofString s).toString? = some s := rfl

end Json

end RunMarkers
