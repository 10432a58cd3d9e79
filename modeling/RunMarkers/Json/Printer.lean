import RunMarkers.Json.Basic
import RunMarkers.Text.Quoted

/-!
# Writing JSON

One printer with two layouts. The indented layout puts each item and member on a line of its own,
two spaces further in than its container; the compact layout adds nothing. Empty containers have no
inside in either.
-/

namespace RunMarkers

/-- Where a printer puts white space. -/
structure JsonLayout where
  /-- What stands before an item, or before the closing bracket, at a depth. -/
  lineBreak : Nat → List Char
  /-- What stands between a name and its value. -/
  separator : List Char

namespace JsonLayout

/-- Two spaces a level. -/
def indented : JsonLayout := ⟨fun depth => '\n' :: List.replicate (2 * depth) ' ', [':', ' ']⟩

/-- No white space at all. -/
def compact : JsonLayout := ⟨fun _ => [], [':']⟩

end JsonLayout

namespace Json

/-- A character inside a string: quote, backslash and control characters are escaped. -/
def escapeChar (c : Char) : List Char :=
  if c = '"' then ['\\', '"']
  else if c = '\\' then ['\\', '\\']
  else if c = '\n' then ['\\', 'n']
  else if c = '\r' then ['\\', 'r']
  else if c = '\t' then ['\\', 't']
  else if c = '\x08' then ['\\', 'b']
  else if c = '\x0c' then ['\\', 'f']
  else if c.toNat < 32 then
    ['\\', 'u', '0', '0', Nat.digitChar (c.toNat / 16), Nat.digitChar (c.toNat % 16)]
  else [c]

/-- A string in its quotes; one that spells no text is written as half a surrogate pair. -/
def stringChars : Option String → List Char
  | some s => '"' :: (s.toList.flatMap escapeChar ++ ['"'])
  | none => ['"', '\\', 'u', 'd', '8', '0', '0', '"']

/-- A number as it was written. -/
def numberChars (n : JsonNumber) : List Char :=
  (if n.negative then ['-'] else []) ++ Nat.toDigits 10 n.whole ++ n.tail

mutual

/-- A value that starts at the given depth. -/
def chars (layout : JsonLayout) (depth : Nat) : Json → List Char
  | .null => ['n', 'u', 'l', 'l']
  | .bool true => ['t', 'r', 'u', 'e']
  | .bool false => ['f', 'a', 'l', 's', 'e']
  | .number n => numberChars n
  | .string s => stringChars s
  | .array [] => ['[', ']']
  | .array (item :: items) =>
    '[' :: (layout.lineBreak (depth + 1) ++ chars layout (depth + 1) item
      ++ itemChars layout (depth + 1) items ++ layout.lineBreak depth ++ [']'])
  | .object [] => ['\x7b', '\x7d']
  | .object ((name, value) :: members) =>
    '\x7b' :: (layout.lineBreak (depth + 1) ++ stringChars name ++ layout.separator
      ++ chars layout (depth + 1) value
      ++ memberChars layout (depth + 1) members ++ layout.lineBreak depth ++ ['\x7d'])

/-- The items after the first, each after its comma. -/
def itemChars (layout : JsonLayout) (depth : Nat) : List Json → List Char
  | [] => []
  | item :: items =>
    ',' :: (layout.lineBreak depth ++ chars layout depth item ++ itemChars layout depth items)

/-- The members after the first, each after its comma. -/
def memberChars (layout : JsonLayout) (depth : Nat) : List (Option String × Json) → List Char
  | [] => []
  | (name, value) :: members =>
    ',' :: (layout.lineBreak depth ++ stringChars name ++ layout.separator
      ++ chars layout depth value ++ memberChars layout depth members)

end

/-- The indented text of a value. -/
def pretty (j : Json) : String := String.ofList (j.chars .indented 0)

/-- The text of a value on one line. -/
def compress (j : Json) : String := String.ofList (j.chars .compact 0)

end Json

end RunMarkers
