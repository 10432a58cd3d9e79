import RunMarkers.Text.CodeRanges

/-!
# White space

`isWhiteSpace` is the Unicode property White_Space. `trim` removes it from both ends of a text and
`words` cuts a text at every run of it.
-/

namespace RunMarkers.Text

/-- White_Space outside ASCII. -/
def whiteSpaceRanges : CodeRanges := [
    (0x85, 0x85), (0xA0, 0xA0), (0x1680, 0x1680), (0x2000, 0x200A), (0x2028, 0x2029),
    (0x202F, 0x202F), (0x205F, 0x205F), (0x3000, 0x3000)]

/-- The Unicode property White_Space: in ASCII, tab to carriage return and the space. -/
def isWhiteSpace (c : Char) : Bool :=
  if isAscii c then c == ' ' || (decide (9 ≤ c.toNat) && decide (c.toNat ≤ 13))
  else whiteSpaceRanges.contains c.toNat

/-- Drops white space from the start. -/
def trimStart (cs : List Char) : List Char := cs.dropWhile isWhiteSpace

/-- Drops white space from the end. -/
def trimEnd (cs : List Char) : List Char := (cs.reverse.dropWhile isWhiteSpace).reverse

/-- Drops white space from both ends. -/
def trim (cs : List Char) : List Char := trimEnd (trimStart cs)

/-- The words of `cs` read from the right: the word in progress, and the finished ones after it. -/
def wordsFrom : List Char → List Char × List (List Char)
  | [] => ([], [])
  | c :: cs =>
    let (word, later) := wordsFrom cs
    if isWhiteSpace c then ([], if word.isEmpty then later else word :: later)
    else (c :: word, later)

/-- The maximal runs of characters that are not white space, in order. -/
def words (cs : List Char) : List (List Char) :=
  let (word, later) := wordsFrom cs
  if word.isEmpty then later else word :: later

@[simp] theorem trimStart_nil : trimStart [] = [] := rfl

@[simp] theorem trim_nil : trim [] = [] := rfl

@[simp] theorem words_nil : words [] = [] := rfl

end RunMarkers.Text
