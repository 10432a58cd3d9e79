import RunMarkers.Position
import RunMarkers.Text.Bytes

/-!
# Patterns

A pattern matches at a place of a text in the first way that leads to its end: a repetition takes as
much as it can and gives back one character at a time, and a choice tries its left side first. So
what a part of a pattern takes depends on what comes after it, and a pattern is run on what is still
to be matched behind it.
-/

namespace RunMarkers.Text

/-- A pattern of characters. -/
inductive Pattern where
  /-- One character of a set. -/
  | oneOf (set : List Char)
  /-- Any number of characters of a set. -/
  | many (set : List Char)
  /-- One pattern after the other. -/
  | seq (p q : Pattern)
  /-- One pattern or the other. -/
  | either (p q : Pattern)
  deriving DecidableEq, Repr

namespace Pattern

/-- Takes characters of a set, the most with which what is to be matched behind them matches. -/
def runMany (set : List Char) (behind : List Char → Option (List Char)) :
    List Char → Option (List Char)
  | [] => behind []
  | c :: cs =>
    if set.contains c then (runMany set behind cs).orElse fun _ => behind (c :: cs)
    else behind (c :: cs)

/-- The text left by a match at the start of a text, and of what is to be matched behind it. -/
def run (behind : List Char → Option (List Char)) : Pattern → List Char → Option (List Char)
  | oneOf _, [] => none
  | oneOf set, c :: cs => if set.contains c then behind cs else none
  | many set, cs => runMany set behind cs
  | seq p q, cs => p.run (q.run behind) cs
  | either p q, cs => (p.run behind cs).orElse fun _ => q.run behind cs

/-- The text behind a match at the start of a text. -/
def behind? (p : Pattern) (cs : List Char) : Option (List Char) := p.run some cs

/-- The matches in a text that starts at an offset, from left to right. The next one is sought
behind the last; a match of no characters is passed over. -/
def spans (p : Pattern) (offset : Nat) (cs : List Char) : List Span :=
  match cs with
  | [] => []
  | c :: cs =>
    match p.behind? (c :: cs) with
    | none => p.spans (offset + c.utf8Size) cs
    | some rest =>
      if _h : rest.length < (c :: cs).length then
        let stop := offset + (byteLength (c :: cs) - byteLength rest)
        ⟨offset, stop⟩ :: p.spans stop rest
      else p.spans (offset + c.utf8Size) cs
termination_by cs.length
decreasing_by
  · exact Nat.lt_succ_self cs.length
  · exact _h
  · exact Nat.lt_succ_self cs.length

end Pattern

end RunMarkers.Text
