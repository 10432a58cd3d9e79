import RunMarkers.Path

/-!
# Targets

A target on the command line is a path, perhaps with a line after a colon. The line counts from
one and has to fit in 64 bits; if what stands after the last colon is no such number, it belongs
to the path.
-/

namespace RunMarkers.Cli

/-- A path and a line of it, counted from zero. -/
structure Target where
  path : Path
  line : Option Nat
  deriving DecidableEq, Repr

/-- The value of a decimal number that fits in 64 bits; a plus sign may stand before it. -/
def lineNumber? (cs : List Char) : Option Nat :=
  let digits := match cs with
    | '+' :: rest => rest
    | _ => cs
  if digits.isEmpty || !digits.all Char.isDigit then none
  else
    let n := digits.foldl (fun n d => 10 * n + (d.toNat - '0'.toNat)) 0
    if n < Nat.pow 2 64 then some n else none

/-- The text before and after the last colon. -/
def splitAtLastColon? (cs : List Char) : Option (List Char × List Char) :=
  match cs.reverse.dropWhile (· != ':') with
  | [] => none
  | _ :: before => some (before.reverse, (cs.reverse.takeWhile (· != ':')).reverse)

/-- The path and the line that an argument names. Line zero counts as the first. -/
def Target.ofArg (arg : String) : Target :=
  let split := (splitAtLastColon? arg.toList).bind fun (before, after) =>
    (lineNumber? after).map fun n => (before, n)
  match split with
  | some (before, n) => ⟨⟨String.ofList before⟩, some (n - 1)⟩
  | none => ⟨⟨arg⟩, none⟩

end RunMarkers.Cli
