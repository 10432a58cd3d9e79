/-!
# How a shell reads a line

A shell reads a line from left to right. Blanks that are not quoted separate words; what stands
between single quotes is literal, and a backslash outside them makes the next character literal. A
line is refused when a quotation is left open at its end, and when a character that is not quoted
has another meaning to a shell (`specialMarks`), so that none of the rules for expansions, operators,
patterns or comments comes in.

Which words of a line set variables depends on what was quoted: a quoted name sets none. A word is
therefore read as a list of parts, and `textOf` takes the quotation away.
-/

namespace RunMarkers.Shell

/-- What a word is made of. -/
inductive Part where
  /-- A character that is not quoted. -/
  | bare (c : Char)
  | quoted (c : Char)
  /-- The beginning of a quotation, which may turn out empty. -/
  | mark
  deriving DecidableEq, Repr

namespace Part

def char? : Part → Option Char
  | bare c | quoted c => some c
  | mark => none

def isBare : Part → Bool
  | bare _ => true
  | quoted _ | mark => false

end Part

/-- The text of a word, without its quotation. -/
def textOf (w : List Part) : List Char := w.filterMap Part.char?

def text (w : List Part) : String := String.ofList (textOf w)

/-- The characters that separate words. -/
def blanks : List Char := [' ', '\t']

/-- The characters other than quotes, backslashes and blanks that a shell gives a meaning of their
own: those of operators, expansions, patterns and comments, double quotes and the end of the line. -/
def specialMarks : List Char :=
  ['|', '&', ';', '<', '>', '(', ')', '$', '\x60', '"', '*', '?', '[', ']', '#', '~', '!', '^', '\x7b',
    '\x7d', '\n']

/-- A character that stands for itself wherever it stands in a word. -/
def IsOrdinary (c : Char) : Prop := c ∉ ['\'', '\\'] ++ blanks ++ specialMarks

/-- Why a line cannot be read. -/
inductive ReadError where
  | unclosed
  /-- A character with a meaning of its own is not quoted. -/
  | special (c : Char)
  deriving DecidableEq, Repr

inductive Mode where
  | bare
  | escaped
  | quoted
  deriving DecidableEq, Repr

/-- A line that has been read in part: the finished words, the word in progress, if there is one,
and how the next character is taken. -/
structure Reader where
  words : List (List Part)
  word : Option (List Part)
  mode : Mode
  deriving DecidableEq, Repr

namespace Reader

def put (r : Reader) (p : Part) : Reader := { r with word := some (r.word.getD [] ++ [p]) }

def close (r : Reader) : Reader :=
  match r.word with
  | none => r
  | some w => { r with words := r.words ++ [w], word := none }

def step (r : Reader) (c : Char) : Except ReadError Reader :=
  match r.mode with
  | .quoted => .ok (if c = '\'' then { r with mode := .bare } else r.put (.quoted c))
  | .escaped => .ok { r.put (.quoted c) with mode := .bare }
  | .bare =>
    if c = '\'' then .ok { r.put .mark with mode := .quoted }
    else if c = '\\' then .ok { r.put .mark with mode := .escaped }
    else if c ∈ blanks then .ok r.close
    else if c ∈ specialMarks then .error (.special c)
    else .ok (r.put (.bare c))

def steps (r : Reader) : List Char → Except ReadError Reader
  | [] => .ok r
  | c :: cs => (r.step c).bind fun after => after.steps cs

def finish (r : Reader) : Except ReadError (List (List Part)) :=
  if r.mode = .bare then .ok r.close.words else .error .unclosed

end Reader

def read (line : String) : Except ReadError (List (List Part)) :=
  ((Reader.mk [] none .bare).steps line.toList).bind Reader.finish

/-- The texts of the words of a line. -/
def split (line : String) : Except ReadError (List String) :=
  (read line).map fun ws => ws.map text

def isNameChar (c : Char) : Bool := c.isAlphanum || c == '_'

/-- A name that a variable can have: letters, digits and underscores, no digit first. -/
def isName : List Char → Bool
  | [] => false
  | c :: cs => !c.isDigit && (c :: cs).all isNameChar

/-- The variable that a word sets, and its text: what comes before the first equals sign that is not
quoted is a name and not quoted either. -/
def settingOf? (w : List Part) : Option (String × String) :=
  let name := w.takeWhile (· != .bare '=')
  match w.dropWhile (· != .bare '=') with
  | [] => none
  | _ :: value =>
    if name.all Part.isBare && isName (textOf name) then some (text name, text value) else none

/-- A command as a shell takes it: the variables it sets, the program and its arguments. -/
structure SimpleCommand where
  settings : List (String × String)
  program : Option String
  args : List String
  deriving DecidableEq, Repr

/-- The command of a row of words: those that set variables, up to the first that does not, which is
the program; all words after it are arguments. -/
def SimpleCommand.ofWords : List (List Part) → SimpleCommand
  | [] => ⟨[], none, []⟩
  | w :: ws =>
    match settingOf? w with
    | some s => { ofWords ws with settings := s :: (ofWords ws).settings }
    | none => ⟨[], some (text w), ws.map text⟩

/-- The command that a line spells. -/
def simpleCommand (line : String) : Except ReadError SimpleCommand :=
  (read line).map SimpleCommand.ofWords

@[simp] theorem textOf_append (v w : List Part) : textOf (v ++ w) = textOf v ++ textOf w :=
  List.filterMap_append

@[simp] theorem textOf_map_bare (cs : List Char) : textOf (cs.map .bare) = cs := by
  induction cs with
  | nil => rfl
  | cons c cs ih =>
      rw [List.map_cons, textOf, List.filterMap_cons]
      exact congrArg (c :: ·) ih

theorem isOrdinary_iff {c : Char} :
    IsOrdinary c ↔ c ≠ '\'' ∧ c ≠ '\\' ∧ c ∉ blanks ∧ c ∉ specialMarks := by
  simp [IsOrdinary]

/-- A class of characters is ordinary if none of the others belongs to it. -/
theorem isOrdinary_of_any {p : Char → Bool}
    (hp : (['\'', '\\'] ++ blanks ++ specialMarks).any p = false) {c : Char} (hc : p c = true) :
    IsOrdinary c :=
  fun hmem => List.any_eq_false.1 hp c hmem hc

theorem isNameChar_of_mem {cs : List Char} (h : isName cs = true) {c : Char} (hc : c ∈ cs) :
    isNameChar c = true := by
  cases cs with
  | nil => exact absurd hc List.not_mem_nil
  | cons d cs =>
      rw [isName, Bool.and_eq_true, List.all_eq_true] at h
      exact h.2 c hc

theorem isOrdinary_of_isNameChar {c : Char} (h : isNameChar c = true) : IsOrdinary c :=
  isOrdinary_of_any (by decide) h

namespace Reader

theorem steps_append_of_eq_ok {r after : Reader} {l : List Char} (h : r.steps l = .ok after)
    (m : List Char) : r.steps (l ++ m) = after.steps m := by
  induction l generalizing r with
  | nil => rw [Except.ok.inj h, List.nil_append]
  | cons c l ih =>
      rw [steps] at h
      rw [List.cons_append, steps]
      cases hstep : r.step c with
      | error e => rw [hstep] at h; cases h
      | ok next =>
          rw [hstep] at h
          exact ih h

theorem step_of_isOrdinary {c : Char} (h : IsOrdinary c) (words : List (List Part))
    (word : Option (List Part)) :
    (Reader.mk words word .bare).step c = .ok ⟨words, some (word.getD [] ++ [.bare c]), .bare⟩ := by
  obtain ⟨hquote, hbackslash, hblank, hspecial⟩ := isOrdinary_iff.1 h
  simp [step, put, hquote, hbackslash, hblank, hspecial]

theorem steps_of_isOrdinary {cs : List Char} (hcs : ∀ c ∈ cs, IsOrdinary c) (hne : cs ≠ [])
    (words : List (List Part)) (word : Option (List Part)) :
    (Reader.mk words word .bare).steps cs =
      .ok ⟨words, some (word.getD [] ++ cs.map .bare), .bare⟩ := by
  induction cs generalizing word with
  | nil => exact absurd rfl hne
  | cons c cs ih =>
      rw [steps, step_of_isOrdinary (hcs c List.mem_cons_self)]
      cases cs with
      | nil => rfl
      | cons d cs =>
          have hlater := ih (fun a ha => hcs a (List.mem_cons_of_mem c ha)) (List.cons_ne_nil d cs)
            (some (word.getD [] ++ [.bare c]))
          rw [Option.getD_some, List.append_assoc] at hlater
          exact hlater

theorem step_blank (words : List (List Part)) (w : List Part) :
    (Reader.mk words (some w) .bare).step ' ' = .ok ⟨words ++ [w], none, .bare⟩ := rfl

end Reader

end RunMarkers.Shell
