import Mathlib.Data.List.TakeWhile
import RunMarkers.Command.Shell
import RunMarkers.Proofs.Command.Reading

/-!
# Shell lines read back

`Shell.word` writes a text so that a shell reads it as one word with that text, and no text breaks
out of its word. So a shell line splits into the settings, the program and the arguments it was
written from, as long as the variables have names, which are written as they are
(`split_shellLine`).
-/

namespace RunMarkers

namespace Shell

/-- The parts of a character between single quotes: a single quote ends the quotation, stands after a
backslash, and begins another one. -/
def quotedParts (c : Char) : List Part :=
  if c = '\'' then [.mark, .quoted '\'', .mark] else [.quoted c]

/-- The parts of a text as `word` writes it. -/
def wordParts (cs : List Char) : List Part :=
  if !cs.isEmpty && cs.all isPlain then cs.map .bare else .mark :: cs.flatMap quotedParts

/-- The parts of the word that sets a variable. -/
def settingParts (e : String × String) : List Part :=
  e.1.toList.map .bare ++ .bare '=' :: wordParts e.2.toList

/-- The words that run a program, behind those that set variables. -/
def commandParts (c : Command) : List (List Part) :=
  wordParts c.program.toList :: c.args.map fun arg => wordParts arg.toList

theorem isOrdinary_of_isPlain {c : Char} (h : isPlain c = true) : IsOrdinary c :=
  isOrdinary_of_any (by decide) h

theorem textOf_quotedParts (c : Char) : textOf (quotedParts c) = [c] := by
  rw [quotedParts]
  split
  next hc => rw [hc]; rfl
  next => rfl

theorem textOf_flatMap_quotedParts (cs : List Char) : textOf (cs.flatMap quotedParts) = cs := by
  induction cs with
  | nil => rfl
  | cons c cs ih => rw [List.flatMap_cons, textOf_append, textOf_quotedParts, ih, List.singleton_append]

@[simp] theorem textOf_wordParts (cs : List Char) : textOf (wordParts cs) = cs := by
  rw [wordParts]
  split
  next => exact textOf_map_bare cs
  next => exact textOf_flatMap_quotedParts cs

@[simp] theorem text_wordParts (s : String) : text (wordParts s.toList) = s := by
  rw [text, textOf_wordParts, String.ofList_toList]

@[simp] theorem text_settingParts (e : String × String) :
    text (settingParts e) = e.1 ++ "=" ++ e.2 := by
  have hvalue : textOf (.bare '=' :: wordParts e.2.toList) = '=' :: e.2.toList :=
    congrArg ('=' :: ·) (textOf_wordParts e.2.toList)
  rw [text, settingParts, textOf_append, textOf_map_bare, hvalue, ← String.toList_inj]
  simp

namespace Reader

theorem steps_quoteChar (words : List (List Part)) (w : List Part) (c : Char) :
    (Reader.mk words (some w) .quoted).steps (quoteChar c) =
      .ok ⟨words, some (w ++ quotedParts c), .quoted⟩ := by
  rw [quoteChar, quotedParts]
  split
  next => simp [steps, step, put, Except.bind]
  next hc => simp [steps, step, put, Except.bind, hc]

theorem steps_quoted (words : List (List Part)) (w : List Part) (cs : List Char) :
    (Reader.mk words (some w) .quoted).steps (cs.flatMap quoteChar) =
      .ok ⟨words, some (w ++ cs.flatMap quotedParts), .quoted⟩ := by
  induction cs generalizing w with
  | nil => simp [steps]
  | cons c cs ih =>
      have hlater := ih (w ++ quotedParts c)
      rw [List.append_assoc] at hlater
      rw [List.flatMap_cons, List.flatMap_cons, steps_append_of_eq_ok (steps_quoteChar words w c)]
      exact hlater

/-- A text that is written as a word is added, whole, to the word in progress. -/
theorem steps_word (words : List (List Part)) (word : Option (List Part)) (cs : List Char) :
    (Reader.mk words word .bare).steps (Shell.word cs) =
      .ok ⟨words, some (word.getD [] ++ wordParts cs), .bare⟩ := by
  rw [Shell.word, wordParts]
  split
  next h =>
      -- a plain character has no meaning of its own to a shell, so the word stands for itself
      rw [Bool.and_eq_true, List.all_eq_true] at h
      exact steps_of_isOrdinary (fun c hc => isOrdinary_of_isPlain (h.2 c hc))
        (by rintro rfl; simp at h) words word
  next =>
      have hquoted := steps_quoted words (word.getD [] ++ [.mark]) cs
      rw [List.append_assoc] at hquoted
      exact steps_append_of_eq_ok hquoted ['\'']

theorem steps_setting (words : List (List Part)) {e : String × String}
    (hname : isName e.1.toList = true) :
    (Reader.mk words none .bare).steps (setting e) =
      .ok ⟨words ++ [settingParts e], none, .bare⟩ := by
  have hordinary : ∀ c ∈ e.1.toList ++ ['='], IsOrdinary c := by
    intro c hc
    rcases List.mem_append.1 hc with hc | hc
    · exact isOrdinary_of_isNameChar (isNameChar_of_mem hname hc)
    · rw [List.mem_singleton.1 hc]
      exact isOrdinary_of_isPlain (by decide)
  have hkey := steps_of_isOrdinary hordinary (by simp) words none
  have hvalue := steps_word words (some (e.1.toList.map .bare ++ [.bare '='])) e.2.toList
  rw [List.map_append, Option.getD_none, List.nil_append] at hkey
  rw [Option.getD_some, List.append_assoc] at hvalue
  rw [setting, List.append_cons, steps_append_of_eq_ok hkey]
  exact steps_append_of_eq_ok hvalue [' ']

theorem steps_settings (words : List (List Part)) {env : List (String × String)}
    (hnames : ∀ e ∈ env, isName e.1.toList = true) :
    (Reader.mk words none .bare).steps (env.flatMap setting) =
      .ok ⟨words ++ env.map settingParts, none, .bare⟩ := by
  induction env generalizing words with
  | nil => simp [steps]
  | cons e env ih =>
      have hlater := ih (words ++ [settingParts e]) fun a ha => hnames a (List.mem_cons_of_mem e ha)
      rw [List.append_assoc] at hlater
      rw [List.flatMap_cons, steps_append_of_eq_ok (steps_setting words (hnames e List.mem_cons_self))]
      exact hlater

theorem finish_steps_args (words : List (List Part)) (w : List Part) (args : List String) :
    ((Reader.mk words (some w) .bare).steps
        (args.flatMap fun arg => ' ' :: Shell.word arg.toList)).bind finish =
      .ok (words ++ w :: args.map fun arg => wordParts arg.toList) := by
  -- the word in progress is ended by the blank before the next argument, or by the end of the line
  induction args generalizing words w with
  | nil => rfl
  | cons arg args ih =>
      have hword := steps_word (words ++ [w]) none arg.toList
      have hlater := ih (words ++ [w]) (wordParts arg.toList)
      rw [List.append_assoc] at hlater
      rw [List.flatMap_cons, List.cons_append, steps, step_blank]
      change ((Reader.mk (words ++ [w]) none .bare).steps _).bind finish = _
      rw [steps_append_of_eq_ok hword]
      exact hlater

end Reader

/-- The words that a shell reads in the line of a command. -/
theorem read_shellLine {c : Command} (hnames : ∀ e ∈ c.env, isName e.1.toList = true) :
    read c.shellLine = .ok (c.env.map settingParts ++ commandParts c) := by
  have henv := Reader.steps_settings [] hnames
  have hprogram := Reader.steps_word (c.env.map settingParts) none c.program.toList
  rw [read, Command.shellLine, String.toList_ofList, lineChars, List.append_assoc,
    Reader.steps_append_of_eq_ok henv, List.nil_append, Reader.steps_append_of_eq_ok hprogram]
  exact Reader.finish_steps_args _ _ _

end Shell

namespace Command

open Shell

/-- Whatever the variables hold, the program is called and its arguments are, a shell splits the
line of a command into the words it was made of. -/
theorem split_shellLine (c : Command) (hnames : ∀ e ∈ c.env, isName e.1.toList = true) :
    split c.shellLine = .ok ((c.env.map fun e => e.1 ++ "=" ++ e.2) ++ c.program :: c.args) := by
  rw [split, read_shellLine hnames]
  simp [Except.map, Function.comp_def, commandParts]

theorem split_shellLine_quotes :
    (∀ e ∈ [("BROWSER", "it's $HOME"), ("_x1", "")], isName e.1.toList = true) ∧
      split (Command.mk "" ["--name=a", "''", "a\\b", "ü\n"] none
          [("BROWSER", "it's $HOME"), ("_x1", "")]).shellLine =
        .ok ["BROWSER=it's $HOME", "_x1=", "", "--name=a", "''", "a\\b", "ü\n"] :=
  ⟨by decide, split_shellLine _ (by decide)⟩

end Command

end RunMarkers
