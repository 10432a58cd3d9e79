import RunMarkers.Text.Blank
import RunMarkers.Text.Lowercase

/-!
# Sections of a suite file

A heading such as `*** Test Cases ***` opens a section. Its kind is read off the heading's words, in
any case and with any number of stars; test cases and tasks can be run, the others cannot.
-/

namespace RunMarkers

/-- What a section holds. -/
inductive Section where
  | testCases
  | tasks
  | keywords
  | settings
  | vars
  | other
  deriving DecidableEq, Repr

namespace Section

/-- Every kind of section. -/
def all : List Section := [testCases, tasks, keywords, settings, vars, other]

/-- The words of a heading: stars read as spaces, in lower case, without white space at the ends.
White space between the words stays as written. -/
def headingWords (heading : String) : String :=
  let spaced := heading.toList.map fun c => if c = '*' then ' ' else c
  String.ofList (Text.trim (Text.lowercase spaced))

/-- The section that a heading opens. -/
def ofHeading (heading : String) : Section :=
  match headingWords heading with
  | "test case" | "test cases" => testCases
  | "task" | "tasks" => tasks
  | "keywords" => keywords
  | "setting" | "settings" => settings
  | "variable" | "variables" => vars
  | _ => other

/-- The lines of the section can be run. -/
def isRunnable : Section → Bool
  | testCases | tasks => true
  | _ => false

/-- The title shown to a reader. -/
def title : Section → String
  | testCases => "Test Cases"
  | tasks => "Tasks"
  | keywords => "Keywords"
  | settings => "Settings"
  | vars => "Variables"
  | other => "Other"

theorem mem_all (s : Section) : s ∈ all := by cases s <;> decide

theorem isRunnable_iff {s : Section} : s.isRunnable = true ↔ s = testCases ∨ s = tasks := by
  cases s <;> simp [isRunnable]

end Section

end RunMarkers
