import RunMarkers.Proofs.Text.Quoted
import RunMarkers.Report.Breakdown

/-!
# What a breakdown gets right

The arguments of a command are given their roles when it is built (`Config.roles`). A breakdown
finds roles again by the spelling of the arguments alone. How it reads those that others follow is
`Breakdown.leading`: one that is spelled like a choosing option takes the next for its name, and is
not among the extra arguments. So a breakdown is right just when no argument before the choice is
spelled like that (`Config.breakdown_command_iff`).
-/

namespace RunMarkers

namespace Breakdown

/-- The roles of arguments that others follow. -/
structure Leading where
  choice : Option (String × String)
  extraArgs : List String
  /-- A choosing option at the end, which takes the next argument for its name. -/
  waiting : Option String

/-- Sorts arguments that others follow by their roles. -/
def leading : List String → Leading
  | [] => ⟨none, [], none⟩
  | [arg] => if isChoosing arg then ⟨none, [], some arg⟩ else ⟨none, [arg], none⟩
  | arg :: next :: rest =>
    if isChoosing arg then
      let l := leading rest
      { l with choice := l.choice.or (some (arg, next)) }
    else
      let l := leading (next :: rest)
      { l with extraArgs := arg :: l.extraArgs }

/-- The roles of all arguments, the leading ones and the others. -/
def Leading.followedBy (l : Leading) (next : String) (rest : List String) : Breakdown :=
  match l.waiting with
  | none =>
    let b := ofArgs (next :: rest)
    ⟨b.choice.or l.choice, l.extraArgs ++ b.extraArgs, b.file⟩
  | some option =>
    let b := ofArgs rest
    ⟨(b.choice.or (some (option, next))).or l.choice, l.extraArgs ++ b.extraArgs, b.file⟩

theorem ofArgs_append (args : List String) (next : String) (rest : List String) :
    ofArgs (args ++ next :: rest) = (leading args).followedBy next rest := by
  fun_induction leading args with
  | case1 => simp [Leading.followedBy]
  | case2 arg h => simp [ofArgs, h, Leading.followedBy]
  | case3 arg h => simp [ofArgs, h, Leading.followedBy]
  | case4 arg after later h l ih =>
      rw [List.cons_append, List.cons_append, ofArgs, if_pos h, ih, Leading.followedBy,
        Leading.followedBy]
      cases hw : (leading later).waiting with
      | none => simp only [l, Option.or_assoc]
      | some option => simp only [l, Option.or_assoc]
  | case5 arg after later h l ih =>
      rw [List.cons_append, List.cons_append, ofArgs, if_neg h, ← List.cons_append, ih,
        Leading.followedBy, Leading.followedBy]
      cases hw : (leading (after :: later)).waiting with
      | none => simp only [l, List.cons_append]
      | some option => simp only [l, List.cons_append]

/-- What the roles of leading arguments can be. Only choosing options and their names are missing
from the extra arguments. -/
structure Leading.IsOf (l : Leading) (args : List String) : Prop where
  sublist : l.extraArgs.Sublist args
  isChoosing_extraArgs : ∀ arg ∈ l.extraArgs, isChoosing arg = false
  isChoosing_choice : ∀ p, l.choice = some p → isChoosing p.1 = true
  isChoosing_waiting : ∀ option, l.waiting = some option → isChoosing option = true
  extraArgs_eq : l.choice = none → l.waiting = none → l.extraArgs = args

theorem isOf_leading (args : List String) : (leading args).IsOf args := by
  fun_induction leading args with
  | case1 => constructor <;> simp
  | case2 arg h => constructor <;> simp [h]
  | case3 arg h => constructor <;> simp [h]
  | case4 arg after later h l ih =>
      refine ⟨?_, ih.isChoosing_extraArgs, ?_, ih.isChoosing_waiting, ?_⟩
      · exact (ih.sublist.cons after).cons arg
      · intro p hp
        rcases Option.or_eq_some_iff.1 hp with hp | ⟨-, hp⟩
        · exact ih.isChoosing_choice p hp
        · obtain rfl := Option.some.inj hp
          exact h
      · intro hnone _
        obtain ⟨-, hnone⟩ := Option.or_eq_none_iff.1 hnone
        cases hnone
  | case5 arg after later h l ih =>
      refine ⟨ih.sublist.cons_cons arg, ?_, ih.isChoosing_choice, ih.isChoosing_waiting, ?_⟩
      · intro x hx
        rcases List.mem_cons.1 hx with rfl | hx
        · exact Bool.eq_false_iff.2 h
        · exact ih.isChoosing_extraArgs x hx
      · intro hchoice hwaiting
        exact congrArg (List.cons arg) (ih.extraArgs_eq hchoice hwaiting)

theorem leading_of_forall {args : List String} (h : ∀ arg ∈ args, isChoosing arg = false) :
    leading args = ⟨none, args, none⟩ := by
  fun_induction leading args with
  | case1 => rfl
  | case2 arg harg => exact absurd harg (Bool.eq_false_iff.1 (h arg List.mem_cons_self))
  | case3 arg harg => rfl
  | case4 arg after later harg l ih =>
      exact absurd harg (Bool.eq_false_iff.1 (h arg List.mem_cons_self))
  | case5 arg after later harg l ih =>
      simp only [l, ih fun x hx => h x (List.mem_cons_of_mem arg hx)]

theorem eq_of_isChoosing {option : String} (h : isChoosing option = true) :
    option = "--test" ∨ option = "--task" := by
  simpa [isChoosing] using h

theorem bareOption_of_isChoosing {option : String} (h : isChoosing option = true) :
    bareOption option = "test" ∨ bareOption option = "task" := by
  rcases eq_of_isChoosing h with rfl | rfl
  · exact Or.inl (by decide)
  · exact Or.inr (by decide)

/-- The line of a choosing option and its name. -/
def choiceLine (p : String × String) : String := "      • " ++ bareOption p.1 ++ ": " ++ p.2

/-- The line of the extra arguments, if there are any. -/
def extraLines (extraArgs : List String) : List String :=
  if extraArgs.isEmpty then [] else ["      • extraArgs: " ++ Text.quotedList extraArgs]

def fileLine (file : String) : String := "      • suite: " ++ file

/-- The lines of a breakdown that show arguments by their roles. -/
def shown (b : Breakdown) : List String :=
  (b.choice.map choiceLine).toList ++ extraLines b.extraArgs ++ (b.file.map fileLine).toList

/-- The lines that show a command whose arguments have the given roles. -/
def linesOf (c : Command) (b : Breakdown) : List String :=
  ["   🔧 Command breakdown:", "      • command: " ++ c.program] ++ b.shown
    ++ (c.workingDir.map fun dir => "      • workingDir: " ++ dir.text).toList
    ++ if c.env.isEmpty then []
      else "      • env:" :: c.env.map fun e => "        - " ++ e.1 ++ "=" ++ e.2

theorem lines_eq_linesOf (c : Command) : lines c = linesOf c (ofArgs c.args) := by
  simp only [lines, linesOf, shown, List.append_assoc]
  rfl

/-- Lines with their line feeds. -/
def printed (lines : List String) : List Char := lines.flatMap fun l => l.toList ++ ['\n']

theorem printed_nil : printed [] = [] := rfl

theorem printed_singleton (line : String) : printed [line] = line.toList ++ ['\n'] :=
  List.flatMap_singleton _ line

theorem printed_append (ls ms : List String) : printed (ls ++ ms) = printed ls ++ printed ms :=
  List.flatMap_append

theorem toList_join_lines (ls : List String) :
    (String.join (ls.map (· ++ "\n"))).toList = printed ls := by
  simp [printed, String.toList_join, List.flatMap_map]

/-- The lines for the arguments are all that the roles make a difference to. -/
theorem printed_linesOf_inj {c : Command} {b b' : Breakdown} :
    printed (linesOf c b) = printed (linesOf c b') ↔ printed b.shown = printed b'.shown := by
  simp only [linesOf, printed_append, List.append_cancel_right_eq, List.append_cancel_left_eq]

theorem length_bareOption {option : String} (h : isChoosing option = true) :
    (bareOption option).toList.length = 4 := by
  rcases bareOption_of_isChoosing h with hbare | hbare
  · simp [hbare]
  · simp [hbare]

theorem length_choiceLine {p : String × String} (hp : isChoosing p.1 = true) :
    (choiceLine p).toList.length = 14 + p.2.toList.length := by
  rw [choiceLine, String.toList_append, String.toList_append, String.toList_append,
    List.length_append, List.length_append, List.length_append, length_bareOption hp]
  simp only [String.reduceToList, List.length_cons, List.length_nil]

/-- Two options take the same room, so the name can be told from the line. -/
theorem name_eq_of_choiceLine_eq {p q : String × String} (hp : isChoosing p.1 = true)
    (hq : isChoosing q.1 = true) (h : (choiceLine p).toList = (choiceLine q).toList) :
    p.2 = q.2 := by
  have hsplit (r : String × String) : (choiceLine r).toList =
      ("      • " ++ bareOption r.1 ++ ": ").toList ++ r.2.toList := String.toList_append
  rw [hsplit, hsplit] at h
  have hlength : ("      • " ++ bareOption p.1 ++ ": ").toList.length =
      ("      • " ++ bareOption q.1 ++ ": ").toList.length := by
    simp only [String.toList_append, List.length_append, length_bareOption hp,
      length_bareOption hq]
  exact String.toList_inj.1 (List.append_inj h hlength).2

theorem lineFeed_not_mem_choiceLine {option name : String} (hoption : isChoosing option = true)
    (hname : isChoosing name = true) : '\n' ∉ (choiceLine (option, name)).toList := by
  rcases eq_of_isChoosing hoption with rfl | rfl
  · rcases eq_of_isChoosing hname with rfl | rfl
    · decide
    · decide
  · rcases eq_of_isChoosing hname with rfl | rfl
    · decide
    · decide

theorem length_fileLine (file : String) :
    (fileLine file).toList.length = 15 + file.toList.length := by
  have hsplit : (fileLine file).toList = "      • suite: ".toList ++ file.toList :=
    String.toList_append
  rw [hsplit, List.length_append]
  simp only [String.reduceToList, List.length_cons, List.length_nil]

theorem printed_extraLines {args : List String} (h : args ≠ []) :
    printed (extraLines args) =
      ("      • extraArgs: " ++ Text.quotedList args).toList ++ ['\n'] := by
  simp [printed, extraLines, h]

theorem length_printed_extraLines (arg : String) (args : List String) :
    (printed (extraLines (arg :: args))).length = 20 + Text.listWidth (arg :: args) := by
  have hwidth := Text.length_quotedList_cons arg args
  rw [printed_extraLines (List.cons_ne_nil arg args), String.toList_append, List.length_append,
    List.length_append, hwidth]
  simp only [String.reduceToList, List.length_cons, List.length_nil]
  omega

theorem length_printed_extraLines_le {xs ys : List String} (h : xs.Sublist ys) :
    (printed (extraLines xs)).length ≤ (printed (extraLines ys)).length := by
  cases xs with
  | nil => exact Nat.zero_le _
  | cons x xs =>
      cases ys with
      | nil => cases h
      | cons y ys =>
          rw [length_printed_extraLines, length_printed_extraLines]
          exact Nat.add_le_add_left (Text.listWidth_le h) 20

theorem length_printed_extraLines_lt {xs ys : List String} (h : xs.Sublist ys) (hne : xs ≠ ys) :
    (printed (extraLines xs)).length < (printed (extraLines ys)).length := by
  cases ys with
  | nil => exact absurd (List.sublist_nil.1 h) hne
  | cons y ys =>
      rw [length_printed_extraLines]
      cases xs with
      | nil => exact Nat.lt_of_lt_of_le (Nat.succ_pos 19) (Nat.le_add_right 20 _)
      | cons x xs =>
          rw [length_printed_extraLines]
          exact Nat.add_lt_add_left (Text.listWidth_lt h hne) 20

/-- A line of a choice is no line of extra arguments. -/
theorem printed_choiceLine_ne {p : String × String} (hp : isChoosing p.1 = true)
    {extraArgs : List String} (hne : extraArgs ≠ []) (ls ms : List String) :
    printed (choiceLine p :: ls) ≠ printed (extraLines extraArgs ++ ms) := by
  intro h
  rcases bareOption_of_isChoosing hp with hbare | hbare
  · simp [printed, choiceLine, extraLines, hbare, hne] at h
  · simp [printed, choiceLine, extraLines, hbare, hne] at h

/-- The line of the choice can be read off what is printed if no line feed is in it, as none is in
the line behind it. -/
theorem choiceLine_eq_of_printed_shown_eq {p q : String × String} {xs ys : List String}
    {file : String} (hp : '\n' ∉ (choiceLine p).toList) (hxs : xs ≠ []) (hys : ys ≠ [])
    (h : printed (shown ⟨some p, xs, some file⟩) = printed (shown ⟨some q, ys, some file⟩)) :
    (choiceLine p).toList = (choiceLine q).toList := by
  have hextra : '\n' ∉ ("      • extraArgs: " ++ Text.quotedList xs).toList := by
    simp [Text.lineFeed_not_mem_quotedList]
  simp only [shown, printed_append, printed_singleton, Option.map_some, Option.toList_some,
    printed_extraLines hxs, printed_extraLines hys] at h
  have hlines := List.append_cancel_right h
  rw [← List.append_assoc, ← List.append_assoc] at hlines
  have hlines := List.append_cancel_right hlines
  rw [List.append_assoc, List.append_assoc] at hlines
  exact Text.eq_of_append_lineFeed_eq hp hextra hlines

section Misread

variable {l : Leading} {args : List String} {flag name file : String}

/-- A choosing option among the leading arguments shows a choice where there is none. -/
theorem printed_followedBy_file_ne (hl : l.IsOf args) (hne : l.extraArgs ≠ args)
    (hargs : args ≠ []) :
    printed (l.followedBy file []).shown ≠ printed (shown ⟨none, args, some file⟩) := by
  have hchoice : ∃ p, (l.followedBy file []).choice = some p ∧ isChoosing p.1 = true := by
    rw [Leading.followedBy]
    cases hwaiting : l.waiting with
    | some option =>
        exact ⟨(option, file), rfl, hl.isChoosing_waiting option hwaiting⟩
    | none =>
        cases hchoice : l.choice with
        | some p => exact ⟨p, rfl, hl.isChoosing_choice p hchoice⟩
        | none => exact absurd (hl.extraArgs_eq hchoice hwaiting) hne
  obtain ⟨p, hp, hchoosing⟩ := hchoice
  rw [shown, shown, hp]
  exact printed_choiceLine_ne hchoosing hargs _ _

/-- A choosing option that has its name among the leading arguments is missing from the extra
arguments, and so is its name. -/
theorem printed_followedBy_ne_of_waiting_none (hl : l.IsOf args) (hne : l.extraArgs ≠ args)
    (hflag : isChoosing flag = true) (hwaiting : l.waiting = none) :
    printed (l.followedBy flag [name, file]).shown ≠
      printed (shown ⟨some (flag, name), args, some file⟩) := by
  have hroles : l.followedBy flag [name, file] = ⟨some (flag, name), l.extraArgs, some file⟩ := by
    simp [Leading.followedBy, hwaiting, ofArgs, hflag]
  have hlength := length_printed_extraLines_lt hl.sublist hne
  intro h
  have hsame := congrArg List.length h
  simp only [hroles, shown, printed_append, List.length_append] at hsame
  omega

/-- A choosing option at the end of the leading arguments takes the flag for its name. If the name
is spelled like a choosing option too, it takes the file for its name, and no file is left. -/
theorem printed_followedBy_ne_of_isChoosing_name (hl : l.IsOf args) (hflag : isChoosing flag = true)
    {option : String} (hwaiting : l.waiting = some option) (hname : isChoosing name = true) :
    printed (l.followedBy flag [name, file]).shown ≠
      printed (shown ⟨some (flag, name), args, some file⟩) := by
  have hroles : l.followedBy flag [name, file] = ⟨some (name, file), l.extraArgs, none⟩ := by
    simp [Leading.followedBy, hwaiting, ofArgs, hname]
  have hextra := length_printed_extraLines_le hl.sublist
  have hchoice : (choiceLine (name, file)).toList.length = 14 + file.toList.length :=
    length_choiceLine hname
  have hchoice' : (choiceLine (flag, name)).toList.length = 14 + name.toList.length :=
    length_choiceLine hflag
  have hfile := length_fileLine file
  intro h
  have hsame := congrArg List.length h
  simp only [hroles, shown, printed_append, List.length_append, printed_singleton,
    Option.map_some, Option.map_none, Option.toList_some, Option.toList_none, printed_nil] at hsame
  simp only [List.length_nil, List.length_singleton, hchoice, hchoice', hfile] at hsame
  omega

/-- Otherwise the flag is shown as the name. -/
theorem printed_followedBy_ne_of_not_isChoosing_name (hl : l.IsOf args) (hargs : args ≠ [])
    (hflag : isChoosing flag = true)
    {option : String} (hwaiting : l.waiting = some option) (hname : isChoosing name = false) :
    printed (l.followedBy flag [name, file]).shown ≠
      printed (shown ⟨some (flag, name), args, some file⟩) := by
  have hroles : l.followedBy flag [name, file] =
      ⟨some (option, flag), l.extraArgs ++ [name], some file⟩ := by
    simp [Leading.followedBy, hwaiting, ofArgs, hname]
  have hextra : l.extraArgs ++ [name] ≠ [] := by
    intro hnil
    exact List.cons_ne_nil _ _ (List.append_eq_nil_iff.1 hnil).2
  have hoption := hl.isChoosing_waiting option hwaiting
  have hline : '\n' ∉ (choiceLine (option, flag)).toList :=
    lineFeed_not_mem_choiceLine hoption hflag
  rw [hroles]
  intro h
  have hsame := choiceLine_eq_of_printed_shown_eq hline hextra hargs h
  have hname' : flag = name := name_eq_of_choiceLine_eq hoption hflag hsame
  rw [← hname', hflag] at hname
  cases hname

end Misread

end Breakdown

/-- The roles that the arguments of the command for a marker are given. -/
def Config.roles (c : Config) (m : Marker) (file : Path) : Breakdown where
  choice := m.name.map fun name => (m.within.choosing, name)
  extraArgs := c.fixedArgs
  file := some file.text

namespace Config

open Breakdown

variable {c : Config} {m : Marker} {file : Path}

theorem isChoosing_choosing (within : Section) : isChoosing within.choosing = true := by
  cases within <;> decide

/-- With no argument before the choice that is spelled like one, the roles are found again. -/
theorem ofArgs_command (h : ∀ arg ∈ c.fixedArgs, isChoosing arg = false) :
    ofArgs (c.command m file).args = c.roles m file := by
  have hflag := isChoosing_choosing m.within
  rw [command, commandChoosing, Marker.choice, roles]
  cases m.name with
  | none =>
      rw [List.append_nil, ofArgs_append, leading_of_forall h]
      simp [Leading.followedBy, ofArgs]
  | some name =>
      rw [List.append_assoc, List.cons_append, ofArgs_append, leading_of_forall h]
      simp [Leading.followedBy, ofArgs, hflag]

theorem printed_shown_ne {arg : String} (harg : arg ∈ c.fixedArgs)
    (hchoosing : isChoosing arg = true) :
    printed (ofArgs (c.command m file).args).shown ≠ printed (c.roles m file).shown := by
  have hlead := isOf_leading c.fixedArgs
  have hargs : c.fixedArgs ≠ [] := List.ne_nil_of_mem harg
  have hne : (leading c.fixedArgs).extraArgs ≠ c.fixedArgs := by
    intro heq
    rw [← heq] at harg
    exact Bool.false_ne_true ((hlead.isChoosing_extraArgs arg harg).symm.trans hchoosing)
  have hflag := isChoosing_choosing m.within
  rw [command, commandChoosing, Marker.choice, roles]
  cases m.name with
  | none =>
      rw [List.append_nil, ofArgs_append]
      exact printed_followedBy_file_ne hlead hne hargs
  | some name =>
      rw [List.append_assoc, List.cons_append, ofArgs_append]
      cases hwaiting : (leading c.fixedArgs).waiting with
      | none => exact printed_followedBy_ne_of_waiting_none hlead hne hflag hwaiting
      | some option =>
          cases hname : isChoosing name with
          | true => exact printed_followedBy_ne_of_isChoosing_name hlead hflag hwaiting hname
          | false =>
              exact printed_followedBy_ne_of_not_isChoosing_name hlead hargs hflag hwaiting hname

/-- Whatever a configuration, a marker and a file are called, the breakdown of the command for the
marker shows the arguments by the roles that they were given, just when no argument before the
choice is spelled like a choosing option. Otherwise it has another text, not only other roles. -/
theorem breakdown_command_iff (c : Config) (m : Marker) (file : Path) :
    ((c.command m file).breakdown =
        String.join ((linesOf (c.command m file) (c.roles m file)).map (· ++ "\n")) ↔
      ∀ arg ∈ c.fixedArgs, isChoosing arg = false) ∧
    (ofArgs (c.command m file).args = c.roles m file ↔
      ∀ arg ∈ c.fixedArgs, isChoosing arg = false) := by
  have hwrong : ∀ arg ∈ c.fixedArgs, isChoosing arg = true →
      printed (ofArgs (c.command m file).args).shown ≠ printed (c.roles m file).shown :=
    fun arg harg hchoosing => printed_shown_ne harg hchoosing
  rw [Command.breakdown, lines_eq_linesOf]
  refine ⟨⟨?_, ?_⟩, ?_, ofArgs_command⟩
  · intro htext arg harg
    have hprinted := congrArg String.toList htext
    rw [toList_join_lines, toList_join_lines, printed_linesOf_inj] at hprinted
    exact Bool.eq_false_iff.2 fun hchoosing => hwrong arg harg hchoosing hprinted
  · intro h
    rw [ofArgs_command h]
  · intro hroles arg harg
    apply Bool.eq_false_iff.2
    intro hchoosing
    apply hwrong arg harg hchoosing
    rw [hroles]

/-- The extra arguments `--test Smoke` are not shown at all. -/
theorem breakdown_command_testOption :
    let c : Config := { Config.default with
      runner := { RunnerConfig.default with extraArgs := ["--test", "Smoke"] } }
    let m : Marker := .runCase ⟨0, 4⟩ ⟨1, 0⟩ .testCases "Case"
    let run := c.command m ⟨"a.robot"⟩
    run.args = ["--test", "Smoke", "--test", "Case", "a.robot"] ∧
      c.roles m ⟨"a.robot"⟩ = ⟨some ("--test", "Case"), ["--test", "Smoke"], some "a.robot"⟩ ∧
      ofArgs run.args = ⟨some ("--test", "Case"), [], some "a.robot"⟩ ∧
      run.breakdown = "   🔧 Command breakdown:\n      • command: robot\n      • test: Case\n" ++
        "      • suite: a.robot\n" ∧
      run.breakdown ≠
        String.join ((linesOf run (c.roles m ⟨"a.robot"⟩)).map (· ++ "\n")) := by
  decide +kernel

end Config

end RunMarkers
