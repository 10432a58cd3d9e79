import RunMarkers.Proofs.Command.ShellLine

/-!
# What a shell takes a line for

That the words of a shell line are the right ones (`split_shellLine`) does not make a shell take each
of them for what it is. A program such as `MODE=fast` needs no quotes to be one word, but without
them it sets a variable and the word after it is the program. Such a program, and a variable without
a proper name, are all that goes wrong (`simpleCommand_shellLine_iff`).
-/

namespace RunMarkers

namespace Shell

/-- A text that is written without quotes and that a shell takes for the setting of a variable. -/
def IsBareSetting (cs : List Char) : Prop :=
  (∀ c ∈ cs, isPlain c = true) ∧ ∃ name value, cs = name ++ '=' :: value ∧ isName name = true

theorem equals_not_mem_of_isName {name : List Char} (h : isName name = true) : '=' ∉ name := by
  intro hmem
  have hequals := isNameChar_of_mem h hmem
  exact absurd hequals (by decide)

theorem eq_map_bare_of_all_isBare {w : List Part} (h : w.all Part.isBare = true) :
    w = (textOf w).map .bare := by
  induction w with
  | nil => rfl
  | cons p w ih =>
      rw [List.all_cons, Bool.and_eq_true] at h
      cases p with
      | bare c => exact congrArg (Part.bare c :: ·) (ih h.2)
      | quoted c => exact absurd h.1 Bool.false_ne_true
      | mark => exact absurd h.1 Bool.false_ne_true

/-- A word sets a variable if it starts with a name and an equals sign, both without quotes. -/
theorem settingOf?_eq_some_iff {w : List Part} {s : String × String} :
    settingOf? w = some s ↔
      ∃ name value, w = name.map .bare ++ .bare '=' :: value ∧ isName name = true ∧
        (String.ofList name, text value) = s := by
  constructor
  · intro h
    have hw := List.takeWhile_append_dropWhile (p := (· != Part.bare '=')) (l := w)
    rw [settingOf?] at h
    split at h
    next => cases h
    next p value hdrop =>
        obtain rfl : p = .bare '=' := by
          have hhead := List.head_dropWhile_not (· != Part.bare '=') (l := w) (by simp [hdrop])
          simpa [hdrop] using hhead
        split at h
        next hname =>
            rw [Bool.and_eq_true] at hname
            refine ⟨_, value, ?_, hname.2, Option.some.inj h⟩
            rw [← eq_map_bare_of_all_isBare hname.1, ← hdrop, hw]
        next => cases h
  · rintro ⟨name, value, rfl, hname, rfl⟩
    -- a name holds no equals sign, so the one after it is the first
    have hbefore : ∀ p ∈ name.map Part.bare, (p != .bare '=') = true := by
      intro p hp
      obtain ⟨c, hc, rfl⟩ := List.mem_map.1 hp
      rw [bne_iff_ne]
      rintro h
      cases h
      exact equals_not_mem_of_isName hname hc
    have htake : (name.map Part.bare ++ .bare '=' :: value).takeWhile (· != .bare '=') =
        name.map .bare := by
      rw [List.takeWhile_append_of_pos hbefore, List.takeWhile_cons_of_neg (by simp), List.append_nil]
    have hdrop : (name.map Part.bare ++ .bare '=' :: value).dropWhile (· != .bare '=') =
        .bare '=' :: value := by
      rw [List.dropWhile_append_of_pos hbefore, List.dropWhile_cons_of_neg (by simp)]
    have hbare : (name.map Part.bare).all Part.isBare = true := by simp [Part.isBare]
    simp only [settingOf?]
    rw [htake, hdrop]
    simp [hbare, hname, text]

theorem settingOf?_settingParts {e : String × String} (hname : isName e.1.toList = true) :
    settingOf? (settingParts e) = some e :=
  settingOf?_eq_some_iff.2 ⟨e.1.toList, wordParts e.2.toList, rfl, hname, by simp⟩

theorem bare_not_mem_quotedParts (c : Char) (cs : List Char) :
    Part.bare c ∉ cs.flatMap quotedParts := by
  intro hmem
  obtain ⟨d, -, hd⟩ := List.mem_flatMap.1 hmem
  rw [quotedParts] at hd
  split at hd
  next => simp at hd
  next => simp at hd

theorem exists_settingOf?_wordParts_iff {cs : List Char} :
    (∃ s, settingOf? (wordParts cs) = some s) ↔ IsBareSetting cs := by
  constructor
  · rintro ⟨s, hs⟩
    obtain ⟨name, value, hword, hname, -⟩ := settingOf?_eq_some_iff.1 hs
    rw [wordParts] at hword
    split at hword
    next hplain =>
        rw [Bool.and_eq_true, List.all_eq_true] at hplain
        obtain ⟨before, rest, rfl, hbefore, hrest⟩ := List.map_eq_append_iff.1 hword
        obtain ⟨c, later, rfl, hc, -⟩ := List.map_eq_cons_iff.1 hrest
        obtain rfl := (List.map_inj_right fun a b h => Part.bare.inj h).1 hbefore
        exact ⟨hplain.2, before, later, by rw [Part.bare.inj hc], hname⟩
    next =>
        have hmem : Part.bare '=' ∈ Part.mark :: cs.flatMap quotedParts := by simp [hword]
        exact absurd (List.mem_of_ne_of_mem (by simp) hmem) (bare_not_mem_quotedParts '=' cs)
  · rintro ⟨hplain, name, value, rfl, hname⟩
    refine ⟨_, settingOf?_eq_some_iff.2 ⟨name, value.map .bare, ?_, hname, rfl⟩⟩
    have hall : (name ++ '=' :: value).all isPlain = true := List.all_eq_true.2 hplain
    rw [wordParts, hall]
    simp

namespace SimpleCommand

theorem ofWords_append_settings {env : List (String × String)}
    (hnames : ∀ e ∈ env, isName e.1.toList = true) (ws : List (List Part)) :
    ofWords (env.map settingParts ++ ws) =
      { ofWords ws with settings := env ++ (ofWords ws).settings } := by
  induction env with
  | nil => rfl
  | cons e env ih =>
      rw [List.map_cons, List.cons_append, ofWords,
        settingOf?_settingParts (hnames e List.mem_cons_self),
        ih fun a ha => hnames a (List.mem_cons_of_mem e ha)]
      rfl

theorem isName_of_mem_settings_ofWords {ws : List (List Part)} {s : String × String}
    (hs : s ∈ (ofWords ws).settings) : isName s.1.toList = true := by
  induction ws with
  | nil => exact absurd hs List.not_mem_nil
  | cons w ws ih =>
      rw [ofWords] at hs
      cases hw : settingOf? w with
      | none => rw [hw] at hs; exact absurd hs List.not_mem_nil
      | some t =>
          rw [hw] at hs
          rcases List.mem_cons.1 hs with rfl | hs
          · obtain ⟨name, value, -, hname, rfl⟩ := settingOf?_eq_some_iff.1 hw
            simpa using hname
          · exact ih hs

end SimpleCommand

end Shell

namespace Command

open Shell

theorem simpleCommand_shellLine {c : Command} (hnames : ∀ e ∈ c.env, isName e.1.toList = true) :
    simpleCommand c.shellLine =
      .ok { SimpleCommand.ofWords (commandParts c) with
        settings := c.env ++ (SimpleCommand.ofWords (commandParts c)).settings } := by
  rw [simpleCommand, read_shellLine hnames, Except.map, SimpleCommand.ofWords_append_settings hnames]

/-- A shell takes the line of a command for that command just when every variable has a name and the
program is no setting of a variable that stands without quotes. -/
theorem simpleCommand_shellLine_iff (c : Command) :
    simpleCommand c.shellLine = .ok ⟨c.env, some c.program, c.args⟩ ↔
      (∀ e ∈ c.env, isName e.1.toList = true) ∧ ¬IsBareSetting c.program.toList := by
  constructor
  · intro h
    have hnames : ∀ e ∈ c.env, isName e.1.toList = true := by
      rw [simpleCommand] at h
      cases hread : read c.shellLine with
      | error e => rw [hread] at h; cases h
      | ok ws =>
          rw [hread] at h
          have henv : (SimpleCommand.ofWords ws).settings = c.env :=
            congrArg SimpleCommand.settings (Except.ok.inj h)
          rw [← henv]
          exact fun e he => SimpleCommand.isName_of_mem_settings_ofWords he
    refine ⟨hnames, fun hprogram => ?_⟩
    -- a program that is taken for a setting makes the settings one too many
    obtain ⟨s, hs⟩ := exists_settingOf?_wordParts_iff.2 hprogram
    rw [simpleCommand_shellLine hnames, commandParts, SimpleCommand.ofWords, hs] at h
    have henv := congrArg SimpleCommand.settings (Except.ok.inj h)
    simp at henv
  · rintro ⟨hnames, hprogram⟩
    have hnone : settingOf? (wordParts c.program.toList) = none := by
      rw [Option.eq_none_iff_forall_ne_some]
      exact fun s hs => hprogram (exists_settingOf?_wordParts_iff.1 ⟨s, hs⟩)
    rw [simpleCommand_shellLine hnames, commandParts, SimpleCommand.ofWords, hnone]
    simp [Function.comp_def]

end Command

namespace Config

open Shell

/-- Whatever a configuration, a marker and a file are called, a shell takes the line of the command
for it for that command, just when every variable of the configuration has a name and the program is
no setting of a variable that stands without quotes. -/
theorem simpleCommand_command_iff (c : Config) (m : Marker) (file : Path) :
    simpleCommand (c.command m file).shellLine =
        .ok ⟨(c.command m file).env, some (c.command m file).program, (c.command m file).args⟩ ↔
      (∀ e ∈ c.runner.env.entries, isName e.1.toList = true) ∧
        ¬IsBareSetting c.program.toList :=
  Command.simpleCommand_shellLine_iff (c.command m file)

/-- The program `MODE=fast` is taken for the setting of a variable, and its first argument for the
program. -/
theorem simpleCommand_command_setting :
    let c : Config := { Config.default with
      runner := { RunnerConfig.default with command := some "MODE=fast robot" } }
    let run := c.command (.runCase ⟨0, 4⟩ ⟨1, 0⟩ .testCases "Case") ⟨"a.robot"⟩
    run = ⟨"MODE=fast", ["robot", "--test", "Case", "a.robot"], none, []⟩ ∧
      simpleCommand run.shellLine =
        .ok ⟨[("MODE", "fast")], some "robot", ["--test", "Case", "a.robot"]⟩ ∧
      simpleCommand run.shellLine ≠ .ok ⟨run.env, some run.program, run.args⟩ := by
  decide

end Config

end RunMarkers
