import GinSave.Proofs.Cli.Frame
import GinSave.Proofs.Config.Loadable
import GinSave.App.Commands

/-! Runs and the settings file. Every run opens the settings before its command, so a settings
file that loads, or that is missing from a directory where it may be written, lets every run
start (`startRun_starts`). The commands of `config` only print, or save settings whose directory
is a text, so a `config` run that starts leaves the file loadable (`startRun_config_loadable`);
`config reset --confirm` writes the initial settings over it and ends with code 0
(`startRun_reset`). A settings file that does not read as settings stops every run before its
command, the reset included (`reset_blocked_by_unreadable_settings`). -/

namespace GinSave.App

open GinSave.Cli GinSave.Store GinSave.Config

/-! ### The commands of `config` keep the settings file loadable -/

section keeps

variable {Q : Volume → List String → Prop}

theorem keeps_print (msg : String) : Keeps (OnFiles Q) (print msg) :=
  keeps_act (keeps_say msg)

theorem keeps_runConfigGet (s : Setup) (ps : Params) : Keeps (OnFiles Q) (runConfigGet s ps) := by
  unfold runConfigGet
  dsimp only
  split <;> exact keeps_print _

theorem keeps_runConfigList (s : Setup) (ps : Params) : Keeps (OnFiles Q) (runConfigList s ps) := by
  unfold runConfigList
  refine Keeps.ite (keeps_print _)
    (Keeps.bind (Keeps.forIn (fun ⟨k, v⟩ _ => ?_) _ _) fun _ => Keeps.pure _)
  exact Keeps.bind (keeps_print _) fun _ => Keeps.pure _

/-- Setting a key keeps the file and makes the value given the directory. -/
theorem Manager.set_ok {m m' : Manager} {key : String} {v : Json.Value} (ok : m.set key v = .ok m') :
    m'.file = m.file ∧ m'.settings = ⟨v⟩ := by
  unfold Manager.set Settings.set at ok
  by_cases named : (key == "game_dir") = true
  · simp only [named, if_true, bind, Except.bind, pure, Except.pure, Except.ok.injEq] at ok
    subst ok
    exact ⟨rfl, rfl⟩
  · simp [named, bind, Except.bind] at ok

variable {dir : FsPath}

/-- Saving settings whose directory is a text over a settings file that loads leaves one that
loads. -/
theorem keeps_loadable_save {m : Manager} {g : String} (at_ : m.file = settingsFile dir)
    (text : m.settings = ⟨.str g⟩) : Keeps (OnFiles (Loadable dir)) m.save := by
  rintro w ⟨place, bytes, st, file, -⟩
  rw [save_settingsFile file at_]
  exact ⟨place, _, _, file.put _, text ▸ readsAs_text_str g⟩

theorem keeps_runConfigReset {s : Setup} (at_ : s.settings.file = settingsFile dir) (ps : Params) :
    Keeps (OnFiles (Loadable dir)) (runConfigReset s ps) := by
  unfold runConfigReset
  exact Keeps.ite (Keeps.bind (keeps_act (keeps_loadable_save at_ rfl)) fun _ => keeps_print _)
    (keeps_print _)

theorem keeps_runConfigSet {s : Setup} (at_ : s.settings.file = settingsFile dir) (ps : Params) :
    Keeps (OnFiles (Loadable dir)) (runConfigSet s ps) := by
  unfold runConfigSet
  dsimp only
  split
  · rename_i m set
    obtain ⟨sameFile, text⟩ := Manager.set_ok set
    exact Keeps.bind (keeps_act (keeps_loadable_save (sameFile.trans at_) text)) fun _ =>
      keeps_print _
  · exact keeps_print _

/-- Below `config`, the program sets off nothing as values are processed, has no step of its own
for a group, and runs one of the four commands of `config`, each keeping the file loadable. -/
theorem stepsKeep_config {s : Setup} (at_ : s.settings.file = settingsFile dir) :
    StepsKeep (OnFiles (Loadable dir)) (program s) ["config"] where
  onValue := by
    rintro names dest v ⟨rest, rfl⟩
    exact Keeps.pure _
  atGroup := by
    rintro names ps follows ⟨rest, rfl⟩
    exact Keeps.pure _
  body := by
    rintro names ps ⟨rest, rfl⟩
    simp only [program]
    split
    case h_4 => exact keeps_runConfigGet s ps
    case h_5 => exact keeps_runConfigList s ps
    case h_6 => exact keeps_runConfigReset at_ ps
    case h_7 => exact keeps_runConfigSet at_ ps
    case h_10 => exact Keeps.pure _
    -- the commands outside `config` are never reached from it
    all_goals rename_i named; simp at named

end keeps

/-! ### A run of `config`, stage by stage -/

theorem read_rootCommand_config (rest : List String) :
    rootCommand.read ("config" :: rest) = .ok ⟨[], "config" :: rest⟩ := by
  simp [Command.read, readArgs, rootCommand, Command.isGroup]

/-- Nothing given to the root, each of its options takes its absent value, and none sets off a
completion step. -/
theorem processAll_root (s : Setup) (w : World) :
    (processAll programName rootCommand ⟨[], []⟩ ((program s).onValue [])).run w =
      .ok ([("version", .switch false), ("help", .switch false), ("install_completion", .none),
        ("show_completion", .none)], []) w := by
  simp [program, processAll, processingOrder, Reading.order, rootCommand, Command.params,
    Command.arguments, distribute, processParam, Reading.last?, completionStep, Command.helpOption]

/-- A run whose first text is `config` is a run of the `config` group on the texts after it. -/
theorem runCommand_root_config (s : Setup) (rest : List String) (w : World) :
    (runCommand (program s) 8 [] programName rootCommand ("config" :: rest)).run w =
      (runCommand (program s) 7 ["config"] (programName ++ " config") configCommand rest).run w := by
  refine (runCommand_group (List.cons_ne_nil _ _) (read_rootCommand_config rest)
    (processAll_root s w) rfl rfl).trans ?_
  -- the root's own step does nothing when a command follows and no version was asked for
  simp [program, atRoot, switchOf, Params.get]
  rfl

theorem read_configCommand_reset (rest : List String) :
    configCommand.read ("reset" :: rest) = .ok ⟨[], "reset" :: rest⟩ := by
  simp [Command.read, readArgs, configCommand, Command.isGroup]

theorem read_configReset : configReset.read ["--confirm"] = .ok ⟨[("confirm", .switch true)], []⟩ := by
  have unsplit : "--confirm".splitOn "=" = ["--confirm"] := by
    simp +decide [String.splitOn, String.splitOnAux]
  have long : ("--".length == 1 && "confirm".length == 1) = false := by decide
  simp +decide [Command.read, readArgs, readOption, unsplit, configReset, Command.optionNamed?,
    Command.options, Command.params, OptionSpec.namesWithState, isShortName, splitOption,
    Reading.add, Command.helpOption, long]

theorem processAll_config (s : Setup) (path : String) (w : World) :
    (processAll path configCommand ⟨[], []⟩ ((program s).onValue ["config"])).run w =
      .ok ([("help", .switch false)], []) w := by
  simp [program, processAll, processingOrder, Reading.order, configCommand, Command.params,
    Command.arguments, distribute, processParam, Reading.last?, Command.helpOption]

theorem processAll_configReset (s : Setup) (path : String) (w : World) :
    (processAll path configReset ⟨[("confirm", .switch true)], []⟩
      ((program s).onValue ["config", "reset"])).run w =
      .ok ([("help", .switch false), ("confirm", .switch true)], []) w := by
  simp only [program, List.isEmpty_cons, Bool.false_eq_true, if_false]
  cbv

/-- `config reset --confirm`, once below the root, runs the reset with the switch on. -/
theorem runCommand_config_reset (s : Setup) (path : String) (w : World) :
    (runCommand (program s) 7 ["config"] path configCommand ["reset", "--confirm"]).run w =
      (runConfigReset s [("help", .switch false), ("confirm", .switch true)]).run w := by
  refine (runCommand_group (List.cons_ne_nil _ _) (read_configCommand_reset _)
    (processAll_config s path w) rfl rfl).trans ?_
  simp only [program, List.isEmpty_cons, Bool.false_eq_true, if_false, EStateM.run_bind,
    EStateM.run_pure]
  exact runCommand_leaf read_configReset (processAll_configReset s _ w)

/-! ### The reset -/

section reset

variable {dir : FsPath} {w : World} {place : List String} {bytes : ByteArray}

/-- The world after a reset over the settings file in `place`: the initial settings written
there, and the message printed. -/
def resetWorld (w : World) (place : List String) : World :=
  { w with
    store := w.store.put (place ++ ["config.json"]) (.file Settings.initial.text.toUTF8)
    printed := w.printed.push "Finished resetting your configuration.\n" }

theorem say_reset (w : World) : (say "Finished resetting your configuration.").run w =
    .ok () { w with printed := w.printed.push "Finished resetting your configuration.\n" } :=
  say_run w (by decide +kernel)

theorem runConfigReset_confirmed {s : Setup} (at_ : s.settings.file = settingsFile dir)
    (file : SettingsFile dir w.store w.cwd place bytes) :
    (runConfigReset s [("help", .switch false), ("confirm", .switch true)]).run w =
      .ok () (resetWorld w place) := by
  have saved := save_settingsFile file (m := s.settings.reset) at_
  have confirmed : switchOf [("help", .switch false), ("confirm", .switch true)] "confirm" = true := by
    decide
  simp only [runConfigReset, confirmed, if_true, print, EStateM.run_bind, act_run_ok saved,
    act_run_ok (say_reset _)]
  rfl

/-- Over a settings file that is there, `config reset --confirm` writes the initial settings,
says so and ends with code 0. -/
theorem program_run_reset {s : Setup} (at_ : s.settings.file = settingsFile dir)
    (file : SettingsFile dir w.store w.cwd place bytes) :
    ((program s).run ["config", "reset", "--confirm"]).run w = .ok ⟨0, none⟩ (resetWorld w place) := by
  have commands : (runCommand (program s) 8 [] programName rootCommand
      ["config", "reset", "--confirm"]).run w = .ok () (resetWorld w place) :=
    (runCommand_root_config s _ w).trans
      ((runCommand_config_reset s _ w).trans (runConfigReset_confirmed at_ file))
  simp only [Program.run, EStateM.run_bind, EStateM.run_get]
  rw [show (program s).root = rootCommand from rfl, show (program s).rootName = programName from rfl,
    commands]
  rfl

end reset

/-! ### Starting a run -/

theorem startRun_run (platform : String) (dir home : FsPath) (args : List String) (w : World) :
    (startRun platform dir home args).run w =
      match (Manager.openIn dir).run w with
      | .ok m w₁ =>
        match ((program ⟨platform, m, home⟩).run args).run w₁ with
        | .ok ending w' => .ok ending w'
        | .error _ w' => .ok ⟨1, none⟩ w'
      | .error f w₁ => .error f w₁ := by
  simp only [startRun, bind, EStateM.bind, EStateM.run]
  cases Manager.openIn dir w <;> rfl

/-- The settings of `dir` open: their file loads, or it is missing from a directory that is
there and may be written. -/
def Openable (dir : FsPath) (s : Volume) (cwd : List String) : Prop :=
  Loadable dir s cwd ∨ ∃ place, s.locate cwd (settingsFile dir) = .ok (place, some "config.json") ∧
    s.find? (place ++ ["config.json"]) = none ∧ s.writable place = true

section start

variable {platform : String} {dir home : FsPath} {w w' : World} {ending : Ending}

theorem openIn_opens (openable : Openable dir w.store w.cwd) :
    ∃ m w₁, (Manager.openIn dir).run w = .ok m w₁ := by
  rcases openable with ⟨place, bytes, st, file, reads⟩ | ⟨place, located, missing, room⟩
  · exact ⟨_, _, openIn_settingsFile file reads⟩
  · exact ⟨_, _, openIn_missing located missing room⟩

/-- Settings that open let every run start, whatever its texts. -/
theorem startRun_starts (openable : Openable dir w.store w.cwd) (args : List String) :
    ∃ ending w', (startRun platform dir home args).run w = .ok ending w' := by
  obtain ⟨m, w₁, opened⟩ := openIn_opens openable
  rw [startRun_run, opened]
  dsimp only
  split
  · exact ⟨_, _, rfl⟩
  · exact ⟨_, _, rfl⟩

/-- A run of `config` that starts leaves the settings file loadable, however it ends. -/
theorem startRun_config_loadable {rest : List String}
    (ran : (startRun platform dir home ("config" :: rest)).run w = .ok ending w') :
    Loadable dir w'.store w'.cwd := by
  rw [startRun_run] at ran
  split at ran
  · rename_i m w₁ opened
    obtain ⟨loadable, -, at_⟩ := openIn_loadable opened
    -- the root hands the run to `config`, whose commands keep the file loadable
    have commands : Keeps (OnFiles (Loadable dir)) (runCommand (program ⟨platform, m, home⟩) 8 []
        programName rootCommand ("config" :: rest)) := by
      intro v kept
      rw [runCommand_root_config]
      exact runCommand_keeps (stepsKeep_config at_) 7 ["config"] _ configCommand rest
        (List.prefix_refl _) v kept
    have kept := Program.run_keeps commands w₁ loadable
    split at ran <;> rename_i ended <;> rw [ended] at kept <;> cases ran <;> exact kept
  · cases ran

/-- A run of `config reset --confirm` that starts ends with code 0 and the initial settings in
the settings file, after which every run starts. -/
theorem startRun_reset
    (ran : (startRun platform dir home ["config", "reset", "--confirm"]).run w = .ok ending w') :
    ending.code = 0 ∧ (∃ place, SettingsFile dir w'.store w'.cwd place Settings.initial.text.toUTF8) ∧
      ∀ args, ∃ ending' w'', (startRun platform dir home args).run w' = .ok ending' w'' := by
  rw [startRun_run] at ran
  split at ran
  · rename_i m w₁ opened
    obtain ⟨⟨place, bytes, st, file, -⟩, -, at_⟩ := openIn_loadable opened
    rw [program_run_reset at_ file] at ran
    cases ran
    have reset := file.put Settings.initial.text.toUTF8
    have loadable : Loadable dir (resetWorld w₁ place).store (resetWorld w₁ place).cwd :=
      ⟨place, _, _, reset, readsAs_text_str defaultGameDir⟩
    exact ⟨rfl, ⟨place, reset⟩, fun args => startRun_starts (.inl loadable) args⟩
  · cases ran

end start

/-- The settings can always be put right from within the program, as far as a run starts: settings
that open let every run start; a run of `config reset --confirm` that starts ends with code 0 and
the initial settings written, after which every run starts; and a run of `config` that starts
leaves the settings file loadable. -/
theorem settings_recover (platform : String) (dir home : FsPath) :
    (∀ w args, Openable dir w.store w.cwd →
      ∃ ending w', (startRun platform dir home args).run w = .ok ending w') ∧
    (∀ w ending w', (startRun platform dir home ["config", "reset", "--confirm"]).run w = .ok ending w' →
      ending.code = 0 ∧ (∃ place, SettingsFile dir w'.store w'.cwd place Settings.initial.text.toUTF8) ∧
        ∀ args, ∃ ending' w'', (startRun platform dir home args).run w' = .ok ending' w'') ∧
    (∀ w rest ending w', (startRun platform dir home ("config" :: rest)).run w = .ok ending w' →
      Loadable dir w'.store w'.cwd) :=
  ⟨fun _ args openable => startRun_starts openable args, fun _ _ _ ran => startRun_reset ran,
    fun _ _ _ _ ran => startRun_config_loadable ran⟩

/-! ### A settings directory `/s` holding one file -/

/-- A world whose store holds the settings directory `/s` and in it `config.json` with
`content`. -/
def settingsWorld (content : ByteArray) : World :=
  ⟨⟨[(["s"], .dir 0o755), (["s", "config.json"], .file content)]⟩, [], #[], []⟩

theorem settingsWorld_file (content : ByteArray) :
    SettingsFile ⟨"/", ["s"]⟩ (settingsWorld content).store (settingsWorld content).cwd ["s"]
      content := by
  have short : ¬255 < "s".utf8ByteSize := by decide
  have short' : ¬255 < "config.json".utf8ByteSize := by decide
  constructor
  · simp [short, short', bind, Except.bind, pure, Except.pure, settingsWorld, Volume.locate,
      settingsFile, FsPath.join, parse_configName, absoluteParts, Volume.walk, Volume.searchable,
      Volume.modeAt, Volume.find?, FsPath.text]
  · simp [settingsWorld, Volume.find?]

theorem settings_recover_initial :
    ∃ ending w', (startRun "win32" ⟨"/", ["s"]⟩ ⟨"/", []⟩ ["config", "reset", "--confirm"]).run
      (settingsWorld Settings.initial.text.toUTF8) = .ok ending w' ∧ ending.code = 0 := by
  have openable : Openable ⟨"/", ["s"]⟩ (settingsWorld Settings.initial.text.toUTF8).store
      (settingsWorld Settings.initial.text.toUTF8).cwd :=
    .inl ⟨["s"], _, _, settingsWorld_file _, readsAs_text_str defaultGameDir⟩
  obtain ⟨ending, w', ran⟩ := (settings_recover "win32" _ ⟨"/", []⟩).1 _ _ openable
  exact ⟨ending, w', ran, ((settings_recover "win32" _ _).2.1 _ _ _ ran).1⟩

/-- A settings file holding `x`, which is no JSON, stops the run of `config reset --confirm`
before its command: the reset cannot put it right. -/
theorem reset_blocked_by_unreadable_settings :
    ∃ f, (startRun "win32" ⟨"/", ["s"]⟩ ⟨"/", []⟩ ["config", "reset", "--confirm"]).run
      (settingsWorld "x".toUTF8) = .error f (settingsWorld "x".toUTF8) := by
  have decoded : GinSave.Text.decodeUtf8 "x".toUTF8 = .ok "x" :=
    GinSave.Text.decodeUtf8_toUTF8_ascii "x" (by simp)
  have refused : (Settings.read "x").toBool = false := by with_unfolding_all decide
  cases read : Settings.read "x" with
  | ok st => simp [read, Except.toBool] at refused
  | error f =>
    refine ⟨f, ?_⟩
    rw [startRun_run, openIn_refused (settingsWorld_file _) decoded read]
end GinSave.App
