import GinSave.Proofs.Config.Runs

/-! The game's directory, once set, stays set. A run of `config set game_dir v` that starts saves
settings whose directory is `v` (`startRun_set_gameDir`), but every later run reads the file
afresh, and reading takes the directory as a path: what comes back is the path's normal text, so
a trailing slash or a `.` part is gone. A run of `config` whose command is neither `set` nor
`reset` only reads and prints (`keeps_config_quiet`), so after any number of such runs the
settings open with that directory (`gameDir_persists`). A value that reads as an option, such as
`-x`, is refused as one and sets nothing (`gameDir_set_as_path`). -/

namespace GinSave.Config

theorem Settings.get_gameDir (t : String) : (⟨.str t⟩ : Settings).get "game_dir" = .ok t := by
  simp [Settings.get, Settings.pairs, shownValue, Save.Node.ofDocument, Save.Node.plainText]

end GinSave.Config

namespace GinSave.App

open GinSave.Cli GinSave.Store GinSave.Config

/-! ### Texts that read as values -/

/-- A text read as a value and not as an option: not `--`, and not starting with `-` unless it is
`-` alone. -/
def PlainArg (v : String) : Prop :=
  v ≠ "--" ∧ ¬(v.startsWith "-" = true ∧ 1 < v.length)

theorem PlainArg.texts {v : String} (plain : PlainArg v) :
    (v == "--") = false ∧ (v.startsWith "-" && decide (v.length > 1)) = false := by
  obtain ⟨notEnd, notOption⟩ := plain
  refine ⟨beq_false_of_ne notEnd, ?_⟩
  cases starts : v.startsWith "-" <;> simp_all

/-- `config` reads a first text that is a value as the name of its command, and hands on the
rest unread. -/
theorem read_configCommand_named {name : String} (plain : PlainArg name) (rest : List String) :
    configCommand.read (name :: rest) = .ok ⟨[], name :: rest⟩ := by
  obtain ⟨notEnd, notOption⟩ := plain.texts
  simp only [Command.read, List.length_cons, readArgs, notEnd, notOption, Bool.false_eq_true, if_false,
    configCommand, Command.isGroup, Bool.not_true]
  rfl

theorem read_configSet {v : String} (plain : PlainArg v) :
    configSet.read ["game_dir", v] = .ok ⟨[], ["game_dir", v]⟩ := by
  obtain ⟨notEnd, notOption⟩ := plain.texts
  have named : ("game_dir" == "--") = false ∧
      ("game_dir".startsWith "-" && decide ("game_dir".length > 1)) = false := by
    with_unfolding_all decide
  simp only [Command.read, List.length_cons, readArgs, notEnd, notOption, named.1, named.2,
    Bool.false_eq_true, if_false, configSet, Command.isGroup, Bool.not_false, if_true]
  rfl

theorem processAll_configSet (s : Setup) (path v : String) (w : World) :
    (processAll path configSet ⟨[], ["game_dir", v]⟩ ((program s).onValue ["config", "set"])).run w =
      .ok ([("help", .switch false), ("key", .text "game_dir"), ("value", .text v)], []) w := by
  simp only [program, List.isEmpty_cons, Bool.false_eq_true, if_false]
  cbv

/-- `config set` goes straight on to its command. -/
theorem runCommand_config_set_enter (s : Setup) (path : String) (rest : List String) (w : World) :
    (runCommand (program s) 7 ["config"] path configCommand ("set" :: rest)).run w =
      (runCommand (program s) 6 ["config", "set"] (path ++ " " ++ "set") configSet rest).run w := by
  refine (runCommand_group (List.cons_ne_nil _ _) (read_configCommand_named ⟨by decide, by with_unfolding_all decide⟩ _)
    (processAll_config s path w) rfl rfl).trans ?_
  simp only [program, List.isEmpty_cons, Bool.false_eq_true, if_false, EStateM.run_bind,
    EStateM.run_pure, List.cons_append, List.nil_append]

/-- `config set` given texts its command does not read stops with a usage error, before any step
of its own. -/
theorem runCommand_config_set_refused (s : Setup) (path : String) {rest : List String} {e : UsageError}
    (refused : configSet.read rest = .error e) (w : World) :
    (runCommand (program s) 7 ["config"] path configCommand ("set" :: rest)).run w =
      .error (.usage (usageText (path ++ " " ++ "set") configSet e)) w := by
  rw [runCommand_config_set_enter]
  exact runCommand_leaf_refused refused

theorem runCommand_config_set (s : Setup) (path : String) {v : String} (plain : PlainArg v) (w : World) :
    (runCommand (program s) 7 ["config"] path configCommand ["set", "game_dir", v]).run w =
      (runConfigSet s [("help", .switch false), ("key", .text "game_dir"), ("value", .text v)]).run w := by
  rw [runCommand_config_set_enter]
  exact runCommand_leaf (read_configSet plain) (processAll_configSet s _ v w)

/-! ### Setting the directory -/

/-- The settings file of `dir` is there and reads as `st`. -/
def LoadsAs (dir : FsPath) (st : Settings) (s : Volume) (cwd : List String) : Prop :=
  ∃ place bytes, SettingsFile dir s cwd place bytes ∧ ReadsAs bytes st

section set

variable {dir : FsPath} {w : World} {place : List String} {bytes : ByteArray}

/-- Setting the directory writes settings that read back with the directory as a path. -/
theorem runConfigSet_gameDir {s : Setup} (at_ : s.settings.file = settingsFile dir)
    (file : SettingsFile dir w.store w.cwd place bytes) (v : String) :
    OnFiles (LoadsAs dir ⟨.str (FsPath.parse v).text⟩)
      (endState ((runConfigSet s [("help", .switch false), ("key", .text "game_dir"),
        ("value", .text v)]).run w)) := by
  have saved := save_settingsFile file (m := ⟨s.settings.file, ⟨.str v⟩⟩) at_
  have loads : OnFiles (LoadsAs dir ⟨.str (FsPath.parse v).text⟩)
      { w with store := w.store.put (place ++ ["config.json"]) (.file (Settings.text ⟨.str v⟩).toUTF8) } :=
    ⟨place, _, file.put _, readsAs_text_str v⟩
  have named : textOf [("help", .switch false), ("key", .text "game_dir"), ("value", .text v)] "key" =
      "game_dir" := rfl
  have value : textOf [("help", .switch false), ("key", .text "game_dir"), ("value", .text v)] "value" =
      v := by
    simp [textOf, Params.get]
  have set : s.settings.set "game_dir" (.str v) = .ok ⟨s.settings.file, ⟨.str v⟩⟩ := by
    simp [Manager.set, Settings.set, bind, Except.bind, pure, Except.pure]
  simp only [runConfigSet, named, value, set, EStateM.run_bind, act_run_ok saved]
  exact keeps_print _ _ loads

end set

/-! ### Runs that only read the settings -/

/-- Texts for `config` that, once read, name a command other than `set` and `reset`, or none. -/
def QuietConfig (rest : List String) : Prop :=
  ∀ r, configCommand.read rest = .ok r →
    r.positional.head? ≠ some "set" ∧ r.positional.head? ≠ some "reset"

/-- A run of `config` whose command is neither `set` nor `reset`. -/
def QuietConfigRun (args : List String) : Prop :=
  ∃ rest, args = "config" :: rest ∧ QuietConfig rest

/-- Below `config`, a command of another name than `set` and `reset` only reads and prints. -/
theorem stepsKeep_config_quiet {Q : Volume → List String → Prop} (s : Setup) {name : String}
    (quiet : name ≠ "set" ∧ name ≠ "reset") : StepsKeep (OnFiles Q) (program s) ["config", name] where
  onValue := by
    rintro names dest v ⟨rest, rfl⟩
    exact Keeps.pure _
  atGroup := by
    rintro names ps follows ⟨rest, rfl⟩
    exact Keeps.pure _
  body := by
    rintro names ps ⟨rest, rfl⟩
    simp only [program]
    split
    case h_4 => exact keeps_runConfigGet s ps
    case h_5 => exact keeps_runConfigList s ps
    case h_10 => exact Keeps.pure _
    -- the other commands lie outside `config`, or are `set` and `reset`, which this name is not
    all_goals simp_all

/-- A run of `config` whose command is neither `set` nor `reset` keeps the files and the working
directory. -/
theorem keeps_config_quiet {Q : Volume → List String → Prop} (s : Setup) (path : String)
    {rest : List String} (quiet : QuietConfig rest) :
    Keeps (OnFiles Q) (runCommand (program s) 7 ["config"] path configCommand rest) := by
  rw [show (7 : Nat) = 6 + 1 from rfl]
  unfold configCommand at *
  rw [runCommand]
  refine Keeps.ite (Keeps.bind (keeps_act (keeps_echo _)) fun _ => Keeps.throw_bind _ _) ?_
  dsimp only
  unfold readOrFail
  split
  · rename_i r read
    rw [pure_bind]
    refine Keeps.bind (keeps_processAll _ _ _ fun _ _ => Keeps.pure _) fun _ => ?_
    split
    · exact Keeps.ite (Keeps.pure _) (keeps_failUsage _ _ _)
    · rename_i name rest' named
      have other : name ≠ "set" ∧ name ≠ "reset" := by
        simpa [named] using quiet r read
      split
      · exact keeps_failUsage _ _ _
      · refine Keeps.bind (Keeps.pure _) fun _ => ?_
        exact runCommand_keeps (stepsKeep_config_quiet s other) 6 _ _ _ _ (List.prefix_refl _)
  · exact Keeps.throw_bind _ _

/-! ### Runs one after another -/

/-- Command lines run one after another, each a process of its own started in the world the one
before left; the sequence stops at the first run whose settings do not open. -/
def runSeq (platform : String) (dir home : FsPath) : List (List String) → Act (List Ending)
  | [] => pure []
  | args :: rest => do
    let ending ← startRun platform dir home args
    let endings ← runSeq platform dir home rest
    return ending :: endings

section runs

variable {platform : String} {dir home : FsPath} {w w' : World} {ending : Ending} {st : Settings}

/-- Settings whose file loads open as what the file holds, and opening changes nothing. -/
theorem openIn_loadsAs (loads : LoadsAs dir st w.store w.cwd) :
    (Manager.openIn dir).run w = .ok ⟨settingsFile dir, st⟩ w := by
  obtain ⟨place, bytes, file, reads⟩ := loads
  exact openIn_settingsFile file reads

/-- Over settings that load, a run starts, and ends with the files its commands end with. -/
theorem startRun_loadsAs (loads : LoadsAs dir st w.store w.cwd) {args : List String} {st' : Settings}
    (commands : OnFiles (LoadsAs dir st') (endState ((runCommand
      (program ⟨platform, ⟨settingsFile dir, st⟩, home⟩) 8 [] programName rootCommand args).run w))) :
    ∃ ending w', (startRun platform dir home args).run w = .ok ending w' ∧
      LoadsAs dir st' w'.store w'.cwd := by
  have ends := Program.run_ends commands
  rw [startRun_run, openIn_loadsAs loads]
  dsimp only
  split <;> rename_i ended <;> rw [ended] at ends
  · exact ⟨_, _, rfl, ends⟩
  · exact ⟨_, _, rfl, ends⟩

/-- A run of `config set game_dir v` that starts leaves settings whose directory reads back as `v`
taken as a path. -/
theorem startRun_set_gameDir {v : String} (plain : PlainArg v)
    (ran : (startRun platform dir home ["config", "set", "game_dir", v]).run w = .ok ending w') :
    LoadsAs dir ⟨.str (FsPath.parse v).text⟩ w'.store w'.cwd := by
  rw [startRun_run] at ran
  split at ran
  · rename_i m w₁ opened
    -- whatever the file held, opening it leaves it in place, and the set writes over it
    obtain ⟨⟨place, bytes, st, file, -⟩, -, at_⟩ := openIn_loadable opened
    have commands : OnFiles (LoadsAs dir ⟨.str (FsPath.parse v).text⟩)
        (endState ((runCommand (program ⟨platform, m, home⟩) 8 [] programName rootCommand
          ["config", "set", "game_dir", v]).run w₁)) := by
      rw [runCommand_root_config, runCommand_config_set _ _ plain]
      exact runConfigSet_gameDir at_ file v
    have ends := Program.run_ends commands
    split at ran <;> rename_i ended <;> rw [ended] at ends <;> cases ran <;> exact ends
  · cases ran

/-- A run of `config` whose command is neither `set` nor `reset`, over settings that load,
starts and leaves them as they were. -/
theorem startRun_quiet (loads : LoadsAs dir st w.store w.cwd) {rest : List String}
    (quiet : QuietConfig rest) :
    ∃ ending w', (startRun platform dir home ("config" :: rest)).run w = .ok ending w' ∧
      LoadsAs dir st w'.store w'.cwd := by
  refine startRun_loadsAs loads ?_
  rw [runCommand_root_config]
  exact keeps_config_quiet _ _ quiet w loads

/-- Quiet runs of `config`, one after another, over settings that load, all start and leave the
settings as they were. -/
theorem runSeq_quiet (runs : List (List String)) (quiet : ∀ args ∈ runs, QuietConfigRun args)
    (loads : LoadsAs dir st w.store w.cwd) :
    ∃ endings w', (runSeq platform dir home runs).run w = .ok endings w' ∧
      LoadsAs dir st w'.store w'.cwd := by
  induction runs generalizing w with
  | nil => exact ⟨[], w, rfl, loads⟩
  | cons args rest more =>
    obtain ⟨given, rfl, quietGiven⟩ := quiet args List.mem_cons_self
    -- the first run keeps the settings, and the rest start where it left off
    have first : ∃ ending w₁, (startRun platform dir home ("config" :: given)).run w = .ok ending w₁ ∧
        LoadsAs dir st w₁.store w₁.cwd :=
      startRun_quiet loads quietGiven
    obtain ⟨ending, w₁, ran, loads₁⟩ := first
    obtain ⟨endings, w', ranRest, loads'⟩ :=
      more (fun args mem => quiet args (List.mem_cons_of_mem _ mem)) loads₁
    refine ⟨ending :: endings, w', ?_, loads'⟩
    simp only [runSeq, EStateM.run_bind, ran, ranRest]
    rfl

/-- Once `config set game_dir v` has run, every later run of `config` whose command is neither
`set` nor `reset` starts, and after any number of them the settings open with the directory `v`
read back as a path. -/
theorem gameDir_persists {v : String} (plain : PlainArg v)
    (set : (startRun platform dir home ["config", "set", "game_dir", v]).run w = .ok ending w')
    (runs : List (List String)) (quiet : ∀ args ∈ runs, QuietConfigRun args) :
    ∃ endings w'' m, (runSeq platform dir home runs).run w' = .ok endings w'' ∧
      (Manager.openIn dir).run w'' = .ok m w'' ∧
      m.settings.get "game_dir" = .ok (FsPath.parse v).text := by
  obtain ⟨endings, w'', ran, loads⟩ := runSeq_quiet runs quiet (startRun_set_gameDir plain set)
  exact ⟨endings, w'', _, ran, openIn_loadsAs loads, Settings.get_gameDir _⟩

end runs

theorem gameDir_persists_mio :
    ∃ ending w', (startRun "win32" ⟨"/", ["s"]⟩ ⟨"/", []⟩ ["config", "set", "game_dir", "/games/MIO/"]).run
        (settingsWorld Settings.initial.text.toUTF8) = .ok ending w' ∧
      ∃ endings w'' m, (runSeq "win32" ⟨"/", ["s"]⟩ ⟨"/", []⟩
          [["config", "get", "game_dir"], ["config", "list"]]).run w' = .ok endings w'' ∧
        (Manager.openIn ⟨"/", ["s"]⟩).run w'' = .ok m w'' ∧
        m.settings.get "game_dir" = .ok (FsPath.parse "/games/MIO/").text := by
  have openable : Openable ⟨"/", ["s"]⟩ (settingsWorld Settings.initial.text.toUTF8).store
      (settingsWorld Settings.initial.text.toUTF8).cwd :=
    .inl ⟨["s"], _, _, settingsWorld_file _, readsAs_text_str defaultGameDir⟩
  obtain ⟨ending, w', set⟩ : ∃ ending w', (startRun "win32" ⟨"/", ["s"]⟩ ⟨"/", []⟩
      ["config", "set", "game_dir", "/games/MIO/"]).run (settingsWorld Settings.initial.text.toUTF8) =
        .ok ending w' :=
    startRun_starts openable _
  refine ⟨ending, w', set, gameDir_persists ⟨by decide, by with_unfolding_all decide⟩ set _ ?_⟩
  simp only [List.mem_cons, List.not_mem_nil, or_false]
  rintro args (rfl | rfl)
  · refine ⟨_, rfl, fun r read => ?_⟩
    rw [read_configCommand_named ⟨by decide, by with_unfolding_all decide⟩] at read
    cases read
    decide
  · refine ⟨_, rfl, fun r read => ?_⟩
    rw [read_configCommand_named ⟨by decide, by with_unfolding_all decide⟩] at read
    cases read
    decide

/-- A directory set with a trailing slash reads back without it, and a directory that reads as an
option is refused as one, and the settings stay as they were. -/
theorem gameDir_set_as_path :
    ∃ ending w₁, (startRun "win32" ⟨"/", ["s"]⟩ ⟨"/", []⟩ ["config", "set", "game_dir", "a/"]).run
        (settingsWorld Settings.initial.text.toUTF8) = .ok ending w₁ ∧
      (∃ m, (Manager.openIn ⟨"/", ["s"]⟩).run w₁ = .ok m w₁ ∧ m.settings.get "game_dir" = .ok "a") ∧
      ∃ ending' w₂, (startRun "win32" ⟨"/", ["s"]⟩ ⟨"/", []⟩ ["config", "set", "game_dir", "-x"]).run w₁ =
          .ok ending' w₂ ∧
        ∃ m, (Manager.openIn ⟨"/", ["s"]⟩).run w₂ = .ok m w₂ ∧ m.settings.get "game_dir" = .ok "a" := by
  have openable : Openable ⟨"/", ["s"]⟩ (settingsWorld Settings.initial.text.toUTF8).store
      (settingsWorld Settings.initial.text.toUTF8).cwd :=
    .inl ⟨["s"], _, _, settingsWorld_file _, readsAs_text_str defaultGameDir⟩
  obtain ⟨ending, w₁, set⟩ : ∃ ending w₁, (startRun "win32" ⟨"/", ["s"]⟩ ⟨"/", []⟩
      ["config", "set", "game_dir", "a/"]).run (settingsWorld Settings.initial.text.toUTF8) = .ok ending w₁ :=
    startRun_starts openable _
  have loads₁ : LoadsAs ⟨"/", ["s"]⟩ ⟨.str "a"⟩ w₁.store w₁.cwd :=
    (show (FsPath.parse "a/").text = "a" by with_unfolding_all decide) ▸
      startRun_set_gameDir ⟨by decide, by with_unfolding_all decide⟩ set
  -- `-x` reads as a short option, which `config set` does not have
  have refused : configSet.read ["game_dir", "-x"] = .error ⟨"No such option: -x", true⟩ := by
    have unsplit : "-x".splitOn "=" = ["-x"] := by simp +decide [String.splitOn, String.splitOnAux]
    simp +decide [Command.read, readArgs, readOption, unsplit, configSet, Command.optionNamed?,
      Command.options, Command.params, OptionSpec.namesWithState, isShortName, splitOption,
      Command.helpOption, readShort]
  obtain ⟨ending', w₂, unset, loads₂⟩ : ∃ ending' w₂, (startRun "win32" ⟨"/", ["s"]⟩ ⟨"/", []⟩
      ["config", "set", "game_dir", "-x"]).run w₁ = .ok ending' w₂ ∧
        LoadsAs ⟨"/", ["s"]⟩ ⟨.str "a"⟩ w₂.store w₂.cwd := by
    refine startRun_loadsAs loads₁ ?_
    rw [runCommand_root_config, runCommand_config_set_refused _ _ refused]
    exact loads₁
  exact ⟨ending, w₁, set, ⟨_, openIn_loadsAs loads₁, Settings.get_gameDir _⟩, ending', w₂, unset, _,
    openIn_loadsAs loads₂, Settings.get_gameDir _⟩

end GinSave.App
