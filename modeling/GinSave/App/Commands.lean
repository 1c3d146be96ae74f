import GinSave.App.Tree
import GinSave.App.Completion
import GinSave.Cli.Run
import GinSave.Config.Settings
import GinSave.Archive.Layout
import GinSave.Save.Assign
import GinSave.Save.Document
import GinSave.Save.Check
import GinSave.Save.Writer

/-!
What each command does.

* `check` tells whether a file starts with the container's magic.
* `parse` reads a save file into its JSON document, and `compile-save` writes a JSON document back
  as a save file; both print the result, or write it to the file given with `-o`.
* `config` shows, sets and resets the settings.
* `decompile` extracts containers, by default all those in the game's `flamby` directory, into an
  output directory (`./extracted` by default), laid out as the game's tree unless
  `--no-structure` is given. An output directory that holds anything is only used once the user
  agrees to its removal.
* `version` and `-v` print the version.

The container commands run only on Windows; elsewhere they print why and exit with code 1.
-/

namespace GinSave.App

open GinSave.Cli GinSave.Store GinSave.Config GinSave.Archive GinSave.Save

/-- What a run sees besides its texts: the platform, the settings read when it started, and the
home directory. -/
structure Setup where
  platform : String
  settings : Manager
  home : FsPath

/-- Prints a message. -/
def print (msg : String) : Run Unit :=
  act (say msg)

/-- Stops unless the platform is Windows, the only one the container commands support. -/
def guardPlatform (s : Setup) : Run Unit := do
  if s.platform != "win32" then
    print ("OS '" ++ s.platform ++ "' is not supported currently.")
    throw (.exit 1)

/-- The path value of a parameter, if it has one. -/
def pathOf (ps : Params) (dest : String) : Option FsPath :=
  match ps.get dest with
  | .path p => some p
  | _ => none

/-- The text value of a parameter. -/
def textOf (ps : Params) (dest : String) : String :=
  match ps.get dest with
  | .text t => t
  | _ => ""

/-- The switch value of a parameter. -/
def switchOf (ps : Params) (dest : String) : Bool :=
  match ps.get dest with
  | .switch b => b
  | _ => false

/-- Prints a result, or writes it to the output file if one is given. -/
def deliver (out : Option FsPath) (text : String) : Run Unit :=
  match out with
  | none => print text
  | some p => act (writeFile p text.toUTF8)

/-- `check`. -/
def runCheck (s : Setup) (ps : Params) : Run Unit := do
  guardPlatform s
  let target := (pathOf ps "target_file").getD ⟨"", []⟩
  let shown := "File [white]\"" ++ target.text ++ "\"[/white] "
  if ← act (isContainer target) then
    print (shown ++ "[bold][green]is[/green][/bold] a .gin file.")
  else
    print (shown ++ "[bold][red]is not[/red][/bold] a .gin file.")

/-- `parse`. A run is a program of its own, which has set no attribute on a word yet. -/
def runParse (ps : Params) : Run Unit := do
  let text ← act (readText ((pathOf ps "save_file").getD ⟨"", []⟩))
  let r := readSaveText .empty freshSave text
  match r.fault with
  | some f => throw (.fault f)
  | none => deliver (pathOf ps "output_file") r.node.documentText

/-- `compile-save`. -/
def runCompile (ps : Params) : Run Unit := do
  let text ← act (readText ((pathOf ps "json_file").getD ⟨"", []⟩))
  match checkSaveDocument text with
  | .error f => throw (.fault f)
  | .ok saved =>
    match saved.saveText with
    | .error f => throw (.fault f)
    | .ok out => deliver (pathOf ps "output_file") out

/-- `config get`. -/
def runConfigGet (s : Setup) (ps : Params) : Run Unit := do
  let key := textOf ps "key"
  match s.settings.settings.get key with
  | .ok v => print ("\"" ++ key ++ "\": \"" ++ v ++ "\"")
  | .error _ => print ("Key \"" ++ key ++ "\" not found.")

/-- `config list`. -/
def runConfigList (s : Setup) (ps : Params) : Run Unit := do
  if switchOf ps "json" then print s.settings.settings.text
  else
    for (k, v) in s.settings.settings.pairs do
      print ("\"" ++ k ++ "\": \"" ++ shownValue v ++ "\"")

/-- `config reset`. -/
def runConfigReset (s : Setup) (ps : Params) : Run Unit := do
  if switchOf ps "confirm" then
    act s.settings.reset.save
    print "Finished resetting your configuration."
  else
    print ("Please repeat the command with the \"--confirm\" flag if you're sure you want to " ++
      "reset your configuration.")

/-- `config set`. -/
def runConfigSet (s : Setup) (ps : Params) : Run Unit := do
  let key := textOf ps "key"
  match s.settings.set key (.str (textOf ps "value")) with
  | .ok m =>
    act m.save
    print ("\"" ++ key ++ "\" set successfully.")
  | .error _ => print ("Key \"" ++ key ++ "\" not found.")

/-- The files to extract: each input that is a file, and the files directly in each input that
is a directory, each once, in order. -/
def gatherFiles : List FsPath → List FsPath → Act (List FsPath)
  | [], acc => pure acc
  | p :: rest, acc => do
    if ← isFile? p then
      gatherFiles rest (if acc.contains p then acc else acc ++ [p])
    else
      let mut acc := acc
      for q in ← listDir p do
        if ← isFile? q then
          if !acc.contains q then acc := acc ++ [q]
      gatherFiles rest acc

/-- The inputs `decompile` takes when none are given: the entries of the game's `flamby`
directory. -/
def flambyEntries (s : Setup) : Run (List FsPath) := do
  let w ← get
  let target := FsPath.resolved w.cwd ((FsPath.parse s.settings.settings.gameDirText).join "flamby")
  if !(← act (exists? target)) then
    print ("\"" ++ target.parent.text ++ "\" not found! Please make sure you have MIO: Memories " ++
      "in Orbit installed locally, and that the \"game_dir\" value in your configuration is " ++
      "pointing to it.")
    throw (.fault .aborted)
  act (listDir target)

/-- `decompile`. -/
def runDecompile (s : Setup) (ps : Params) : Run Unit := do
  let inputs ← match ps.get "input_paths" with
    | .paths qs => pure qs
    | _ => flambyEntries s
  let w ← get
  let out := (pathOf ps "output_dir").getD (FsPath.resolved w.cwd (FsPath.parse "./extracted"))
  let files ← act (gatherFiles inputs [])
  if !(← act (exists? out)) then act (mkdir out 0o777 true true)
  else
    let contents ← act (listDir out)
    if contents.length > 0 then
      let agreed ← confirm ("Are you sure you want to delete " ++ toString contents.length ++
        " files/directories?")
      if !agreed then throw (.fault .aborted)
  guardPlatform s
  let debug := switchOf ps "debug"
  if switchOf ps "structure" then
    let _ ← act (layOut debug files out)
  else
    let _ ← act (extractMany debug true files out)
  print "Done!"

/-- The root's own step: `-v` prints the version; with no command, the help page. -/
def atRoot (ps : Params) (commandFollows : Bool) : Run Unit := do
  if switchOf ps "version" then
    print programVersion
    throw (.exit 0)
  if !commandFollows then
    act (echo (helpPage programName rootCommand ++ "\n"))
    throw (.exit 0)

/-- The program, for a run with the given setup. -/
def program (s : Setup) : Program where
  root := rootCommand
  rootName := programName
  onValue := fun names dest v =>
    if names.isEmpty then completionStep programName s.home dest v else pure ()
  atGroup := fun names ps follows => if names.isEmpty then atRoot ps follows else pure ()
  body := fun names ps =>
    match names with
    | ["check"] => runCheck s ps
    | ["parse"] => runParse ps
    | ["compile-save"] => runCompile ps
    | ["config", "get"] => runConfigGet s ps
    | ["config", "list"] => runConfigList s ps
    | ["config", "reset"] => runConfigReset s ps
    | ["config", "set"] => runConfigSet s ps
    | ["decompile"] => runDecompile s ps
    | ["version"] => print ("MIO-Decomp CLI Version " ++ programVersion)
    | _ => pure ()

/-- One run of the program, as a process runs it: the settings kept in `settingsDir` are opened
first, and a fault there stops the run before any command; then the program runs on its texts,
and however it ends, it ends with an exit code. -/
def startRun (platform : String) (settingsDir home : FsPath) (args : List String) :
    Act Ending := do
  let m ← Manager.openIn settingsDir
  fun w => match ((program ⟨platform, m, home⟩).run args).run w with
    | .ok ending w => .ok ending w
    -- `Program.run` stops with no error; were it to, the run would end with code 1
    | .error _ w => .ok ⟨1, none⟩ w

/-- The keyword that `main` passes when it calls the program: `app(name="mio-decomp")`. -/
def mainKeyword : String := "name"

/-- A run started through `main()`, as `python -m mio_decomp` and the script `main.py` start it.
The settings are opened when the modules load; then `main` calls the program with the keyword
`name`, which click hands on to the constructor of its `Context`, and that constructor takes no
such keyword. So every such run stops with that fault before any command is read. -/
def startMain (settingsDir : FsPath) : Act Ending := do
  let _ ← Manager.openIn settingsDir
  return ⟨1, some (.unexpectedKeyword "Context.__init__()" mainKeyword)⟩

end GinSave.App
