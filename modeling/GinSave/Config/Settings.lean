import GinSave.Save.Check
import GinSave.Save.Document
import GinSave.Store.World
import GinSave.Text.Utf8
import GinSave.Text.Blank

/-!
The settings file: a JSON object whose one member, `game_dir`, names the directory the game is
installed in. It lives as `config.json` in the settings directory.

Reading the file checks it as a record model: a text that is no JSON, or a document that is not
an object (or a list of pairs), is refused; a missing `game_dir` takes the default; a text is
read as a path and kept as that path's normal text; anything else is refused. Other members are
ignored. Setting a key keeps the value exactly as given, unchecked and of any kind, until the
file is read again. The file is written indented by four spaces, ASCII only.
-/

namespace GinSave.Config

open GinSave.Json GinSave.Store GinSave.Save GinSave.Text

/-- The settings: the game's directory, a text once read from the file, but any value once set. -/
structure Settings where
  gameDir : Value
  deriving Inhabited

/-- The name the settings model carries in messages. -/
def modelName : String := "ConfigModel"

/-- The game's default install directory on Windows, as the settings model spells it. -/
def windowsGameDir : String := "C:/Program Files (x86)/Steam/steamapps/common/MIO"

/-- The working directory the program's modules are loaded in, as names from the root: the
program is started from the root. -/
def loadDir : List String := []

/-- The game's directory when none is set: the Windows install path resolved against the working
directory at load, once, as the settings model is defined. A POSIX system reads that path as a
relative one, whose first part is `C:`. -/
def defaultGameDir : String := (FsPath.resolved loadDir (FsPath.parse windowsGameDir)).text

/-- The settings before anything is set. -/
def Settings.initial : Settings := ⟨.str defaultGameDir⟩

/-- The text a setting's value is shown as: a text as it stands, any other value as it is
displayed (`None`, `True`, shortest digits, items quoted within brackets). -/
def shownValue (v : Value) : String :=
  (Node.ofDocument v).plainText

/-- The keys and their values, in field order. -/
def Settings.pairs (s : Settings) : List (String × Value) :=
  [("game_dir", s.gameDir)]

/-- The game's directory as a text. -/
def Settings.gameDirText (s : Settings) : String :=
  shownValue s.gameDir

/-- The shown value of a key; a key the settings do not have is a fault without message. -/
def Settings.get (s : Settings) (key : String) : Except Fault String :=
  match s.pairs.find? (·.1 == key) with
  | some (_, v) => .ok (shownValue v)
  | none => .error (.noSetting key)

/-- The settings with a key set to a value, as given. -/
def Settings.set (s : Settings) (key : String) (value : Value) : Except Fault Settings :=
  if key == "game_dir" then .ok { s with gameDir := value } else .error (.noSetting key)

/-- The text of the settings file. -/
def Settings.text (s : Settings) : String :=
  (Value.obj s.pairs).render (some 4) 0

/-- The game's directory a document gives: a text, as a path. -/
def checkGameDir (v : Value) : Except Issue String :=
  match v with
  | .null => .error (noneIssue ["game_dir"])
  | .str t => .ok (FsPath.parse t).text
  | _ => .error (issue ["game_dir"] "type_error.path" "value is not a valid path")

/-- Reads settings from the text of a settings file. -/
def Settings.read (text : String) : Except Fault Settings := do
  let args ← documentArguments modelName text
  match args.find? (·.1 == "game_dir") with
  | none => return .initial
  | some (_, v) =>
    match checkGameDir v with
    | .ok t => return ⟨.str t⟩
    | .error i => throw (.invalid modelName [i])

/-- The settings file in a settings directory. -/
def settingsFile (dir : FsPath) : FsPath :=
  dir.join "config.json"

/-- The text of the settings file of a directory, as it stands, if it is there. -/
def storedText (w : World) (dir : FsPath) : Option String :=
  match w.store.readFile w.cwd (settingsFile dir) with
  | .ok b => some (decodeUtf8Lossy b)
  | .error _ => none

/-- Writes a text over the settings file of a directory, as an editor would. -/
def storeText (dir : FsPath) (text : String) : Act Unit :=
  writeFile (settingsFile dir) text.toUTF8

/-- Makes the file's directory, with its parents, and the file itself, empty, when missing. -/
def touch (file : FsPath) : Act Unit := do
  mkdir file.parent 0o777 true true
  if !(← exists? file) then writeFile file ByteArray.empty

/-- An open settings file: where it is, and the settings as last read, set or reset. -/
structure Manager where
  file : FsPath
  settings : Settings

/-- Writes the settings to their file. -/
def Manager.save (m : Manager) : Act Unit := do
  touch m.file
  writeFile m.file m.settings.text.toUTF8

/-- Reads the settings from their file. -/
def Manager.load (m : Manager) : Act Manager := do
  touch m.file
  let bytes ← readFile m.file
  let text ← orFault (decodeUtf8 bytes)
  let s ← orFault (Settings.read (String.ofList (normalizeNewlines text.toList)))
  return { m with settings := s }

/-- Opens the settings of a directory: reads the file when it is there, else writes the
initial settings to it. -/
def Manager.openIn (dir : FsPath) : Act Manager := do
  let m : Manager := ⟨settingsFile dir, .initial⟩
  if ← exists? m.file then m.load
  else do
    m.save
    return m

/-- The manager with a key set; the file is not yet written. -/
def Manager.set (m : Manager) (key : String) (value : Value) : Except Fault Manager := do
  let s ← m.settings.set key value
  return { m with settings := s }

/-- The manager with the initial settings; the file is not yet written. -/
def Manager.reset (m : Manager) : Manager :=
  { m with settings := .initial }

end GinSave.Config
