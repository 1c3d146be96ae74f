import GinSave.Store.Basic
import GinSave.Console.Print
import GinSave.Text.Utf8

/-!
The world an operation acts on: the file store, the working directory, and the text written to
the terminal so far. Operations run in `Act`, which keeps the world as it was when a fault stopped
them, so that what was written or printed before the fault stays visible.

Messages are printed through the console (see `printed`): markup, emoji and wrapping at 80
cells. Text that is echoed is written as it is.
-/

namespace GinSave.Store

/-- The store, the working directory, what was written to the terminal, piece by piece, and
what is still unread on the terminal's input. -/
structure World where
  store : Volume
  cwd : List String
  printed : Array String := #[]
  input : List Char := []

/-- An operation on the world that may stop with a fault. -/
abbrev Act := EStateM Fault World

/-- Writes text to the terminal as it is. -/
def echo (text : String) : Act Unit :=
  modify fun w => { w with printed := w.printed.push text }

/-- Prints one message through the console. -/
def say (msg : String) : Act Unit :=
  match GinSave.Console.printed msg with
  | .ok text => echo text
  | .error e => throw e

/-- Lifts a step of the store. -/
def onStore (f : Volume → Except Fault Volume) : Act Unit := do
  let w ← get
  match f w.store with
  | .ok s => set { w with store := s }
  | .error e => throw e

/-- Runs a pure step that may fail. -/
def orFault {α : Type} (r : Except Fault α) : Act α :=
  match r with
  | .ok a => pure a
  | .error e => throw e

/-- Writes a file. -/
def writeFile (p : FsPath) (bytes : ByteArray) : Act Unit := do
  let w ← get
  onStore fun s => s.writeFile w.cwd p bytes

/-- Reads a file. -/
def readFile (p : FsPath) : Act ByteArray := do
  let w ← get
  orFault (w.store.readFile w.cwd p)

/-- Reads a text file: its bytes as UTF-8, each carriage return, alone or before a line feed,
made one line feed. -/
def readText (p : FsPath) : Act String := do
  let bytes ← readFile p
  let text ← orFault (GinSave.Text.decodeUtf8 bytes)
  return String.ofList (GinSave.Text.normalizeNewlines text.toList)

/-- Makes a directory. -/
def mkdir (p : FsPath) (mode : Nat) (parents existOk : Bool) : Act Unit := do
  let w ← get
  onStore fun s => s.mkdir w.cwd p mode parents existOk (p.parts.length + 1)

/-- Whether a walk that failed with `e` only shows that nothing is there: the path is missing, or
passes through a file. Other failures, such as a directory that may not be searched, are faults
of their own. -/
def meansAbsent (e : Fault) : Bool :=
  e.category == .notFound || e.category == .notADirectory

/-- What a path names, if anything; a walk that fails for another reason than absence is a
fault. -/
def stat? (p : FsPath) : Act (Option Entry) := do
  let w ← get
  match w.store.stat w.cwd p with
  | .ok e => return some e
  | .error e => if meansAbsent e then return none else throw e

/-- Whether something is at the path. -/
def exists? (p : FsPath) : Act Bool := do
  return (← stat? p).isSome

/-- Whether the path names a file. -/
def isFile? (p : FsPath) : Act Bool := do
  match ← stat? p with
  | some (.file _) => return true
  | _ => return false

/-- The paths of the entries in a directory, in the order they were made. -/
def listDir (p : FsPath) : Act (List FsPath) := do
  let w ← get
  match w.store.stat w.cwd p with
  | .error e => throw e
  | .ok (.file _) => throw (notADirectory p.text)
  | .ok (.dir mode) =>
    if mode &&& 0o400 == 0 then throw (denied p.text)
    match w.store.target w.cwd p with
    | some t => return (w.store.children t).map p.join
    | none => return []

/-- Whether the owner may use what the path names in the given way (`0o4` read, `0o2` write):
files always, directories by their mode; nothing that cannot be reached. -/
def access (p : FsPath) (bit : Nat) : Act Bool := do
  let w ← get
  match w.store.stat w.cwd p with
  | .ok (.file _) => return true
  | .ok (.dir mode) => return mode &&& (bit * 0o100) != 0
  | .error _ => return false

/-- Whether the path names a directory. -/
def isDir (p : FsPath) : Act Bool := do
  let w ← get
  return w.store.isDir w.cwd p

/-- Whether the owner may read what the path names. -/
def readable (p : FsPath) : Act Bool := do
  let w ← get
  return match w.store.target w.cwd p with
    | some t =>
      match w.store.find? t with
      | some (.file _) => true
      | some (.dir m) => m &&& 0o400 != 0
      | none => false
    | none => false

/-- Removes the directory tree at a path. -/
def removeTree (p : FsPath) : Act Unit := do
  let w ← get
  match w.store.target w.cwd p with
  | some t =>
    if w.store.isFileAt t then throw (notADirectory p.text)
    else set { w with store := w.store.removeTree t }
  | none => throw (missingPath p.text)

end GinSave.Store
