import GinSave.App.Commands

/-!
The `mio-decomp` command. The program itself runs on a store: before the run, the store is
given the files that the arguments name and the settings file, read from disk; after the run,
every file that the run made or changed is written back to disk. Only `decompile` asks a
question, so only then is standard input read. The platform is Windows when the environment
says so.
-/

namespace GinSave.App

open GinSave.Store

/-- The names below the root of a path text, resolved against `cwd`. -/
def absoluteNames (cwd : List String) (text : String) : List String :=
  (FsPath.resolved cwd (FsPath.parse text)).parts

/-- The store with the directories that hold `parts` made where missing. -/
def withParents (s : Volume) (parts : List String) : Volume :=
  (List.range parts.length).foldl (fun s k =>
    let d := parts.take k
    if d.isEmpty || (s.find? d).isSome then s else s.put d (.dir 0o755)) s

/-- The text of a path given by its names below the root. -/
def namesText (parts : List String) : String :=
  "/" ++ "/".intercalate parts

/-- The files of `after` that are new or changed since `before`. -/
def changedFiles (before after : Volume) : List (List String × ByteArray) :=
  after.entries.filterMap fun (p, e) =>
    match e, before.find? p with
    | .file b, some (.file old) => if b.toList == old.toList then none else some (p, b)
    | .file b, _ => some (p, b)
    | .dir _, _ => none

end GinSave.App

open GinSave GinSave.App GinSave.Store GinSave.Config GinSave.Cli in
/-- Loads the files at the given names into a store, leaving out those that cannot be read. -/
def loadFiles (s : Volume) : List (List String) → IO Volume
  | [] => pure s
  | parts :: rest => do
    let s ← try
        let bytes ← IO.FS.readBinFile (namesText parts)
        pure ((withParents s parts).put parts (.file bytes))
      catch _ => pure s
    loadFiles s rest

open GinSave GinSave.App GinSave.Store GinSave.Config GinSave.Cli in
/-- Writes files back to disk, with the directories that hold them. -/
def saveFiles : List (List String × ByteArray) → IO Unit
  | [] => pure ()
  | (parts, bytes) :: rest => do
    IO.FS.createDirAll (namesText parts.dropLast)
    IO.FS.writeBinFile (namesText parts) bytes
    saveFiles rest

open GinSave GinSave.App GinSave.Store GinSave.Config GinSave.Cli in
/-- Runs the command line on its arguments. -/
def main (args : List String) : IO UInt32 := do
  let cwd := (FsPath.parse ((← IO.getEnv "PWD").getD "/")).parts
  let home := (← IO.getEnv "HOME").getD "/"
  let settingsDir := FsPath.parse (home ++ "/.config/mio-decomp")
  let platform := if (← IO.getEnv "OS") == some "Windows_NT" then "win32" else "linux"
  let names := args.map (absoluteNames cwd) ++ [(settingsFile settingsDir).parts]
  let store ← loadFiles ((withParents ⟨[]⟩ (cwd ++ [""])).put cwd (.dir 0o755)) names
  let input ← if args.contains "decompile" then (← IO.getStdin).readToEnd else pure ""
  let world : World := ⟨store, cwd, #[], input.toList⟩
  match (startRun platform settingsDir (FsPath.parse home) args).run world with
  | .error f w =>
    saveFiles (changedFiles store w.store)
    IO.eprintln (f.category.className ++ ": " ++ f.message)
    return 1
  | .ok ending w =>
    for piece in w.printed do
      IO.print piece
    saveFiles (changedFiles store w.store)
    match ending.escaped with
    | some f =>
      IO.eprintln (f.category.className ++ ": " ++ f.message)
      return 1
    | none => return ending.code.toUInt32
