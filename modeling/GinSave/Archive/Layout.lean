import GinSave.Archive.Extract
import GinSave.Archive.EmbeddedPath
import GinSave.Json.Value
import GinSave.Text.Blank

/-!
Laying extracted files out as the game's directory tree. The containers are first extracted,
unnumbered, into `out/decompiled`; then each extracted file is copied under `out/ship`:

* a file in a directory named `assets` goes to `ship/decomp_assets`;
* a `.csv`, `.otf` or `.ttf` file goes to `ship/fonts`;
* any other file goes to the path it embeds from byte 20 on (see `readGinPath`), or to its own
  name when that text is not UTF-8;
* `.reloc`, `.alloc` and `.assets` files outside `assets` wait for the second pass, and so does
  every file whose target is not a valid Windows path or is `ship` itself.

The second pass puts each waiting file beside the target of the file it belongs to: the one named
by its stem up to `.gin` with `.gin`, else without it, keeping the suffixes that follow `.gin`.
One file of the game has its partner named by hand. Every copy is recorded in `mappings.json`,
sorted by source path.
-/

namespace GinSave.Archive

open GinSave.Store GinSave.Text

/-- The names Windows keeps for devices, whatever their case. -/
def reservedDeviceNames : List String :=
  ["CON", "PRN", "AUX", "CLOCK$", "NUL"] ++
    (["COM", "LPT"].flatMap fun n => (List.range 9).map fun k => n ++ toString (k + 1))

/-- The characters a Windows path may not hold: control characters other than the blanks,
and `:*?"<>|`. -/
def forbiddenInWindowsPath (c : Char) : Bool :=
  (c.toNat < 0x20 && !(0x09 ≤ c.toNat && c.toNat ≤ 0x0D)) || c.toNat == 0x7F ||
    ":*?\"<>|".toList.contains c

/-- A name without its extension: the text before its last dot, unless that dot only leads. -/
def rootName (name : String) : String :=
  let cs := name.toList
  let lead := (cs.takeWhile (· == '.')).length
  let dots := (List.range cs.length).filter fun i => lead ≤ i && cs.getD i ' ' == '.'
  match dots.getLast? with
  | some i => String.ofList (cs.take i)
  | none => name

/-- Whether a path text is a valid Windows path: not blank, at most 260 bytes, no forbidden
character, and no part whose name before its extension is a device name. -/
def validWindowsPath (s : String) : Bool :=
  let parts := (s.replace "\\" "/").splitOn "/"
  !(s.toList.all isBlank) && s.utf8ByteSize ≤ 260 && !(s.toList.any forbiddenInWindowsPath) &&
    !(parts.any fun part =>
      part != "." && part != ".." && reservedDeviceNames.contains (rootName part).toUpper)

/-- The files below a directory, walking it from the top: a directory's own files first, then
those of each directory in it, in the order they were made. -/
def walkFiles (s : Volume) : Nat → List String → List (List String)
  | 0, _ => []
  | fuel + 1, dir =>
    let kids := (s.children dir).map (dir ++ [·])
    kids.filter s.isFileAt ++ (kids.filter s.isDirAt).flatMap (walkFiles s fuel)

/-- The recorded copies: source and target, in the order they were first made. -/
abbrev Mappings := List (FsPath × FsPath)

/-- Records a copy, replacing an earlier record of the same source. -/
def Mappings.record (m : Mappings) (src dst : FsPath) : Mappings :=
  if m.any (·.1 == src) then m.map fun (a, b) => if a == src then (a, dst) else (a, b)
  else m ++ [(src, dst)]

/-- The target recorded for a source. -/
def Mappings.lookup (m : Mappings) (src : FsPath) : Option FsPath :=
  (m.find? (·.1 == src)).map (·.2)

/-- The last suffix of a file, without its dot. -/
def bareSuffix (p : FsPath) : String :=
  String.ofList (p.suffix.toList.drop 1)

/-- Copies a file's contents to a path. -/
def copyFile (src dst : FsPath) : Act Unit := do
  let bytes ← readFile src
  writeFile dst bytes

/-- Where the first pass puts a file, when it has a place at all. -/
def firstTarget (cwd : List String) (ship path : FsPath) : Act FsPath := do
  if path.parent.name == "assets" then
    return FsPath.resolved cwd ((ship.join "decomp_assets").join path.name)
  if ["csv", "otf", "ttf"].contains (bareSuffix path) then
    return FsPath.resolved cwd ((ship.join "fonts").join path.name)
  let bytes ← readFile path
  match readGinPath bytes 20 with
  | .ok (.found b) =>
    match decodeUtf8 b with
    | .ok text => return FsPath.resolved cwd (ship.join text)
    | .error _ => return FsPath.resolved cwd (ship.join path.name)
  | .ok .endless => throw (.outOfRange "the embedded path never ends")
  | .error e =>
    if e.category == .badEncoding then return FsPath.resolved cwd (ship.join path.name)
    else throw e

/-- The first pass: copies what has a place and returns the files that wait. -/
def firstPass (cwd : List String) (ship : FsPath) :
    List FsPath → Mappings → Act (Mappings × List FsPath)
  | [], m => pure (m, [])
  | path :: rest, m => do
    let waits := ["reloc", "alloc", "assets"].contains (bareSuffix path) &&
      path.parent.name != "assets"
    let (m, waiting) ←
      if waits then pure (m, [path])
      else do
        let target ← firstTarget cwd ship path
        if validWindowsPath target.text && target.text != ship.text then do
          mkdir target.parent 0o777 true true
          copyFile path target
          pure (m.record path target, [])
        else pure (m, [path])
    let (m, more) ← firstPass cwd ship rest m
    return (m, waiting ++ more)

/-- The partner of the file that the game names by hand. -/
def handNamedFile : String := "ST_factory_factory_pearl.ST_factory_turning_stop_pearl_inverted"
def handNamedPartner : String := "ST_factory_factory_pearl.ST_factory_turning_stop_pearl.gin"

/-- The second pass: puts each waiting file beside its partner's target. -/
def secondPass (cwd : List String) : List FsPath → Mappings → Act Mappings
  | [], m => pure m
  | path :: rest, m => do
    let base := (FsPath.resolved cwd path.stripToGin).stem
    let noExt := FsPath.resolved cwd (path.parent.join base)
    let withGin := FsPath.resolved cwd (path.parent.join (base ++ ".gin"))
    let found : Option (FsPath × List String) :=
      match m.lookup withGin with
      | some t => some (t, ".gin" :: path.ginTail)
      | none => (m.lookup noExt).map fun t => (t, path.ginTail)
    let m ←
      match found with
      | some (t, suffixes) => do
        let t := FsPath.resolved cwd t
        let dst := FsPath.resolved cwd (t.parent.join (t.stem ++ String.join suffixes))
        copyFile path dst
        pure (m.record path dst)
      | none =>
        if path.name == handNamedFile then do
          let partner := path.parent.join handNamedPartner
          match m.lookup partner with
          | some t => do
            let t := FsPath.resolved cwd t
            let dst := t.parent.join (t.dropSuffix.stem ++ ".ST_factory_turning_stop_pearl_inverted")
            let dst := FsPath.resolved cwd dst
            copyFile path dst
            pure (m.record path dst)
          | none => throw (.missingKey ("PosixPath(" ++ quote partner.text ++ ")"))
        else do
          say ("NO MATCH FOUND. " ++ path.text)
          say ("    UNMATCHED NO_EXT: " ++ noExt.text)
          say ("    path.name: " ++ path.name)
          pure m
    secondPass cwd rest m

/-- The text of `mappings.json`: sources and targets as path texts, sorted by source. -/
def mappingsText (m : Mappings) : String :=
  let pairs := (m.map fun (a, b) => (a.text, b.text)).mergeSort fun x y => decide (x.1 ≤ y.1)
  (GinSave.Json.Value.obj (pairs.map fun (a, b) => (a, .str b))).render (some 4) 0

/-- Makes `out` afresh with the directories `decompiled` and `ship` and an empty `mappings.json` in
it; returns the working directory and the three paths, resolved. -/
def prepareOutput (out : FsPath) : Act (List String × FsPath × FsPath × FsPath) := do
  if ← exists? out then removeTree out
  mkdir out 0o777 true true
  let cwd := (← get).cwd
  let temp := FsPath.resolved cwd (out.join "decompiled")
  mkdir temp 0o777 true true
  let ship := FsPath.resolved cwd (out.join "ship")
  mkdir ship 0o777 true true
  let mappingsFile := FsPath.resolved cwd (out.join "mappings.json")
  writeFile mappingsFile ByteArray.empty
  return (cwd, temp, ship, mappingsFile)

/-- Lays the extracted files, in the order given, out under `ship`, and writes every copy to
`mappings.json`. -/
def structureFiles (cwd : List String) (ship mappingsFile : FsPath) (extracted : List FsPath) :
    Act Mappings := do
  say "Structuring files.."
  let (m, waiting) ← firstPass cwd ship extracted []
  let m ← secondPass cwd waiting m
  writeFile mappingsFile (mappingsText m).toUTF8
  return m

/-- Extracts the containers into `out/decompiled` and lays the files out under `out/ship`. The
walk lists the extracted files in the order the store made them; `arrange` stands for the order a
file system may list them in instead. -/
def layOutListing (arrange : List FsPath → List FsPath) (verbose : Bool) (inputs : List FsPath)
    (out : FsPath) : Act Mappings := do
  let (cwd, temp, ship, mappingsFile) ← prepareOutput out
  let _ ← extractMany verbose false inputs temp
  let w ← get
  structureFiles cwd ship mappingsFile
    (arrange ((walkFiles w.store (temp.parts.length + 64) temp.parts).map (⟨"/", ·⟩)))

/-- Extracts the containers into `out/decompiled` and lays the files out under `out/ship`, in the
order the walk lists them. -/
def layOut (verbose : Bool) (inputs : List FsPath) (out : FsPath) : Act Mappings :=
  layOutListing id verbose inputs out

end GinSave.Archive
