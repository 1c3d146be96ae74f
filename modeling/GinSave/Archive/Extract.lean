import GinSave.Archive.Container
import GinSave.Archive.Packing
import GinSave.Store.World
import GinSave.Text.Utf8
import GinSave.Text.Alnum

/-!
Extraction of containers into a directory. Every section whose unpacked content is not empty
becomes a file, named by the section's name cut at its first NUL, read as UTF-8 with bad bytes
dropped, and kept to letters, digits and `_-.`; a running number of four digits may stand before
it. Files of the same name overwrite each other. Extracting many containers gives each its own
directory, named by its stem and made with mode 777 (decimal), and numbers the files across them.
-/

namespace GinSave.Archive

open GinSave.Store GinSave.Text GinSave.Codec

/-- How files are named and what is reported. -/
structure ExtractOptions where
  firstNumber : Int
  numbered : Bool
  verbose : Bool

/-- The name a section's file takes, before any number. -/
def sectionFileName (raw : ByteArray) : String :=
  let cut := (raw.toList.takeWhile (· != 0)).toArray
  let text := decodeUtf8Lossy ⟨cut⟩
  String.ofList (text.toList.filter fun c => isAlnum c || c == '_' || c == '-' || c == '.')

/-- A number written with at least four characters, zeros after the sign. -/
def padNumber (n : Int) : String :=
  let digits := toString n.natAbs
  let sign := if n < 0 then "-" else ""
  sign ++ String.ofList (List.replicate (4 - sign.length - digits.length) '0') ++ digits

/-- The file name of the `i`-th section. -/
def ExtractOptions.fileName (o : ExtractOptions) (i : Nat) (name : String) : String :=
  if o.numbered then padNumber (i + o.firstNumber) ++ "_" ++ name else name

/-- Prints when verbose. -/
def note (o : ExtractOptions) (msg : String) : Act Unit :=
  if o.verbose then say msg else pure ()

/-- Extracts the sections from the `i`-th on into `dir`; returns the files written, in order. -/
def extractSections (o : ExtractOptions) (bytes : ByteArray) (dir : FsPath) :
    Nat → List Section → Act (List FsPath)
  | _, [] => pure []
  | i, s :: rest => do
    let data ← orFault (readAt bytes s.offset s.readSize)
    let packing := Packing.ofFlags s.flags
    let written ←
      match packing.unpack data s.size with
      | .error msg => do
        note o ("    [!] Decompression failed: " ++ msg)
        pure []
      | .ok content =>
        if content.size == 0 then pure []
        else do
          let name := o.fileName i (sectionFileName s.name)
          let path := dir.join name
          writeFile path content
          note o ("Extracted: " ++ name ++ " " ++ packing.tag ++ " (" ++ toString content.size ++
            " bytes)")
          pure [path]
    let more ← extractSections o bytes dir (i + 1) rest
    return written ++ more

/-- Extracts one container file into `dir`; returns the files written, in section order. -/
def extractFile (o : ExtractOptions) (input dir : FsPath) : Act (List FsPath) := do
  if !(← exists? input) then say "The selected file doesn't exist."
  let bytes ← readFile input
  let header ← orFault (Header.read bytes)
  if header.magic != magic then
    say "The selected file is not a .gin file!"
    throw .aborted
  note o ("Found " ++ toString header.count ++ " sections. Starting extraction...\n")
  let fits := (bytes.size - headerSize) / entrySize + 1
  let sections ← orFault (readTable bytes (min header.count fits) headerSize)
  extractSections o bytes dir 0 sections

/-- Whether a file starts with the container's magic; a missing file is a fault. -/
def isContainer (p : FsPath) : Act Bool := do
  if !(← exists? p) then throw .missingFile
  let bytes ← readFile p
  return hasMagic bytes

/-- Keeps the inputs that can be extracted: readable, not directories, and containers. -/
def admitted (o : ExtractOptions) : List FsPath → Act (List FsPath)
  | [] => pure []
  | p :: rest => do
    let canRead ← readable p
    let keep ←
      if !canRead then do
        note o ("Unable to read path \"" ++ p.text ++ "\". Check your permissions! Skipping...")
        pure false
      else do
        let isDirectory ← isDir p
        if isDirectory then do
          note o ("Path \"" ++ p.text ++ "\" is a directory. Skipping...")
          pure false
        else do
          let gin ← isContainer p
          if !gin then do
            note o ("Path \"" ++ p.text ++ "\" is not a .gin file. Skipping...")
            pure false
          else pure true
    let more ← admitted o rest
    return if keep then p :: more else more

/-- Extracts each file into a directory of its own under `out`, numbering on from file to file. -/
def extractEach (o : ExtractOptions) (out : FsPath) : List FsPath → Act (List FsPath)
  | [] => pure []
  | file :: rest => do
    let dir := out.join file.stem
    mkdir dir 777 false false
    say ("Decompiling \"" ++ file.text ++ "\"..")
    let paths ← extractFile o file dir
    let more ← extractEach { o with firstNumber := o.firstNumber + paths.length } out rest
    return paths ++ more

/-- Extracts many containers into a fresh `out`; returns every file written, in order. -/
def extractMany (verbose numbered : Bool) (inputs : List FsPath) (out : FsPath) :
    Act (List FsPath) := do
  if ← exists? out then removeTree out
  mkdir out 0o777 true false
  let o : ExtractOptions := ⟨0, numbered, verbose⟩
  let files ← admitted o inputs
  if files.isEmpty then say "No .gin files found. Please select at least one .gin file."
  extractEach o out files

end GinSave.Archive
