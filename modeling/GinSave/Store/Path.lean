import GinSave.Text.Split

/-!
Paths as the program's path objects hold them. A path is an optional root and a list of parts:
reading a path text drops empty parts and `.` parts but keeps `..`, and two leading slashes make a
root of their own while three or more are one slash. A path with neither root nor parts is
written `.`.

The suffix of a path is the part of its last name from the last dot on, provided that dot is
neither the name's first nor its last character. Taking suffixes off one at a time gives the
helpers that strip a name down to its stem or to its `.gin` part.
-/

namespace GinSave.Store

open GinSave.Text

/-- A path: its root (`""`, `"/"` or `"//"`) and its parts. -/
structure FsPath where
  root : String
  parts : List String
  deriving DecidableEq, Repr, Inhabited

/-- The parts of a path text without its root: `.` and empty parts dropped. -/
def relativeParts (s : String) : List String :=
  (splitOn s "/").filter fun x => x != "" && x != "."

/-- Reads a path text. -/
def FsPath.parse (s : String) : FsPath :=
  let lead := (s.toList.takeWhile (· == '/')).length
  let root := if lead == 0 then "" else if lead == 2 then "//" else "/"
  ⟨root, relativeParts s⟩

/-- The text of a path. -/
def FsPath.text (p : FsPath) : String :=
  if p.root == "" && p.parts.isEmpty then "." else p.root ++ "/".intercalate p.parts

/-- The path below `p` named by the text `s`; a text with a root stands for itself. -/
def FsPath.join (p : FsPath) (s : String) : FsPath :=
  let q := FsPath.parse s
  if q.root != "" then q else ⟨p.root, p.parts ++ q.parts⟩

/-- The last part, or `""` for a bare root or `.`. -/
def FsPath.name (p : FsPath) : String :=
  p.parts.getLastD ""

/-- The path without its last part; a bare root or `.` is its own parent. -/
def FsPath.parent (p : FsPath) : FsPath :=
  ⟨p.root, p.parts.dropLast⟩

/-- The path with its last part replaced. -/
def FsPath.withName (p : FsPath) (n : String) : FsPath :=
  ⟨p.root, p.parts.dropLast ++ [n]⟩

/-- Where the last dot of a name stands, if a suffix starts there: not first, not last. -/
def suffixStart (name : String) : Option Nat :=
  let cs := name.toList
  let dots := (List.range cs.length).filter fun i => cs.getD i ' ' == '.'
  match dots.getLast? with
  | some i => if 0 < i && i + 1 < cs.length then some i else none
  | none => none

/-- The suffix of a name, `""` if it has none. -/
def nameSuffix (name : String) : String :=
  match suffixStart name with
  | some i => String.ofList (name.toList.drop i)
  | none => ""

/-- A name without its suffix. -/
def nameStem (name : String) : String :=
  match suffixStart name with
  | some i => String.ofList (name.toList.take i)
  | none => name

/-- The suffix of a path's last name. -/
def FsPath.suffix (p : FsPath) : String :=
  nameSuffix p.name

/-- The last name without its suffix. -/
def FsPath.stem (p : FsPath) : String :=
  nameStem p.name

/-- The path with its suffix taken off. -/
def FsPath.dropSuffix (p : FsPath) : FsPath :=
  if p.suffix == "" then p else p.withName p.stem

/-- Takes suffixes off while there is one. -/
def FsPath.withoutSuffixes (p : FsPath) : Nat → FsPath
  | 0 => p
  | n + 1 => if p.suffix == "" then p else (p.dropSuffix).withoutSuffixes n

/-- Takes suffixes off until there is none or it is `.gin`. -/
def FsPath.untilGin (p : FsPath) : Nat → FsPath
  | 0 => p
  | n + 1 => if p.suffix == "" || p.suffix == ".gin" then p else (p.dropSuffix).untilGin n

/-- The suffixes taken off on the way to `untilGin`, in the order they stand in the name. -/
def FsPath.suffixesAfterGin (p : FsPath) : Nat → List String
  | 0 => []
  | n + 1 =>
    if p.suffix == "" || p.suffix == ".gin" then []
    else (p.dropSuffix).suffixesAfterGin n ++ [p.suffix]

/-- All suffixes taken off. -/
def FsPath.stripAll (p : FsPath) : FsPath :=
  p.withoutSuffixes p.name.length

/-- Suffixes taken off down to `.gin`. -/
def FsPath.stripToGin (p : FsPath) : FsPath :=
  p.untilGin p.name.length

/-- The suffixes after the `.gin` part. -/
def FsPath.ginTail (p : FsPath) : List String :=
  p.suffixesAfterGin p.name.length

end GinSave.Store
