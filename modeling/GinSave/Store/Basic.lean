import GinSave.Store.Path
import GinSave.Fault

/-!
A file store: directories with permission bits and files with contents, keyed by absolute paths
given as lists of names, in the order they were made.

Opening a path walks it as the kernel does. Every directory passed must be searchable by its
owner (the `x` bit), exist, and be a directory; `..` steps back up. The last name is then looked
up in the directory reached: creating a file or a directory there needs the `w` bit, a name
longer than 255 bytes is refused before that, and a directory is never opened for writing. New
directories get the mode asked for less the `022` creation mask.
-/

namespace GinSave.Store

/-- What a path of the store holds. -/
inductive Entry where
  | file (bytes : ByteArray)
  | dir (mode : Nat)

/-- A volume of the file store: its entries. The root directory is always there, open to all. -/
structure Volume where
  entries : List (List String × Entry) := []

/-- The creation mask the store applies. -/
def creationMask : Nat := 0o022

/-- The mode a directory made with mode `m` gets. -/
def dirMode (m : Nat) : Nat :=
  (m % 0o2000) &&& (0o7777 - creationMask)

/-- The entry at an absolute path. -/
def Volume.find? (s : Volume) (p : List String) : Option Entry :=
  if p.isEmpty then some (.dir 0o755) else (s.entries.find? (·.1 == p)).map (·.2)

/-- Whether the path holds a directory. -/
def Volume.isDirAt (s : Volume) (p : List String) : Bool :=
  match s.find? p with
  | some (.dir _) => true
  | _ => false

/-- Whether the path holds a file. -/
def Volume.isFileAt (s : Volume) (p : List String) : Bool :=
  match s.find? p with
  | some (.file _) => true
  | _ => false

/-- The permission bits of the directory at `p` (none for a file or nothing). -/
def Volume.modeAt (s : Volume) (p : List String) : Option Nat :=
  match s.find? p with
  | some (.dir m) => some m
  | _ => none

/-- Whether the owner may pass through the directory. -/
def Volume.searchable (s : Volume) (p : List String) : Bool :=
  match s.modeAt p with
  | some m => m &&& 0o100 != 0
  | none => false

/-- Whether the owner may add names to the directory. -/
def Volume.writable (s : Volume) (p : List String) : Bool :=
  match s.modeAt p with
  | some m => m &&& 0o200 != 0
  | none => false

/-- Whether the owner may list the directory. -/
def Volume.listable (s : Volume) (p : List String) : Bool :=
  match s.modeAt p with
  | some m => m &&& 0o400 != 0
  | none => false

/-- The faults of opening a path, each naming the path as it was given. -/
def denied (shown : String) : Fault := .os .permission 13 "Permission denied" (some shown)
def missingPath (shown : String) : Fault := .os .notFound 2 "No such file or directory" (some shown)
def notADirectory (shown : String) : Fault := .os .notADirectory 20 "Not a directory" (some shown)
def isADirectory (shown : String) : Fault := .os .isDirectory 21 "Is a directory" (some shown)
def alreadyThere (shown : String) : Fault := .os .alreadyExists 17 "File exists" (some shown)
def nameTooLong (shown : String) : Fault := .os .osError 36 "File name too long" (some shown)

/-- The absolute parts of a path given relative to `cwd` (a path with a root stands alone). -/
def absoluteParts (cwd : List String) (p : FsPath) : List String :=
  if p.root == "" then cwd ++ p.parts else p.parts

/-- A path made absolute, with `..` stepped back and nothing else changed: the store has no
links. -/
def FsPath.resolved (cwd : List String) (p : FsPath) : FsPath :=
  ⟨"/", (absoluteParts cwd p).foldl (fun acc n => if n == ".." then acc.dropLast else acc ++ [n]) []⟩

/-- Walks the directories `names` from `cur`; returns the directory reached. -/
def Volume.walk (s : Volume) (shown : String) : List String → List String →
    Except Fault (List String)
  | cur, [] => .ok cur
  | cur, n :: rest =>
    if !s.searchable cur then .error (denied shown)
    else if n == ".." then s.walk shown cur.dropLast rest
    else if 255 < n.utf8ByteSize then .error (nameTooLong shown)
    else match s.find? (cur ++ [n]) with
      | none => .error (missingPath shown)
      | some (.file _) => .error (notADirectory shown)
      | some (.dir _) => s.walk shown (cur ++ [n]) rest

/-- The directory that holds a path's last name, and that name (`none` when the path ends in a
directory of its own: a bare root or `..`). -/
def Volume.locate (s : Volume) (cwd : List String) (p : FsPath) :
    Except Fault (List String × Option String) := do
  let parts := absoluteParts cwd p
  let shown := p.text
  match parts.getLast? with
  | none => return ([], none)
  | some last =>
    let dir ← s.walk shown [] parts.dropLast
    if !s.searchable dir then throw (denied shown)
    if last == ".." then return (dir.dropLast, none)
    if 255 < last.utf8ByteSize then throw (nameTooLong shown)
    return (dir, some last)

/-- The store with the entry at `p` set, replacing any entry there. -/
def Volume.put (s : Volume) (p : List String) (e : Entry) : Volume :=
  if s.entries.any (·.1 == p) then
    ⟨s.entries.map fun (q, old) => if q == p then (q, e) else (q, old)⟩
  else ⟨s.entries ++ [(p, e)]⟩

/-- Opens a path for writing and writes `bytes`, making the file if it is new. -/
def Volume.writeFile (s : Volume) (cwd : List String) (p : FsPath) (bytes : ByteArray) :
    Except Fault Volume := do
  let shown := p.text
  let (dir, last) ← s.locate cwd p
  match last with
  | none => throw (isADirectory shown)
  | some n =>
    match s.find? (dir ++ [n]) with
    | some (.dir _) => throw (isADirectory shown)
    | some (.file _) => return s.put (dir ++ [n]) (.file bytes)
    | none =>
      if !s.writable dir then throw (denied shown)
      return s.put (dir ++ [n]) (.file bytes)

/-- Makes one directory with the mode asked for. -/
def Volume.makeDir (s : Volume) (cwd : List String) (p : FsPath) (mode : Nat) :
    Except Fault Volume := do
  let shown := p.text
  let (dir, last) ← s.locate cwd p
  match last with
  | none => throw (alreadyThere shown)
  | some n =>
    if (s.find? (dir ++ [n])).isSome then throw (alreadyThere shown)
    if !s.writable dir then throw (denied shown)
    return s.put (dir ++ [n]) (.dir (dirMode mode))

/-- Whether a path names a directory, walking it as an open would; a failed walk says no. -/
def Volume.isDir (s : Volume) (cwd : List String) (p : FsPath) : Bool :=
  match s.locate cwd p with
  | .ok (dir, none) => s.isDirAt dir
  | .ok (dir, some n) => s.isDirAt (dir ++ [n])
  | .error _ => false

/-- The absolute path a path names, if the walk to it succeeds. -/
def Volume.target (s : Volume) (cwd : List String) (p : FsPath) : Option (List String) :=
  match s.locate cwd p with
  | .ok (dir, none) => some dir
  | .ok (dir, some n) => some (dir ++ [n])
  | .error _ => none

/-- Makes a directory; with `parents`, first the missing directories above it; with `existOk`,
a directory already there is no fault. -/
def Volume.mkdir (s : Volume) (cwd : List String) (p : FsPath) (mode : Nat)
    (parents existOk : Bool) : Nat → Except Fault Volume
  | 0 => s.makeDir cwd p mode
  | fuel + 1 =>
    match s.makeDir cwd p mode with
    | .ok s' => .ok s'
    | .error e =>
      if parents && e.category == .notFound && p.parent != p then
        match s.mkdir cwd p.parent 0o777 true true fuel with
        | .error e' => .error e'
        | .ok s' => s'.mkdir cwd p mode false existOk fuel
      else if existOk && s.isDir cwd p then .ok s
      else .error e

/-- The store without the entry at `p` and everything below it. -/
def Volume.removeTree (s : Volume) (p : List String) : Volume :=
  ⟨s.entries.filter fun (q, _) => !(p.isPrefixOf q)⟩

/-- The names directly in the directory at `p`, in the order they were made. -/
def Volume.children (s : Volume) (p : List String) : List String :=
  s.entries.filterMap fun (q, _) =>
    if q.length == p.length + 1 && p.isPrefixOf q then q.getLast? else none

/-- The files below the directory at `p`, with their paths below it, sorted by path text. -/
def Volume.filesUnder (s : Volume) (p : List String) : List (String × ByteArray) :=
  let found := s.entries.filterMap fun (q, e) =>
    match e with
    | .file b => if p.isPrefixOf q && p.length < q.length then
        some ("/".intercalate (q.drop p.length), b) else none
    | .dir _ => none
  found.mergeSort fun a b => decide (a.1 ≤ b.1)

/-- What a path names, as a stat of it finds it: the entry, or why the walk to it failed. -/
def Volume.stat (s : Volume) (cwd : List String) (p : FsPath) : Except Fault Entry := do
  let (dir, last) ← s.locate cwd p
  match last with
  | none => return .dir ((s.modeAt dir).getD 0o755)
  | some n =>
    match s.find? (dir ++ [n]) with
    | some e => return e
    | none => throw (missingPath p.text)

/-- The contents of the file a path names. -/
def Volume.readFile (s : Volume) (cwd : List String) (p : FsPath) : Except Fault ByteArray := do
  let shown := p.text
  let (dir, last) ← s.locate cwd p
  match last with
  | none => throw (isADirectory shown)
  | some n =>
    match s.find? (dir ++ [n]) with
    | some (.file b) => return b
    | some (.dir _) => throw (isADirectory shown)
    | none => throw (missingPath shown)

end GinSave.Store
