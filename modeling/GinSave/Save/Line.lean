import GinSave.Text.Blank

/-!
The content lines of save text. The text is cut into lines at every line boundary; empty lines
are dropped and the rest trimmed of blanks. Outside a group, a line that ends with an opening
brace opens a group named by the line without its last two characters, and any other line is
skipped. Inside a group, a closing brace alone closes it and every other line belongs to it.
Opening a group of a name already seen empties its lines but keeps its place among the groups.

The content lines are the lines of every group, group after group in the order the groups were
first opened.
-/

namespace GinSave.Save

open GinSave.Text

/-- A content line and the group it belongs to. -/
structure Line where
  group : String
  text : String
  deriving Repr, DecidableEq

/-- The groups read so far, in the order they were first opened, each with its lines. -/
abbrev Groups := List (String × List String)

/-- Opens a group: empties its lines, or adds it at the end. -/
def Groups.openGroup (gs : Groups) (name : String) : Groups :=
  if gs.any (·.1 == name) then gs.map fun (n, ls) => if n == name then (n, []) else (n, ls)
  else gs ++ [(name, [])]

/-- Adds a line to a group. -/
def Groups.addLine (gs : Groups) (name line : String) : Groups :=
  gs.map fun (n, ls) => if n == name then (n, ls ++ [line]) else (n, ls)

/-- Sorts trimmed lines into groups; `current` is the open group, if any. -/
def groupLines : Option String → Groups → List String → Groups
  | _, gs, [] => gs
  | none, gs, l :: rest =>
    if l.endsWith "\x7b" then
      let name := String.ofList l.toList.dropLast.dropLast
      groupLines (some name) (gs.openGroup name) rest
    else groupLines none gs rest
  | some g, gs, l :: rest =>
    if l == "\x7d" then groupLines none gs rest
    else groupLines (some g) (gs.addLine g l) rest

/-- The lines of save text that the grouping reads: not empty before trimming, trimmed. -/
def trimmedLines (text : String) : List String :=
  ((splitLines text).filter (· != "")).map trimBlanks

/-- The content lines of save text, in the order they are applied. -/
def contentLines (text : String) : List Line :=
  (groupLines none [] (trimmedLines text)).flatMap fun (g, ls) => ls.map (Line.mk g)

end GinSave.Save
