import GinSave.Console.Markup
import GinSave.Console.Cells

/-!
Printing a message on the console, which is 80 cells wide. The message's markup is read first
(see `printedText`); then each of its lines is laid out on its own.

A line is cut into words: a run of non-blanks with the blanks after it (the first word also keeps
the blanks before it). Words go on the current row while their width without trailing blanks
fits what is left of it; a word that does not fit starts a new row, and a word wider than a whole
row is folded into rows of at most 80 cells, its last part starting the next row. A tab moves to
the next multiple of eight cells. Each row then loses the trailing blanks that stick out beyond 80
characters, and is cut to 80 cells. Rows end with a line feed, and so does the message.
-/

namespace GinSave.Console

open GinSave.Text

/-- The console's width in cells. -/
def consoleWidth : Nat := 80

/-- A line with its tabs expanded: each becomes a blank, then blanks up to the next multiple of
eight cells. `col` is the cell the line starts at. -/
def expandTabs : List Char → Nat → List Char
  | [], _ => []
  | '\t' :: rest, col =>
    let col := col + 1
    let pad := if col % 8 == 0 then 0 else 8 - col % 8
    ' ' :: List.replicate pad ' ' ++ expandTabs rest (col + pad)
  | c :: rest, col => c :: expandTabs rest (col + charCells c)

/-- The words of a line from position `start`, each with its start. -/
def wordsFrom : Nat → List Char → Nat → List (Nat × List Char)
  | 0, _, _ => []
  | fuel + 1, cs, start =>
    let lead := cs.takeWhile isBlank
    let afterLead := cs.drop lead.length
    let body := afterLead.takeWhile (!isBlank ·)
    if body.isEmpty then []
    else
      let afterBody := afterLead.drop body.length
      let trail := afterBody.takeWhile isBlank
      let word := lead ++ body ++ trail
      (start, word) :: wordsFrom fuel (afterBody.drop trail.length) (start + word.length)

/-- A text without its trailing blanks. -/
def dropTrailingBlanks (cs : List Char) : List Char :=
  (cs.reverse.dropWhile isBlank).reverse

/-- A text cut into parts of at most `width` cells, from the left, each as long as it can be;
`part` is the part being filled, last first, and `used` its cells. -/
def chopFrom (width : Nat) : List Char → List Char → Nat → List (List Char) → List (List Char)
  | [], part, _, done => (part.reverse :: done).reverse
  | c :: rest, part, used, done =>
    if width < used + charCells c then chopFrom width rest [c] (charCells c) (part.reverse :: done)
    else chopFrom width rest (c :: part) (used + charCells c) done

/-- A text cut into parts of at most `width` cells. -/
def chopCells (width : Nat) (cs : List Char) : List (List Char) :=
  chopFrom width cs [] 0 []

/-- The positions where a word wider than a row is folded, starting at `start`; and the cells of
its last part. -/
def foldBreaks (start : Nat) : List (List Char) → List Nat × Nat
  | [] => ([], 0)
  | [last] => (if start == 0 then [] else [start], textCells last)
  | part :: parts =>
    let (more, cells) := foldBreaks (start + part.length) parts
    ((if start == 0 then [] else [start]) ++ more, cells)

/-- The positions where a line breaks into rows of `width` cells: one step per word, with the
breaks so far and the cells used on the current row. -/
def breakStep (width : Nat) (acc : List Nat × Nat) (w : Nat × List Char) : List Nat × Nat :=
  let (breaks, used) := acc
  let (start, word) := w
  let needed := textCells (dropTrailingBlanks word)
  if used + needed ≤ width then (breaks, used + textCells word)
  else if width < needed then
    let (more, cells) := foldBreaks start (chopCells width word)
    (breaks ++ more, cells)
  else if used != 0 && start != 0 then (breaks ++ [start], textCells word)
  else (breaks, used)

/-- The positions where a line breaks into rows. -/
def lineBreaks (width : Nat) (cs : List Char) : List Nat :=
  ((wordsFrom (cs.length + 1) cs 0).foldl (breakStep width) ([], 0)).1

/-- A line cut at the given positions, which ascend. -/
def cutAt (cs : List Char) (pos : Nat) : List Nat → List (List Char)
  | [] => [cs]
  | p :: ps => cs.take (p - pos) :: cutAt (cs.drop (p - pos)) p ps

/-- A row without the trailing blanks that stick out beyond `width` characters. -/
def trimOverhang (width : Nat) (row : List Char) : List Char :=
  let trailing := row.length - (dropTrailingBlanks row).length
  row.take (row.length - min trailing (row.length - width))

/-- A row cut to `width` cells; a wide character cut in half leaves a blank. -/
def cropCells (width : Nat) : List Char → List Char
  | [] => []
  | c :: rest =>
    let w := charCells c
    if w ≤ width then c :: cropCells (width - w) rest
    else if width == 1 then [' ']
    else []

/-- The rows of one line. -/
def lineRows (width : Nat) (line : List Char) : List (List Char) :=
  let line := if line.contains '\t' then expandTabs line 0 else line
  (cutAt line 0 (lineBreaks width line)).map fun row =>
    let row := trimOverhang width row
    if textCells row ≤ width then row else cropCells width row

/-- A text cut into lines at its line feeds. -/
def splitNewlines : List Char → List (List Char)
  | [] => [[]]
  | c :: rest =>
    match splitNewlines rest with
    | [] => [[c]]
    | line :: lines => if c == '\n' then [] :: line :: lines else (c :: line) :: lines

/-- What printing a message writes, or the fault of its markup. -/
def printed (msg : String) : Except Fault String := do
  let text ← printedText msg.toList
  let rows := (splitNewlines text).flatMap (lineRows consoleWidth)
  return String.join (rows.map fun row => String.ofList row ++ "\n")

end GinSave.Console
