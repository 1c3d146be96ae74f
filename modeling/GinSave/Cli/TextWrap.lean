import GinSave.Text.Alnum
import GinSave.Text.Blank

/-!
Filling help text into lines of a given width, as the command line's help pages do.

A text is cut into chunks: runs of ASCII blanks, and words. A word is also cut after a hyphen that
two letters precede and a letter (perhaps after one more hyphen) and a letter follow, so
`key-value` may break as `key-` and `value`. Lines are then filled greedily: a line takes chunks
while they fit in the width less its indent. A blank chunk that would start a line after the first
is dropped, and so is a blank chunk that ends a line. A chunk wider than a whole line is cut to the
room left (at least one character), and what remains of it starts the next line.

With paragraphs kept, the text is first cut at empty lines; each paragraph is filled on its own,
indented by the indent of its first line, and the paragraphs are joined by an empty line. A
paragraph whose first line is a lone backspace character keeps its lines as they are.
-/

namespace GinSave.Cli

open GinSave.Text

/-- The blanks that separate words in help text. -/
def isWrapBlank (c : Char) : Bool :=
  c == ' ' || c == '\t' || c == '\n' || c.toNat == 0x0B || c.toNat == 0x0C || c == '\r'

/-- Letters as hyphenation sees them: word characters other than digits. -/
def isWordLetter (c : Char) : Bool :=
  (isAlnum c && !('0' ≤ c && c ≤ '9')) || c == '_'

/-- Whether a word may break right after the hyphen at the front of `after`, with `before` the
word's characters before the hyphen, last first. -/
def breaksAfterHyphen (before after : List Char) : Bool :=
  let behind := match before with
    | a :: b :: _ => isWordLetter a && isWordLetter b
    | _ => false
  let behindPair := match before with
    | a :: '-' :: b :: _ => isWordLetter a && isWordLetter b
    | _ => false
  let ahead := match after with
    | '-' :: x :: '-' :: y :: _ => isWordLetter x && isWordLetter y
    | '-' :: x :: y :: _ => isWordLetter x && isWordLetter y
    | _ => false
  (behind || behindPair) && ahead

/-- The chunks of a word, cut after its breaking hyphens; `acc` holds the current chunk,
last first. -/
def wordChunks : List Char → List Char → List (List Char)
  | [], acc => if acc.isEmpty then [] else [acc.reverse]
  | c :: rest, acc =>
    if c == '-' && !acc.isEmpty && breaksAfterHyphen acc (c :: rest) then
      (c :: acc).reverse :: wordChunks rest []
    else wordChunks rest (c :: acc)

/-- The chunks of a text: blank runs and word chunks, in order. -/
def chunksOf (fuel : Nat) (cs : List Char) : List (List Char) :=
  match fuel with
  | 0 => []
  | fuel + 1 =>
    match cs with
    | [] => []
    | c :: _ =>
      if isWrapBlank c then
        let run := cs.takeWhile isWrapBlank
        run :: chunksOf fuel (cs.drop run.length)
      else
        let word := cs.takeWhile (!isWrapBlank ·)
        wordChunks word [] ++ chunksOf fuel (cs.drop word.length)

/-- Whether a chunk is all blanks. -/
def isBlankChunk (chunk : List Char) : Bool :=
  chunk.all isWrapBlank

/-- Takes chunks onto a line while they fit in `room`; the line taken, last first, its length,
and the chunks left. -/
def takeFitting (room : Nat) : List (List Char) → List (List Char) → Nat →
    List (List Char) × Nat × List (List Char)
  | [], line, used => (line, used, [])
  | chunk :: rest, line, used =>
    if used + chunk.length ≤ room then takeFitting room rest (chunk :: line) (used + chunk.length)
    else (line, used, chunk :: rest)

/-- Fills chunks into lines; `started` tells whether a line is made already. -/
def fillChunks (width : Nat) (initial subsequent : String) : Nat → Bool → List (List Char) →
    List String
  | 0, _, _ => []
  | _, _, [] => []
  | fuel + 1, started, chunks =>
    let indent := if started then subsequent else initial
    let room := width - indent.length
    let chunks := match chunks with
      | c :: rest => if started && isBlankChunk c then rest else chunks
      | [] => []
    let (line, used, rest) := takeFitting room chunks [] 0
    let (line, rest) := match rest with
      | long :: more =>
        if room < long.length then
          let left := max (room - used) 1
          (long.take left :: line, long.drop left :: more)
        else (line, rest)
      | [] => (line, rest)
    let line := match line with
      | c :: others => if isBlankChunk c then others else line
      | [] => []
    let shown := if line.isEmpty then [] else [indent ++ String.ofList line.reverse.flatten]
    shown ++ fillChunks width initial subsequent fuel (started || !shown.isEmpty) rest

/-- The lines of a text filled to `width`, the first after `initial` and the others after
`subsequent`. -/
def fillLines (width : Nat) (initial subsequent : String) (text : String) : List String :=
  let chunks := chunksOf (text.length + 1) text.toList
  fillChunks width initial subsequent (text.length + chunks.length + 2) false chunks

/-- A paragraph: its indent, whether its lines are kept as they are, and its text. -/
structure Paragraph where
  indent : Nat
  raw : Bool
  text : String

/-- The paragraph gathered in `buf`, if any. -/
def flushParagraph (buf : List String) (indent : Nat) : List Paragraph :=
  match buf with
  | [] => []
  | first :: rest =>
    if trimBlanks first == "\x08" then [⟨indent, true, "\n".intercalate rest⟩]
    else [⟨indent, false, " ".intercalate buf⟩]

/-- One line of a text read into paragraphs: those done, the lines of the current one, and its
indent once known. -/
def paragraphStep (acc : List Paragraph × List String × Option Nat) (line : String) :
    List Paragraph × List String × Option Nat :=
  let (done, buf, indent) := acc
  if line.isEmpty then (done ++ flushParagraph buf (indent.getD 0), [], none)
  else
    match indent with
    | none =>
      let stripped := String.ofList (line.toList.dropWhile isBlank)
      (done, buf ++ [stripped], some (line.length - stripped.length))
    | some i => (done, buf ++ [line], some i)

/-- The paragraphs of a text, cut at empty lines. -/
def paragraphsOf (lines : List String) : List Paragraph :=
  let (done, buf, indent) := lines.foldl paragraphStep ([], [], none)
  done ++ flushParagraph buf (indent.getD 0)

/-- A text filled to `width` with the given indents; with `paragraphs`, each paragraph is filled
on its own. -/
def wrapText (text : String) (width : Nat) (initial subsequent : String) (paragraphs : Bool) :
    String :=
  if !paragraphs then "\n".intercalate (fillLines width initial subsequent text)
  else
    let filled := (paragraphsOf (splitLines text)).map fun p =>
      let extra := String.ofList (List.replicate p.indent ' ')
      if p.raw then
        "\n".intercalate ((splitLines p.text).map fun l =>
          if l.isEmpty then l else initial ++ extra ++ l)
      else "\n".intercalate (fillLines width (initial ++ extra) (subsequent ++ extra) p.text)
    "\n\n".intercalate filled

end GinSave.Cli
