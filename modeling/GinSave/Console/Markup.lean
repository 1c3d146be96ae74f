import GinSave.Console.Emoji
import GinSave.Fault

/-!
Console markup. A tag is a name in square brackets whose first character is a lowercase letter,
`#`, `/` or `@`, and which holds no further `[`; `[bold]` opens a style and `[/bold]` closes it,
`[/]` closes the last one opened. The terminal shows no styles, so a tag prints nothing; what it
can still do is fail: a closing tag that matches no open one stops the print.

Backslashes before a tag escape it: each pair prints one backslash, and an odd one left over
prints the tag as text. In the plain text between tags, `\[` prints `[`, and emoji codes are
replaced (see `replaceEmoji`). A text without any `[` is only scanned for emoji. Last, the
control characters that move the cursor (bell, backspace, vertical tab, form feed, carriage
return) are dropped.
-/

namespace GinSave.Console

open GinSave.Text

/-- A piece of marked-up text: plain text, or a tag at a position with its name and the
parameters after its first `=`. -/
inductive Piece where
  | text (cs : List Char)
  | tag (pos : Nat) (name : List Char) (params : Option (List Char))

/-- The characters that may open a tag's name. -/
def opensTag (c : Char) : Bool :=
  ('a' ≤ c && c ≤ 'z') || c == '#' || c == '/' || c == '@'

/-- The rest of a tag up to its `]`, if no `[` comes first; and the text after it. -/
def tagRest : List Char → Option (List Char × List Char)
  | [] => none
  | c :: rest =>
    if c == ']' then some ([], rest)
    else if c == '[' then none
    else (tagRest rest).map fun (body, after) => (c :: body, after)

/-- A tag at the front of the text: the backslashes before it, its body, and the text after. -/
def tagAt (cs : List Char) : Option (Nat × List Char × List Char) :=
  let k := (cs.takeWhile (· == '\\')).length
  match cs.drop k with
  | '[' :: c :: rest =>
    if opensTag c then (tagRest rest).map fun (body, after) => (k, c :: body, after) else none
  | _ => none

/-- Splits a tag's body at its first `=`. -/
def splitParams (body : List Char) : List Char × Option (List Char) :=
  match body.findIdx? (· == '=') with
  | some i => (body.take i, some (body.drop (i + 1)))
  | none => (body, none)

/-- The pieces of a marked-up text from position `pos`; `pending` holds the plain text read since
the last tag, reversed. -/
def piecesFrom : Nat → List Char → Nat → List Char → List Piece
  | 0, _, _, pending => if pending.isEmpty then [] else [.text pending.reverse]
  | _, [], _, pending => if pending.isEmpty then [] else [.text pending.reverse]
  | fuel + 1, c :: rest, pos, pending =>
    match tagAt (c :: rest) with
    | none => piecesFrom fuel rest (pos + 1) (c :: pending)
    | some (k, body, after) =>
      let before : List Piece := if pending.isEmpty then [] else [.text pending.reverse]
      let pairs := k / 2
      let start := pos + 2 * pairs
      let slashes : List Piece := if pairs == 0 then [] else [.text (List.replicate pairs '\\')]
      let this : Piece :=
        if k % 2 == 1 then .text ('[' :: body ++ [']'])
        else
          let (name, params) := splitParams body
          .tag start name params
      let used := k + 2 + body.length
      before ++ slashes ++ [this] ++ piecesFrom fuel after (pos + used) []

/-- The pieces of a marked-up text. -/
def pieces (cs : List Char) : List Piece :=
  piecesFrom (cs.length + 1) cs 0 []

/-- A style name as tags compare it: without surrounding blanks, in lower case. -/
def normalStyle (cs : List Char) : List Char :=
  (lowerText (trimBlanks (String.ofList cs))).toList

/-- Plain text between tags: `\[` becomes `[`. -/
def unescapeBrackets : List Char → List Char
  | '\\' :: '[' :: rest => '[' :: unescapeBrackets rest
  | c :: rest => c :: unescapeBrackets rest
  | [] => []

/-- A tag as its text shows it. -/
def tagText (name : List Char) (params : Option (List Char)) : String :=
  let shownParams := match params with
    | some p => "=" ++ String.ofList p
    | none => ""
  "[" ++ String.ofList name ++ shownParams ++ "]"

/-- The stack of open styles with the last opened one removed whose name is `name`. -/
def closeStyle (name : List Char) : List (List Char) → Option (List (List Char))
  | [] => none
  | s :: rest => if s == name then some rest else (closeStyle name rest).map (s :: ·)

/-- Prints the pieces: their text, with the stack of open styles (last opened first). -/
def printPieces : List Piece → List (List Char) → Except Fault (List Char)
  | [], _ => .ok []
  | .text cs :: rest, styles => do
    let more ← printPieces rest styles
    return replaceEmoji (unescapeBrackets cs) ++ more
  | .tag pos name params :: rest, styles =>
    match name with
    | '/' :: styleName =>
      let style := normalStyle styleName
      if style.isEmpty then
        match styles with
        | [] => .error (.unbalancedMarkup
            ("closing tag '[/]' at position " ++ toString pos ++ " has nothing to close"))
        | _ :: others => printPieces rest others
      else
        match closeStyle style styles with
        | some others => printPieces rest others
        | none => .error (.unbalancedMarkup ("closing tag '" ++ tagText name params ++
            "' at position " ++ toString pos ++ " doesn't match any open tag"))
    | _ => printPieces rest (normalStyle name :: styles)

/-- The control characters the console drops. -/
def isDroppedControl (c : Char) : Bool :=
  c.toNat == 7 || c.toNat == 8 || c.toNat == 11 || c.toNat == 12 || c.toNat == 13

/-- The text a marked-up text prints, or the fault of its markup. -/
def printedText (cs : List Char) : Except Fault (List Char) := do
  let shown ← if cs.contains '[' then printPieces (pieces cs) [] else pure (replaceEmoji cs)
  return shown.filter (!isDroppedControl ·)

end GinSave.Console
