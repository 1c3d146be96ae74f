import GinSave.Cli.Spec
import GinSave.Cli.TextWrap
import GinSave.Text.Blank

/-!
Help pages and usage lines, 80 columns wide.

A page starts with the usage line, `Usage: PATH [OPTIONS] ARGS`, then the command's help text
indented by two, then sections: the arguments, the options and, for a group, its commands. A
section is a two-column list: names on the left, padded to the widest name (at most 30), and help
on the right, filled to the width left. A name wider than 30 puts its help on the next line.

An option's names are listed shortest prefix first, with the type of its value; a switch that
can be turned off also lists its negated names and shows its default. A command in a group's list
shows the first sentence of its help, or as many words as fit and `...`.
-/

namespace GinSave.Cli

open GinSave.Text

/-- The width help pages are laid out in. -/
def helpWidth : Nat := 80

/-- Blanks, `n` of them. -/
def blanks (n : Nat) : String :=
  String.ofList (List.replicate n ' ')

/-- Option names as help pages join them: the shortest prefix first, then in declared order. -/
def joinNames (names : List String) : String :=
  ", ".intercalate (names.mergeSort fun a b => (splitOption a).1.length ≤ (splitOption b).1.length)

/-- The name of a value's type, shown after an option that takes one. -/
def ValueType.metavar : ValueType → String
  | .text => "TEXT"
  | .path r => r.noun.toUpper
  | .choice os => "[" ++ "|".intercalate os ++ "]"

/-- The left and right columns of an option in a help page. -/
def OptionSpec.record (o : OptionSpec) : String × String :=
  let value := match o.kind with
    | .value t => " " ++ t.metavar
    | _ => ""
  let off := match o.kind with
    | .switch _ (n :: ns) => " / " ++ joinNames (n :: ns)
    | _ => ""
  let shownDefault : Option String := match o.kind with
    | .switch on (n :: ns) =>
      some (splitOption (if on then o.names.headD "" else (n :: ns).headD "")).2
    | .switch true [] => some "True"
    | _ => none
  let help := match shownDefault with
    | some d => if o.help.isEmpty then "[default: " ++ d ++ "]"
      else o.help ++ "  [default: " ++ d ++ "]"
    | none => o.help
  (joinNames o.names ++ value ++ off, help)

/-- How an argument is named in usage lines and messages. -/
def ArgumentSpec.metavar (a : ArgumentSpec) : String :=
  let name := a.dest.toUpper
  (if a.required then name else "[" ++ name ++ "]") ++ (if a.many then "..." else "")

/-- The left and right columns of an argument in a help page. -/
def ArgumentSpec.record (a : ArgumentSpec) : String × String :=
  let help := if a.required then
      (if a.help.isEmpty then "[required]" else a.help ++ "  [required]")
    else a.help
  (a.metavar, help)

/-- What follows the command path in a usage line. -/
def Command.usagePieces (c : Command) : String :=
  if c.isGroup then "[OPTIONS] COMMAND [ARGS]..."
  else " ".intercalate ("[OPTIONS]" :: c.arguments.map (·.metavar))

/-- The usage line of a command reached by `path`. -/
def usageLine (path : String) (c : Command) : String :=
  let lead := "Usage: " ++ path ++ " "
  if helpWidth ≥ lead.length + 20 then
    wrapText c.usagePieces helpWidth lead (blanks lead.length) false
  else
    lead ++ "\n" ++ wrapText c.usagePieces helpWidth (blanks 11) (blanks 11) false

/-- Where a help text is cut short: nowhere, after a sentence of `n` words, or before word `n`
with `total` characters counted up to and with it. -/
inductive Cut where
  | whole
  | sentence (n : Nat)
  | before (n total : Nat)

/-- Reads words from the `i`-th on, `total` characters counted so far. -/
def findCut (limit : Nat) : List String → Nat → Nat → Cut
  | [], _, _ => .whole
  | w :: rest, i, total =>
    let total := total + w.length + (if i > 0 then 1 else 0)
    if total > limit then .before i total
    else if w.endsWith "." then .sentence (i + 1)
    else if total == limit && !rest.isEmpty then .before i total
    else findCut limit rest (i + 1) total

/-- Drops words from the `i`-th back until what is left, with `...`, fits in `limit`. -/
def shrinkCut (words : List String) (limit : Nat) : Nat → Nat → Nat
  | 0, _ => 0
  | i + 1, total =>
    let total := total - ((words.getD (i + 1) "").length + 1)
    if total ≤ limit then i + 1 else shrinkCut words limit i total

/-- The text before the first empty line. -/
def firstParagraph : List Char → List Char
  | '\n' :: '\n' :: _ => []
  | c :: rest => c :: firstParagraph rest
  | [] => []

/-- The words of a text, split at blanks. -/
def wordsOf (cs : List Char) : List String :=
  ((cs.splitBy fun a b => isBlank a == isBlank b).filter fun w => !w.all isBlank).map String.ofList

/-- A command's help cut short to `limit` characters: its first sentence, or as many words as
fit, then `...`. -/
def shortHelp (help : String) (limit : Nat) : String :=
  let words := match wordsOf (firstParagraph help.toList) with
    | "\x08" :: rest => rest
    | ws => ws
  match findCut limit words 0 0 with
  | .whole => " ".intercalate words
  | .sentence n => " ".intercalate (words.take n)
  | .before i total => " ".intercalate (words.take (shrinkCut words limit i (total + 3))) ++ "..."

/-- A two-column list indented by `indent`. -/
def definitionList (indent : Nat) (rows : List (String × String)) : String :=
  let widest := rows.foldl (fun m r => max m r.1.length) 0
  let firstCol := min widest 30 + 2
  let textWidth := max (helpWidth - firstCol - 2) 10
  String.join (rows.map fun (first, second) =>
    let head := blanks indent ++ first
    if second.isEmpty then head ++ "\n"
    else
      let head := if first.length ≤ firstCol - 2 then head ++ blanks (firstCol - first.length)
        else head ++ "\n" ++ blanks (firstCol + indent)
      match splitLines (wrapText second textWidth "" "" true) with
      | [] => head ++ "\n"
      | l :: ls =>
        head ++ l ++ "\n" ++ String.join (ls.map fun x => blanks (firstCol + indent) ++ x ++ "\n"))

/-- A section of a help page: its heading and its list. -/
def helpSection (heading : String) (rows : List (String × String)) : String :=
  if rows.isEmpty then "" else "\n" ++ heading ++ ":\n" ++ definitionList 2 rows

/-- The help page of a command reached by `path`, without a final line feed. -/
def helpPage (path : String) (c : Command) : String :=
  let text := if c.help.isEmpty then ""
    else "\n" ++ wrapText c.help helpWidth "  " "  " true ++ "\n"
  let args := helpSection "Arguments" (c.arguments.map (·.record))
  let opts := helpSection "Options" (c.options.map (·.record))
  let cmds :=
    let subs := c.commands.mergeSort fun a b => a.name ≤ b.name
    let widest := subs.foldl (fun m s => max m s.name.length) 0
    helpSection "Commands" (subs.map fun s => (s.name, shortHelp s.help (helpWidth - 6 - widest)))
  let page := usageLine path c ++ "\n" ++ text ++ args ++ opts ++ cmds
  String.ofList (page.toList.reverse.dropWhile (· == '\n')).reverse

end GinSave.Cli
