import GinSave.Console.EmojiCodes
import GinSave.Text.Lower
import GinSave.Text.Blank

/-!
Emoji codes in console text. A code is a name between two colons, with nothing blank in it,
such as `:smile:`. The name is looked up in any case; a name the table does not know leaves the
code as it stands. A name may end in `-emoji` or `-text` to ask for the emoji or the text
presentation, which adds the matching variation selector.

The scan reads the text from the left. At a colon it looks for the next colon with no blank
between: the text between is the name. Whether or not the name is known, the scan goes on after
that second colon, so the colon that closes one code never opens the next.
-/

namespace GinSave.Console

open GinSave.Text

/-- The emoji names the console knows, with their characters. -/
def emojiTable : List (String × String) :=
  (emojiEntries.splitOn "\n").filterMap fun line =>
    match (String.ofList (line.toList.dropWhile (· == ' '))).splitOn "\t" with
    | [name, chars] => some (name, chars)
    | _ => none

/-- The character of an emoji name, in any case. -/
def emojiOf? (name : List Char) : Option String :=
  let key := lowerText (String.ofList name)
  (emojiTable.find? (·.1 == key)).map (·.2)

/-- A name split from its presentation suffix: the base name and the selector it asks for. -/
def presentation (name : List Char) : List Char × List Char :=
  let n := name.length
  if n ≥ 6 && name.drop (n - 6) == "-emoji".toList then (name.take (n - 6), ['\uFE0F'])
  else if n ≥ 5 && name.drop (n - 5) == "-text".toList then (name.take (n - 5), ['\uFE0E'])
  else (name, [])

/-- What a complete code prints: its emoji with the selector asked for, or the code itself when
the name is unknown. -/
def codeText (name : List Char) : List Char :=
  let (base, selector) := presentation name
  match emojiOf? base with
  | some e => e.toList ++ selector
  | none => ':' :: name ++ [':']

/-- The scan of a text for codes. Outside a code (`open` is `none`) characters print as they
are and a colon opens a code; inside one, `open` holds the name read so far, reversed. A blank or
the end of the text gives the code up: its colon and name print as they stand (the name holds no
colon, so scanning it again would print it unchanged). A colon completes the code. -/
def replaceFrom : List Char → Option (List Char) → List Char
  | [], none => []
  | [], some nameRev => ':' :: nameRev.reverse
  | c :: rest, none => if c == ':' then replaceFrom rest (some []) else c :: replaceFrom rest none
  | c :: rest, some nameRev =>
    if c == ':' then codeText nameRev.reverse ++ replaceFrom rest none
    else if isBlank c then ':' :: nameRev.reverse ++ c :: replaceFrom rest none
    else replaceFrom rest (some (c :: nameRev))

/-- The text with its emoji codes replaced. -/
def replaceEmoji (cs : List Char) : List Char :=
  replaceFrom cs none

end GinSave.Console
