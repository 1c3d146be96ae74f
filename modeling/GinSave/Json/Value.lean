import GinSave.Number.Shortest
import GinSave.Text.Quoted

/-!
JSON documents and their text. A document is null, a truth value, an integer of any size, a
double, a text, an array or an object whose members keep their order.

The text is ASCII only: a character outside printable ASCII is written as `\uXXXX`, and as two
such escapes (a surrogate pair) beyond the basic plane; quote, backslash and the five common
controls have short escapes. Doubles are written with the fewest digits that read back, and
the values that are not finite as `NaN`, `Infinity` and `-Infinity`. With an indent, every member
and item stands on its own line, indented by its depth; empty arrays and objects stay `[]` and
`{}`. Without one, the document is one line, members separated by `, ` and names by `: `.
-/

namespace GinSave.Json

open GinSave.Number GinSave.Text

/-- A JSON document. -/
inductive Value where
  | null
  | bool (b : Bool)
  | int (n : Int)
  | real (x : Float)
  | str (s : String)
  | arr (items : List Value)
  | obj (members : List (String × Value))
  deriving Inhabited

/-- How doubles are written in documents. -/
def realStyle : FloatStyle := ⟨-4, 16, "NaN", "Infinity"⟩

/-- The escape of one character in ASCII-only document text. -/
def escapeChar (c : Char) : String :=
  let n := c.toNat
  if c == '"' then "\\\""
  else if c == '\\' then "\\\\"
  else if c == '\n' then "\\n"
  else if c == '\r' then "\\r"
  else if c == '\t' then "\\t"
  else if n == 8 then "\\b"
  else if n == 12 then "\\f"
  else if 0x20 ≤ n && n < 0x7F then c.toString
  else if n < 0x10000 then "\\u" ++ hexDigits 4 n
  else
    let v := n - 0x10000
    "\\u" ++ hexDigits 4 (0xD800 + v / 0x400) ++ "\\u" ++ hexDigits 4 (0xDC00 + v % 0x400)

/-- A text as a document writes it, in quotes. -/
def quoteText (s : String) : String :=
  "\"" ++ String.join (s.toList.map escapeChar) ++ "\""

/-- The text of an integer. -/
def intText (n : Int) : String :=
  (if n < 0 then "-" else "") ++ String.ofList (Nat.toDigits 10 n.natAbs)

namespace Value

mutual
/-- The text of a document. `indent` gives the spaces per level, if lines are broken, and
`depth` the level of this value. -/
def render (indent : Option Nat) (depth : Nat) : Value → String
  | null => "null"
  | bool b => if b then "true" else "false"
  | int n => intText n
  | real x => realStyle.render x
  | str s => quoteText s
  | arr [] => "[]"
  | arr items => "[" ++ renderItems indent (depth + 1) items ++ closing indent depth "]"
  | obj [] => "\x7b\x7d"
  | obj members => "\x7b" ++ renderMembers indent (depth + 1) members ++ closing indent depth "\x7d"

/-- Array items, each after its line break or separator. -/
def renderItems (indent : Option Nat) (depth : Nat) : List Value → String
  | [] => ""
  | [v] => opening indent depth ++ render indent depth v
  | v :: rest => opening indent depth ++ render indent depth v ++ "," ++
      (if indent.isSome then "" else " ") ++ renderItems indent depth rest

/-- Object members as `"name": value`, each after its line break or separator. -/
def renderMembers (indent : Option Nat) (depth : Nat) : List (String × Value) → String
  | [] => ""
  | [(k, v)] => opening indent depth ++ quoteText k ++ ": " ++ render indent depth v
  | (k, v) :: rest => opening indent depth ++ quoteText k ++ ": " ++ render indent depth v ++
      "," ++ (if indent.isSome then "" else " ") ++ renderMembers indent depth rest

/-- The line break and indentation before an item at `depth`, if lines are broken. -/
def opening (indent : Option Nat) (depth : Nat) : String :=
  match indent with
  | some w => "\n" ++ String.ofList (List.replicate (w * depth) ' ')
  | none => ""

/-- The line break before a closing bracket at `depth`, if lines are broken. -/
def closing (indent : Option Nat) (depth : Nat) (bracket : String) : String :=
  opening indent depth ++ bracket
end

end Value

end GinSave.Json

namespace GinSave.Json.Value

/-- The value of an object's member. -/
def field? : Value → String → Option Value
  | obj members, k => (members.find? (·.1 == k)).map (·.2)
  | _, _ => none

end GinSave.Json.Value
