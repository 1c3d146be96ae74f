import GinSave.Save.Node
import GinSave.Fault
import GinSave.Number.Literal
import GinSave.Number.Fixed
import GinSave.Text.Split

/-!
Single tagged values of save text, such as `u32(5)`, `f32x3(1.000000, 2.000000, 0.500000)`,
`Enum_single("Hub")` or `Flags("Acquired""Equipped")`.

Reading drops the value's last character, whatever it is, cuts the rest at its first opening
parenthesis into tag and content, and strips every double quote from both ends of the content.
The tag decides how the content is read; an unknown tag reads as nothing.

Writing chooses the tag from the node and, for integers, from the dotted key the value is
written under: the identifier is a 64-bit word, the fields that hold counters and bit masks are
32-bit words, and every other integer is a signed 32-bit integer. Reals have six places; the save
time is a double, every other real a single.

Reading a written value gives the value back when its reals survive six places.
-/

namespace GinSave.Save

open GinSave.Number GinSave.Text

/-- Tag and content of a tagged value. -/
def splitTagged (value : String) : Except Fault (String × String) :=
  let body := String.ofList value.toList.dropLast
  match splitOnAtMost body "(" 1 with
  | [tag, content] => .ok (tag, content)
  | parts => .error (.tooFewParts 2 parts.length)

/-- A text without the double quotes at its ends. -/
def stripQuotes (s : String) : String :=
  String.ofList (((s.toList.dropWhile (· == '"')).reverse.dropWhile (· == '"')).reverse)

/-- The integer a content stands for. -/
def readIntContent (content : String) : Except Fault Int :=
  match readInt content with
  | .ok n => .ok n
  | .error .malformed => .error (.intText content)
  | .error (.tooManyDigits n) => .error (.tooManyDigits n)

/-- The real a content stands for. -/
def readFloatContent (content : String) : Except Fault Float :=
  match readFloat content with
  | some x => .ok x
  | none => .error (.floatText content)

/-- The names of a vector's components. -/
def Kind.components : Kind → List String
  | .vec2 => ["x", "y"]
  | .vec3 => ["x", "y", "z"]
  | _ => []

/-- The text a constructor of a kind is called by in messages. -/
def Kind.constructorName (k : Kind) : String :=
  k.name ++ ".__init__()"

/-- A vector from its components, given in order. Too few or too many components are refused,
as the constructor of the vector refuses them. -/
def vectorOf (k : Kind) (xs : List Float) : Except Fault Node :=
  let names := k.components
  if xs.length < names.length then
    .error (.missingArguments k.constructorName (names.drop xs.length))
  else if xs.length > names.length then
    .error (.tooManyArguments k.constructorName (names.length + 1) (xs.length + 1))
  else .ok (.record k (names.zip (xs.map Node.real)))

/-- Reads one tagged value of save text. -/
def readTagged (value : String) : Except Fault Node := do
  let (tag, content) ← splitTagged value
  let content := stripQuotes content
  match tag with
  | "i32" | "u32" | "u64" => return .int (← readIntContent content)
  | "String" => return .text content
  | "bool" => return .bool (content == "true")
  | "f32x3" => vectorOf .vec3 (← (splitOn content ", ").mapM readFloatContent)
  | "f32x2" => vectorOf .vec2 (← (splitOn content ", ").mapM readFloatContent)
  | "f32" | "f64" => return .real (← readFloatContent content)
  | "Enum_single" =>
    match Stage.ofValue? content with
    | some s => return .stage s
    | none => throw (.notInVocabulary Stage.typeName (quote content))
  | "Flags" =>
    let marks ← ((splitOn content "\"\"").filter (· != "")).mapM fun w =>
      match Mark.ofValue? w with
      | some m => .ok (Node.mark m)
      | none => .error (.notInVocabulary Mark.typeName (quote w))
    return .list marks
  | _ => return .none

/-- The keys whose integers are 32-bit words, as written. -/
def wordKeys : List String :=
  ["version", "plotpoints.mio.death_after_hub", "factorio.selected_experiment",
    "nacre_in_hub_basin", "nacre_buffered_in_hub_basin", "shield_decay_mask",
    "liquid_nacres_count"]

/-- The tag of an integer written under a key. -/
def intTag : Option String → String
  | none => "i32"
  | some key =>
    if key == "id" then "u64"
    else if wordKeys.contains key then "u32"
    else
      let parts := splitOn key "."
      if ["markers", "face_inside_bits", "edge_visited_bits"].contains (parts.getD 1 "") then
        "u32"
      else if ["rebuild", "rebuild_npc", "trinket"].contains (parts.getD 3 "") then "u32"
      else "i32"

/-- The most digits an integer may have to be written. -/
def maxWrittenDigits : Nat := 4300

/-- The decimal text of an integer, refused beyond the digits that are written. -/
def intDigitsText (n : Int) : Except Fault String :=
  if decimalLength n.natAbs > maxWrittenDigits then .error .intTooLongToWrite
  else .ok (Node.intText n)

/-- Writes one value of save text under a key. -/
def writeTagged (v : Node) (key : Option String) : Except Fault String :=
  match v with
  | .bool b => .ok ("bool(" ++ (if b then "true" else "false") ++ ")")
  | .int n => do return intTag key ++ "(" ++ (← intDigitsText n) ++ ")"
  | .real x =>
    .ok ((if key == some "last_save_time" then "f64(" else "f32(") ++ fixedText 6 x ++ ")")
  | .stage s => .ok ("Enum_single(\"" ++ s.value ++ "\")")
  | .record k fs =>
    if k.isVector then
      .ok (k.name ++ "(" ++ ", ".intercalate (fs.map fun (_, c) => match c with
        | .real x => fixedText 6 x
        | other => other.plainText) ++ ")")
    else .ok v.plainText
  | .text s => .ok ("String(\"" ++ s ++ "\")")
  | .mark m => .ok ("String(\"" ++ m.value ++ "\")")
  | other => .ok other.plainText

end GinSave.Save
