import GinSave.Save.Schema
import GinSave.Save.Tagged
import GinSave.Json.Reader
import GinSave.Text.Lower

/-!
Checking a JSON document against the save schema. Every field the document gives is coerced to
its declared shape; a field it does not give takes its default; names the schema does not know
are ignored. All issues of the document are gathered, in field order, each with its path; a
document with issues is refused as a whole.

Coercions: an integer field takes integers, truth values (as 1 and 0), reals (cut toward zero)
and integer texts; a real field takes numbers, truth values and real texts; a truth field takes
truth values, 0 and 1, and the texts `0 off f false n no` and `1 on t true y yes` in any case; a
text field takes texts, and numbers and truth values as their display. A record field takes an
object, or a list of pairs. Nothing is accepted where a value is required, except in the optional
records of a pair's value. Two coercions cannot fail gracefully: a real infinity where an integer
is due, and an integer beyond the doubles where a real is due, stop the whole check.
-/

namespace GinSave.Save

open GinSave.Json GinSave.Text GinSave.Number

/-- The class name of a document value, as messages give it. -/
def valueTypeName : Value → String
  | .null => "NoneType"
  | .bool _ => "bool"
  | .int _ => "int"
  | .real _ => "float"
  | .str _ => "str"
  | .arr _ => "list"
  | .obj _ => "dict"

mutual
/-- A document value as a node, as it stands. -/
def Node.ofValue : Value → Node
  | .null => .none
  | .bool b => .bool b
  | .int n => .int n
  | .real x => .real x
  | .str s => .text s
  | .arr items => .list (Node.ofItems items)
  | .obj members => .dict (Node.ofMembers members)

/-- Document items as nodes. -/
def Node.ofItems : List Value → List Node
  | [] => []
  | v :: rest => Node.ofValue v :: Node.ofItems rest

/-- Document members as named nodes. -/
def Node.ofMembers : List (String × Value) → List (String × Node)
  | [] => []
  | (k, v) :: rest => (k, Node.ofValue v) :: Node.ofMembers rest
end

/-- What checking a part of a document gives: the node, and the issues found in it. -/
abbrev Checked := Except Fault (Node × List Issue)

/-- An issue with no context. -/
def issue (loc : List String) (code msg : String) : Issue :=
  ⟨loc, code, msg, []⟩

/-- The issue of a missing value where one is required. -/
def noneIssue (loc : List String) : Issue :=
  issue loc "type_error.none.not_allowed" "none is not an allowed value"

/-- The integer part of a finite double, cut toward zero; `none` for a NaN, and a fault for an
infinity. -/
def truncate (x : Float) : Except Fault (Option Int) :=
  match Binary64.ofFloat x with
  | .nan => .ok none
  | .infinity _ => .error (.overflow "cannot convert float infinity to integer")
  | .finite neg m e =>
    let n : Nat := m * Nat.pow 2 e.toNat / Nat.pow 2 (-e).toNat
    .ok (some (if neg then -(n : Int) else n))

/-- The integer a document value is coerced to, if any. -/
def coerceInt (v : Value) : Except Fault (Option Int) :=
  match v with
  | .int n => .ok (some n)
  | .bool b => .ok (some (if b then 1 else 0))
  | .real x => truncate x
  | .str s => .ok (match readInt s with | .ok n => some n | .error _ => none)
  | _ => .ok none

/-- The double nearest an integer, or a fault when the integer is beyond the doubles. -/
def intToFloat (n : Int) : Except Fault Float :=
  let x := nearestOfDecimal (n < 0) n.natAbs 0
  match Binary64.ofFloat x with
  | .infinity _ => .error (.overflow "int too large to convert to float")
  | _ => .ok x

/-- The real a document value is coerced to, if any. -/
def coerceReal (v : Value) : Except Fault (Option Float) :=
  match v with
  | .real x => .ok (some x)
  | .int n => (intToFloat n).map some
  | .bool b => .ok (some (if b then 1 else 0))
  | .str s => .ok (readFloat s)
  | _ => .ok none

/-- The texts that read as true and as false, after lowering their case. -/
def trueWords : List String := ["1", "on", "t", "true", "y", "yes"]
def falseWords : List String := ["0", "off", "f", "false", "n", "no"]

/-- The truth value a document value is coerced to, if any. -/
def coerceTruth (v : Value) : Option Bool :=
  match v with
  | .bool b => some b
  | .int n => if n == 1 then some true else if n == 0 then some false else none
  | .real x =>
    match Binary64.ofFloat x with
    | .finite _ m _ => if x == 1 then some true else if m == 0 then some false else none
    | _ => none
  | .str s =>
    let l := lowerText s
    if trueWords.contains l then some true else if falseWords.contains l then some false else none
  | _ => none

/-- The text a document value is coerced to, if any. -/
def coerceText (v : Value) : Except Fault (Option String) :=
  match v with
  | .str s => .ok (some s)
  | .int n =>
    if decimalLength n.natAbs > maxWrittenDigits then .error .intTooLongToWrite
    else .ok (some (Node.intText n))
  | .real x => .ok (some (Node.realStyle.render x))
  | .bool b => .ok (some (if b then "True" else "False"))
  | _ => .ok none

/-- The message of a word outside a vocabulary: the words it permits, and as context the
vocabulary's constants. -/
def vocabularyIssue (loc : List String) (values consts : List String) : Issue :=
  ⟨loc, "type_error.enum",
    "value is not a valid enumeration member; permitted: " ++ ", ".intercalate (values.map quote),
    [("enum_values", "[" ++ ", ".intercalate consts ++ "]")]⟩

/-- The stages, as a vocabulary issue lists them. -/
def stageIssue (loc : List String) : Issue :=
  vocabularyIssue loc (Stage.all.map (·.value)) (Stage.all.map fun s => (Node.stage s).display)

/-- The marks, as a vocabulary issue lists them. -/
def markIssue (loc : List String) : Issue :=
  vocabularyIssue loc (Mark.all.map (·.value)) (Mark.all.map fun m => (Node.mark m).display)

/-- Checks one scalar against a scalar shape. -/
def checkScalar (shape : Shape) (loc : List String) (v : Value) : Checked :=
  match v with
  | .null => .ok (.none, [noneIssue loc])
  | _ =>
    match shape with
    | .integer | .word32 => do
      match ← coerceInt v with
      | some n => return (.int n, [])
      | none => return (.none, [issue loc "type_error.integer" "value is not a valid integer"])
    | .word64 => do
      match ← coerceInt v with
      | some n =>
        if n < 0 then
          return (.none, [⟨loc, "value_error.number.not_ge",
            "ensure this value is greater than or equal to 0", [("limit_value", "0")]⟩])
        else if n > Nat.pow 2 64 - 1 then
          return (.none, [⟨loc, "value_error.number.not_le",
            "ensure this value is less than or equal to 18446744073709551615",
            [("limit_value", "18446744073709551615")]⟩])
        else return (.int n, [])
      | none => return (.none, [issue loc "type_error.integer" "value is not a valid integer"])
    | .real => do
      match ← coerceReal v with
      | some x => return (.real x, [])
      | none => return (.none, [issue loc "type_error.float" "value is not a valid float"])
    | .truth =>
      match coerceTruth v with
      | some b => .ok (.bool b, [])
      | none => .ok (.none, [issue loc "type_error.bool" "value could not be parsed to a boolean"])
    | .text => do
      match ← coerceText v with
      | some s => return (.text s, [])
      | none => return (.none, [issue loc "type_error.str" "str type expected"])
    | .stage =>
      match v with
      | .str s =>
        match Stage.ofValue? s with
        | some st => .ok (.stage st, [])
        | none => .ok (.none, [stageIssue loc])
      | _ => .ok (.none, [stageIssue loc])
    | _ => .ok (.none, [])

/-- Checks one mark of a list of marks. -/
def checkMark (loc : List String) (v : Value) : Checked :=
  match v with
  | .null => .ok (.none, [noneIssue loc])
  | .str s =>
    match Mark.ofValue? s with
    | some m => .ok (.mark m, [])
    | none => .ok (.none, [markIssue loc])
  | _ => .ok (.none, [markIssue loc])

/-- Checks one word of a vocabulary that has no words: every word is refused. -/
def checkStatus (loc : List String) (v : Value) : Checked :=
  match v with
  | .null => .ok (.none, [noneIssue loc])
  | _ => .ok (.none, [vocabularyIssue loc [] []])

/-- Checks the items of a list, each with its own path. -/
def checkItems (loc : List String) (check : List String → Value → Checked) (items : List Value) :
    Checked := do
  let mut nodes : Array Node := #[]
  let mut issues : Array Issue := #[]
  for (item, i) in items.zipIdx do
    let (n, is) ← check (loc ++ [Node.intText i]) item
    nodes := nodes.push n
    issues := issues ++ is.toArray
  return (.list nodes.toList, issues.toList)

/-- Checks a list field, whose items are checked by `check`. -/
def checkList (loc : List String) (check : List String → Value → Checked) (v : Value) : Checked :=
  match v with
  | .null => .ok (.none, [noneIssue loc])
  | .arr items => checkItems loc check items
  | _ => .ok (.none, [issue loc "type_error.list" "value is not a valid list"])

/-- The pairs of a list read as keyword arguments: each item must be a pair (a list of two, a
text of two characters, or an object of two members, which gives its names); the first of each
pair is its name. `none` when an item is no pair or its name cannot be a name at all. -/
def pairsOf (items : List Value) : Option (List (Value × Value)) :=
  items.mapM fun item =>
    match item with
    | .arr [a, b] => match a with
      | .arr _ | .obj _ => none
      | _ => some (a, b)
    | .str s => match s.toList with
      | [a, b] => some (.str a.toString, .str b.toString)
      | _ => none
    | .obj [(a, _), (b, _)] => some (.str a, .str b)
    | _ => none

/-- Keyword arguments from pairs: later names win; every name must be a text. -/
def keywordsOf (pairs : List (Value × Value)) : Except Fault (List (String × Value)) :=
  pairs.foldlM (fun acc (k, v) =>
    match k with
    | .str s => .ok (addMember acc s v)
    | _ => .error .keywordsNotText) []

/-- The arguments a record is built from: an object's members, or a list's pairs. `none` when
the value is neither. -/
def recordArguments (v : Value) : Option (Except Fault (List (String × Value))) :=
  match v with
  | .obj members => some (.ok members)
  | .arr items => (pairsOf items).map fun ps =>
      if ps.all (fun (k, _) => match k with | .str _ => true | _ => false) then keywordsOf ps
      else .error .keywordsNotText
  | _ => none

mutual
/-- Checks a value against a field shape at a path, within `fuel` levels of records. -/
def checkShape (fuel : Nat) (shape : Shape) (loc : List String) (v : Value) : Checked :=
  match fuel with
  | 0 => .ok (.none, [])
  | fuel + 1 =>
    match shape with
    | .marks => checkList loc checkMark v
    | .statuses => checkList loc checkStatus v
    | .words => checkList loc (fun l x => checkScalar .word32 l x) v
    | .texts => checkList loc (fun l x => checkScalar .text l x) v
    | .anyList =>
      match v with
      | .null => .ok (.none, [noneIssue loc])
      | .arr items => .ok (.list (Node.ofItems items), [])
      | _ => .ok (.none, [issue loc "type_error.list" "value is not a valid list"])
    | .record k =>
      match v with
      | .null => .ok (.none, [noneIssue loc])
      | _ => checkRecordValue fuel k loc v
    | .optional k =>
      match v with
      | .null => .ok (.none, [])
      | _ => checkRecordValue fuel k loc v
    | .records k =>
      match v with
      | .null => .ok (.none, [noneIssue loc])
      | .arr items => checkRecordItems fuel k loc 0 items
      | _ => .ok (.none, [issue loc "type_error.list" "value is not a valid list"])
    | s => checkScalar s loc v
termination_by (fuel, 0, 0)

/-- Checks the items of a list of records, from index `i`. -/
def checkRecordItems (fuel : Nat) (k : Kind) (loc : List String) (i : Nat) (items : List Value) :
    Checked :=
  match items with
  | [] => .ok (.list [], [])
  | item :: rest => do
    let (n, is) ← match item with
      | .null => pure (.none, [noneIssue (loc ++ [Node.intText i])])
      | _ => checkRecordValue fuel k (loc ++ [Node.intText i]) item
    let (ns, is') ← checkRecordItems fuel k loc (i + 1) rest
    match ns with
    | .list l => return (.list (n :: l), is ++ is')
    | _ => return (.list [n], is ++ is')
termination_by (fuel, 4, items.length)

/-- Checks a value that must become a record of kind `k`. -/
def checkRecordValue (fuel : Nat) (k : Kind) (loc : List String) (v : Value) : Checked :=
  match recordArguments v with
  | none => .ok (.none, [issue loc "type_error.dict" "value is not a valid dict"])
  | some (.error _) => .ok (.none, [issue loc "type_error" "keywords must be strings"])
  | some (.ok args) => checkArguments fuel k loc args
termination_by (fuel, 3, 0)

/-- Checks keyword arguments as a record of kind `k`. Vectors take their components by name,
and refuse missing or repeated ones. -/
def checkArguments (fuel : Nat) (k : Kind) (loc : List String) (args : List (String × Value)) :
    Checked :=
  if k.isVector && args.any (·.1 == "self") then
    .ok (.none, [issue loc "type_error" (Fault.repeatedArgument k.constructorName "self").message])
  else
    let missing := k.components.filter fun c => !args.any (·.1 == c)
    if k.isVector && !missing.isEmpty then
      .ok (.none, [issue loc "type_error" (Fault.missingArguments k.constructorName missing).message])
    else checkFields fuel k loc args k.fields
termination_by (fuel, 2, 0)

/-- Checks the fields of a record of kind `k` against the arguments given. -/
def checkFields (fuel : Nat) (k : Kind) (loc : List String) (args : List (String × Value))
    (fields : List Field) : Checked :=
  match fields with
  | [] => .ok (.record k [], [])
  | f :: rest => do
    let (n, is) ← match args.find? (·.1 == f.name) with
      | some (_, v) => checkShape fuel f.shape (loc ++ [f.name]) v
      | none => pure (seedNode fuel f.shape f.seed, [])
    let (r, is') ← checkFields fuel k loc args rest
    match r with
    | .record _ fs => return (.record k ((f.name, n) :: fs), is ++ is')
    | _ => return (.record k [(f.name, n)], is ++ is')
termination_by (fuel, 1, fields.length)
end

/-- The issue of a document text that is no JSON. -/
def readIssue (doc : String) : ReadError → Issue
  | .grammar msg pos =>
    ⟨["__root__"], "value_error.jsondecode", syntaxMessage doc msg pos,
      [("msg", msg), ("doc", doc), ("pos", Node.intText pos),
        ("lineno", Node.intText (lineOf doc.toList pos)),
        ("colno", Node.intText (columnOf doc.toList pos))]⟩
  | .tooManyDigits n => ⟨["__root__"], "value_error", (Fault.tooManyDigits n).message, []⟩

/-- The keyword arguments a document gives a record model: an object's members, or a list's
pairs. A text that is no JSON, or a document that is neither, is an issue of the model. -/
def documentArguments (model text : String) : Except Fault (List (String × Value)) :=
  match parse text with
  | .error e => .error (.invalid model [readIssue text e])
  | .ok v =>
    match recordArguments v with
    | some r => r
    | none => .error (.invalid model [issue ["__root__"] "type_error"
        (model ++ " expected dict not " ++ valueTypeName v)])

/-- Reads and checks a save document: the save it describes, or why it is refused. -/
def checkSaveDocument (text : String) : Except Fault Node := do
  let args ← documentArguments Kind.root.name text
  match checkFields schemaDepth .root [] args Kind.root.fields with
  | .error f => .error f
  | .ok (n, []) => .ok n
  | .ok (_, issues) => .error (.invalid Kind.root.name issues)

end GinSave.Save
