import GinSave.Save.Tagged
import GinSave.Save.Schema
import GinSave.Save.Line
import GinSave.Text.Lower

/-!
Applying content lines to a save. A line `key = value` of group `g` assigns the value read from
`value` at the dotted path `lower g ++ "." ++ key`; the middle word is not looked at, and values
of tag `Array` are skipped.

The path is walked from the root. A part made of digits only indexes a list (or a text); any
other part reads an attribute. A field that holds nothing is filled with a default record first
when it is one of the optional records of a pair's value; otherwise the walk notes `NONE FOUND!`
and goes on into nothing. At the end, a list takes the value at the last part read as an
integer (counting from the end when negative), and any other node takes it as an attribute. No
shape is checked: the value is stored as read.

A word of a vocabulary is one object wherever it stands. An attribute set on a word is kept in a
table of the words' attributes, not in the save: it is read through every place that holds the
word, and it stays set from one reading to the next.

A fault stops the walk; whatever was filled in before it stays. Faults of the walk come before
faults of reading the value, and those before faults of the final assignment.
-/

namespace GinSave.Save

open GinSave.Text

/-- Whether a path part indexes: not empty, and digits only (digits of any script, and digits
that are not decimal). -/
def isIndexPart (p : String) : Bool :=
  !p.isEmpty && p.toList.all isDigitLike

/-- The optional record a walk fills in when a field of that name holds nothing. -/
def suppliedKind? : String → Option Kind
  | "datapad" => some .datapad
  | "rebuild" => some .rebuild
  | "rebuild_npc" => some .rebuildNpc
  | "trinket" => some .trinket
  | _ => none

/-- The attributes set on words, by word and name. -/
structure WordAttrs where
  get : Word → String → Option Node

namespace WordAttrs

/-- No attribute set on any word, as when the program starts. -/
def empty : WordAttrs := ⟨fun _ _ => none⟩

/-- Sets an attribute of a word. -/
def set (t : WordAttrs) (w : Word) (name : String) (v : Node) : WordAttrs :=
  ⟨fun w' name' => if w' = w ∧ name' = name then some v else t.get w' name'⟩

@[simp] theorem get_empty (w : Word) (name : String) : empty.get w name = none := rfl

@[simp] theorem get_set (t : WordAttrs) (w : Word) (name : String) (v : Node) (w' : Word)
    (name' : String) :
    (t.set w name v).get w' name' = if w' = w ∧ name' = name then some v else t.get w' name' := rfl

end WordAttrs

namespace Node

/-- The attribute a node holds itself: a record's field, or the spelling and constant name of a
vocabulary word. The writer reads only these: the key of a pair's item and the spelling of a
mark. -/
def attr? (n : Node) (name : String) : Except Fault Node :=
  match n with
  | record k fs =>
    match fs.find? (·.1 == name) with
    | some (_, v) => .ok v
    | Option.none => .error (.noAttribute k.name name)
  | stage s =>
    if name == "value" then .ok (text s.value)
    else if name == "name" then .ok (text s.constName)
    else .error (.noAttribute Stage.typeName name)
  | mark m =>
    if name == "value" then .ok (text m.value)
    else if name == "name" then .ok (text m.constName)
    else .error (.noAttribute Mark.typeName name)
  | other => .error (.noAttribute other.typeName name)

/-- An attribute as a walk reads it: one set on a word, if there is one, else the node's own. -/
def getAttr? (words : WordAttrs) (n : Node) (name : String) : Except Fault Node :=
  match n.word? with
  | some w =>
    match words.get w name with
    | some v => .ok v
    | Option.none => n.attr? name
  | Option.none => n.attr? name

/-- The character of a text at a position. -/
def charItem? (s : String) (i : Nat) : Except Fault Node :=
  match s.toList[i]? with
  | some c => .ok (text c.toString)
  | Option.none => .error (.indexOutOfRange "string")

/-- The item of a node at a position: of a list, or a character of a text. -/
def item? (n : Node) (i : Nat) : Except Fault Node :=
  match n with
  | list items =>
    match items[i]? with
    | some v => .ok v
    | Option.none => .error (.indexOutOfRange "list")
  | text s => charItem? s i
  | stage s => charItem? s.value i
  | mark m => charItem? m.value i
  | other => .error (.notSubscriptable other.typeName)

/-- A record with one field replaced; other nodes stay as they are. -/
def withField (n : Node) (name : String) (v : Node) : Node :=
  match n with
  | record k fs => record k (fs.map fun (f, old) => if f == name then (f, v) else (f, old))
  | other => other

/-- A list with one item replaced; other nodes stay as they are (a text's characters cannot be
replaced). -/
def withItem (n : Node) (i : Nat) (v : Node) : Node :=
  match n with
  | list items => list (items.set i v)
  | other => other

/-- Whether a name is one of a word's own attributes, its spelling and its constant name. -/
def isWordOwn (name : String) : Bool :=
  name == "name" || name == "value"

/-- Sets an attribute: a record's field, refused for a name the record lacks, or an attribute of
a word, kept in the table of words' attributes; a word's spelling and name are refused. Other
nodes have no attributes to set. -/
def setAttr (words : WordAttrs) (n : Node) (name : String) (v : Node) :
    Except Fault (Node × WordAttrs) :=
  match n.word? with
  | some w =>
    if isWordOwn name then .error (.readOnlyAttribute "Enum" name) else .ok (n, words.set w name v)
  | Option.none =>
    match n with
    | record k fs =>
      if fs.any (·.1 == name) then .ok (n.withField name v, words) else .error (.noField k.name name)
    | other => .error (.noAttribute other.typeName name)

/-- Puts back what a walk left of an attribute it went through: a record's field, or an attribute
set on a word. A word's spelling and name are texts, which a walk leaves as they are. -/
def putAttr (words : WordAttrs) (n : Node) (name : String) (v : Node) : Node × WordAttrs :=
  match n.word? with
  | some w => if isWordOwn name then (n, words) else (n, words.set w name v)
  | Option.none => (n.withField name v, words)

/-- Sets a list's item at a position counted from the end when negative. -/
def setItem (items : List Node) (i : Int) (v : Node) : Except Fault Node :=
  let j := if i < 0 then i + items.length else i
  if 0 ≤ j ∧ j < items.length then .ok (list (items.set j.toNat v))
  else .error .assignmentOutOfRange

end Node

/-- The result of an assignment: the node with every change made, the table of words'
attributes with every change made, the notes printed on the way, and the fault that stopped it,
if any. -/
structure Assigned where
  node : Node
  words : WordAttrs
  notes : List String := []
  fault : Option Fault := none

/-- The final assignment at the last part of a path. -/
def assignLast (words : WordAttrs) (n : Node) (last : String) (v : Node) : Assigned :=
  match n with
  | .list items =>
    match readIntContent last with
    | .error f => ⟨n, words, [], some f⟩
    | .ok i =>
      match Node.setItem items i v with
      | .ok n' => ⟨n', words, [], none⟩
      | .error f => ⟨n, words, [], some f⟩
  | _ =>
    match n.setAttr words last v with
    | .ok (n', words') => ⟨n', words', [], none⟩
    | .error f => ⟨n, words, [], some f⟩

/-- Walks the parts of a path from `n` and assigns the value read, if it was read. Each node the
walk goes into is put back where it was read, as the walk left it. -/
def assignPath (value : Except Fault Node) : WordAttrs → Node → List String → Assigned
  | words, n, [] => ⟨n, words, [], none⟩
  | words, n, [last] =>
    match value with
    | .error f => ⟨n, words, [], some f⟩
    | .ok v => assignLast words n last v
  | words, n, p :: rest =>
    if isIndexPart p then
      match readIntContent p with
      | .error f => ⟨n, words, [], some f⟩
      | .ok i =>
        match n.item? i.toNat with
        | .error f => ⟨n, words, [], some f⟩
        | .ok child =>
          let r := assignPath value words child rest
          ⟨n.withItem i.toNat r.node, r.words, r.notes, r.fault⟩
    else
      match n.getAttr? words p with
      | .error f => ⟨n, words, [], some f⟩
      | .ok child =>
        let (child, notes) : Node × List String :=
          match child with
          | .none =>
            match suppliedKind? p with
            | some k => (k.default, [])
            | none => (.none, ["NONE FOUND! " ++ p])
          | c => (c, [])
        let r := assignPath value words child rest
        let (n', words') := n.putAttr r.words p r.node
        ⟨n', words', notes ++ r.notes, r.fault⟩

/-- Applies one content line to a save. -/
def applyLine (words : WordAttrs) (save : Node) (line : Line) : Assigned :=
  match splitOnAtMost line.text " " 2 with
  | [key, _, value] =>
    if value.startsWith "Array" then ⟨save, words, [], none⟩
    else assignPath (readTagged value) words save (splitOn (lowerText line.group ++ "." ++ key) ".")
  | parts => ⟨save, words, [], some (.tooFewParts 3 parts.length)⟩

/-- Applies content lines in order, stopping at the first fault. -/
def applyLines (words : WordAttrs) (save : Node) : List Line → Assigned
  | [] => ⟨save, words, [], none⟩
  | l :: rest =>
    let r := applyLine words save l
    match r.fault with
    | some _ => r
    | none =>
      let r' := applyLines r.words r.node rest
      ⟨r'.node, r'.words, r.notes ++ r'.notes, r'.fault⟩

/-- Reads save text into a save: its content lines applied in order. -/
def readSaveText (words : WordAttrs) (save : Node) (text : String) : Assigned :=
  applyLines words save (contentLines text)

end GinSave.Save
