import GinSave.Save.Stage
import GinSave.Number.Shortest
import GinSave.Text.Quoted

/-!
The tree a save is held in. A node is a record of one of the schema's kinds, a list, a mapping
from names to nodes, or a single value. Records keep their fields in schema order. Nothing
forces a field to hold a node of its declared shape: assignments from save text are stored as
read, and the tree shows them so.

Every node has a type name, used by messages, and a display: the text a node is written as when
it stands inside a list or a message.
-/

namespace GinSave.Save

open GinSave.Number GinSave.Text

/-- The kinds of records of the save schema. -/
inductive Kind where
  | root | save | trail | marker | markers | mapManager | parts | halynAlign | tomo
  | frailPuppet | capu | hacker | philosopher | shii | minions | mel | cos | tan | rad
  | estragon | mioPlot | halynPlot | goliath | plotPoints | factorio | mapState | trinket
  | rebuild | rebuildNpc | datapad | pairValue | pair | savedEntries | visibility
  | notImportant | vec2 | vec3
  deriving Repr, DecidableEq, Inhabited

/-- The name of a kind of record, as messages give it. -/
def Kind.name : Kind → String
  | .root => "MIOSave" | .save => "Save" | .trail => "Trail" | .marker => "Marker"
  | .markers => "Markers" | .mapManager => "MapManager" | .parts => "MIOParts"
  | .halynAlign => "HalynAlign" | .tomo => "Tomo" | .frailPuppet => "FrailPuppet"
  | .capu => "Capu" | .hacker => "Hacker" | .philosopher => "Philosopher" | .shii => "Shii"
  | .minions => "Minions" | .mel => "Mel" | .cos => "Cos" | .tan => "Tan" | .rad => "Rad"
  | .estragon => "Estrogen" | .mioPlot => "MIOPlotPoints" | .halynPlot => "HalynPlotPoints"
  | .goliath => "Goliath" | .plotPoints => "PlotPoints" | .factorio => "Factorio"
  | .mapState => "MapState" | .trinket => "Trinket" | .rebuild => "Rebuild"
  | .rebuildNpc => "RebuildNPC" | .datapad => "Datapad" | .pairValue => "PairValue"
  | .pair => "Pair" | .savedEntries => "SavedEntries" | .visibility => "SavedVisibility2"
  | .notImportant => "SavedNotImportant" | .vec2 => "f32x2" | .vec3 => "f32x3"

/-- Whether records of a kind are vectors: written as one value, not field by field. -/
def Kind.isVector : Kind → Bool
  | .vec2 | .vec3 => true
  | _ => false

/-- A node of a save tree. -/
inductive Node where
  /-- A record of a kind, its fields in schema order. -/
  | record (kind : Kind) (fields : List (String × Node))
  | list (items : List Node)
  /-- A mapping from names to nodes, as a document writes it. -/
  | dict (entries : List (String × Node))
  | int (n : Int)
  | real (x : Float)
  | text (s : String)
  | bool (b : Bool)
  | none
  | stage (s : Stage)
  | mark (m : Mark)
  deriving Inhabited

namespace Node

/-- The type name of a node, as messages give it. -/
def typeName : Node → String
  | record k _ => k.name
  | list _ => "list"
  | dict _ => "dict"
  | int _ => "int"
  | real _ => "float"
  | text _ => "str"
  | bool _ => "bool"
  | none => "NoneType"
  | stage _ => Stage.typeName
  | mark _ => Mark.typeName

/-- The word a node is, if it is one. -/
def word? : Node → Option Word
  | stage s => some (.stage s)
  | mark m => some (.mark m)
  | _ => Option.none

/-- How reals are written in displays: the shortest digits, positional from `1e-4` to below
`1e16`. -/
def realStyle : FloatStyle := ⟨-4, 16, "nan", "inf"⟩

/-- The text of an integer. -/
def intText (n : Int) : String :=
  (if n < 0 then "-" else "") ++ String.ofList (Nat.toDigits 10 n.natAbs)

mutual
/-- The display of a node inside a list or a message: texts quoted, records as
`Kind(field=…, …)`, vocabulary words as `<Vocabulary.CONST: 'Word'>`. -/
def display : Node → String
  | record k fs => k.name ++ "(" ++ displayFields fs ++ ")"
  | list items => "[" ++ displayItems items ++ "]"
  | dict entries => "\x7b" ++ displayEntries entries ++ "\x7d"
  | int n => intText n
  | real x => realStyle.render x
  | text s => quote s
  | bool b => if b then "True" else "False"
  | none => "None"
  | stage s => "<" ++ Stage.typeName ++ "." ++ s.constName ++ ": " ++ quote s.value ++ ">"
  | mark m => "<" ++ Mark.typeName ++ "." ++ m.constName ++ ": " ++ quote m.value ++ ">"

/-- The fields of a record as `name=display`, separated by commas. -/
def displayFields : List (String × Node) → String
  | [] => ""
  | [(n, v)] => n ++ "=" ++ display v
  | (n, v) :: rest => n ++ "=" ++ display v ++ ", " ++ displayFields rest

/-- The items of a list, separated by commas. -/
def displayItems : List Node → String
  | [] => ""
  | [v] => display v
  | v :: rest => display v ++ ", " ++ displayItems rest

/-- The entries of a mapping as `'name': display`, separated by commas. -/
def displayEntries : List (String × Node) → String
  | [] => ""
  | [(n, v)] => quote n ++ ": " ++ display v
  | (n, v) :: rest => quote n ++ ": " ++ display v ++ ", " ++ displayEntries rest
end

/-- The plain text of a node: a text or a vocabulary word as itself, a record as its fields
separated by blanks, anything else as its display. -/
def plainText : Node → String
  | text s => s
  | stage s => s.value
  | mark m => m.value
  | record _ fs => " ".intercalate (fs.map fun (n, v) => n ++ "=" ++ display v)
  | v => display v

end Node

end GinSave.Save
