import GinSave.Save.Schema
import GinSave.Json.Value

/-!
A save tree as a JSON document. Records become objects with their fields in schema order, and a
field that holds nothing is left out; lists become arrays and keep items that hold nothing, as
`null`. Vocabulary words are written as their spelling.

The text of a save is its document indented by four spaces.
-/

namespace GinSave.Save

open GinSave.Json

mutual
/-- The document of a node. -/
def Node.toDocument : Node → Value
  | .record _ fs => .obj (fieldsDocument fs)
  | .list items => .arr (itemsDocument items)
  | .dict entries => .obj (entriesDocument entries)
  | .int n => .int n
  | .real x => .real x
  | .text s => .str s
  | .bool b => .bool b
  | .none => .null
  | .stage s => .str s.value
  | .mark m => .str m.value

/-- The members of a record's fields that hold something. -/
def fieldsDocument : List (String × Node) → List (String × Value)
  | [] => []
  | (_, .none) :: rest => fieldsDocument rest
  | (n, v) :: rest => (n, v.toDocument) :: fieldsDocument rest

/-- The items of a list. -/
def itemsDocument : List Node → List Value
  | [] => []
  | v :: rest => v.toDocument :: itemsDocument rest

/-- The members of a mapping. -/
def entriesDocument : List (String × Node) → List (String × Value)
  | [] => []
  | (n, v) :: rest => (n, v.toDocument) :: entriesDocument rest
end

mutual
/-- The node a document stands for when no schema shapes it: objects become mappings and arrays
lists, item for item. -/
def Node.ofDocument : Value → Node
  | .null => .none
  | .bool b => .bool b
  | .int n => .int n
  | .real x => .real x
  | .str s => .text s
  | .arr items => .list (nodesOfItems items)
  | .obj members => .dict (nodesOfMembers members)

/-- The nodes of an array's items. -/
def nodesOfItems : List Value → List Node
  | [] => []
  | v :: rest => Node.ofDocument v :: nodesOfItems rest

/-- The nodes of an object's members. -/
def nodesOfMembers : List (String × Value) → List (String × Node)
  | [] => []
  | (k, v) :: rest => (k, Node.ofDocument v) :: nodesOfMembers rest
end

/-- The text of a save: its document, indented by four spaces. -/
def Node.documentText (n : Node) : String :=
  n.toDocument.render (some 4) 0

end GinSave.Save
