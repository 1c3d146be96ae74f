import GinSave.Save.Tagged
import GinSave.Save.Assign

/-!
Writing a save as save text. The four blocks of the root (save, entries, visibility, details)
are written in order, each as `Name {`, its lines indented by two spaces, and `}` followed by an
empty line; the text ends with one more line break.

Within a block a record writes its fields in order under dotted keys, skipping fields that hold
nothing; vectors are values. A list drops its items that hold nothing or an empty text, and
then writes a header `key = Array(n)` followed by its items under `key.0`, `key.1`, …, renumbered
after dropping. The pairs of the entries keep their first item always and, after it, only items
whose key is not empty. A list under a key ending in `flags` or `datapad.status` is one value:
`Flags("A""B")`. Every other node is one tagged value.
-/

namespace GinSave.Save

/-- A word with its first letter in capitals and the others in small letters (ASCII words). -/
def capitalizeWord (s : String) : String :=
  match s.toList with
  | [] => ""
  | c :: rest => String.ofList (c.toUpper :: rest.map Char.toLower)

/-- The key of a field under a prefix. -/
def joinKey (pfx name : String) : String :=
  if pfx.isEmpty then name else pfx ++ "." ++ name

/-- Whether a node holds nothing. -/
def Node.isNothing : Node → Bool
  | .none => true
  | _ => false

/-- Whether a list item is dropped: it holds nothing or an empty text. -/
def isBlankItem : Node → Bool
  | .none => true
  | .text "" => true
  | _ => false

/-- Whether an item after the first of the entries' pairs is kept: it is not blank and its key
is not empty. An item without a key is refused. -/
def keepsPair (item : Node) : Except Fault Bool :=
  if isBlankItem item then .ok false
  else match item.attr? "key" with
    | .ok (.text s) => .ok (s != "")
    | .ok _ => .ok true
    | .error f => .error f

/-- The items a list writes, with their membership kept for the recursion. -/
def keptItems (pfx : String) (items : List Node) : Except Fault (List { x // x ∈ items }) :=
  if pfx == "pairs" && items.length > 1 then
    let keep (p : { x // x ∈ items } × Nat) : Except Fault Bool :=
      if p.2 == 0 then .ok true else keepsPair p.1.val
    (items.attach.zipIdx.filterM keep).map (·.map (·.1))
  else .ok (items.attach.filter fun x => !isBlankItem x.val)

/-- The word a mark writes in a `Flags` value. -/
def flagWord (n : Node) : Except Fault String :=
  match n.attr? "value" with
  | .ok (.text s) => .ok ("\"" ++ capitalizeWord s ++ "\"")
  | .ok other => .ok ("\"" ++ other.plainText ++ "\"")
  | .error f => .error f

/-- The lines that write a node under a key. -/
def writeNode (pfx : String) (n : Node) : Except Fault (List String) :=
  match hn : n with
  | .record k fs =>
    if k.isVector then do return [pfx ++ " = " ++ (← writeTagged n (some pfx))]
    else do
      let parts ← fs.attach.mapM fun ⟨(name, v), hmem⟩ =>
        have : sizeOf v < 1 + sizeOf k + sizeOf fs := by
          have h := List.sizeOf_lt_of_mem hmem
          simp at h
          omega
        if v.isNothing then .ok [] else writeNode (joinKey pfx name) v
      return parts.flatten
  | .list items => do
    let kept ← keptItems pfx items
    if pfx.endsWith "flags" || pfx.endsWith "datapad.status" then
      let words ← kept.mapM fun x => flagWord x.val
      return [pfx ++ " = Flags(" ++ String.join words ++ ")"]
    else
      let parts ← kept.zipIdx.mapM fun (⟨x, hmem⟩, i) =>
        have : sizeOf x < 1 + sizeOf items := by
          have h := List.sizeOf_lt_of_mem hmem
          omega
        if x.isNothing then .ok [] else writeNode (pfx ++ "." ++ Node.intText i) x
      return (pfx ++ " = Array(" ++ Node.intText kept.length ++ ")") :: parts.flatten
  | v => do return [pfx ++ " = " ++ (← writeTagged v (some pfx))]
termination_by sizeOf n

/-- The blocks of a save, in the order they are written. -/
def saveBlocks : List String :=
  ["save", "saved_entries", "saved_visibility2", "saved_not_important"]

/-- The save text of a save. -/
def Node.saveText (save : Node) : Except Fault String := do
  let mut out : List String := []
  for name in saveBlocks do
    let block ← save.attr? name
    let lines ← writeNode "" block
    out := out ++ [capitalizeWord name ++ " \x7b"] ++ lines.map ("  " ++ ·) ++ ["\x7d\n"]
  return "\n".intercalate out ++ "\n"

end GinSave.Save
