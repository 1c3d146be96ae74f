import GinSave.Proofs.Save.Conforms
import GinSave.Proofs.Save.Fits

/-! The saves that come back unchanged from their save text. The writer drops what a list holds
past its last kept item and every empty text of a list, writes reals with six places, and puts
texts between quotes on one line; the reader fills lists of fixed length that it never grows. A
save is well shaped when none of this loses anything: its lists have the lengths of the reader's
defaults, the lists the reader cannot fill are empty, the items the writer drops are those the
default holds in their place, and its texts and reals survive being written. -/

namespace GinSave.Save

open GinSave.Text GinSave.Number

/-! ### Walking and gathering -/

/-- The node reached from `n` through a path of attributes. -/
def Node.at? (n : Node) : List String → Option Node
  | [] => some n
  | f :: rest =>
    match n.attr? f with
    | .ok c => c.at? rest
    | .error _ => Option.none

/-- The items of the list reached through a path of attributes. -/
def Node.listAt? (n : Node) (path : List String) : Option (List Node) :=
  match n.at? path with
  | some (.list items) => some items
  | _ => Option.none

mutual
/-- What `leaf` picks out of every node held in `n`, in order. -/
def Node.gather {α : Type} (leaf : Node → List α) : Node → List α
  | .record _ fs => gatherFields leaf fs
  | .dict entries => gatherFields leaf entries
  | .list items => gatherItems leaf items
  | n => leaf n

/-- What `leaf` picks out of the nodes of named fields. -/
def gatherFields {α : Type} (leaf : Node → List α) : List (String × Node) → List α
  | [] => []
  | (_, n) :: rest => n.gather leaf ++ gatherFields leaf rest

/-- What `leaf` picks out of the nodes of a list. -/
def gatherItems {α : Type} (leaf : Node → List α) : List Node → List α
  | [] => []
  | n :: rest => n.gather leaf ++ gatherItems leaf rest
end

/-- The text of a text node. -/
def textLeaf : Node → List String
  | .text s => [s]
  | _ => []

/-- The real of a real node. -/
def realLeaf : Node → List Float
  | .real x => [x]
  | _ => []

/-- Every text a node holds. -/
def Node.texts (n : Node) : List String :=
  n.gather textLeaf

/-- Every real a node holds, the components of vectors included. -/
def Node.reals (n : Node) : List Float :=
  n.gather realLeaf

theorem gatherFields_eq {α : Type} (leaf : Node → List α) :
    ∀ fs : List (String × Node), gatherFields leaf fs = fs.flatMap fun p => p.2.gather leaf
  | [] => by simp [gatherFields]
  | (_, n) :: rest => by simp [gatherFields, gatherFields_eq leaf rest]

theorem gatherItems_eq {α : Type} (leaf : Node → List α) :
    ∀ items : List Node, gatherItems leaf items = items.flatMap fun n => n.gather leaf
  | [] => by simp [gatherItems]
  | n :: rest => by simp [gatherItems, gatherItems_eq leaf rest]

@[simp] theorem gather_record {α : Type} (leaf : Node → List α) (k : Kind)
    (fs : List (String × Node)) :
    (Node.record k fs).gather leaf = fs.flatMap fun p => p.2.gather leaf := by
  rw [Node.gather, gatherFields_eq]

@[simp] theorem gather_list {α : Type} (leaf : Node → List α) (items : List Node) :
    (Node.list items).gather leaf = items.flatMap fun n => n.gather leaf := by
  rw [Node.gather, gatherItems_eq]

/-! ### Texts and reals written without loss -/

/-- Whether a text is written without loss: it holds no line boundary, and no quote at either
end. -/
def legibleText (s : String) : Bool :=
  s.toList.all (fun c => !isLineBoundary c) && s.toList.head?.all (· != '"') &&
    s.toList.getLast?.all (· != '"')

/-- Whether the texts and reals a seed gives are written without loss. -/
def Seed.legible : Seed → Bool
  | .real x => decide (readFloat (fixedText 6 x) = some x)
  | .text s => legibleText s
  | .vector xs => xs.all fun x => decide (readFloat (fixedText 6 x) = some x)
  | _ => true

theorem Kind.seeds_legible (k : Kind) : ∀ f ∈ k.fields, f.seed.legible = true := by
  cases k <;> decide +kernel

/-- A node whose texts and reals survive being written: no text holds a line boundary or starts
or ends with a quote, and every real reads back from its six places. -/
structure Legible (n : Node) : Prop where
  texts : ∀ s ∈ n.texts, (∀ c ∈ s.toList, isLineBoundary c = false) ∧ EndsClear (· == '"') s
  reals : ∀ x ∈ n.reals, readFloat (fixedText 6 x) = some x

namespace Legible

variable {n : Node}

theorem field {k : Kind} {fs : List (String × Node)} (legible : Legible (.record k fs))
    {p : String × Node} (mem : p ∈ fs) : Legible p.2 where
  texts s inS := legible.texts s (by simpa [Node.texts] using ⟨p.1, p.2, mem, inS⟩)
  reals x inX := legible.reals x (by simpa [Node.reals] using ⟨p.1, p.2, mem, inX⟩)

theorem item {items : List Node} (legible : Legible (.list items)) (mem : n ∈ items) :
    Legible n where
  texts s inS := legible.texts s (by simpa [Node.texts] using ⟨n, mem, inS⟩)
  reals x inX := legible.reals x (by simpa [Node.reals] using ⟨n, mem, inX⟩)

theorem text {s : String} (legible : Legible (.text s)) :
    (∀ c ∈ s.toList, isLineBoundary c = false) ∧ EndsClear (· == '"') s :=
  legible.texts s (by simp [Node.texts, Node.gather, textLeaf])

theorem real {x : Float} (legible : Legible (.real x)) : readFloat (fixedText 6 x) = some x :=
  legible.reals x (by simp [Node.reals, Node.gather, realLeaf])


theorem ofFields {k : Kind} {fs : List (String × Node)} (each : ∀ p ∈ fs, Legible p.2) :
    Legible (.record k fs) where
  texts s inS := by
    simp only [Node.texts, gather_record, List.mem_flatMap] at inS
    obtain ⟨p, mem, inP⟩ := inS
    exact (each p mem).texts s inP
  reals x inX := by
    simp only [Node.reals, gather_record, List.mem_flatMap] at inX
    obtain ⟨p, mem, inP⟩ := inX
    exact (each p mem).reals x inP

theorem ofItems {items : List Node} (each : ∀ n ∈ items, Legible n) : Legible (.list items) where
  texts s inS := by
    simp only [Node.texts, gather_list, List.mem_flatMap] at inS
    obtain ⟨n, mem, inN⟩ := inS
    exact (each n mem).texts s inN
  reals x inX := by
    simp only [Node.reals, gather_list, List.mem_flatMap] at inX
    obtain ⟨n, mem, inN⟩ := inX
    exact (each n mem).reals x inN

theorem ofText {s : String} (legible : legibleText s = true) : Legible (.text s) where
  texts t inT := by
    simp only [Node.texts, Node.gather, textLeaf, List.mem_singleton] at inT
    subst inT
    simp only [legibleText, Bool.and_eq_true, List.all_eq_true, Bool.not_eq_true'] at legible
    obtain ⟨⟨lines, first⟩, last⟩ := legible
    refine ⟨lines, fun c head => ?_, fun c tail => ?_⟩
    · simpa [head] using first
    · simpa [tail] using last
  reals x inX := by simp [Node.reals, Node.gather, realLeaf] at inX

theorem ofReal {x : Float} (exact : readFloat (fixedText 6 x) = some x) : Legible (.real x) where
  texts s inS := by simp [Node.texts, Node.gather, textLeaf] at inS
  reals y inY := by
    simp only [Node.reals, Node.gather, realLeaf, List.mem_singleton] at inY
    exact inY ▸ exact

/-- A node that holds no text and no real. -/
theorem ofBare {n : Node} (noTexts : n.texts = []) (noReals : n.reals = []) : Legible n where
  texts s inS := by simp [noTexts] at inS
  reals x inX := by simp [noReals] at inX

theorem seedNode {fuel : Nat} (defaults : ∀ k : Kind, Legible (k.defaultWithin fuel))
    {shape : Shape} {seed : Seed} (legible : seed.legible = true) :
    Legible (GinSave.Save.seedNode fuel shape seed) := by
  cases seed <;> unfold GinSave.Save.seedNode
  case real x => exact ofReal (of_decide_eq_true legible)
  case text s => exact ofText legible
  case marks ms =>
    refine ofItems fun n mem => ?_
    obtain ⟨m, -, rfl⟩ := List.mem_map.mp mem
    exact ofBare rfl rfl
  case zeros n => exact ofItems fun n mem => List.eq_of_mem_replicate mem ▸ ofBare rfl rfl
  case blanks n => exact ofItems fun n mem => List.eq_of_mem_replicate mem ▸ ofText rfl
  case empty => exact ofItems fun n mem => absurd mem List.not_mem_nil
  case vector xs =>
    simp only [Seed.legible, List.all_eq_true, decide_eq_true_eq] at legible
    split
    · refine ofFields fun p mem => ?_
      obtain ⟨x, inXs, same⟩ := List.mem_map.mp (List.of_mem_zip mem).2
      exact same ▸ ofReal (legible x inXs)
    · exact ofBare rfl rfl
  case record =>
    split
    · exact defaults _
    · exact ofBare rfl rfl
  case records n =>
    split
    · exact ofItems fun n mem => List.eq_of_mem_replicate mem ▸ defaults _
    · exact ofBare rfl rfl
  all_goals exact ofBare rfl rfl

/-- Every default record is written without loss. -/
theorem defaultWithin : ∀ (fuel : Nat) (k : Kind), Legible (k.defaultWithin fuel)
  | 0, k => by
    rw [Kind.defaultWithin]
    exact ofBare rfl rfl
  | fuel + 1, k => by
    rw [Kind.defaultWithin, fieldDefaults_eq_map]
    refine ofFields fun p mem => ?_
    obtain ⟨f, inFields, rfl⟩ := List.mem_map.mp mem
    exact seedNode (defaultWithin fuel) (Kind.seeds_legible k f inFields)

end Legible

/-! ### Well-shaped saves -/

/-- A save that its save text gives back. The lists of fixed length (the markers, the bits of the
map, the room triggers of the goliath and the pairs of the entries) have the lengths of the
reader's defaults; the trail's points and the visibility pairs, which the reader cannot fill, are
empty; the room triggers are texts that are all given before the first empty one; after its first
pair, the entries hold pairs with a key and then only default pairs; and every text and real is
written without loss. -/
structure WellShaped (m : Node) : Prop where
  markers : (m.listAt? ["save", "markers", "markers"]).map List.length = some 16
  faces : (m.listAt? ["save", "map_state", "face_inside_bits"]).map List.length = some 1241
  edges : (m.listAt? ["save", "map_state", "edge_visited_bits"]).map List.length = some 1408
  triggerCount :
    (m.listAt? ["save", "plotpoints", "goliath", "room_entrance_triggers"]).map List.length = some 12
  entryCount : (m.listAt? ["saved_entries", "pairs"]).map List.length = some 1710
  trail : m.listAt? ["save", "trail", "points"] = some []
  visible : m.listAt? ["saved_visibility2", "pairs"] = some []
  triggers : ∃ (given : List String) (blanks : Nat),
    m.listAt? ["save", "plotpoints", "goliath", "room_entrance_triggers"] =
      some (given.map .text ++ List.replicate blanks (.text "")) ∧ ∀ s ∈ given, s ≠ ""
  entries : ∃ (first : Node) (keyed defaults : List Node),
    m.listAt? ["saved_entries", "pairs"] = some (first :: keyed ++ defaults) ∧
      (∀ p ∈ keyed, ∃ s, p.attr? "key" = .ok (.text s) ∧ s ≠ "") ∧
      ∀ p ∈ defaults, p = Kind.pair.default
  legible : Legible m

/-! ### Walking into a record -/

theorem find?_of_mem {f : String} {c : Node} :
    ∀ {fs : List (String × Node)}, (fs.map Prod.fst).Nodup → (f, c) ∈ fs →
      fs.find? (·.1 == f) = some (f, c)
  | [], _, mem => by simp at mem
  | (g, d) :: rest, nodup, mem => by
    rw [List.map_cons, List.nodup_cons] at nodup
    rcases List.mem_cons.mp mem with same | later
    · simp [← same]
    · have other : g ≠ f := by
        rintro rfl
        exact nodup.1 (List.mem_map.mpr ⟨_, later, rfl⟩)
      simp [other, find?_of_mem nodup.2 later]

theorem attr?_of_mem {k : Kind} {fs : List (String × Node)} {f : String} {c : Node}
    (nodup : (fs.map Prod.fst).Nodup) (mem : (f, c) ∈ fs) : (Node.record k fs).attr? f = .ok c := by
  simp [Node.attr?, find?_of_mem nodup mem]

/-- Walking into a record through one of its fields, whose names are distinct. -/
theorem listAt?_field {k : Kind} {fs : List (String × Node)} {f : String} {c : Node}
    (nodup : (fs.map Prod.fst).Nodup) (mem : (f, c) ∈ fs) (rest : List String) :
    (Node.record k fs).listAt? (f :: rest) = c.listAt? rest := by
  simp [Node.listAt?, Node.at?, attr?_of_mem nodup mem]

/-- An attribute of a default record is the default its field's seed stands for. -/
theorem Kind.defaultWithin_attr? (fuel : Nat) (k : Kind) (name : String) :
    (k.defaultWithin (fuel + 1)).attr? name =
      match k.fields.find? (·.name == name) with
      | some f => .ok (seedNode fuel f.shape f.seed)
      | Option.none => .error (.noAttribute k.name name) := by
  rw [Kind.defaultWithin, fieldDefaults_eq_map, Node.attr?, List.find?_map]
  have byName : ((fun x : String × Node => x.1 == name) ∘
      fun f : Field => (f.name, seedNode fuel f.shape f.seed)) = (·.name == name) := rfl
  rw [byName]
  cases k.fields.find? (·.name == name) <;> rfl

end GinSave.Save
