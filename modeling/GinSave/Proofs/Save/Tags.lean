import GinSave.Proofs.Save.RoundTrip

/-! The tags the writer gives numbers. An integer takes its tag from the key it is written under,
and a real from whether that key is the save time; the schema, for its part, declares a shape at
every place a value can stand. In a checked save the two agree: every integer the writer puts on
a line of its own is tagged `u64` where the schema declares a 64-bit word, `u32` where it declares
a 32-bit word, and `i32` anywhere else, the lists of any values included; every real is `f64`
under the save time of the details and `f32` everywhere else (`written_tags_follow_schema`).

The key rules are read off a path's parts (`intTag_keyOf`). They are checked against the schema
once, with `"0"` standing for every index (`Shape.tagsAgree`), which suffices because the rules
never tell one index from another (`pathTag_alike`). -/

namespace GinSave.Save

open GinSave.Text GinSave.Number GinSave.Json

/-! ### The shape declared at a path -/

/-- The shape the schema declares at a path below a shape: a field by its name, an item of a list
by its index. Whatever a list of any values holds, at any depth, is again of any value. -/
def Shape.at : Shape → List String → Option Shape
  | sh, [] => some sh
  | .record k, name :: rest => (k.shapeOf? name).bind (·.at rest)
  | .optional k, name :: rest => (k.shapeOf? name).bind (·.at rest)
  | .records k, i :: rest => if isIndexPart i then (Shape.record k).at rest else none
  | .words, [i] => if isIndexPart i then some .word32 else none
  | .texts, [i] => if isIndexPart i then some .text else none
  | .anyList, i :: rest => if isIndexPart i then Shape.anyList.at rest else none
  | _, _ :: _ => none

/-- The tag the schema gives the integers of a shape: a 64-bit word is `u64`, a 32-bit word
`u32`, and any other integer `i32`. -/
def Shape.intTag : Shape → String
  | .word64 => "u64"
  | .word32 => "u32"
  | _ => "i32"

/-! ### The values the writer puts on lines of their own -/

/-- The values written on lines of their own when a node is written under a key, each with its
key: a node that is no record of fields and no list is one; a record gives those of its fields
that hold something, under their joined keys; a list that is not written as flags gives those of
the items it keeps, under their new indices. -/
inductive Node.Writes : String → Node → String → Node → Prop where
  | self {key : String} {v : Node} (plain : v.isBranch = false) (single : ∀ items, v ≠ .list items) :
      Node.Writes key v key v
  | field {key K : String} {k : Kind} {fs : List (String × Node)} {name : String} {v w : Node}
      (branch : k.isVector = false) (mem : (name, v) ∈ fs) (held : v.isNothing = false)
      (below : Node.Writes (joinKey key name) v K w) : Node.Writes key (.record k fs) K w
  | item {key K : String} {items : List Node} {kept : List { x // x ∈ items }} {x w : Node}
      {i : Nat} (unflagged : (key.endsWith "flags" || key.endsWith "datapad.status") = false)
      (keeps : keptItems key items = .ok kept) (mem : (x, i) ∈ kept.unattach.zipIdx)
      (held : x.isNothing = false) (below : Node.Writes (key ++ "." ++ Node.intText i) x K w) :
      Node.Writes key (.list items) K w

/-- A map that succeeds gives each element's result. -/
theorem mem_of_mapM_ok {ε α β : Type} {f : α → Except ε β} :
    ∀ {l : List α} {ys : List β}, l.mapM f = .ok ys → ∀ a ∈ l, ∃ y ∈ ys, f a = .ok y
  | [], _, _, a, mem => absurd mem List.not_mem_nil
  | a :: l, ys, mapped, b, mem => by
    rw [List.mapM_cons] at mapped
    obtain ⟨y, first, rest⟩ := except_bind_ok mapped
    obtain ⟨zs, others, done⟩ := except_bind_ok rest
    simp only [except_pure, Except.ok.injEq] at done
    subst done
    rcases List.mem_cons.mp mem with rfl | later
    · exact ⟨y, List.mem_cons_self, first⟩
    · obtain ⟨z, inZs, found⟩ := mem_of_mapM_ok others b later
      exact ⟨z, List.mem_cons_of_mem y inZs, found⟩

theorem except_map_eq_ok {ε α β : Type} {f : α → β} {x : Except ε α} {b : β}
    (mapped : x.map f = .ok b) : ∃ a, x = .ok a ∧ f a = b := by
  cases x with
  | error e => cases mapped
  | ok a => exact ⟨a, rfl, Except.ok.inj mapped⟩

/-- A node that is no record of fields and no list is written as one line. -/
theorem writeNode_single {key : String} {v : Node} (plain : v.isBranch = false)
    (single : ∀ items, v ≠ .list items) :
    writeNode key v = (writeTagged v (some key)).map fun V => [key ++ " = " ++ V] := by
  cases v with
  | record k fs =>
    have vector : k.isVector = true := by simpa [Node.isBranch] using plain
    rw [writeNode.eq_1, if_pos vector]
    cases writeTagged (.record k fs) (some key) <;> rfl
  | list items => exact absurd rfl (single items)
  | _ =>
    rw [writeNode.eq_3 _ _ (by simp) (by simp)]
    cases writeTagged _ (some key) <;> rfl

/-- A node that is no record of fields and no list writes only itself. -/
theorem Node.Writes.eq_of_single {key K : String} {x w : Node} (writes : x.Writes key K w)
    (plain : x.isBranch = false) (single : ∀ items, x ≠ .list items) : K = key ∧ w = x := by
  cases writes with
  | self => exact ⟨rfl, rfl⟩
  | field branch => simp [Node.isBranch, branch] at plain
  | item => exact absurd rfl (single _)

/-- Every value the writer visits is written, tagged, on a line of the node's lines. -/
theorem Node.Writes.line {key K : String} {n v : Node} (writes : n.Writes key K v) :
    ∀ {lines : List String}, writeNode key n = .ok lines →
      ∃ V, writeTagged v (some K) = .ok V ∧ K ++ " = " ++ V ∈ lines := by
  induction writes with
  | self plain single =>
    intro lines written
    rw [writeNode_single plain single] at written
    obtain ⟨V, tagged, rfl⟩ := except_map_eq_ok written
    exact ⟨V, tagged, List.mem_singleton_self _⟩
  | field branch mem held below ih =>
    intro lines written
    rw [writeNode_record _ branch] at written
    obtain ⟨parts, mapped, rfl⟩ := except_map_eq_ok written
    obtain ⟨ls, inParts, fieldOk⟩ := mem_of_mapM_ok mapped _ mem
    rw [fieldLines, if_neg (by simp [held])] at fieldOk
    obtain ⟨V, tagged, line⟩ := ih fieldOk
    exact ⟨V, tagged, List.mem_flatten.mpr ⟨ls, inParts, line⟩⟩
  | item unflagged keeps mem held below ih =>
    intro lines written
    rw [writeNode_items _ unflagged keeps] at written
    obtain ⟨parts, mapped, rfl⟩ := except_map_eq_ok written
    obtain ⟨ls, inParts, itemOk⟩ := mem_of_mapM_ok mapped _ mem
    rw [itemLines, if_neg (by simp [held])] at itemOk
    obtain ⟨V, tagged, line⟩ := ih itemOk
    -- the list's header comes first, then the lines of its items
    exact ⟨V, tagged, List.mem_cons_of_mem _ (List.mem_flatten.mpr ⟨ls, inParts, line⟩)⟩

/-! ### Where the numbers of a conforming node stand -/

theorem mem_ofItems {x : Node} :
    ∀ {values : List Value}, x ∈ Node.ofItems values → ∃ v ∈ values, x = Node.ofValue v
  | [], mem => by simp [Node.ofItems] at mem
  | v :: rest, mem => by
    rw [Node.ofItems, List.mem_cons] at mem
    rcases mem with rfl | later
    · exact ⟨v, List.mem_cons_self, rfl⟩
    · obtain ⟨u, inRest, rfl⟩ := mem_ofItems later
      exact ⟨u, List.mem_cons_of_mem v inRest, rfl⟩

/-- A document value, as a node, is a list of document values, or else neither a record of
fields nor a list. -/
theorem Node.ofValue_cases (v : Value) :
    (∃ vs, v = .arr vs ∧ Node.ofValue v = .list (Node.ofItems vs)) ∨
      ((Node.ofValue v).isBranch = false ∧ ∀ items, Node.ofValue v ≠ .list items) := by
  cases v with
  | arr vs => exact .inl ⟨vs, rfl, by rw [Node.ofValue]⟩
  | _ => exact .inr ⟨by simp [Node.ofValue, Node.isBranch], by simp [Node.ofValue]⟩

/-- A field of a kind, by its name, has the shape the kind declares for it. -/
theorem Kind.shapeOf?_of_mem {k : Kind} {f : Field} (mem : f ∈ k.fields) :
    k.shapeOf? f.name = some f.shape := by
  obtain ⟨g, found⟩ := Option.isSome_iff_exists.mp
    (List.find?_isSome.mpr ⟨f, mem, by simp⟩ : (k.fields.find? (·.name == f.name)).isSome)
  have same : g.name = f.name := by simpa using List.find?_some found
  have : g = f := List.inj_on_of_nodup_map (Kind.names_wellFormed k).1
    (List.mem_of_find?_eq_some found) mem same
  simp [Kind.shapeOf?, found, this]

/-- A shape a kind declares is that of one of its fields. -/
theorem Kind.mem_of_shapeOf? {k : Kind} {name : String} {sh : Shape}
    (declared : k.shapeOf? name = some sh) : ∃ f ∈ k.fields, f.name = name ∧ f.shape = sh := by
  obtain ⟨f, found, rfl⟩ := Option.map_eq_some_iff.mp declared
  exact ⟨f, List.mem_of_find?_eq_some found, by simpa using List.find?_some found, rfl⟩

/-- A field of a record checked as a kind: a part of a key, with a node of the shape the kind
declares for it. -/
theorem Conforms.record_field {k : Kind} {nodes : List Node}
    (each : ∀ p ∈ k.fields.zip nodes, Conforms p.1.shape p.2) {name : String} {u : Node}
    (mem : (name, u) ∈ k.fieldNames.zip nodes) :
    Atom name ∧ ∃ sh₁, k.shapeOf? name = some sh₁ ∧ Conforms sh₁ u := by
  rw [Kind.fieldNames, List.zip_map_left] at mem
  obtain ⟨⟨f, u'⟩, inZip, named⟩ := List.mem_map.mp mem
  simp only [Prod.map, id_eq, Prod.mk.injEq] at named
  obtain ⟨rfl, rfl⟩ := named
  refine ⟨((Kind.names_wellFormed k).2 _ (List.mem_map_of_mem (List.of_mem_zip inZip).1)).1,
    f.shape, Kind.shapeOf?_of_mem (List.of_mem_zip inZip).1, each _ inZip⟩

/-- A field of a conforming record of fields: the record is of its kind, or an optional one, the
field stands under a part of a key, and its node conforms to the shape the kind declares. -/
theorem Conforms.field {sh : Shape} {k : Kind} {fs : List (String × Node)}
    (conf : Conforms sh (.record k fs)) {name : String} {u : Node} (mem : (name, u) ∈ fs) :
    (sh = .record k ∨ sh = .optional k) ∧ Atom name ∧
      ∃ sh₁, k.shapeOf? name = some sh₁ ∧ Conforms sh₁ u := by
  cases conf with
  | record nodes sized each => exact ⟨.inl rfl, Conforms.record_field each mem⟩
  | present record =>
    cases record with
    | record nodes sized each => exact ⟨.inr rfl, Conforms.record_field each mem⟩

theorem atoms_snoc {ctx : List String} {a : String} (atoms : ∀ b ∈ ctx, Atom b) (atom : Atom a) :
    ∀ b ∈ ctx ++ [a], Atom b := by
  intro b mem
  rcases List.mem_append.mp mem with inCtx | last
  · exact atoms b inCtx
  · rw [List.mem_singleton.mp last]
    exact atom

theorem Shape.at_field {sh : Shape} {k : Kind} (kinded : sh = .record k ∨ sh = .optional k)
    (name : String) (rest : List String) :
    sh.at (name :: rest) = (k.shapeOf? name).bind (·.at rest) := by
  rcases kinded with rfl | rfl <;> rfl

/-- Every number a conforming node writes on a line of its own stands at a path below the node's
own, where the schema declares a shape the number conforms to, or a list of any values. By
induction on how the writer reaches the number, the conformance of each node it passes read off
at each step. -/
theorem Conforms.writes_at {key K : String} {n v : Node} (writes : n.Writes key K v)
    (numeric : (∃ i, v = .int i) ∨ ∃ x, v = .real x) :
    ∀ {sh : Shape} {ctx : List String}, Conforms sh n → key = keyOf ctx → (∀ a ∈ ctx, Atom a) →
      (ctx = [] → ∃ k, sh = .record k) →
      ∃ p sh', K = keyOf (ctx ++ p) ∧ (∀ a ∈ p, Atom a) ∧ sh.at p = some sh' ∧
        (Conforms sh' v ∨ sh' = .anyList) := by
  induction writes with
  | self plain single =>
    intro sh ctx conf keyed _ _
    exact ⟨[], sh, by simpa using keyed, by simp, by simp [Shape.at], .inl conf⟩
  | field branch mem held below ih =>
    rename_i key K k fs name u w
    intro sh ctx conf keyed atoms _
    obtain ⟨kinded, atom, sh₁, declared, conf₁⟩ := Conforms.field conf mem
    have key₁ : joinKey key name = keyOf (ctx ++ [name]) := by rw [keyed, joinKey_keyOf atoms]
    obtain ⟨p, sh', rfl, atomsP, at_, fits⟩ := ih numeric conf₁ key₁ (atoms_snoc atoms atom) (by simp)
    refine ⟨name :: p, sh', by simp, List.forall_mem_cons.mpr ⟨atom, atomsP⟩, ?_, fits⟩
    rw [Shape.at_field kinded, declared]
    exact at_
  | item unflagged keeps mem held below ih =>
    rename_i key K items kept x w i
    intro sh ctx conf keyed atoms top
    have listed : ctx ≠ [] := by
      rintro rfl
      obtain ⟨k, rfl⟩ := top rfl
      cases conf
    have key₁ : key ++ "." ++ Node.intText i = keyOf (ctx ++ [Node.intText i]) := by
      rw [keyed, keyOf_append_single listed]
    have atoms₁ := atoms_snoc atoms (atom_intText i)
    have index := isIndexPart_intText i
    have inItems : x ∈ items := by
      obtain ⟨⟨y, inY⟩, -, same⟩ := List.mem_map.mp (List.fst_mem_of_mem_zipIdx mem)
      simp only at same
      exact same ▸ inY
    -- an item that writes only itself stands one index below the list
    have single (plain : x.isBranch = false) (single : ∀ items, x ≠ .list items) (sh₁ : Shape)
        (declared : sh.at [Node.intText i] = some sh₁) (fits : Conforms sh₁ x ∨ sh₁ = .anyList) :
        ∃ p sh', K = keyOf (ctx ++ p) ∧ (∀ a ∈ p, Atom a) ∧ sh.at p = some sh' ∧
          (Conforms sh' w ∨ sh' = .anyList) := by
      obtain ⟨rfl, rfl⟩ := below.eq_of_single plain single
      exact ⟨[Node.intText i], sh₁, key₁, by simpa using atom_intText i, declared, fits⟩
    -- an item one index below the list, with the list's items below it
    have deeper {sh₁ : Shape} (conf₁ : Conforms sh₁ x)
        (declared : ∀ p, sh.at (Node.intText i :: p) = sh₁.at p) :
        ∃ p sh', K = keyOf (ctx ++ p) ∧ (∀ a ∈ p, Atom a) ∧ sh.at p = some sh' ∧
          (Conforms sh' w ∨ sh' = .anyList) := by
      obtain ⟨p, sh', rfl, atomsP, at_, fits⟩ := ih numeric conf₁ key₁ atoms₁ (by simp)
      exact ⟨Node.intText i :: p, sh', by simp, List.forall_mem_cons.mpr ⟨atom_intText i, atomsP⟩,
        (declared p).trans at_, fits⟩
    cases conf with
    | marks each =>
      obtain ⟨m, rfl⟩ := each x inItems
      obtain ⟨-, rfl⟩ := below.eq_of_single rfl (by simp)
      simp at numeric
    | statuses => simp at inItems
    | words each =>
      have word := each x inItems
      have plain : x.isBranch = false ∧ ∀ items, x ≠ .list items := by
        cases word
        simp [Node.isBranch]
      exact single plain.1 plain.2 .word32 (by simp [Shape.at, index]) (.inl word)
    | texts each =>
      have text := each x inItems
      cases text with
      | int numeric => simp at numeric
      | text s =>
        obtain ⟨-, rfl⟩ := below.eq_of_single rfl (by simp)
        simp at numeric
    | anyList values short =>
      obtain ⟨value, inValues, rfl⟩ := mem_ofItems inItems
      rcases Node.ofValue_cases value with ⟨vs, rfl, listed⟩ | ⟨plain, notList⟩
      · have nested : ∀ u ∈ vs, u.Short := by
          cases short _ inValues with
          | arr each => exact each
        exact deeper (by rw [listed]; exact .anyList vs nested) fun p => by simp [Shape.at, index]
      · exact single plain notList .anyList (by simp [Shape.at, index]) (.inr rfl)
    | records each => exact deeper (each x inItems) fun p => by simp [Shape.at, index]
    | present record => cases record

/-! ### Tags read off paths -/

/-- The paths of the keys whose integers are 32-bit words. -/
def wordPaths : List (List String) :=
  [["version"], ["plotpoints", "mio", "death_after_hub"], ["factorio", "selected_experiment"],
    ["nacre_in_hub_basin"], ["nacre_buffered_in_hub_basin"], ["shield_decay_mask"],
    ["liquid_nacres_count"]]

theorem wordKeys_eq : wordKeys = wordPaths.map keyOf := by with_unfolding_all decide

theorem wordPaths_atoms :
    ∀ r ∈ wordPaths, r ≠ [] ∧ ∀ a ∈ r, Atom a ∧ isIndexPart a = false := by
  with_unfolding_all decide

/-- The tag an integer takes under the key of a path, read off the path's parts: the identifier
is a 64-bit word; the paths of the word keys, whatever stands below the markers and the bit
fields (the second part), and the fields of an entry's optional records (the fourth part) are
32-bit words; all else is a signed integer. -/
def pathTag (p : List String) : String :=
  if p = ["id"] then "u64"
  else if p ∈ wordPaths then "u32"
  else if p.getD 1 "" ∈ ["markers", "face_inside_bits", "edge_visited_bits"] then "u32"
  else if p.getD 3 "" ∈ ["rebuild", "rebuild_npc", "trinket"] then "u32"
  else "i32"

theorem pointless_of_atoms {p : List String} (atoms : ∀ a ∈ p, Atom a) :
    ∀ a ∈ p, '.' ∉ a.toList :=
  fun a mem dot => ((atoms a mem).2 '.' dot).1 rfl

/-- Paths of parts are told apart by their keys. -/
theorem keyOf_inj {p q : List String} (atomsP : ∀ a ∈ p, Atom a) (atomsQ : ∀ a ∈ q, Atom a)
    (neP : p ≠ []) (neQ : q ≠ []) (same : keyOf p = keyOf q) : p = q := by
  rw [← splitOn_keyOf neP (pointless_of_atoms atomsP), same,
    splitOn_keyOf neQ (pointless_of_atoms atomsQ)]

/-- The tag of an integer under the key of a path is the path's tag. -/
theorem intTag_keyOf {p : List String} (atoms : ∀ a ∈ p, Atom a) (nonempty : p ≠ []) :
    intTag (some (keyOf p)) = pathTag p := by
  have parts : splitOn (keyOf p) "." = p := splitOn_keyOf nonempty (pointless_of_atoms atoms)
  have named {r : List String} (atomsR : ∀ a ∈ r, Atom a) (neR : r ≠ []) :
      keyOf p = keyOf r ↔ p = r :=
    ⟨keyOf_inj atoms atomsR nonempty neR, fun same => same ▸ rfl⟩
  have isId : keyOf p = "id" ↔ p = ["id"] := by
    simpa [keyOf] using named (r := ["id"]) (by simp [Atom, isBlank]) (by simp)
  have isWord : keyOf p ∈ wordKeys ↔ p ∈ wordPaths := by
    rw [wordKeys_eq, List.mem_map]
    constructor
    · rintro ⟨r, mem, same⟩
      have atomsR := wordPaths_atoms r mem
      rwa [(named (fun a inR => (atomsR.2 a inR).1) atomsR.1).mp same.symm]
    · exact fun mem => ⟨p, mem, rfl⟩
  simp [intTag, pathTag, isId, isWord, parts]

/-! ### Tags alike for every index -/

theorem id_unindexed : ∀ a ∈ ["id"], isIndexPart a = false := by with_unfolding_all decide

theorem isIndexPart_zero : isIndexPart "0" = true := by with_unfolding_all decide

/-- Two paths alike but for their index parts. -/
def Alike : List String → List String → Prop :=
  List.Forall₂ fun a b => a = b ∨ (isIndexPart a = true ∧ isIndexPart b = true)

theorem Alike.eq_iff {p q : List String} (alike : Alike p q) {r : List String}
    (plain : ∀ a ∈ r, isIndexPart a = false) : p = r ↔ q = r := by
  induction alike generalizing r with
  | nil => rfl
  | cons same _ ih =>
    rename_i a b p q
    cases r with
    | nil => simp
    | cons c r =>
      have rest := ih fun a mem => plain a (List.mem_cons_of_mem c mem)
      have named : isIndexPart c = false := plain c List.mem_cons_self
      simp only [List.cons.injEq, rest]
      rcases same with rfl | ⟨indexA, indexB⟩
      · rfl
      · constructor <;> rintro ⟨rfl, -⟩ <;> simp_all

theorem Alike.getD {p q : List String} (alike : Alike p q) (j : Nat) :
    p.getD j "" = q.getD j "" ∨
      (isIndexPart (p.getD j "") = true ∧ isIndexPart (q.getD j "") = true) := by
  induction alike generalizing j with
  | nil => exact .inl rfl
  | cons same _ ih =>
    cases j with
    | zero => simpa using same
    | succ j => simpa using ih j

theorem mem_iff_of_alike {a b : String}
    (same : a = b ∨ (isIndexPart a = true ∧ isIndexPart b = true)) (names : List String)
    (plain : ∀ c ∈ names, isIndexPart c = false) : a ∈ names ↔ b ∈ names := by
  rcases same with rfl | ⟨indexA, indexB⟩
  · rfl
  · constructor
    · intro mem
      simp [plain a mem] at indexA
    · intro mem
      simp [plain b mem] at indexB

/-- The rules never tell one index from another. -/
theorem pathTag_alike {p q : List String} (alike : Alike p q) : pathTag p = pathTag q := by
  have isId := alike.eq_iff id_unindexed
  have isWord : p ∈ wordPaths ↔ q ∈ wordPaths := by
    constructor
    · intro mem
      rwa [(alike.eq_iff fun a inP => ((wordPaths_atoms p mem).2 a inP).2).mp rfl]
    · intro mem
      rwa [(alike.eq_iff fun a inQ => ((wordPaths_atoms q mem).2 a inQ).2).mpr rfl]
  have second := mem_iff_of_alike (alike.getD 1)
    ["markers", "face_inside_bits", "edge_visited_bits"] (by with_unfolding_all decide)
  have fourth := mem_iff_of_alike (alike.getD 3)
    ["rebuild", "rebuild_npc", "trinket"] (by with_unfolding_all decide)
  simp only [pathTag, isId, isWord, second, fourth]

theorem Alike.append {p q p' q' : List String} (alike : Alike p q) (alike' : Alike p' q') :
    Alike (p ++ p') (q ++ q') :=
  List.rel_append alike alike'

theorem Alike.indices {r : List String} (indices : ∀ a ∈ r, isIndexPart a = true) :
    Alike r (List.replicate r.length "0") := by
  induction r with
  | nil => exact .nil
  | cons a r ih =>
    exact .cons (.inr ⟨indices a List.mem_cons_self, isIndexPart_zero⟩)
      (ih fun b mem => indices b (List.mem_cons_of_mem a mem))

theorem Alike.index {i : String} (index : isIndexPart i = true) : Alike [i] ["0"] :=
  .cons (.inr ⟨index, isIndexPart_zero⟩) .nil

/-- Four indices below a path, more indices no longer change its tag. -/
theorem pathTag_deep (q : List String) {d : Nat} (deep : 4 ≤ d) :
    pathTag (q ++ List.replicate d "0") = pathTag (q ++ List.replicate 4 "0") := by
  have unnamed {e : Nat} (pos : 0 < e) {r : List String} (plain : ∀ a ∈ r, isIndexPart a = false) :
      q ++ List.replicate e "0" ≠ r := by
    rintro rfl
    have := plain "0" (List.mem_append_right _ (List.mem_replicate.mpr ⟨by omega, rfl⟩))
    simp [isIndexPart_zero] at this
  have unworded {e : Nat} (pos : 0 < e) : q ++ List.replicate e "0" ∉ wordPaths := fun mem =>
    unnamed pos (fun a inR => ((wordPaths_atoms _ mem).2 a inR).2) rfl
  have part (j : Nat) (small : j < 4) :
      (q ++ List.replicate d "0").getD j "" = (q ++ List.replicate 4 "0").getD j "" := by
    by_cases inQ : j < q.length
    · rw [List.getD_append _ _ _ _ inQ, List.getD_append _ _ _ _ inQ]
    · rw [List.getD_append_right _ _ _ _ (by omega), List.getD_append_right _ _ _ _ (by omega),
        List.getD_replicate _ (by omega), List.getD_replicate _ (by omega)]
  simp only [pathTag, if_neg (unnamed (by omega : 0 < d) id_unindexed),
    if_neg (unnamed (by omega : 0 < 4) id_unindexed),
    if_neg (unworded (by omega : 0 < d)), if_neg (unworded (by omega : 0 < 4)),
    part 1 (by omega), part 3 (by omega)]

/-! ### The schema checked once for every index -/

/-- Whether every integer below a shape, at a path whose index parts are all `"0"`, takes from
its key the tag of the shape declared for it. A list of any values is checked to four indices
below it, past which the tag of a path no longer changes (`pathTag_deep`). -/
def Shape.tagsAgree : Nat → List String → Shape → Bool
  | _, p, .integer => pathTag p == "i32"
  | _, p, .word32 => pathTag p == "u32"
  | _, p, .word64 => pathTag p == "u64"
  | _, p, .words => pathTag (p ++ ["0"]) == "u32"
  | _, p, .anyList => (List.range 5).all fun d => pathTag (p ++ List.replicate d "0") == "i32"
  | fuel + 1, p, .record k | fuel + 1, p, .optional k =>
    k.fields.all fun f => f.shape.tagsAgree fuel (p ++ [f.name])
  | fuel + 1, p, .records k => (Shape.record k).tagsAgree fuel (p ++ ["0"])
  | 0, _, .record _ | 0, _, .optional _ | 0, _, .records _ => false
  | _, _, .real | _, _, .truth | _, _, .text | _, _, .stage | _, _, .marks | _, _, .statuses
  | _, _, .texts => true

/-- The shapes an integer conforms to, and the lists of any values. -/
def Shape.HoldsInts (sh : Shape) : Prop :=
  sh = .integer ∨ sh = .word32 ∨ sh = .word64 ∨ sh = .anyList

theorem Shape.anyList_at :
    ∀ {r : List String} {sh' : Shape}, Shape.anyList.at r = some sh' →
      sh' = .anyList ∧ ∀ a ∈ r, isIndexPart a = true
  | [], sh', at_ => by
    simp only [Shape.at, Option.some.injEq] at at_
    exact ⟨at_.symm, by simp⟩
  | i :: rest, sh', at_ => by
    simp only [Shape.at] at at_
    split at at_
    · rename_i index
      obtain ⟨same, indices⟩ := Shape.anyList_at at_
      exact ⟨same, List.forall_mem_cons.mpr ⟨index, indices⟩⟩
    · cases at_

theorem Shape.at_record_cons {sh : Shape} {k : Kind} (kinded : sh = .record k ∨ sh = .optional k)
    {name : String} {rest : List String} {sh' : Shape} (at_ : sh.at (name :: rest) = some sh') :
    ∃ f ∈ k.fields, f.name = name ∧ f.shape.at rest = some sh' := by
  rw [Shape.at_field kinded, Option.bind_eq_some_iff] at at_
  obtain ⟨sh₁, declared, below⟩ := at_
  obtain ⟨f, mem, rfl, rfl⟩ := Kind.mem_of_shapeOf? declared
  exact ⟨f, mem, rfl, below⟩

/-- A check that passes gives every integer below the shape, at any path alike to the checked
one, the tag of its declared shape. By induction on the fuel, one case per shape. -/
theorem Shape.tagsAgree_sound : ∀ (fuel : Nat) (sh : Shape) {p q : List String},
    sh.tagsAgree fuel q = true → Alike p q → ∀ {r : List String} {sh' : Shape},
      sh.at r = some sh' → sh'.HoldsInts → pathTag (p ++ r) = sh'.intTag
  | fuel, sh, p, q, agree, alike, r, sh', at_, ints => by
    -- a shape that holds no integers and no lists of them declares only itself, at its own path
    have here (other : ¬sh.HoldsInts) (atOnly : ∀ i rest, sh.at (i :: rest) = none ∨
        ∃ x, sh.at (i :: rest) = some x ∧ ¬x.HoldsInts) : False := by
      cases r with
      | nil =>
        simp only [Shape.at, Option.some.injEq] at at_
        exact other (at_ ▸ ints)
      | cons i rest =>
        rcases atOnly i rest with none_ | ⟨x, found, notInts⟩
        · simp [none_] at at_
        · rw [found, Option.some.injEq] at at_
          exact notInts (at_ ▸ ints)
    cases sh with
    | integer | word32 | word64 =>
      cases r with
      | nil =>
        simp only [Shape.at, Option.some.injEq] at at_
        subst at_
        simp only [Shape.tagsAgree, beq_iff_eq] at agree
        simpa [pathTag_alike alike, Shape.intTag] using agree
      | cons i rest => simp [Shape.at] at at_
    | words =>
      cases r with
      | nil =>
        simp only [Shape.at, Option.some.injEq] at at_
        subst at_
        simp [Shape.HoldsInts] at ints
      | cons i rest =>
        cases rest with
        | nil =>
          simp only [Shape.at] at at_
          split at at_
          · rename_i index
            simp only [Option.some.injEq] at at_
            subst at_
            simp only [Shape.tagsAgree, beq_iff_eq] at agree
            rw [pathTag_alike (alike.append (Alike.index index)), agree]
            rfl
          · cases at_
        | cons j rest => simp [Shape.at] at at_
    | anyList =>
      obtain ⟨rfl, indices⟩ := Shape.anyList_at at_
      simp only [Shape.tagsAgree, List.all_eq_true, List.mem_range, beq_iff_eq] at agree
      rw [pathTag_alike (alike.append (Alike.indices indices))]
      by_cases shallow : r.length < 5
      · exact agree _ shallow
      · rw [pathTag_deep q (by omega)]
        exact agree 4 (by omega)
    | record k | optional k =>
      cases fuel with
      | zero => simp [Shape.tagsAgree] at agree
      | succ fuel =>
        cases r with
        | nil =>
          simp only [Shape.at, Option.some.injEq] at at_
          subst at_
          simp [Shape.HoldsInts] at ints
        | cons name rest =>
          obtain ⟨f, mem, rfl, below⟩ := Shape.at_record_cons (k := k) (by simp) at_
          simp only [Shape.tagsAgree, List.all_eq_true] at agree
          have := Shape.tagsAgree_sound fuel f.shape (agree f mem)
            (alike.append (.cons (.inl rfl) .nil)) below ints
          simpa using this
    | records k =>
      cases fuel with
      | zero => simp [Shape.tagsAgree] at agree
      | succ fuel =>
        cases r with
        | nil =>
          simp only [Shape.at, Option.some.injEq] at at_
          subst at_
          simp [Shape.HoldsInts] at ints
        | cons i rest =>
          simp only [Shape.at] at at_
          split at at_
          · rename_i index
            simp only [Shape.tagsAgree] at agree
            have := Shape.tagsAgree_sound fuel (.record k) agree (alike.append (Alike.index index))
              at_ ints
            simpa using this
          · cases at_
    | real | truth | text | stage | marks | statuses =>
      exact (here (by simp [Shape.HoldsInts]) fun _ _ => .inl rfl).elim
    | texts =>
      refine (here (by simp [Shape.HoldsInts]) fun i rest => ?_).elim
      cases rest with
      | nil =>
        simp only [Shape.at]
        split
        · exact .inr ⟨_, rfl, by simp [Shape.HoldsInts]⟩
        · exact .inl rfl
      | cons => exact .inl rfl

/-- Every block of the save passes the check. -/
theorem blocks_tagsAgree : ∀ f ∈ Kind.root.fields, f.shape.tagsAgree schemaDepth [] = true := by
  with_unfolding_all decide

/-! ### The tags of a checked save -/

theorem mem_of_attr? {k : Kind} {fs : List (String × Node)} {name : String} {x : Node}
    (found : (Node.record k fs).attr? name = .ok x) : (name, x) ∈ fs := by
  simp only [Node.attr?] at found
  split at found
  · rename_i name' y hit
    cases found
    have same : name' = name := by simpa using List.find?_some hit
    exact same ▸ List.mem_of_find?_eq_some hit
  · cases found

/-- A block of a conforming save conforms to the kind the root declares for it. -/
theorem Conforms.block {m : Node} (conf : Conforms (.record .root) m) {b : String} {kb : Kind}
    (block : Kind.root.shapeOf? b = some (.record kb)) {x : Node} (found : m.attr? b = .ok x) :
    Conforms (.record kb) x := by
  cases conf with
  | int numeric => simp at numeric
  | record nodes sized each =>
    obtain ⟨-, -, sh₁, declared, conf₁⟩ := Conforms.field (.record nodes sized each) (mem_of_attr? found)
    rw [block, Option.some.injEq] at declared
    exact declared ▸ conf₁

/-- Only the details declare the save time. -/
theorem saveTime_block :
    ∀ f ∈ Kind.root.fields,
      f.shape.recordKind?.any (fun kb => (kb.shapeOf? "last_save_time").isSome) = true →
        f.name = "saved_not_important" := by
  with_unfolding_all decide

theorem writeTagged_int_ok {n : Int} {key : Option String} {V : String}
    (wrote : writeTagged (.int n) key = .ok V) : V = intTag key ++ "(" ++ Node.intText n ++ ")" := by
  simp only [writeTagged, intDigitsText] at wrote
  split at wrote
  · cases wrote
  · simpa using wrote.symm

/-- Zero, written to six places, reads back. -/
theorem readFloat_fixedText_zero : readFloat (fixedText 6 0) = some 0 := by decide +kernel

/-- An integer the writer visits is written with the tag of its key. -/
theorem Node.Writes.int_line {key K : String} {x : Node} {n : Int} (writes : x.Writes key K (.int n))
    {lines : List String} (written : writeNode key x = .ok lines) :
    K ++ " = " ++ intTag (some K) ++ "(" ++ Node.intText n ++ ")" ∈ lines := by
  obtain ⟨V, wrote, line⟩ := writes.line written
  rw [writeTagged_int_ok wrote] at line
  simpa only [String.append_assoc] using line

theorem Conforms.holdsInts {sh : Shape} {n : Int} (conf : Conforms sh (.int n)) : sh.HoldsInts := by
  cases conf with
  | int numeric => rcases numeric with rfl | rfl | rfl <;> simp [Shape.HoldsInts]
  | present record =>
    cases record with
    | int numeric => simp at numeric

/-- An integer the writer visits in a block of a checked save stands at a path of the block where
the schema declares a shape it conforms to, or a list of any values, and the tag of its key is the
tag of that shape. -/
theorem written_int_at {doc : String} {m : Node} (checked : checkSaveDocument doc = .ok m)
    {b : String} {kb : Kind} (block : Kind.root.shapeOf? b = some (.record kb)) {x : Node}
    (found : m.attr? b = .ok x) {K : String} {n : Int} (writes : x.Writes "" K (.int n)) :
    ∃ p sh, K = keyOf p ∧ (Shape.record kb).at p = some sh ∧
      (Conforms sh (.int n) ∨ sh = .anyList) ∧ intTag (some K) = sh.intTag := by
  have conf := Conforms.block (checkSaveDocument_conforms checked) block found
  obtain ⟨f, inRoot, rfl, declared⟩ := Kind.mem_of_shapeOf? block
  obtain ⟨p, sh, keyed, atoms, at_, fits⟩ := Conforms.writes_at writes (.inl ⟨n, rfl⟩) conf
    (show "" = keyOf [] from rfl) (by simp) fun _ => ⟨kb, rfl⟩
  rw [List.nil_append] at keyed
  subst keyed
  have ints : sh.HoldsInts := fits.elim Conforms.holdsInts fun any => .inr (.inr (.inr any))
  -- the block itself is a record, so an integer stands below it
  have nonempty : p ≠ [] := by
    rintro rfl
    simp only [Shape.at, Option.some.injEq] at at_
    simp [← at_, Shape.HoldsInts] at ints
  refine ⟨p, sh, rfl, at_, fits, ?_⟩
  rw [intTag_keyOf atoms nonempty]
  exact Shape.tagsAgree_sound _ _ (declared ▸ blocks_tagsAgree _ inRoot) .nil at_ ints

/-- A real the writer visits in a block of a checked save is written `f64` under the save time of
the details and `f32` everywhere else. -/
theorem written_real_line {doc : String} {m : Node} (checked : checkSaveDocument doc = .ok m)
    {b : String} {kb : Kind} (block : Kind.root.shapeOf? b = some (.record kb)) {x : Node}
    (found : m.attr? b = .ok x) {lines : List String} (written : writeNode "" x = .ok lines)
    {K : String} {r : Float} (writes : x.Writes "" K (.real r)) :
    K ++ " = " ++ (if b = "saved_not_important" ∧ K = "last_save_time" then "f64" else "f32") ++
      "(" ++ fixedText 6 r ++ ")" ∈ lines := by
  have conf := Conforms.block (checkSaveDocument_conforms checked) block found
  obtain ⟨f, inRoot, rfl, declared⟩ := Kind.mem_of_shapeOf? block
  obtain ⟨p, sh, keyed, atoms, at_, -⟩ := Conforms.writes_at writes (.inr ⟨r, rfl⟩) conf
    (show "" = keyOf [] from rfl) (by simp) fun _ => ⟨kb, rfl⟩
  rw [List.nil_append] at keyed
  subst keyed
  -- the save time is a field of the details only
  have saveTime : keyOf p = "last_save_time" → f.name = "saved_not_important" := by
    intro named
    have nonempty : p ≠ [] := by
      rintro rfl
      simp [keyOf] at named
    have single : p = ["last_save_time"] :=
      keyOf_inj atoms (by simp [Atom, isBlank]) nonempty (by simp) (by simpa [keyOf] using named)
    subst single
    refine saveTime_block f inRoot ?_
    rw [declared]
    simp only [Shape.at, Option.bind_eq_some_iff] at at_
    obtain ⟨sh₁, found₁, -⟩ := at_
    simp [Shape.recordKind?, found₁]
  obtain ⟨V, wrote, line⟩ := writes.line written
  simp only [writeTagged, Except.ok.injEq] at wrote
  subst wrote
  have tag : (if some (keyOf p) == some "last_save_time" then "f64(" else "f32(") =
      (if f.name = "saved_not_important" ∧ keyOf p = "last_save_time" then "f64" else "f32") ++
        "(" := by
    by_cases named : keyOf p = "last_save_time"
    · simp [named, saveTime named]
    · simp [named]
  rw [tag] at line
  simpa only [String.append_assoc] using line

/-- Every integer and every real that the writer puts on a line of its own in a block of a
checked save carries the tag the schema gives its place: an integer the tag of the shape the
schema declares at its key, `u64` for a 64-bit word, `u32` for a 32-bit word and `i32` for any
other integer or anything in a list of any values; a real `f64` under the save time of the
details and `f32` everywhere else. -/
theorem written_tags_follow_schema {doc : String} {m : Node}
    (checked : checkSaveDocument doc = .ok m) {b : String} {kb : Kind}
    (block : Kind.root.shapeOf? b = some (.record kb)) {x : Node} (found : m.attr? b = .ok x)
    {lines : List String} (written : writeNode "" x = .ok lines) {K : String} {v : Node}
    (writes : x.Writes "" K v) :
    (∀ n, v = .int n → ∃ p sh, K = keyOf p ∧ (Shape.record kb).at p = some sh ∧ sh.HoldsInts ∧
      K ++ " = " ++ sh.intTag ++ "(" ++ Node.intText n ++ ")" ∈ lines) ∧
    (∀ r, v = .real r →
      K ++ " = " ++ (if b = "saved_not_important" ∧ K = "last_save_time" then "f64" else "f32") ++
        "(" ++ fixedText 6 r ++ ")" ∈ lines) := by
  constructor
  · rintro n rfl
    obtain ⟨p, sh, rfl, at_, fits, tagged⟩ := written_int_at checked block found writes
    refine ⟨p, sh, rfl, at_, fits.elim Conforms.holdsInts fun any => .inr (.inr (.inr any)), ?_⟩
    rw [← tagged]
    exact writes.int_line written
  · rintro r rfl
    exact written_real_line checked block found written writes

/-- The details of the save of the empty document: the count of liquid nacres, a 32-bit word, is
written `u32`. -/
theorem written_tags_follow_schema_details :
    ∃ x lines, checkSaveDocument "\x7b\x7d" = .ok (Kind.root.defaultWithin 9) ∧
      Kind.root.shapeOf? "saved_not_important" = some (.record .notImportant) ∧
      (Kind.root.defaultWithin 9).attr? "saved_not_important" = .ok x ∧
      writeNode "" x = .ok lines ∧ x.Writes "" "liquid_nacres_count" (.int 0) ∧
      ∃ p sh, "liquid_nacres_count" = keyOf p ∧ (Shape.record .notImportant).at p = some sh ∧
        sh.HoldsInts ∧ "liquid_nacres_count" ++ " = " ++ sh.intTag ++ "(" ++ Node.intText 0 ++ ")" ∈ lines := by
  have block : Kind.root.shapeOf? "saved_not_important" = some (.record .notImportant) := rfl
  have details : Kind.notImportant.defaultWithin 8 = .record .notImportant [("playtime", .real 0),
      ("last_save_time", .real 0), ("liquid_nacres_count", .int 0), ("solidify_nacre_count", .int 0)] := by
    simp [Kind.defaultWithin, fieldDefaults, seedNode, Kind.fields]
  have found : (Kind.root.defaultWithin 9).attr? "saved_not_important" =
      .ok (.record .notImportant [("playtime", .real 0), ("last_save_time", .real 0),
        ("liquid_nacres_count", .int 0), ("solidify_nacre_count", .int 0)]) := by
    rw [← details, Kind.defaultWithin, fieldDefaults_eq_map]
    refine attr?_of_mem ?_ ?_
    · simpa [Kind.fieldNames, List.map_map, Function.comp_def] using (Kind.names_wellFormed .root).1
    · simp [Kind.fields, seedNode, Shape.recordKind?]
  have short : decimalLength (0 : Int).natAbs ≤ maxWrittenDigits := by
    simp [decimalLength, maxWrittenDigits]
  have written := writeNode_record "" (k := .notImportant) rfl [("playtime", .real 0),
    ("last_save_time", .real 0), ("liquid_nacres_count", .int 0), ("solidify_nacre_count", .int 0)]
  simp [fieldLines, Node.isNothing, joinKey, (leafLine_real _ readFloat_fixedText_zero).writes,
    (leafLine_int _ short).writes] at written
  have writes : Node.Writes "" (.record .notImportant [("playtime", .real 0), ("last_save_time", .real 0),
      ("liquid_nacres_count", .int 0), ("solidify_nacre_count", .int 0)]) "liquid_nacres_count" (.int 0) :=
    .field rfl (by simp) rfl (.self rfl (by simp))
  exact ⟨_, _, checkSaveDocument_empty, block, found, written, writes,
    (written_tags_follow_schema checkSaveDocument_empty block found written writes).1 0 rfl⟩

end GinSave.Save
