import GinSave.Proofs.Save.Shaped

/-! How a conforming save fits the reader's fresh save, kind by kind. A field that the writer
writes as one line fits whatever its default; a record fits field by field; a list fits when its
kept items come first and what follows them is what the default holds there. The lists of the
schema are fixed in length by the reader, so their fit is where a well-shaped save's conditions
are used: each condition is spent in the lemma of the kind that holds the list. -/

namespace GinSave.Save

open GinSave.Text GinSave.Number

/-! ### The schema's names and seeds -/

/-- Whether the writer writes a node of a shape as one line wherever it stands: a scalar, a
vector, or a list of marks (whose fields are all named to end in `flags`). -/
def Shape.isLeaf : Shape → Bool
  | .integer | .word32 | .word64 | .real | .truth | .text | .stage | .marks => true
  | .record k => k.isVector
  | _ => false

-- the check runs over the name's characters, not over every character there is
instance : DecidablePred Atom := fun _ => @instDecidableAnd _ _ inferInstance (List.decidableBAll _ _)

/-- The field names of every kind are distinct parts of a key, none of them an index. -/
theorem Kind.names_wellFormed (k : Kind) :
    k.fieldNames.Nodup ∧ ∀ f ∈ k.fieldNames, Atom f ∧ isIndexPart f = false := by
  cases k <;> with_unfolding_all decide

theorem Kind.seeds_suit (k : Kind) : ∀ f ∈ k.fields, f.seed.suits f.shape = true := by
  cases k <;> decide +kernel

/-- Every list of marks is named so that the writer writes it as one `Flags` value. -/
theorem Kind.marks_flagged (k : Kind) :
    ∀ f ∈ k.fields, f.shape = .marks → f.name.endsWith "flags" = true := by
  cases k <;> with_unfolding_all decide

theorem mem_zip_names {k : Kind} {nodes : List Node} {p : Field × Node}
    (mem : p ∈ k.fields.zip nodes) : (p.1.name, p.2) ∈ k.fieldNames.zip nodes := by
  rw [Kind.fieldNames, List.zip_map_left]
  exact List.mem_map.mpr ⟨p, mem, rfl⟩

theorem names_zip_nodup (k : Kind) {nodes : List Node} (sized : nodes.length = k.fields.length) :
    ((k.fieldNames.zip nodes).map Prod.fst).Nodup := by
  rw [List.map_fst_zip (by simp [Kind.fieldNames, sized])]
  exact (Kind.names_wellFormed k).1

/-! ### Keys and their ends -/

theorem endsWith_iff_suffix {s u : String} : s.endsWith u = true ↔ u.toList <:+ s.toList := by
  rw [← String.endsWith_toSlice, String.Slice.endsWith_string_iff]
  simp

theorem keyOf_suffix (path : List String) (name : String) :
    name.toList <:+ (keyOf (path ++ [name])).toList := by
  cases path with
  | nil => simp [keyOf]
  | cons a rest =>
    rw [← keyOf_append_single (List.cons_ne_nil a rest)]
    exact ⟨(keyOf (a :: rest) ++ ".").toList, by simp⟩

theorem keyOf_endsWith {path : List String} {name u : String} (ends : name.endsWith u = true) :
    (keyOf (path ++ [name])).endsWith u = true :=
  endsWith_iff_suffix.mpr ((endsWith_iff_suffix.mp ends).trans (keyOf_suffix path name))

/-- A key does not end with a text that neither ends its last part nor is ended by it. -/
theorem keyOf_endsWith_eq_false {path : List String} {name u : String}
    (apart : ¬ u.toList <:+ name.toList ∧ ¬ name.toList <:+ u.toList) :
    (keyOf (path ++ [name])).endsWith u = false := by
  rw [Bool.eq_false_iff]
  intro ends
  rcases List.suffix_or_suffix_of_suffix (endsWith_iff_suffix.mp ends) (keyOf_suffix path name)
    with within | around
  · exact apart.1 within
  · exact apart.2 around

/-- The key of a list that is not the entries' pairs and is neither flags nor a datapad's
status. -/
theorem keyOf_plainList {path : List String} {name : String}
    (apart : ∀ u ∈ ["flags", "datapad.status", "pairs"],
      ¬ u.toList <:+ name.toList ∧ ¬ name.toList <:+ u.toList) :
    ((keyOf (path ++ [name])).endsWith "flags" || (keyOf (path ++ [name])).endsWith "datapad.status")
      = false ∧ keyOf (path ++ [name]) ≠ "pairs" := by
  refine ⟨by simp [keyOf_endsWith_eq_false (apart "flags" (by simp)),
    keyOf_endsWith_eq_false (apart "datapad.status" (by simp))], fun same => ?_⟩
  have ends := @keyOf_endsWith_eq_false path name "pairs" (apart "pairs" (by simp))
  rw [same, Bool.eq_false_iff] at ends
  exact ends (endsWith_iff_suffix.mpr List.suffix_rfl)

/-! ### Leaves -/

theorem eq_map_of_forall {α : Type} {g : α → Node} :
    ∀ {items : List Node}, (∀ n ∈ items, ∃ a, n = g a) → ∃ as : List α, items = as.map g
  | [], _ => ⟨[], rfl⟩
  | n :: rest, each => by
    obtain ⟨a, rfl⟩ := each n List.mem_cons_self
    obtain ⟨as, rfl⟩ := eq_map_of_forall fun x mem => each x (List.mem_cons_of_mem _ mem)
    exact ⟨a :: as, rfl⟩

theorem Kind.fieldNames_vector {k : Kind} (vector : k.isVector = true) :
    k.fieldNames = k.components ∧ ∀ f ∈ k.fields, f.shape = .real := by
  rcases Kind.vector_cases vector with rfl | rfl <;> decide

/-- A conforming node of a leaf shape is written under its key as one line that reads back. -/
theorem leafLine_of_conforms {key : String} {shape : Shape} {n : Node} (leaf : shape.isLeaf = true)
    (flags : shape = .marks → key.endsWith "flags" = true) (conf : Conforms shape n)
    (legible : Legible n) : ∃ V, LeafLine key n V := by
  cases conf with
  | int _ short => exact ⟨_, leafLine_int _ short⟩
  | real x => exact ⟨_, leafLine_real _ legible.real⟩
  | truth b => exact ⟨_, leafLine_bool _ b⟩
  | text s => exact ⟨_, leafLine_text _ legible.text.1 legible.text.2⟩
  | stage s => exact ⟨_, leafLine_stage _ s⟩
  | marks each =>
    obtain ⟨ms, rfl⟩ := eq_map_of_forall each
    have flagged := flags rfl
    refine ⟨_, @leafLine_flags key (by simp [flagged]) (fun same => ?_) ms⟩
    rw [same] at flagged
    exact absurd (endsWith_iff_suffix.mp flagged) (by with_unfolding_all decide)
  | @record k nodes sized each =>
    have vector : k.isVector = true := by simpa [Shape.isLeaf] using leaf
    obtain ⟨names, reals⟩ := Kind.fieldNames_vector vector
    obtain ⟨xs, rfl⟩ := eq_map_of_forall (g := Node.real) fun x mem => by
      obtain ⟨f, inZip⟩ := mem_zip_of_mem_right sized.symm mem
      have conforms := each _ inZip
      rw [reals f (List.of_mem_zip inZip).1] at conforms
      cases conforms with
      | real x => exact ⟨x, rfl⟩
      | int numeric _ => simp at numeric
    have exact : ∀ x ∈ xs, readFloat (fixedText 6 x) = some x := by
      intro x mem
      obtain ⟨a, inZip⟩ := @mem_zip_of_mem_right _ _ k.fieldNames (xs.map Node.real) (.real x)
        (by simpa [Kind.fieldNames] using sized.symm) (List.mem_map_of_mem mem)
      exact (legible.field inZip).real
    rw [names]
    exact ⟨_, leafLine_vector _ vector (by simpa [← names, Kind.fieldNames] using sized) exact⟩
  | _ => simp [Shape.isLeaf] at leaf

theorem isBranch_of_leaf {shape : Shape} {n : Node} (leaf : shape.isLeaf = true)
    (conf : Conforms shape n) : n.isBranch = false := by
  cases conf with
  | record nodes sized each => simpa [Node.isBranch, Shape.isLeaf] using leaf
  | present record => simp [Shape.isLeaf] at leaf
  | _ => rfl

theorem isNothing_of_leaf {shape : Shape} {n : Node} (leaf : shape.isLeaf = true)
    (conf : Conforms shape n) : n.isNothing = false := by
  cases conf with
  | absent k => simp [Shape.isLeaf] at leaf
  | present record => simp [Shape.isLeaf] at leaf
  | _ => rfl

theorem Conforms.record_isNothing {k : Kind} {n : Node} (conf : Conforms (.record k) n) :
    n.isNothing = false := by
  cases conf <;> rfl

/-- The default of a leaf field, built from a seed of its shape, holds something. -/
theorem seedNode_leaf {shape : Shape} {seed : Seed} (leaf : shape.isLeaf = true)
    (suits : seed.suits shape = true) (fuel : Nat) :
    (seedNode (fuel + 1) shape seed).isNothing = false := by
  cases seed <;> cases shape <;>
    simp_all [Seed.suits, Shape.isLeaf, seedNode, Node.isNothing, Kind.defaultWithin,
      Shape.recordKind?]

/-- A conforming node of a leaf shape fits at its path, whatever the default. -/
theorem Fits.ofLeaf {path : List String} {shape : Shape} {d n : Node} (nonempty : path ≠ [])
    (leaf : shape.isLeaf = true) (flags : shape = .marks → (keyOf path).endsWith "flags" = true)
    (conf : Conforms shape n) (legible : Legible n) : Fits path d n := by
  obtain ⟨V, line⟩ := leafLine_of_conforms leaf flags conf legible
  exact .leaf nonempty (isBranch_of_leaf leaf conf) line

/-! ### Records, field by field -/

/-- A field of a record at `path`, with the default the reader holds there and the node the save
holds, as writing and reading treat it: a field the writer skips holds what the default holds, a
field the reader must fill in first is a record that starts with a leaf, and any other field fits
what the reader finds there. -/
structure SlotFits (path : List String) (name : String) (d n : Node) : Prop where
  skipped : n.isNothing = true → d = n
  supplied : d = .none → n.isNothing = false →
    (suppliedKind? name).isSome ∧ FirstLeaf (path ++ [name]) n
  written : n.isNothing = false → Fits (path ++ [name]) (d.found name) n

/-- A field whose default and node both hold something fits as the node fits the default. -/
theorem SlotFits.ofFits {path : List String} {name : String} {d n : Node}
    (present : d.isNothing = false) (something : n.isNothing = false)
    (fits : Fits (path ++ [name]) d n) : SlotFits path name d n where
  skipped nothing := by simp [something] at nothing
  supplied none_ := by simp [none_, Node.isNothing] at present
  written _ := by
    rwa [Node.found_of_ne_none fun none_ => by simp [none_, Node.isNothing] at present]

/-- A record holding a record of a kind, whose default is the kind's default. -/
theorem SlotFits.record {path : List String} {name : String} {k : Kind} {fuel : Nat} {n : Node}
    (something : n.isNothing = false) (fits : Fits (path ++ [name]) (k.defaultWithin (fuel + 1)) n) :
    SlotFits path name (seedNode (fuel + 1) (.record k) .record) n := by
  have seeded : seedNode (fuel + 1) (.record k) .record = k.defaultWithin (fuel + 1) := by
    simp [seedNode, Shape.recordKind?]
  rw [seeded]
  exact .ofFits (by simp [Kind.defaultWithin, Node.isNothing]) something fits

/-- A record fits its default when each of its fields does. -/
theorem Fits.ofFields {path : List String} {k : Kind} {fuel : Nat} {nodes : List Node}
    (branch : k.isVector = false) (sized : nodes.length = k.fields.length)
    (slots : ∀ p ∈ k.fields.zip nodes,
      SlotFits path p.1.name (seedNode fuel p.1.shape p.1.seed) p.2) :
    Fits path (k.defaultWithin (fuel + 1)) (.record k (k.fieldNames.zip nodes)) := by
  obtain ⟨nodup, atoms⟩ := Kind.names_wellFormed k
  have firsts : (k.fields.zip nodes).map Prod.fst = k.fields := List.map_fst_zip (by omega)
  let triples := (k.fields.zip nodes).map fun p =>
    (p.1.name, seedNode fuel p.1.shape p.1.seed, p.2)
  have names : triples.map Prod.fst = k.fieldNames := by
    rw [Kind.fieldNames, ← firsts, List.map_map, List.map_map]
    rfl
  have defaults : triples.map (fun s => (s.1, s.2.1)) =
      k.fields.map fun f => (f.name, seedNode fuel f.shape f.seed) := by
    rw [← firsts, List.map_map, List.map_map]
    rfl
  have held : triples.map (fun s => (s.1, s.2.2)) = k.fieldNames.zip nodes := by
    rw [Kind.fieldNames, List.zip_map_left, List.map_map]
    rfl
  have built := @Fits.record path k triples branch (by rw [names]; exact nodup)
    (fun s mem => by
      obtain ⟨p, inZip, rfl⟩ := List.mem_map.mp mem
      exact atoms _ (List.mem_map_of_mem (List.of_mem_zip inZip).1))
    (fun s mem => by
      obtain ⟨p, inZip, rfl⟩ := List.mem_map.mp mem
      exact (slots p inZip).skipped)
    (fun s mem => by
      obtain ⟨p, inZip, rfl⟩ := List.mem_map.mp mem
      exact (slots p inZip).supplied)
    (fun s mem => by
      obtain ⟨p, inZip, rfl⟩ := List.mem_map.mp mem
      exact (slots p inZip).written)
  rw [defaults, held] at built
  rwa [Kind.defaultWithin, fieldDefaults_eq_map]

/-- A conforming record fits its default when its fields that are not leaves do: the leaves fit
whatever the default holds. -/
theorem Fits.ofSpecial {path : List String} {k : Kind} {fuel : Nat} {nodes : List Node}
    (branch : k.isVector = false) (sized : nodes.length = k.fields.length)
    (each : ∀ p ∈ k.fields.zip nodes, Conforms p.1.shape p.2)
    (legible : Legible (.record k (k.fieldNames.zip nodes)))
    (special : ∀ p ∈ k.fields.zip nodes, p.1.shape.isLeaf = false →
      SlotFits path p.1.name (seedNode (fuel + 1) p.1.shape p.1.seed) p.2) :
    Fits path (k.defaultWithin (fuel + 2)) (.record k (k.fieldNames.zip nodes)) := by
  refine Fits.ofFields branch sized fun p mem => ?_
  cases leaf : p.1.shape.isLeaf
  · exact special p mem leaf
  · have field := (List.of_mem_zip mem).1
    exact .ofFits (seedNode_leaf leaf (Kind.seeds_suit k p.1 field) fuel)
      (isNothing_of_leaf leaf (each p mem))
      (Fits.ofLeaf (by simp) leaf (fun marks => keyOf_endsWith (Kind.marks_flagged k p.1 field marks))
        (each p mem) (legible.field (mem_zip_names mem)))

/-- A conforming record of a kind whose fields are all leaves fits its default. -/
theorem Fits.ofLeaves {path : List String} {k : Kind} {fuel : Nat} {n : Node}
    (branch : k.isVector = false) (leaves : k.fields.all (·.shape.isLeaf) = true)
    (conf : Conforms (.record k) n) (legible : Legible n) :
    Fits path (k.defaultWithin (fuel + 2)) n := by
  cases conf with
  | record nodes sized each =>
    refine Fits.ofSpecial branch sized each legible fun p mem nonleaf => ?_
    have leaf := List.all_eq_true.mp leaves p.1 (List.of_mem_zip mem).1
    simp [nonleaf] at leaf
  | int numeric _ => simp at numeric

/-- The fields of a kind that are not leaves. -/
theorem mem_special {k : Kind} {nodes : List Node} {p : Field × Node}
    (mem : p ∈ k.fields.zip nodes) (nonleaf : p.1.shape.isLeaf = false) :
    p.1 ∈ k.fields.filter fun f => !f.shape.isLeaf :=
  List.mem_filter.mpr ⟨(List.of_mem_zip mem).1, by simp [nonleaf]⟩

/-! ### Lists -/

theorem keptItems_plain {key : String} (notPairs : key ≠ "pairs") (items : List Node) :
    (keptItems key items).map List.unattach = .ok (items.filter fun x => !isBlankItem x) := by
  have unpaired : (key == "pairs") = false := by simpa using notPairs
  simp only [keptItems, unpaired, Bool.false_and, Bool.false_eq_true, if_false, Except.map]
  rw [@List.unattach_filter _ _ _ _ (fun x => !isBlankItem x) (fun _ _ => rfl),
    List.unattach_attach]

/-- Outside the entries' pairs, a list keeps its items that are not blank: a run of such items
followed by blank ones keeps the run. -/
theorem keptItems_unblank {key : String} {kept : List Node} {d : Node} {dropped : Nat}
    (notPairs : key ≠ "pairs") (unblank : ∀ x ∈ kept, isBlankItem x = false)
    (blank : dropped = 0 ∨ isBlankItem d = true) :
    (keptItems key (kept ++ List.replicate dropped d)).map List.unattach = .ok kept := by
  rw [keptItems_plain notPairs, List.filter_append,
    List.filter_eq_self.mpr fun x mem => by simp [unblank x mem]]
  rcases blank with rfl | blank
  · simp
  · simp [blank]

theorem filterAuxM_ok {α ε : Type} {p : α → Except ε Bool} {g : α → Bool} :
    ∀ {l : List α} (acc : List α), (∀ x ∈ l, p x = .ok (g x)) →
      List.filterAuxM p l acc = .ok ((l.filter g).reverse ++ acc)
  | [], acc, _ => rfl
  | x :: rest, acc, each => by
    have tail := @filterAuxM_ok α ε p g rest
    rw [List.filterAuxM, each x List.mem_cons_self]
    simp only [except_ok_bind]
    rw [tail _ fun y mem => each y (List.mem_cons_of_mem x mem)]
    cases h : g x <;> simp [h]

theorem filterM_ok {α ε : Type} {p : α → Except ε Bool} {g : α → Bool} {l : List α}
    (each : ∀ x ∈ l, p x = .ok (g x)) : l.filterM p = .ok (l.filter g) := by
  simp [List.filterM, filterAuxM_ok [] each]

theorem keepsPair_of_key {p : Node} {s : String} (key : p.attr? "key" = .ok (.text s)) :
    keepsPair p = .ok (s != "") := by
  -- the blank items, nothing and the empty text, have no attributes
  have unblank : isBlankItem p = false := by
    cases p with
    | none => simp [Node.attr?] at key
    | text t => simp [Node.attr?] at key
    | _ => rfl
  simp [keepsPair, unblank, key]

/-- The entries' pairs keep their first item and, after it, the items whose key is given. -/
theorem keptItems_pairs {first : Node} {keyed rest : List Node}
    (more : 1 < (first :: keyed ++ rest).length)
    (keyedKept : ∀ p ∈ keyed, keepsPair p = .ok true)
    (restDropped : ∀ p ∈ rest, keepsPair p = .ok false) :
    (keptItems "pairs" (first :: keyed ++ rest)).map List.unattach = .ok (first :: keyed) := by
  -- whether an item is kept depends only on the item and its index
  let keepAt (q : Node × Nat) : Bool :=
    q.2 == 0 || match keepsPair q.1 with
      | .ok b => b
      | .error _ => false
  have decided : ∀ q ∈ (first :: keyed ++ rest).attach.zipIdx,
      (if q.2 == 0 then .ok true else keepsPair q.1.val : Except Fault Bool) =
        .ok (keepAt (q.1.val, q.2)) := by
    rintro ⟨⟨x, inItems⟩, i⟩ mem
    obtain ⟨-, bound, same⟩ := List.mem_zipIdx mem
    cases i with
    | zero => simp [keepAt]
    | succ i =>
      have later : x ∈ keyed ++ rest := by
        simp only [List.getElem_attach, Nat.sub_zero, Subtype.mk.injEq, List.cons_append,
          List.getElem_cons_succ] at same
        rw [same]
        exact List.getElem_mem _
      rcases List.mem_append.mp later with inKeyed | inRest
      · simp [keepAt, keyedKept x inKeyed]
      · simp [keepAt, restDropped x inRest]
  have values : ((first :: keyed ++ rest).attach.zipIdx).map (Prod.map Subtype.val id) =
      (first :: keyed ++ rest).zipIdx := by
    rw [← List.zipIdx_map, List.attach_map_subtype_val]
  have kept : (((first :: keyed ++ rest).zipIdx).filter keepAt).map Prod.fst = first :: keyed := by
    rw [List.cons_append, List.zipIdx_cons, List.zipIdx_append, List.filter_cons_of_pos (by simp [keepAt]),
      List.filter_append, List.filter_eq_self.mpr, List.filter_eq_nil_iff.mpr]
    · simp [List.zipIdx_map_fst]
    · rintro ⟨x, i⟩ mem
      have late := (List.mem_zipIdx mem).1
      simp only [keepAt, restDropped x (List.fst_mem_of_mem_zipIdx mem), Bool.or_false,
        beq_iff_eq]
      omega
    · intro q mem
      simp [keepAt, keyedKept q.1 (List.fst_mem_of_mem_zipIdx mem)]
  simp only [keptItems, more, decide_true, Bool.and_true, beq_self_eq_true, if_true]
  rw [filterM_ok decided]
  refine congrArg Except.ok (Eq.trans ?_ kept)
  rw [← values, List.filter_map, List.map_map]
  simp only [List.unattach, List.map_map]
  rfl

/-- A list whose kept items come first, followed by items that are all the default's own item,
fits the default list of that item that is as long as the whole list. -/
theorem Fits.keptPrefix {path : List String} {d : Node} {kept : List Node} (dropped : Nat)
    (nonempty : path ≠ [])
    (unflagged : ((keyOf path).endsWith "flags" || (keyOf path).endsWith "datapad.status") = false)
    (keeps : (keptItems (keyOf path) (kept ++ List.replicate dropped d)).map List.unattach =
      .ok kept)
    (short : kept.length < 10 ^ maxIntDigits) (present : ∀ x ∈ kept, x.isNothing = false)
    (each : ∀ x ∈ kept, ∀ j : Nat, Fits (path ++ [Node.intText j]) d x) :
    Fits path (.list (List.replicate (kept.length + dropped) d))
      (.list (kept ++ List.replicate dropped d)) := by
  let pairs := (List.replicate kept.length d).zip kept
  have firsts : pairs.map Prod.fst = List.replicate kept.length d := List.map_fst_zip (by simp)
  have seconds : pairs.map Prod.snd = kept := List.map_snd_zip (by simp)
  have built := Fits.items pairs (List.replicate dropped d) nonempty unflagged
    (by rwa [seconds]) (by simpa [pairs] using short)
    (fun p mem => present p.2 (List.of_mem_zip mem).2)
    (fun p mem => by
      have inPairs := List.fst_mem_of_mem_zipIdx mem
      rw [List.eq_of_mem_replicate (List.of_mem_zip inPairs).1]
      exact each _ (List.of_mem_zip inPairs).2 p.2)
  rwa [firsts, seconds, List.replicate_append_replicate] at built

/-- The lists of the schema are short enough for their indices to read back. -/
theorem lt_indexBound {n : Nat} (small : n ≤ 10000) : n < 10 ^ maxIntDigits :=
  calc n < 10 ^ 5 := by omega
    _ ≤ 10 ^ maxIntDigits := Nat.pow_le_pow_right (by decide) (by unfold maxIntDigits; omega)

theorem Node.eq_list_of_listAt? {c : Node} {items : List Node} (found : c.listAt? [] = some items) :
    c = .list items := by
  cases c <;> simp_all [Node.listAt?, Node.at?]

/-- A list of items none of which is blank, each fitting the default item, fits the default
list of its length under a key of no special kind. -/
theorem Fits.everyItem {path : List String} {d : Node} {items : List Node} (nonempty : path ≠ [])
    (plainKey : ((keyOf path).endsWith "flags" || (keyOf path).endsWith "datapad.status") = false ∧
      keyOf path ≠ "pairs")
    (short : items.length < 10 ^ maxIntDigits) (unblank : ∀ x ∈ items, isBlankItem x = false)
    (each : ∀ x ∈ items, ∀ j : Nat, Fits (path ++ [Node.intText j]) d x) :
    Fits path (.list (List.replicate items.length d)) (.list items) := by
  have built := Fits.keptPrefix 0 nonempty plainKey.1
    (by simpa using @keptItems_unblank (keyOf path) items d 0 plainKey.2 unblank (.inl rfl)) short
    (fun x mem => by
      cases x with
      | none => exact absurd (unblank _ mem) (by decide)
      | _ => rfl) each
  simpa using built

/-- A field holding a record of a kind whose fields are all leaves. -/
theorem SlotFits.plain {path : List String} {fuel : Nat} {name : String} {k : Kind} {c : Node}
    (branch : k.isVector = false) (leaves : k.fields.all (·.shape.isLeaf) = true)
    (conf : Conforms (.record k) c) (legible : Legible c) :
    SlotFits path name (seedNode (fuel + 2) (.record k) .record) c :=
  .record conf.record_isNothing (Fits.ofLeaves branch leaves conf legible)

/-- A record that starts with a field written as one line. -/
theorem FirstLeaf.ofConforms {path : List String} {k : Kind} {c : Node} {f : Field}
    {rest : List Field} (fields : k.fields = f :: rest) (branch : k.isVector = false)
    (conf : Conforms (.record k) c) (legible : Legible c)
    (line : ∀ n₁, Conforms f.shape n₁ → Legible n₁ →
      n₁.isNothing = false ∧ ∃ V, LeafLine (keyOf (path ++ [f.name])) n₁ V) :
    FirstLeaf path c := by
  cases conf with
  | int numeric _ => simp at numeric
  | record nodes sized each =>
    obtain ⟨n₁, others, rfl⟩ : ∃ n₁ others, nodes = n₁ :: others := by
      cases nodes with
      | nil => simp [fields] at sized
      | cons n₁ others => exact ⟨n₁, others, rfl⟩
    have zipped : k.fieldNames.zip (n₁ :: others) =
        (f.name, n₁) :: (rest.map (·.name)).zip others := by
      simp [Kind.fieldNames, fields]
    have head : (f, n₁) ∈ k.fields.zip (n₁ :: others) := by simp [fields]
    have named := (Kind.names_wellFormed k).2 f.name (by simp [Kind.fieldNames, fields])
    obtain ⟨something, V, leaf⟩ := line n₁ (each _ head)
      (legible.field (by rw [zipped]; exact List.mem_cons_self))
    exact ⟨k, f.name, n₁, _, V, branch, by rw [zipped], named.1, something, leaf⟩

/-- A field holding an optional record of a kind that its name supplies: nothing, or a record
that starts with a leaf and fits the kind's default. -/
theorem SlotFits.optional {path : List String} {fuel : Nat} {name : String} {k : Kind} {c : Node}
    (supplied : suppliedKind? name = some k) (conf : Conforms (.optional k) c)
    (first : Conforms (.record k) c → FirstLeaf (path ++ [name]) c)
    (fits : Conforms (.record k) c → Fits (path ++ [name]) k.default c) :
    SlotFits path name (seedNode fuel (.optional k) .absent) c := by
  rw [show seedNode fuel (.optional k) .absent = .none by simp [seedNode]]
  cases conf with
  | int numeric _ => simp at numeric
  | absent => exact ⟨fun _ => rfl, fun _ something => by simp [Node.isNothing] at something,
      fun something => by simp [Node.isNothing] at something⟩
  | present record =>
    refine ⟨fun nothing => by simp [record.record_isNothing] at nothing,
      fun _ _ => ⟨by simp [supplied], first record⟩, fun _ => ?_⟩
    rw [Node.found_none supplied]
    exact fits record

theorem isBlankItem_text (s : String) : isBlankItem (.text s) = (s == "") := by
  unfold isBlankItem
  split <;> simp_all

theorem Conforms.record_unblank {k : Kind} {n : Node} (conf : Conforms (.record k) n) :
    isBlankItem n = false := by
  cases conf <;> rfl

/-- An empty list fits an empty default under a key that is no list of flags. -/
theorem Fits.emptyList {path : List String} (nonempty : path ≠ [])
    (unflagged : ((keyOf path).endsWith "flags" || (keyOf path).endsWith "datapad.status") = false) :
    Fits path (.list []) (.list []) := by
  simpa using @Fits.keptPrefix path .none [] 0 nonempty unflagged
    (by simp [keptItems, Except.map]) (lt_indexBound (by simp)) (by simp) (by simp)

/-- A field holding as many words as its default holds zeros. -/
theorem SlotFits.words {path : List String} {fuel count : Nat} {name : String} {c : Node}
    (small : count ≤ 10000)
    (plainKey : ((keyOf (path ++ [name])).endsWith "flags" ||
      (keyOf (path ++ [name])).endsWith "datapad.status") = false ∧ keyOf (path ++ [name]) ≠ "pairs")
    (conf : Conforms .words c) (legible : Legible c) (sized : (c.listAt? []).map List.length = some count) :
    SlotFits path name (seedNode fuel .words (.zeros count)) c := by
  cases conf with
  | int numeric _ => simp at numeric
  | words every =>
    rename_i items
    have counted : items.length = count := by simpa [Node.listAt?, Node.at?] using sized
    rw [show seedNode fuel .words (.zeros count) = .list (List.replicate items.length (.int 0)) by
      simp [seedNode, counted]]
    refine .ofFits rfl rfl ?_
    refine Fits.everyItem (by simp) plainKey (lt_indexBound (by omega)) (fun x mem => ?_)
      fun x mem j => Fits.ofLeaf (by simp) rfl (by simp) (every x mem) (legible.item mem)
    cases every x mem
    rfl

/-- The pair of the entries whose key is empty is the default pair, at any fuel that builds it. -/
theorem Kind.pair_defaultWithin (fuel : Nat) :
    Kind.pair.defaultWithin (fuel + 2) = Kind.pair.default := by
  simp [Kind.default, schemaDepth, Kind.defaultWithin, fieldDefaults, seedNode, Kind.fields,
    Shape.recordKind?]

theorem Kind.pair_default_key : Kind.pair.default.attr? "key" = .ok (.text "") := by
  rw [← Kind.pair_defaultWithin 0]
  simp [Kind.defaultWithin, fieldDefaults, seedNode, Kind.fields, Node.attr?]

/-- The key of a datapad's status is one the writer writes as one `Flags` value. -/
theorem keyOf_datapad_status (path : List String) :
    ((keyOf (path ++ ["datapad", "status"])).endsWith "flags" ||
      (keyOf (path ++ ["datapad", "status"])).endsWith "datapad.status") = true ∧
      keyOf (path ++ ["datapad", "status"]) ≠ "pairs" := by
  have ends : (keyOf (path ++ ["datapad", "status"])).endsWith "datapad.status" = true := by
    rw [show path ++ ["datapad", "status"] = path ++ ["datapad"] ++ ["status"] by simp,
      ← keyOf_append_single (by simp)]
    obtain ⟨t, ends⟩ := keyOf_suffix path "datapad"
    refine endsWith_iff_suffix.mpr ⟨t, ?_⟩
    simp only [String.toList_append, ← ends, List.append_assoc]
    rfl
  refine ⟨by simp [ends], fun same => ?_⟩
  rw [same] at ends
  exact absurd (endsWith_iff_suffix.mp ends) (by with_unfolding_all decide)

/-- A field holding an optional record of a kind whose fields are all leaves. -/
theorem SlotFits.optionalLeaves {path : List String} {fuel : Nat} {name : String} {k : Kind}
    {c : Node} {f : Field} {rest : List Field} (supplied : suppliedKind? name = some k)
    (fields : k.fields = f :: rest) (branch : k.isVector = false)
    (leaves : k.fields.all (·.shape.isLeaf) = true) (conf : Conforms (.optional k) c)
    (legible : Legible c) : SlotFits path name (seedNode fuel (.optional k) .absent) c := by
  have first : f.shape.isLeaf = true := List.all_eq_true.mp leaves f (by simp [fields])
  have flagged := Kind.marks_flagged k f (by simp [fields])
  refine .optional supplied conf (fun record => FirstLeaf.ofConforms fields branch record legible
    fun n₁ conf₁ legible₁ => ⟨isNothing_of_leaf first conf₁, ?_⟩) fun record => ?_
  · exact leafLine_of_conforms first (fun marks => keyOf_endsWith (flagged marks)) conf₁ legible₁
  · exact @Fits.ofLeaves _ _ 6 _ branch leaves record legible

/-! ### The kinds of the schema

One lemma for each kind that holds something other than leaves, from the inside out. The fuel
each lemma asks for is what the kind's defaults need to be records all the way down. -/

section Kinds

variable {path : List String} {fuel : Nat} {n : Node}

/-- The parts hold the map manager, whose fields are leaves. -/
theorem Fits.parts (conf : Conforms (.record .parts) n) (legible : Legible n) :
    Fits path (Kind.parts.defaultWithin (fuel + 3)) n := by
  cases conf with
  | int numeric _ => simp at numeric
  | record nodes sized each =>
    refine Fits.ofSpecial rfl sized each legible fun ⟨f, c⟩ mem nonleaf => ?_
    have special := mem_special mem nonleaf
    simp [Kind.fields, Shape.isLeaf, Kind.isVector] at special
    subst special
    exact .plain rfl (by decide) (each _ mem) (legible.field (mem_zip_names mem))

/-- The mel holds the minions, whose fields are leaves. -/
theorem Fits.mel (conf : Conforms (.record .mel) n) (legible : Legible n) :
    Fits path (Kind.mel.defaultWithin (fuel + 3)) n := by
  cases conf with
  | int numeric _ => simp at numeric
  | record nodes sized each =>
    refine Fits.ofSpecial rfl sized each legible fun ⟨f, c⟩ mem nonleaf => ?_
    have special := mem_special mem nonleaf
    simp [Kind.fields, Shape.isLeaf, Kind.isVector] at special
    subst special
    exact .plain rfl (by decide) (each _ mem) (legible.field (mem_zip_names mem))

/-- The goliath's room triggers are texts given before the first empty one, as many as the
default's empty texts. -/
theorem Fits.goliath (conf : Conforms (.record .goliath) n) (legible : Legible n)
    (triggers : ∃ (given : List String) (blanks : Nat),
      n.listAt? ["room_entrance_triggers"] =
        some (given.map .text ++ List.replicate blanks (.text "")) ∧ ∀ s ∈ given, s ≠ "")
    (count : (n.listAt? ["room_entrance_triggers"]).map List.length = some 12) :
    Fits path (Kind.goliath.defaultWithin (fuel + 2)) n := by
  cases conf with
  | int numeric _ => simp at numeric
  | record nodes sized each =>
    refine Fits.ofSpecial rfl sized each legible fun ⟨f, c⟩ mem nonleaf => ?_
    have special := mem_special mem nonleaf
    simp [Kind.fields, Shape.isLeaf, Kind.isVector] at special
    subst special
    have held := legible.field (mem_zip_names mem)
    obtain ⟨given, blanks, found, named⟩ := triggers
    rw [listAt?_field (names_zip_nodup _ sized) (mem_zip_names mem)] at found count
    obtain rfl := Node.eq_list_of_listAt? found
    have sizes : given.length + blanks = 12 := by simpa [Node.listAt?, Node.at?] using count
    have plain := @keyOf_plainList path "room_entrance_triggers" (by with_unfolding_all decide)
    dsimp only
    rw [show seedNode (fuel + 1) .texts (.blanks 12) =
        .list (List.replicate ((given.map Node.text).length + blanks) (.text "")) by
      simp [seedNode, sizes]]
    refine .ofFits rfl rfl ?_
    refine Fits.keptPrefix blanks (by simp) plain.1
      (keptItems_unblank plain.2 (fun x mem => ?_) (.inr rfl)) (lt_indexBound (by simp; omega))
      (fun x mem => ?_) fun x mem j => ?_
    all_goals obtain ⟨s, inGiven, rfl⟩ := List.mem_map.mp mem
    · simpa [isBlankItem_text] using named s inGiven
    · rfl
    · exact Fits.ofLeaf (by simp) rfl (by simp) (.text s) (held.item (List.mem_append_left _ mem))

/-- The character records of the plot points: the mel holds the minions and the goliath its room
triggers; every other character holds leaves. -/
theorem Fits.plotPoints (conf : Conforms (.record .plotPoints) n) (legible : Legible n)
    (triggers : ∃ (given : List String) (blanks : Nat),
      n.listAt? ["goliath", "room_entrance_triggers"] =
        some (given.map .text ++ List.replicate blanks (.text "")) ∧ ∀ s ∈ given, s ≠ "")
    (count : (n.listAt? ["goliath", "room_entrance_triggers"]).map List.length = some 12) :
    Fits path (Kind.plotPoints.defaultWithin (fuel + 4)) n := by
  cases conf with
  | int numeric _ => simp at numeric
  | record nodes sized each =>
    refine Fits.ofSpecial rfl sized each legible fun ⟨f, c⟩ mem nonleaf => ?_
    have conf := each _ mem
    have held := legible.field (mem_zip_names mem)
    have walk := @listAt?_field .plotPoints _ _ _ (names_zip_nodup _ sized) (mem_zip_names mem)
    have special := mem_special mem nonleaf
    simp [Kind.fields, Shape.isLeaf, Kind.isVector] at special
    rcases special with rfl | rfl | rfl | rfl | rfl | rfl | rfl | rfl | rfl | rfl | rfl | rfl |
      rfl | rfl
    all_goals first
      | exact .plain rfl (by decide) conf held
      | exact .record conf.record_isNothing (Fits.mel conf held)
      | (dsimp only at walk
         exact .record conf.record_isNothing
          (Fits.goliath conf held (by simpa only [walk] using triggers)
            (by simpa only [walk] using count)))

/-- The markers are a list of records of leaves, as many as the default's. -/
theorem Fits.markers (conf : Conforms (.record .markers) n) (legible : Legible n)
    (count : (n.listAt? ["markers"]).map List.length = some 16) :
    Fits path (Kind.markers.defaultWithin (fuel + 3)) n := by
  cases conf with
  | int numeric _ => simp at numeric
  | record nodes sized each =>
    refine Fits.ofSpecial rfl sized each legible fun ⟨f, c⟩ mem nonleaf => ?_
    have special := mem_special mem nonleaf
    simp [Kind.fields, Shape.isLeaf, Kind.isVector] at special
    subst special
    have held := legible.field (mem_zip_names mem)
    rw [listAt?_field (names_zip_nodup _ sized) (mem_zip_names mem)] at count
    have conf := each _ mem
    cases conf with
    | int numeric _ => simp at numeric
    | records every =>
      rename_i items
      have sixteen : items.length = 16 := by simpa [Node.listAt?, Node.at?] using count
      dsimp only
      rw [show seedNode (fuel + 2) (.records .marker) (.records 16) =
          .list (List.replicate items.length (Kind.marker.defaultWithin (fuel + 2))) by
        simp [seedNode, Shape.recordKind?, sixteen]]
      refine .ofFits rfl rfl ?_
      exact Fits.everyItem (by simp) (@keyOf_plainList path "markers" (by with_unfolding_all decide))
        (lt_indexBound (by omega)) (fun x mem => (every x mem).record_unblank)
        fun x mem _ => Fits.ofLeaves rfl (by decide) (every x mem) (held.item mem)

/-- The trail's points, which the reader cannot fill, are empty. -/
theorem Fits.trail (conf : Conforms (.record .trail) n) (legible : Legible n)
    (empty : n.listAt? ["points"] = some []) :
    Fits path (Kind.trail.defaultWithin (fuel + 2)) n := by
  cases conf with
  | int numeric _ => simp at numeric
  | record nodes sized each =>
    refine Fits.ofSpecial rfl sized each legible fun ⟨f, c⟩ mem nonleaf => ?_
    have special := mem_special mem nonleaf
    simp [Kind.fields, Shape.isLeaf, Kind.isVector] at special
    subst special
    rw [listAt?_field (names_zip_nodup _ sized) (mem_zip_names mem)] at empty
    obtain rfl := Node.eq_list_of_listAt? empty
    dsimp only
    rw [show seedNode (fuel + 1) .anyList .empty = .list [] by simp [seedNode]]
    exact .ofFits rfl rfl
      (Fits.emptyList (by simp) (@keyOf_plainList path "points" (by with_unfolding_all decide)).1)

/-- The map state's bits, as many as the default's zeros. -/
theorem Fits.mapState (conf : Conforms (.record .mapState) n) (legible : Legible n)
    (faces : (n.listAt? ["face_inside_bits"]).map List.length = some 1241)
    (edges : (n.listAt? ["edge_visited_bits"]).map List.length = some 1408) :
    Fits path (Kind.mapState.defaultWithin (fuel + 2)) n := by
  cases conf with
  | int numeric _ => simp at numeric
  | record nodes sized each =>
    refine Fits.ofSpecial rfl sized each legible fun ⟨f, c⟩ mem nonleaf => ?_
    have conf := each _ mem
    have held := legible.field (mem_zip_names mem)
    have walk := @listAt?_field .mapState _ _ _ (names_zip_nodup _ sized) (mem_zip_names mem)
    have special := mem_special mem nonleaf
    simp [Kind.fields, Shape.isLeaf, Kind.isVector] at special
    rcases special with rfl | rfl <;> dsimp only at walk
    · exact .words (by omega) (@keyOf_plainList path "face_inside_bits" (by with_unfolding_all decide)) conf
        held (by simpa only [walk] using faces)
    · exact .words (by omega) (@keyOf_plainList path "edge_visited_bits" (by with_unfolding_all decide)) conf
        held (by simpa only [walk] using edges)

/-- The save block: its records, lists and bits, each fit by the lemma of its kind. -/
theorem Fits.save (conf : Conforms (.record .save) n) (legible : Legible n)
    (markers : (n.listAt? ["markers", "markers"]).map List.length = some 16)
    (faces : (n.listAt? ["map_state", "face_inside_bits"]).map List.length = some 1241)
    (edges : (n.listAt? ["map_state", "edge_visited_bits"]).map List.length = some 1408)
    (triggerCount :
      (n.listAt? ["plotpoints", "goliath", "room_entrance_triggers"]).map List.length = some 12)
    (trail : n.listAt? ["trail", "points"] = some [])
    (triggers : ∃ (given : List String) (blanks : Nat),
      n.listAt? ["plotpoints", "goliath", "room_entrance_triggers"] =
        some (given.map .text ++ List.replicate blanks (.text "")) ∧ ∀ s ∈ given, s ≠ "") :
    Fits path (Kind.save.defaultWithin (fuel + 5)) n := by
  cases conf with
  | int numeric _ => simp at numeric
  | record nodes sized each =>
    refine Fits.ofSpecial rfl sized each legible fun ⟨f, c⟩ mem nonleaf => ?_
    have conf := each _ mem
    have held := legible.field (mem_zip_names mem)
    have walk := @listAt?_field .save _ _ _ (names_zip_nodup _ sized) (mem_zip_names mem)
    have special := mem_special mem nonleaf
    simp [Kind.fields, Shape.isLeaf, Kind.isVector] at special
    rcases special with rfl | rfl | rfl | rfl | rfl | rfl | rfl <;> dsimp only at walk
    · exact .record conf.record_isNothing (Fits.trail conf held (by simpa only [walk] using trail))
    · exact .record conf.record_isNothing
        (Fits.markers conf held (by simpa only [walk] using markers))
    · exact .record conf.record_isNothing (Fits.parts conf held)
    · exact .plain rfl (by decide) conf held
    · exact .record conf.record_isNothing (Fits.plotPoints conf held
        (by simpa only [walk] using triggers) (by simpa only [walk] using triggerCount))
    · exact .plain rfl (by decide) conf held
    · exact .record conf.record_isNothing (Fits.mapState conf held
        (by simpa only [walk] using faces) (by simpa only [walk] using edges))

/-- A datapad, found under a pair's value: its status is one `Flags` value, under a key ending in
`datapad.status`. -/
theorem Fits.datapad (conf : Conforms (.record .datapad) n) (legible : Legible n) :
    Fits (path ++ ["datapad"]) (Kind.datapad.defaultWithin (fuel + 2)) n := by
  cases conf with
  | int numeric _ => simp at numeric
  | record nodes sized each =>
    refine Fits.ofSpecial rfl sized each legible fun ⟨f, c⟩ mem nonleaf => ?_
    have special := mem_special mem nonleaf
    simp [Kind.fields, Shape.isLeaf, Kind.isVector] at special
    subst special
    have conf := each _ mem
    cases conf with
    | int numeric _ => simp at numeric
    | statuses =>
      dsimp only
      rw [show seedNode (fuel + 1) .statuses .empty = .list [] by simp [seedNode]]
      refine .ofFits rfl rfl ?_
      have key := keyOf_datapad_status path
      simpa using Fits.leaf (by simp) rfl (@leafLine_flags _ key.1 key.2 [])

/-- The first field of a datapad, its status, is written as one line. -/
theorem FirstLeaf.datapad (conf : Conforms (.record .datapad) n) (legible : Legible n) :
    FirstLeaf (path ++ ["datapad"]) n := by
  refine FirstLeaf.ofConforms rfl rfl conf legible fun n₁ conf₁ _ => ?_
  cases conf₁ with
  | int numeric _ => simp at numeric
  | statuses =>
    have key := keyOf_datapad_status path
    exact ⟨rfl, _, by simpa using @leafLine_flags _ key.1 key.2 []⟩

/-- A pair's value: its optional records are absent, or given and written from their first
field on. -/
theorem Fits.pairValue (conf : Conforms (.record .pairValue) n) (legible : Legible n) :
    Fits path (Kind.pairValue.defaultWithin (fuel + 2)) n := by
  cases conf with
  | int numeric _ => simp at numeric
  | record nodes sized each =>
    refine Fits.ofSpecial rfl sized each legible fun ⟨f, c⟩ mem nonleaf => ?_
    have conf := each _ mem
    have held := legible.field (mem_zip_names mem)
    have special := mem_special mem nonleaf
    simp [Kind.fields, Shape.isLeaf, Kind.isVector] at special
    rcases special with rfl | rfl | rfl | rfl
    · exact .optionalLeaves rfl rfl rfl (by decide) conf held
    · exact .optionalLeaves rfl rfl rfl (by decide) conf held
    · exact .optionalLeaves rfl rfl rfl (by decide) conf held
    · exact .optional rfl conf (fun record => FirstLeaf.datapad record held)
        fun record => @Fits.datapad _ 6 _ record held

/-- A pair of the entries: a key and a value. -/
theorem Fits.pair (conf : Conforms (.record .pair) n) (legible : Legible n) :
    Fits path (Kind.pair.defaultWithin (fuel + 3)) n := by
  cases conf with
  | int numeric _ => simp at numeric
  | record nodes sized each =>
    refine Fits.ofSpecial rfl sized each legible fun ⟨f, c⟩ mem nonleaf => ?_
    have special := mem_special mem nonleaf
    simp [Kind.fields, Shape.isLeaf, Kind.isVector] at special
    subst special
    have conf := each _ mem
    exact .record conf.record_isNothing (Fits.pairValue conf (legible.field (mem_zip_names mem)))

/-- The key of the entries' pairs and of the visibility pairs, written at the top of their block,
is no list of flags. -/
theorem keyOf_pairs_unflagged :
    ((keyOf ["pairs"]).endsWith "flags" || (keyOf ["pairs"]).endsWith "datapad.status") = false := by
  have flags := @keyOf_endsWith_eq_false [] "pairs" "flags" (by with_unfolding_all decide)
  have status := @keyOf_endsWith_eq_false [] "pairs" "datapad.status" (by with_unfolding_all decide)
  simp only [List.nil_append] at flags status
  simp [flags, status]

/-- The entries' pairs: the first pair, then pairs with a key, then default pairs up to the
default's length. The writer drops the default pairs and the reader finds them in place. -/
theorem Fits.savedEntries (conf : Conforms (.record .savedEntries) n) (legible : Legible n)
    (count : (n.listAt? ["pairs"]).map List.length = some 1710)
    (entries : ∃ (first : Node) (keyed defaults : List Node),
      n.listAt? ["pairs"] = some (first :: keyed ++ defaults) ∧
        (∀ p ∈ keyed, ∃ s, p.attr? "key" = .ok (.text s) ∧ s ≠ "") ∧
        ∀ p ∈ defaults, p = Kind.pair.default) :
    Fits [] (Kind.savedEntries.defaultWithin (fuel + 4)) n := by
  cases conf with
  | int numeric _ => simp at numeric
  | record nodes sized each =>
    refine Fits.ofSpecial rfl sized each legible fun ⟨f, c⟩ mem nonleaf => ?_
    have special := mem_special mem nonleaf
    simp [Kind.fields, Shape.isLeaf, Kind.isVector] at special
    subst special
    have held := legible.field (mem_zip_names mem)
    have conf := each _ mem
    obtain ⟨first, keyed, defaults, found, named, plain⟩ := entries
    rw [listAt?_field (names_zip_nodup _ sized) (mem_zip_names mem)] at found count
    obtain rfl := Node.eq_list_of_listAt? found
    -- the default pairs are the reader's own
    obtain ⟨m, rfl⟩ : ∃ m, defaults = List.replicate m (Kind.pair.defaultWithin (fuel + 3)) :=
      ⟨_, List.eq_replicate_iff.mpr ⟨rfl, fun p mem => by rw [plain p mem, Kind.pair_defaultWithin]⟩⟩
    have total : keyed.length + 1 + m = 1710 := by
      simp [Node.listAt?, Node.at?] at count
      omega
    cases conf with
    | records every =>
      dsimp only
      rw [show seedNode (fuel + 3) (.records .pair) (.records 1710) = .list (List.replicate
          ((first :: keyed).length + m) (Kind.pair.defaultWithin (fuel + 3))) by
        simp [seedNode, Shape.recordKind?, ← total]]
      refine .ofFits rfl rfl ?_
      have kept : ∀ x ∈ first :: keyed, x ∈ first :: keyed ++ List.replicate m
          (Kind.pair.defaultWithin (fuel + 3)) := fun x mem => List.mem_append_left _ mem
      refine Fits.keptPrefix m (by simp) keyOf_pairs_unflagged ?_ (lt_indexBound (by simp; omega))
        (fun x mem => (every x (kept x mem)).record_isNothing)
        fun x mem _ => Fits.pair (every x (kept x mem)) (held.item (kept x mem))
      rw [show keyOf ([] ++ ["pairs"]) = "pairs" by simp [keyOf]]
      refine keptItems_pairs (by simp; omega) (fun p mem => ?_) fun p mem => ?_
      · obtain ⟨s, key, given⟩ := named p mem
        simpa [keepsPair_of_key key] using given
      · rw [List.eq_of_mem_replicate mem, Kind.pair_defaultWithin,
          keepsPair_of_key Kind.pair_default_key]
        rfl

/-- The visibility pairs, which the reader cannot fill, are empty. -/
theorem Fits.visibility (conf : Conforms (.record .visibility) n) (legible : Legible n)
    (empty : n.listAt? ["pairs"] = some []) :
    Fits [] (Kind.visibility.defaultWithin (fuel + 2)) n := by
  cases conf with
  | int numeric _ => simp at numeric
  | record nodes sized each =>
    refine Fits.ofSpecial rfl sized each legible fun ⟨f, c⟩ mem nonleaf => ?_
    have special := mem_special mem nonleaf
    simp [Kind.fields, Shape.isLeaf, Kind.isVector] at special
    subst special
    rw [listAt?_field (names_zip_nodup _ sized) (mem_zip_names mem)] at empty
    obtain rfl := Node.eq_list_of_listAt? empty
    dsimp only
    rw [show seedNode (fuel + 1) .anyList .empty = .list [] by simp [seedNode]]
    exact .ofFits rfl rfl (Fits.emptyList (by simp) keyOf_pairs_unflagged)

end Kinds

end GinSave.Save
