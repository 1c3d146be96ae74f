import GinSave.Proofs.Save.Conforms
import GinSave.Proofs.Save.Values

/-! Writing a node and reading its lines back over a default tree. A node fits a default when the
writer's lines, read over the default, rebuild the node: leaves are written as one line that reads
back; records field by field, where a field that holds nothing is not written and so must hold
nothing in the default too; lists item by item, where the items the writer drops must be the
default's own. The main statement, `Fits.writesBack`, says that the lines of a fitting node lie
at its path and, read in any context of that path, turn the default into the node. -/

namespace GinSave.Save

open GinSave.Text GinSave.Number

/-! ### The writer, branch by branch -/

/-- Whether a node is a record written field by field, not a vector. -/
def Node.isBranch : Node → Bool
  | .record k _ => !k.isVector
  | _ => false

/-- The lines of one field of a record under a key. -/
def fieldLines (pfx : String) (field : String × Node) : Except Fault (List String) :=
  if field.2.isNothing then .ok [] else writeNode (joinKey pfx field.1) field.2

/-- The lines of one kept item of a list under a key, with its new index. -/
def itemLines (pfx : String) (item : Node × Nat) : Except Fault (List String) :=
  if item.1.isNothing then .ok [] else writeNode (pfx ++ "." ++ Node.intText item.2) item.1

theorem writeNode_record (pfx : String) {k : Kind} (branch : k.isVector = false)
    (fs : List (String × Node)) :
    writeNode pfx (.record k fs) = (fs.mapM (fieldLines pfx)).map List.flatten := by
  rw [writeNode.eq_1, if_neg (by simp [branch]),
    List.mapM_subtype (g := fieldLines pfx) (fun x _ => by obtain ⟨_, _⟩ := x; rfl),
    List.unattach_attach]
  cases fs.mapM (fieldLines pfx) <;> rfl

theorem writeNode_items (pfx : String) {items : List Node}
    (unflagged : (pfx.endsWith "flags" || pfx.endsWith "datapad.status") = false)
    {kept : List { x // x ∈ items }} (keeps : keptItems pfx items = .ok kept) :
    writeNode pfx (.list items) = (kept.unattach.zipIdx.mapM (itemLines pfx)).map fun parts =>
      (pfx ++ " = Array(" ++ Node.intText kept.length ++ ")") :: parts.flatten := by
  have lines : (kept.zipIdx.mapM fun x => if x.1.val.isNothing = true then Except.ok []
      else writeNode (pfx ++ "." ++ Node.intText x.2) x.1.val) =
      kept.unattach.zipIdx.mapM (itemLines pfx) := by
    rw [List.unattach, List.zipIdx_map, List.mapM_map]
    rfl
  rw [writeNode.eq_2, keeps]
  simp only [except_ok_bind, unflagged, Bool.false_eq_true, if_false]
  rw [lines]
  cases kept.unattach.zipIdx.mapM (itemLines pfx) <;> rfl

/-! ### Keys -/

theorem keyOf_ne_empty {path : List String} (atoms : ∀ a ∈ path, Atom a) (nonempty : path ≠ []) :
    keyOf path ≠ "" := by
  obtain ⟨a, rest, rfl⟩ := List.exists_cons_of_ne_nil nonempty
  intro empty
  have : (keyOf (a :: rest)).toList = [] := by simp [empty]
  rw [keyOf, String.toList_intercalate] at this
  cases rest <;> simp_all [Atom]

theorem keyOf_append_single : ∀ {path : List String}, path ≠ [] → ∀ f : String,
    keyOf path ++ "." ++ f = keyOf (path ++ [f])
  | [], nonempty, _ => absurd rfl nonempty
  | [a], _, f => by simp [keyOf, String.intercalate_cons_cons]
  | a :: b :: rest, _, f => by
    rw [List.cons_append, @keyOf_cons a (b :: rest) (List.cons_ne_nil b rest),
      @keyOf_cons a (b :: rest ++ [f]) (by simp), ← keyOf_append_single (List.cons_ne_nil b rest) f]
    simp only [String.append_assoc]

theorem joinKey_keyOf {path : List String} (atoms : ∀ a ∈ path, Atom a) (f : String) :
    joinKey (keyOf path) f = keyOf (path ++ [f]) := by
  unfold joinKey
  cases path with
  | nil => simp [keyOf]
  | cons a rest =>
    rw [if_neg (by simpa using keyOf_ne_empty atoms (List.cons_ne_nil a rest)),
      keyOf_append_single (List.cons_ne_nil a rest)]

/-- An index, written in decimal, is a part of a key. -/
theorem atom_intText (j : Nat) : Atom (Node.intText j) := by
  refine ⟨by simp [intText_natCast], fun c mem => ?_⟩
  have inDigits : c ∈ Nat.toDigits 10 j := by simpa [intText_natCast] using mem
  have digit := Nat.isDigit_of_mem_toDigits (by decide) (by decide) inDigits
  simp only [Char.isDigit, Bool.and_eq_true, decide_eq_true_eq, UInt32.le_iff_toNat_le] at digit
  have low : ('0' : Char).val.toNat = 48 := rfl
  refine ⟨by rintro rfl; simp at digit, ?_⟩
  simp only [isBlank, Char.toNat, Bool.or_eq_false_iff, Bool.and_eq_false_iff,
    decide_eq_false_iff_not, beq_eq_false_iff_ne]
  have : c.val.toNat ≤ 57 := by simpa using digit.2
  omega

/-! ### Fitting nodes -/

/-- The node a walk finds in a field that holds `d`: a field that holds nothing, of a name that
supplies a record, is first filled with the default record. -/
def Node.found (name : String) (d : Node) : Node :=
  match d with
  | .none =>
    match suppliedKind? name with
    | some k => k.default
    | Option.none => .none
  | d => d

/-- A record whose first field is a leaf written as one line, so that the record's first line
already walks into it. -/
def FirstLeaf (path : List String) (n : Node) : Prop :=
  ∃ k f n₁ others V, k.isVector = false ∧ n = .record k ((f, n₁) :: others) ∧ Atom f ∧
    n₁.isNothing = false ∧ LeafLine (keyOf (path ++ [f])) n₁ V

/-- A line written at `path`: its key spells the path and more parts, at least one in all, and its
value is clean. -/
def LineAt (path : List String) (line : String) : Prop :=
  ∃ sub V, path ++ sub ≠ [] ∧ (∀ a ∈ sub, Atom a) ∧ CleanValue V ∧
    line = keyOf (path ++ sub) ++ " = " ++ V

/-- How the writer writes `n` at `path` over the default `d`, so that reading back rebuilds it. -/
inductive Fits : List String → Node → Node → Prop where
  /-- A leaf is one line that reads back, whatever the default holds. -/
  | leaf {path : List String} {d n : Node} {V : String} (nonempty : path ≠ [])
      (plain : n.isBranch = false) (line : LeafLine (keyOf path) n V) : Fits path d n
  /-- A record is its fields in order, over a default record of the same kind and names. -/
  | record {path : List String} {k : Kind} (slots : List (String × Node × Node))
      (branch : k.isVector = false) (names : (slots.map Prod.fst).Nodup)
      (atoms : ∀ s ∈ slots, Atom s.1 ∧ isIndexPart s.1 = false)
      (skipped : ∀ s ∈ slots, s.2.2.isNothing = true → s.2.1 = s.2.2)
      (supplied : ∀ s ∈ slots, s.2.1 = .none → s.2.2.isNothing = false →
        (suppliedKind? s.1).isSome ∧ FirstLeaf (path ++ [s.1]) s.2.2)
      (written : ∀ s ∈ slots, s.2.2.isNothing = false →
        Fits (path ++ [s.1]) (s.2.1.found s.1) s.2.2) :
      Fits path (.record k (slots.map fun s => (s.1, s.2.1)))
        (.record k (slots.map fun s => (s.1, s.2.2)))
  /-- A list is its kept items renumbered, over a default list whose items past them are the
  dropped ones. -/
  | items {path : List String} (pairs : List (Node × Node)) (rest : List Node)
      (nonempty : path ≠ [])
      (unflagged : ((keyOf path).endsWith "flags" || (keyOf path).endsWith "datapad.status") = false)
      (kept : (keptItems (keyOf path) (pairs.map Prod.snd ++ rest)).map List.unattach =
        .ok (pairs.map Prod.snd))
      (short : pairs.length < 10 ^ maxIntDigits)
      (present : ∀ p ∈ pairs, p.2.isNothing = false)
      (each : ∀ p ∈ pairs.zipIdx, Fits (path ++ [Node.intText p.2]) p.1.1 p.1.2) :
      Fits path (.list (pairs.map Prod.fst ++ rest)) (.list (pairs.map Prod.snd ++ rest))

/-- The lines written for a node: all at its path, and read in any context of the path they turn
the default into the node, with no notes and no fault. -/
structure WritesBack (path : List String) (d n : Node) (lines : List String) : Prop where
  located : ∀ l ∈ lines, LineAt path l
  reads : ∀ g C, '.' ∉ (lowerText g).toList → Hole g path C → ∀ W,
    applyLines W (C d) (lines.map (Line.mk g)) = ⟨C n, W, [], none⟩

theorem LineAt.up {path : List String} {f line : String} (atom : Atom f)
    (at_ : LineAt (path ++ [f]) line) : LineAt path line := by
  obtain ⟨sub, V, -, atoms, clean, rfl⟩ := at_
  refine ⟨f :: sub, V, by simp, ?_, clean, by simp⟩
  intro a mem
  rcases List.mem_cons.mp mem with rfl | inSub
  · exact atom
  · exact atoms a inSub

theorem Kind.default_ne_none (k : Kind) : k.default ≠ .none := by
  simp [Kind.default, schemaDepth, Kind.defaultWithin]

theorem Node.found_of_ne_none {name : String} {d : Node} (present : d ≠ .none) :
    d.found name = d := by
  cases d <;> first | rfl | exact absurd rfl present

theorem Node.found_none {name : String} {k : Kind} (supplied : suppliedKind? name = some k) :
    Node.none.found name = k.default := by
  simp [Node.found, supplied]

/-- The lines of a record whose first field is a leaf start with that leaf's line. -/
theorem FirstLeaf.lines {path : List String} {n : Node} (first : FirstLeaf path n)
    (atoms : ∀ a ∈ path, Atom a) {lines : List String}
    (writes : writeNode (keyOf path) n = .ok lines) :
    ∃ f V tail, Atom f ∧ V.startsWith "Array" = false ∧
      lines = (keyOf (path ++ [f]) ++ " = " ++ V) :: tail := by
  obtain ⟨k, f, n₁, others, V, branch, rfl, atom, present, leaf⟩ := first
  have head : fieldLines (keyOf path) (f, n₁) = .ok [keyOf (path ++ [f]) ++ " = " ++ V] := by
    simp [fieldLines, present, joinKey_keyOf atoms, leaf.writes]
  rw [writeNode_record _ branch, List.mapM_cons, head] at writes
  cases more : others.mapM (fieldLines (keyOf path)) with
  | error e => simp [more, Except.map] at writes
  | ok parts =>
    simp only [more, except_ok_bind, except_pure, Except.map, Except.ok.injEq] at writes
    exact ⟨f, V, parts.flatten, atom, leaf.value, by simp [← writes]⟩

/-- A record's first line read over a field that holds nothing, of a name that supplies the
record, reads as over the default record: the walk fills it in on its way. -/
theorem applyLines_supplied {g : String} {path : List String} {C : Node → Node} {k : Kind}
    {pre post : List (String × Node)} {f : String} (hole : Hole g path C)
    (named : isIndexPart f = false) (freshPre : f ∉ pre.map Prod.fst)
    (freshPost : f ∉ post.map Prod.fst) {k' : Kind} (supplied : suppliedKind? f = some k')
    (group : '.' ∉ (lowerText g).toList) {sub : List String}
    (atoms : ∀ a ∈ path ++ f :: sub, Atom a) (more : sub ≠ []) {V : String}
    (value : V.startsWith "Array" = false) (W : WordAttrs) (ls : List Line) :
    applyLines W (C (.record k (pre ++ (f, .none) :: post)))
        (⟨g, keyOf (path ++ f :: sub) ++ " = " ++ V⟩ :: ls) =
      applyLines W (C (.record k (pre ++ (f, k'.default) :: post)))
        (⟨g, keyOf (path ++ f :: sub) ++ " = " ++ V⟩ :: ls) := by
  have same : applyLine W (C (.record k (pre ++ (f, .none) :: post)))
      ⟨g, keyOf (path ++ f :: sub) ++ " = " ++ V⟩ =
      applyLine W (C (.record k (pre ++ (f, k'.default) :: post)))
      ⟨g, keyOf (path ++ f :: sub) ++ " = " ++ V⟩ := by
    rw [applyLine_entry atoms (by simp) group _ _ value, applyLine_entry atoms (by simp) group _ _ value,
      hole.supplied named freshPre freshPost W supplied _ more,
      show path ++ f :: sub = (path ++ [f]) ++ sub by simp,
      (hole.field named freshPre freshPost).descend W _ (Kind.default_ne_none k') _ sub more]
  rw [applyLines.eq_2, applyLines.eq_2, same]

/-- The fields of a record, written and read one after another: each field's lines turn its
default into its node and leave the other fields alone. The fields before `todo` are done. -/
theorem fields_writeBack {path : List String} (pathAtoms : ∀ a ∈ path, Atom a) {k : Kind} :
    ∀ (todo done : List (String × Node × Node)),
      ((done ++ todo).map Prod.fst).Nodup →
      (∀ s ∈ todo, Atom s.1 ∧ isIndexPart s.1 = false) →
      (∀ s ∈ todo, s.2.2.isNothing = true → s.2.1 = s.2.2) →
      (∀ s ∈ todo, s.2.1 = .none → s.2.2.isNothing = false →
        (suppliedKind? s.1).isSome ∧ FirstLeaf (path ++ [s.1]) s.2.2) →
      (∀ s ∈ todo, s.2.2.isNothing = false → ∃ lines,
        writeNode (keyOf (path ++ [s.1])) s.2.2 = .ok lines ∧
        WritesBack (path ++ [s.1]) (s.2.1.found s.1) s.2.2 lines) →
      ∃ parts, (todo.map fun s => (s.1, s.2.2)).mapM (fieldLines (keyOf path)) = .ok parts ∧
        (∀ l ∈ parts.flatten, LineAt path l) ∧
        ∀ g C, '.' ∉ (lowerText g).toList → Hole g path C → ∀ W,
          applyLines W (C (.record k (done.map (fun s => (s.1, s.2.2)) ++
              todo.map fun s => (s.1, s.2.1)))) (parts.flatten.map (Line.mk g)) =
            ⟨C (.record k ((done ++ todo).map fun s => (s.1, s.2.2))), W, [], none⟩
  | [], done, _, _, _, _, _ => ⟨[], rfl, by simp, fun g C _ _ W => by simp [applyLines]⟩
  | (f, d, n) :: todo, done, names, atoms, skipped, supplied, written => by
    have fresh : f ∉ done.map Prod.fst ∧ f ∉ todo.map Prod.fst := by
      simp only [List.map_append, List.map_cons, List.nodup_append, List.nodup_cons,
        List.mem_cons] at names
      exact ⟨fun mem => names.2.2 f mem f (.inl rfl) rfl, names.2.1.1⟩
    have freshPre : f ∉ (done.map fun s => (s.1, s.2.2)).map Prod.fst := by simpa using fresh.1
    have freshPost : f ∉ (todo.map fun s => (s.1, s.2.1)).map Prod.fst := by simpa using fresh.2
    obtain ⟨atom, named⟩ := atoms (f, d, n) List.mem_cons_self
    have atoms' : ∀ a ∈ path ++ [f], Atom a := by
      intro a mem
      rcases List.mem_append.mp mem with inPath | inF
      · exact pathAtoms a inPath
      · rw [List.mem_singleton.mp inF]; exact atom
    obtain ⟨parts, mapped, located, reads⟩ := fields_writeBack pathAtoms todo (done ++ [(f, d, n)])
      (by simpa using names) (fun s mem => atoms s (List.mem_cons_of_mem _ mem))
      (fun s mem => skipped s (List.mem_cons_of_mem _ mem))
      (fun s mem => supplied s (List.mem_cons_of_mem _ mem))
      (fun s mem => written s (List.mem_cons_of_mem _ mem))
    by_cases nothing : n.isNothing = true
    · -- a field that holds nothing is not written, and the default holds nothing there too
      have same : d = n := skipped (f, d, n) List.mem_cons_self nothing
      refine ⟨[] :: parts, by simp [fieldLines, nothing, mapped], by simpa using located, ?_⟩
      intro g C group hole W
      simpa [same] using reads g C group hole W
    · obtain ⟨lines, writes, back⟩ := written (f, d, n) List.mem_cons_self (by simpa using nothing)
      refine ⟨lines :: parts, ?_, ?_, ?_⟩
      · simp [fieldLines, nothing, joinKey_keyOf pathAtoms, writes, mapped]
      · intro l mem
        rw [List.flatten_cons, List.mem_append] at mem
        rcases mem with inLines | inParts
        · exact (back.located l inLines).up atom
        · exact located l inParts
      · intro g C group hole W
        have fieldHole := hole.field (k := k) named freshPre freshPost
        have first : applyLines W (C (.record k (done.map (fun s => (s.1, s.2.2)) ++
            (f, d) :: todo.map fun s => (s.1, s.2.1)))) (lines.map (Line.mk g)) =
            ⟨C (.record k (done.map (fun s => (s.1, s.2.2)) ++
              (f, n) :: todo.map fun s => (s.1, s.2.1))), W, [], none⟩ := by
          by_cases present : d = .none
          · -- the first line fills in the supplied record before walking into it
            subst present
            obtain ⟨isSupplied, firstLeaf⟩ := supplied (f, .none, n) List.mem_cons_self rfl
              (by simpa using nothing)
            obtain ⟨k', found⟩ := Option.isSome_iff_exists.mp isSupplied
            obtain ⟨f₁, V, tail, atom₁, value, rfl⟩ := firstLeaf.lines atoms' writes
            have lineAtoms : ∀ a ∈ path ++ f :: [f₁], Atom a := by
              intro a mem
              simp only [List.mem_append, List.mem_cons, List.not_mem_nil, or_false] at mem
              rcases mem with inPath | rfl | rfl
              · exact pathAtoms a inPath
              · exact atom
              · exact atom₁
            rw [List.map_cons, show path ++ [f] ++ [f₁] = path ++ f :: [f₁] by simp,
              applyLines_supplied hole named freshPre freshPost found group lineAtoms (by simp)
                value W, ← List.map_cons, show path ++ f :: [f₁] = path ++ [f] ++ [f₁] by simp]
            simpa [Node.found_none found] using back.reads g _ group fieldHole W
          · simpa [Node.found_of_ne_none present] using back.reads g _ group fieldHole W
        rw [List.flatten_cons, List.map_append, List.map_cons, applyLines_append_ok _ first]
        simpa using reads g C group hole W

/-- The kept items of a list, written and read one after another under their new indices: each
item's lines turn its default into it and leave the other items alone. The items before `todo`
are done. -/
theorem items_writeBack {path : List String} (pathAtoms : ∀ a ∈ path, Atom a)
    (nonempty : path ≠ []) (rest : List Node) :
    ∀ (todo done : List (Node × Node)), done.length + todo.length < 10 ^ maxIntDigits →
      (∀ p ∈ todo, p.2.isNothing = false) →
      (∀ p ∈ todo.zipIdx done.length, ∃ lines,
        writeNode (keyOf (path ++ [Node.intText p.2])) p.1.2 = .ok lines ∧
        WritesBack (path ++ [Node.intText p.2]) p.1.1 p.1.2 lines) →
      ∃ parts, ((todo.map Prod.snd).zipIdx done.length).mapM (itemLines (keyOf path)) = .ok parts ∧
        (∀ l ∈ parts.flatten, LineAt path l) ∧
        ∀ g C, '.' ∉ (lowerText g).toList → Hole g path C → ∀ W,
          applyLines W (C (.list (done.map Prod.snd ++ todo.map Prod.fst ++ rest)))
              (parts.flatten.map (Line.mk g)) =
            ⟨C (.list ((done ++ todo).map Prod.snd ++ rest)), W, [], none⟩
  | [], done, _, _, _ => ⟨[], rfl, by simp, fun g C _ _ W => by simp [applyLines]⟩
  | (d, n) :: todo, done, short, present, written => by
    obtain ⟨lines, writes, back⟩ := written ((d, n), done.length) (by simp)
    obtain ⟨parts, mapped, located, reads⟩ := items_writeBack pathAtoms nonempty rest todo
      (done ++ [(d, n)]) (by simp at short ⊢; omega)
      (fun p mem => present p (List.mem_cons_of_mem _ mem))
      (fun p mem => written p (by
        rw [List.length_append, List.length_singleton] at mem
        simp [List.zipIdx_cons, mem]))
    rw [List.length_append, List.length_singleton] at mapped
    refine ⟨lines :: parts, ?_, ?_, ?_⟩
    · simp [List.zipIdx_cons, itemLines, present (d, n) List.mem_cons_self,
        keyOf_append_single nonempty, writes, mapped]
    · intro l mem
      rw [List.flatten_cons, List.mem_append] at mem
      rcases mem with inLines | inParts
      · exact (back.located l inLines).up (atom_intText _)
      · exact located l inParts
    · intro g C group hole W
      have itemHole : Hole g (path ++ [Node.intText (done.map Prod.snd).length])
          fun S => C (.list (done.map Prod.snd ++ S :: (todo.map Prod.fst ++ rest))) :=
        hole.item (by simp at short ⊢; omega)
      rw [List.length_map] at itemHole
      have first := back.reads g _ group itemHole W
      rw [List.flatten_cons, List.map_append, show done.map Prod.snd ++ ((d, n) :: todo).map
          Prod.fst ++ rest = done.map Prod.snd ++ d :: (todo.map Prod.fst ++ rest) by simp,
        applyLines_append_ok _ first]
      simpa using reads g C group hole W

/-- A fitting node is written without fault, and its lines read back over the default. By
induction on the fit; the records and lists go through the two loops above. -/
theorem Fits.writesBack {path : List String} {d n : Node} (fits : Fits path d n)
    (atoms : ∀ a ∈ path, Atom a) :
    ∃ lines, writeNode (keyOf path) n = .ok lines ∧ WritesBack path d n lines := by
  induction fits with
  | @leaf path d n V nonempty plain line =>
    refine ⟨_, line.writes, fun l mem => ?_, fun g C group hole W => ?_⟩
    · rw [List.mem_singleton.mp mem]
      exact ⟨[], _, by simpa using nonempty, by simp, line.clean, by simp⟩
    · have step := applyLine_entry atoms nonempty group W (C d) line.value
      rw [line.reads, hole.assign nonempty] at step
      rw [List.map_singleton, applyLines_cons_ok _ step]
      simp [applyLines]
  | @record path k slots branch names fieldAtoms skipped supplied written ih =>
    have below : ∀ s ∈ slots, ∀ a ∈ path ++ [s.1], Atom a := by
      intro s mem a inPath
      rcases List.mem_append.mp inPath with inPath | inF
      · exact atoms a inPath
      · rw [List.mem_singleton.mp inF]; exact (fieldAtoms s mem).1
    obtain ⟨parts, mapped, located, reads⟩ := fields_writeBack atoms slots [] (by simpa using names)
      fieldAtoms skipped supplied fun s mem present => ih s mem present (below s mem)
    refine ⟨parts.flatten, by rw [writeNode_record _ branch, mapped]; rfl, located,
      fun g C group hole W => ?_⟩
    simpa using reads g C group hole W
  | @items path pairs rest nonempty unflagged kept short present each ih =>
    obtain ⟨kept', keeps, unattached⟩ : ∃ kept', keptItems (keyOf path)
        (pairs.map Prod.snd ++ rest) = .ok kept' ∧ kept'.unattach = pairs.map Prod.snd := by
      cases result : keptItems (keyOf path) (pairs.map Prod.snd ++ rest) with
      | error e => simp [result, Except.map] at kept
      | ok kept' => exact ⟨kept', rfl, by simpa [result, Except.map] using kept⟩
    have below : ∀ j : Nat, ∀ a ∈ path ++ [Node.intText j], Atom a := by
      intro j a inPath
      rcases List.mem_append.mp inPath with inPath | inIndex
      · exact atoms a inPath
      · rw [List.mem_singleton.mp inIndex]; exact atom_intText j
    obtain ⟨parts, mapped, located, reads⟩ := items_writeBack atoms nonempty rest pairs []
      (by simpa using short) present fun p mem => ih p (by simpa using mem) (below p.2)
    have header : ∀ t : String, keyOf path ++ " = Array(" ++ t ++ ")" =
        keyOf path ++ " = " ++ ("Array(" ++ t ++ ")") := by
      intro t
      simp only [String.append_assoc]
      rfl
    have clean : CleanValue ("Array(" ++ Node.intText kept'.length ++ ")") := by
      rw [show "Array(" = "Array" ++ "(" from rfl]
      exact cleanValue_wrap (by decide) fun c mem =>
        (plain_of_number_char ((intText_char mem).imp_right .inl)).2.2
    refine ⟨(keyOf path ++ " = Array(" ++ Node.intText kept'.length ++ ")") :: parts.flatten,
      ?_, ?_, fun g C group hole W => ?_⟩
    · rw [writeNode_items _ unflagged keeps, unattached]
      simp only [List.length_nil] at mapped
      rw [mapped]
      rfl
    · intro l mem
      rcases List.mem_cons.mp mem with rfl | inParts
      · exact ⟨[], _, by simpa using nonempty, by simp, clean, by simp [header]⟩
      · exact located l inParts
    · rw [List.map_cons, header, applyLines_cons_ok _ (applyLine_header atoms _ _ _)]
      simpa using reads g C group hole W

end GinSave.Save
