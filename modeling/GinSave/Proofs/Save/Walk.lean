import GinSave.Save.Assign
import GinSave.Proofs.Text.Cut
import GinSave.Proofs.Number.Decimal

/-! Walking dotted paths into a save. A part of a path leads into a node in one of two ways: by
name into a field of a record, or by index into an item of a list. Each way gets its step
lemmas, and a hole composes steps into the context of a node at a path: every assignment along a
path through the hole is the same assignment inside the node, with the context put back around
the result. A content line `key = value` is one such assignment, at the path its key spells
under its group. -/

namespace GinSave.Save

open GinSave.Text GinSave.Number

/-! ### Results that stop at the first fault -/

@[simp] theorem except_ok_bind {ε α β : Type} (a : α) (f : α → Except ε β) :
    (Except.ok a >>= f) = f a := rfl

@[simp] theorem except_error_bind {ε α β : Type} (e : ε) (f : α → Except ε β) :
    (Except.error e >>= f) = Except.error e := rfl

@[simp] theorem except_map_ok {ε α β : Type} (f : α → β) (a : α) :
    (f <$> (Except.ok a : Except ε α)) = Except.ok (f a) := rfl

@[simp] theorem except_pure {ε α : Type} (a : α) : (pure a : Except ε α) = Except.ok a := rfl

/-- A bind that succeeds ran its first computation to a result. -/
theorem except_bind_ok {ε α β : Type} {x : Except ε α} {f : α → Except ε β} {r : β}
    (bound : x >>= f = .ok r) : ∃ a, x = .ok a ∧ f a = .ok r := by
  cases x with
  | error e => cases bound
  | ok a => exact ⟨a, rfl, bound⟩

/-- A map whose every step succeeds succeeds with the mapped list. -/
theorem mapM_ok_of_forall {ε α β : Type} {f : α → Except ε β} {g : α → β} :
    ∀ {l : List α}, (∀ a ∈ l, f a = .ok (g a)) → l.mapM f = .ok (l.map g)
  | [], _ => rfl
  | a :: l, each => by
    simp [each a List.mem_cons_self, mapM_ok_of_forall fun x mem => each x (List.mem_cons_of_mem a mem)]

/-- A dotted key from its parts. -/
def keyOf (path : List String) : String :=
  ".".intercalate path

/-- A part of a dotted key as the writer makes one: not empty, without a point or a blank. -/
def Atom (a : String) : Prop :=
  a ≠ "" ∧ ∀ c ∈ a.toList, c ≠ '.' ∧ isBlank c = false

/-- An assignment made inside a context: the context around the changed node, the same table of
words' attributes, the same notes and the same fault. -/
def Assigned.within (plug : Node → Node) (r : Assigned) : Assigned :=
  ⟨plug r.node, r.words, r.notes, r.fault⟩

/-! ### Index parts -/

theorem isDigitLike_of_isDigit {c : Char} (digit : c.isDigit) : isDigitLike c = true := by
  have ascii : ∀ d : Fin 10, isDigitLike (Char.ofNat (48 + d)) = true := by with_unfolding_all decide
  simp only [Char.isDigit, Bool.and_eq_true, decide_eq_true_eq, UInt32.le_iff_toNat_le] at digit
  have low : ('0' : Char).val.toNat = 48 := rfl
  have high : ('9' : Char).val.toNat = 57 := rfl
  have value : c.toNat = c.val.toNat := rfl
  have back : Char.ofNat (48 + (c.toNat - 48)) = c := by
    rw [show 48 + (c.toNat - 48) = c.toNat by omega, Char.ofNat_toNat]
  rw [← back]
  exact ascii ⟨c.toNat - 48, by omega⟩

theorem intText_natCast (j : Nat) : Node.intText j = String.ofList (Nat.toDigits 10 j) := by
  simp [Node.intText]

theorem isIndexPart_intText (j : Nat) : isIndexPart (Node.intText j) = true := by
  have digits : ∀ c ∈ Nat.toDigits 10 j, isDigitLike c = true := fun c mem =>
    isDigitLike_of_isDigit (Nat.isDigit_of_mem_toDigits (by decide) (by decide) mem)
  simpa [isIndexPart, intText_natCast, List.all_eq_true] using digits

theorem readIntContent_intText {n : Int} (short : decimalLength n.natAbs ≤ maxIntDigits) :
    readIntContent (Node.intText n) = .ok n := by
  unfold readIntContent Node.intText
  by_cases neg : n < 0
  · have reads := readInt_decimal true n.natAbs short
    rw [if_pos neg]
    simp only [if_true] at reads
    simp only [reads, Except.ok.injEq]
    omega
  · have reads := readInt_decimal false n.natAbs short
    rw [if_neg neg]
    simp only [Bool.false_eq_true, if_false] at reads
    simp only [reads, Except.ok.injEq]
    omega

theorem readIntContent_index {j : Nat} (short : j < 10 ^ maxIntDigits) :
    readIntContent (Node.intText j) = .ok j :=
  readIntContent_intText (decimalLength_le_of_lt_pow (by simpa using short) (by decide))

/-! ### Fields of records -/

section Field

variable {k : Kind} {pre post : List (String × Node)} {f : String}

/-- Replacing the fields of one name leaves a list without that name as it is. -/
theorem map_replace_of_fresh {l : List (String × Node)} (fresh : f ∉ l.map Prod.fst) (X : Node) :
    l.map (fun (g, old) => if g == f then (g, X) else (g, old)) = l := by
  refine (List.map_congr_left fun ⟨g, old⟩ mem => ?_).trans (List.map_id l)
  have other : g ≠ f := fun eq => fresh (List.mem_map.mpr ⟨(g, old), mem, eq⟩)
  simp [other]

theorem find?_field (freshPre : f ∉ pre.map Prod.fst) (S : Node) :
    (pre ++ (f, S) :: post).find? (·.1 == f) = some (f, S) := by
  have none_ : pre.find? (·.1 == f) = none := by
    rw [List.find?_eq_none]
    intro x mem eq
    exact freshPre (List.mem_map.mpr ⟨x, mem, by simpa using eq⟩)
  simp [List.find?_append, none_]

theorem attr?_field (freshPre : f ∉ pre.map Prod.fst) (S : Node) :
    (Node.record k (pre ++ (f, S) :: post)).attr? f = .ok S := by
  simp [Node.attr?, find?_field freshPre]

/-- A walk reads the attributes of a record from the record alone. -/
@[simp] theorem getAttr?_record (W : WordAttrs) (fs : List (String × Node)) (name : String) :
    (Node.record k fs).getAttr? W name = (Node.record k fs).attr? name := rfl

theorem withField_field (freshPre : f ∉ pre.map Prod.fst) (freshPost : f ∉ post.map Prod.fst)
    (S X : Node) :
    (Node.record k (pre ++ (f, S) :: post)).withField f X = .record k (pre ++ (f, X) :: post) := by
  simp only [Node.withField]
  rw [List.map_append, List.map_cons, map_replace_of_fresh freshPre, map_replace_of_fresh freshPost]
  simp

theorem setAttr_field (freshPre : f ∉ pre.map Prod.fst) (freshPost : f ∉ post.map Prod.fst)
    (W : WordAttrs) (S X : Node) :
    (Node.record k (pre ++ (f, S) :: post)).setAttr W f X =
      .ok (.record k (pre ++ (f, X) :: post), W) := by
  simp [Node.setAttr, Node.word?, withField_field freshPre freshPost]

@[simp] theorem putAttr_record (W : WordAttrs) (fs : List (String × Node)) (name : String) (X : Node) :
    (Node.record k fs).putAttr W name X = ((Node.record k fs).withField name X, W) := rfl

variable (named : isIndexPart f = false) (freshPre : f ∉ pre.map Prod.fst)
  (freshPost : f ∉ post.map Prod.fst)
include named freshPre freshPost

/-- A walk through a field that holds a node goes on inside that node. -/
theorem assignPath_field (W : WordAttrs) {S : Node} (present : S ≠ .none) (v : Except Fault Node)
    {rest : List String} (more : rest ≠ []) :
    assignPath v W (.record k (pre ++ (f, S) :: post)) (f :: rest) =
      (assignPath v W S rest).within fun X => .record k (pre ++ (f, X) :: post) := by
  rw [assignPath.eq_4 _ _ _ _ _ more]
  simp only [named, Bool.false_eq_true, if_false, getAttr?_record, attr?_field freshPre]
  cases S <;> simp_all [Assigned.within, withField_field freshPre freshPost]

/-- A walk through a field that holds nothing, of a name that supplies a record, goes on inside
the default record. -/
theorem assignPath_field_supplied (W : WordAttrs) {k' : Kind} (supplied : suppliedKind? f = some k')
    (v : Except Fault Node) {rest : List String} (more : rest ≠ []) :
    assignPath v W (.record k (pre ++ (f, .none) :: post)) (f :: rest) =
      (assignPath v W k'.default rest).within fun X => .record k (pre ++ (f, X) :: post) := by
  rw [assignPath.eq_4 _ _ _ _ _ more]
  simp [named, attr?_field freshPre, supplied, Assigned.within, withField_field freshPre freshPost]

omit named in
/-- A walk that ends at a field sets it. -/
theorem assignPath_field_last (W : WordAttrs) (S v : Node) :
    assignPath (.ok v) W (.record k (pre ++ (f, S) :: post)) [f] =
      ⟨.record k (pre ++ (f, v) :: post), W, [], none⟩ := by
  simp [assignPath, assignLast, setAttr_field freshPre freshPost]

end Field

/-! ### Items of lists -/

section Item

variable {pre post : List Node}

/-- A walk through an item goes on inside it. -/
theorem assignPath_item (short : pre.length < 10 ^ maxIntDigits) (W : WordAttrs) (S : Node)
    (v : Except Fault Node) {rest : List String} (more : rest ≠ []) :
    assignPath v W (.list (pre ++ S :: post)) (Node.intText pre.length :: rest) =
      (assignPath v W S rest).within fun X => .list (pre ++ X :: post) := by
  rw [assignPath.eq_4 _ _ _ _ _ more]
  simp [isIndexPart_intText, readIntContent_index short, Node.item?, Node.withItem,
    Assigned.within]

theorem setItem_at (S v : Node) :
    Node.setItem (pre ++ S :: post) pre.length v = .ok (.list (pre ++ v :: post)) := by
  have inside : 0 ≤ (pre.length : Int) ∧ (pre.length : Int) < ((pre ++ S :: post).length : Int) := by
    simp only [List.length_append, List.length_cons]
    omega
  simp only [Node.setItem, Int.not_lt.mpr (Int.natCast_nonneg _), if_false, if_pos inside]
  simp [List.set_append_right]

/-- A walk that ends at an item sets it. -/
theorem assignPath_item_last (short : pre.length < 10 ^ maxIntDigits) (W : WordAttrs) (S v : Node) :
    assignPath (.ok v) W (.list (pre ++ S :: post)) [Node.intText pre.length] =
      ⟨.list (pre ++ v :: post), W, [], none⟩ := by
  simp [assignPath, assignLast, readIntContent_index short, setItem_at]

end Item

/-! ### Holes -/

/-- A context that plugs a node in at `path` below the group `group`: a walk through the context
below the path walks the node, and a walk that ends at the path sets the node. -/
structure Hole (group : String) (path : List String) (plug : Node → Node) : Prop where
  descend : ∀ W S, S ≠ .none → ∀ v rest, rest ≠ [] →
    assignPath v W (plug S) (lowerText group :: (path ++ rest)) = (assignPath v W S rest).within plug
  assign : path ≠ [] → ∀ W S v,
    assignPath (.ok v) W (plug S) (lowerText group :: path) = ⟨plug v, W, [], none⟩

section Holes

variable {g : String} {path : List String} {C : Node → Node} {k : Kind}
  {pre post : List (String × Node)} {f : String}

/-- The field of a record named by the group is a hole at the empty path. -/
theorem Hole.top (block : lowerText g = f) (named : isIndexPart f = false)
    (freshPre : f ∉ pre.map Prod.fst) (freshPost : f ∉ post.map Prod.fst) :
    Hole g [] fun S => .record k (pre ++ (f, S) :: post) where
  descend W S present v rest more := by
    rw [List.nil_append, block, assignPath_field named freshPre freshPost W present v more]
  assign nonempty := absurd rfl nonempty

/-- A field of a record in a hole is a hole one part further. -/
theorem Hole.field (hole : Hole g path C) (named : isIndexPart f = false)
    (freshPre : f ∉ pre.map Prod.fst) (freshPost : f ∉ post.map Prod.fst) :
    Hole g (path ++ [f]) fun S => C (.record k (pre ++ (f, S) :: post)) where
  descend W S present v rest more := by
    rw [List.append_assoc, List.singleton_append,
      hole.descend W _ (by simp) v (f :: rest) (List.cons_ne_nil f rest),
      assignPath_field named freshPre freshPost W present v more]
    rfl
  assign _ W S v := by
    rw [hole.descend W _ (by simp) (.ok v) [f] (List.cons_ne_nil f []),
      assignPath_field_last freshPre freshPost]
    rfl

/-- A walk into a hole through a field that holds nothing, of a name that supplies a record, goes
on inside the default record. -/
theorem Hole.supplied (hole : Hole g path C) (named : isIndexPart f = false)
    (freshPre : f ∉ pre.map Prod.fst) (freshPost : f ∉ post.map Prod.fst) {k' : Kind}
    (W : WordAttrs) (supplied : suppliedKind? f = some k') (v : Except Fault Node)
    {rest : List String} (more : rest ≠ []) :
    assignPath v W (C (.record k (pre ++ (f, .none) :: post))) (lowerText g :: (path ++ f :: rest)) =
      (assignPath v W k'.default rest).within fun X => C (.record k (pre ++ (f, X) :: post)) := by
  rw [hole.descend W _ (by simp) v (f :: rest) (List.cons_ne_nil f rest),
    assignPath_field_supplied named freshPre freshPost W supplied v more]
  rfl

/-- An item of a list in a hole is a hole one part further. -/
theorem Hole.item {items rest : List Node} (hole : Hole g path C)
    (short : items.length < 10 ^ maxIntDigits) :
    Hole g (path ++ [Node.intText items.length]) fun S => C (.list (items ++ S :: rest)) where
  descend W S _ v more nonempty := by
    rw [List.append_assoc, List.singleton_append,
      hole.descend W _ (by simp) v _ (List.cons_ne_nil _ more), assignPath_item short W S v nonempty]
    rfl
  assign _ W S v := by
    rw [hole.descend W _ (by simp) (.ok v) _ (List.cons_ne_nil _ []), assignPath_item_last short]
    rfl

end Holes

/-! ### Keys and content lines -/

theorem keyOf_cons {a : String} {parts : List String} (nonempty : parts ≠ []) :
    keyOf (a :: parts) = a ++ "." ++ keyOf parts := by
  obtain ⟨b, rest, rfl⟩ := List.exists_cons_of_ne_nil nonempty
  simp [keyOf, String.intercalate_cons_cons, String.append_assoc]

/-- A character of a key is a point or a character of one of its parts. -/
theorem mem_keyOf {c : Char} {parts : List String} (mem : c ∈ (keyOf parts).toList) :
    c = '.' ∨ ∃ a ∈ parts, c ∈ a.toList := by
  rcases mem_toList_intercalate mem with point | inPart
  · exact .inl (by simpa using point)
  · exact .inr inPart

theorem splitOn_keyOf {parts : List String} (nonempty : parts ≠ [])
    (pointless : ∀ a ∈ parts, '.' ∉ a.toList) : splitOn (keyOf parts) "." = parts :=
  splitOn_intercalate (show ".".toList = ['.'] from rfl) nonempty pointless

/-- The key of a content line, under its group, spells the group and the key's parts. -/
theorem applyLine_entry {g : String} {parts : List String} (atoms : ∀ a ∈ parts, Atom a)
    (nonempty : parts ≠ []) (group : '.' ∉ (lowerText g).toList) (W : WordAttrs) (X : Node)
    {V : String} (value : V.startsWith "Array" = false) :
    applyLine W X ⟨g, keyOf parts ++ " = " ++ V⟩ =
      assignPath (readTagged V) W X (lowerText g :: parts) := by
  have spaceless : ' ' ∉ (keyOf parts).toList := by
    intro mem
    rcases mem_keyOf mem with point | ⟨a, inParts, inA⟩
    · exact absurd point (by decide)
    · exact absurd ((atoms a inParts).2 ' ' inA).2 (by decide)
  have path : lowerText g ++ "." ++ keyOf parts = keyOf (lowerText g :: parts) :=
    (keyOf_cons nonempty).symm
  have pointless : ∀ a ∈ lowerText g :: parts, '.' ∉ a.toList := by
    intro a mem
    rcases List.mem_cons.mp mem with rfl | inParts
    · exact group
    · exact fun inA => ((atoms a inParts).2 '.' inA).1 rfl
  rw [applyLine.eq_1]
  simp only [splitOnAtMost_assignment _ _ spaceless, value, Bool.false_eq_true, if_false]
  rw [path, splitOn_keyOf (List.cons_ne_nil _ _) pointless]

/-- A line whose value is a list's header changes nothing. -/
theorem applyLine_header {g : String} {parts : List String} (atoms : ∀ a ∈ parts, Atom a)
    (W : WordAttrs) (X : Node) (n : Nat) :
    applyLine W X ⟨g, keyOf parts ++ " = " ++ ("Array(" ++ Node.intText n ++ ")")⟩ =
      ⟨X, W, [], none⟩ := by
  have spaceless : ' ' ∉ (keyOf parts).toList := by
    intro mem
    rcases mem_keyOf mem with point | ⟨a, inParts, inA⟩
    · exact absurd point (by decide)
    · exact absurd ((atoms a inParts).2 ' ' inA).2 (by decide)
  have header : ("Array(" ++ Node.intText n ++ ")").startsWith "Array" = true := by
    rw [String.startsWith_string_iff]
    exact ⟨("(" ++ Node.intText n ++ ")").toList, by simp [String.append_assoc]⟩
  rw [applyLine.eq_1]
  simp [splitOnAtMost_assignment _ _ spaceless, header]

theorem applyLines_cons_ok {W W' : WordAttrs} {X Y : Node} {l : Line} (ls : List Line)
    (step : applyLine W X l = ⟨Y, W', [], none⟩) :
    applyLines W X (l :: ls) = applyLines W' Y ls := by
  simp [applyLines, step]

theorem applyLines_append_ok {W W' : WordAttrs} {X Y : Node} {ls : List Line} (ms : List Line)
    (first : applyLines W X ls = ⟨Y, W', [], none⟩) :
    applyLines W X (ls ++ ms) = applyLines W' Y ms := by
  induction ls generalizing W X with
  | nil =>
    simp only [applyLines, Assigned.mk.injEq] at first
    rw [List.nil_append, first.1, first.2.1]
  | cons l ls ih =>
    rw [applyLines.eq_2] at first
    rcases step : applyLine W X l with ⟨node, words, notes, fault⟩
    rw [step] at first
    cases fault with
    | some f =>
      dsimp only at first
      exact absurd (Assigned.mk.inj first).2.2.2 (by simp)
    | none =>
      dsimp only at first
      simp only [Assigned.mk.injEq, List.append_eq_nil_iff] at first
      obtain ⟨reached, table, ⟨rfl, restNotes⟩, restFault⟩ := first
      rw [List.cons_append, applyLines_cons_ok _ step, ih]
      rw [← reached, ← table, ← restNotes, ← restFault]

end GinSave.Save
