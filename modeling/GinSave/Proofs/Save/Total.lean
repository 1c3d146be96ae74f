import GinSave.Proofs.Save.Codec
import GinSave.Proofs.Save.RoundTrip
import GinSave.Proofs.Save.Tags

/-! When the writer refuses a checked save. The writer reads every list under the key `pairs` as
the entries' pairs: past its first item it keeps the items whose `key` is not empty, and an item
that has no `key` stops the writer. A checked save has two lists under that key, the entries'
pairs, whose items are pairs with a key, and the visibility pairs, which hold any values of the
document and none of which has a key. Everything else a checked save holds is written: its
integers are short, its lists of flags hold marks, and its other lists stand under keys the
writer treats as plain lists. So a checked save is written exactly when the visibility pairs hold
nothing but blanks past their first item (`saveText_ok_iff`). -/

namespace GinSave.Save

open GinSave.Json GinSave.Number GinSave.Text

/-! ### Keys of plain lists -/

/-- A key under which the writer writes a list item by item, keeping every item that is not
blank: no key of flags or of a datapad's status, and not the pairs of a block. -/
structure PlainKey (key : String) : Prop where
  unflagged : (key.endsWith "flags" || key.endsWith "datapad.status") = false
  unpaired : key ≠ "pairs"

/-- A key that ends with a digit is plain: the words it is compared with all end with `s`. -/
theorem PlainKey.of_digit {key : String} {c : Char} (last : key.toList.getLast? = some c)
    (digit : c.isDigit = true) : PlainKey key := by
  have notS : c ≠ 's' := by
    rintro rfl
    revert digit
    decide
  have ends : ∀ u : String, u.toList.getLast? = some 's' → key.endsWith u = false := by
    intro u lastS
    rw [Bool.eq_false_iff]
    intro suffix
    obtain ⟨t, split⟩ := endsWith_iff_suffix.mp suffix
    have nonempty : u.toList ≠ [] := by
      rintro empty
      simp [empty] at lastS
    rw [← split, List.getLast?_append_of_ne_nil t nonempty, lastS, Option.some.injEq] at last
    exact notS last.symm
  refine ⟨by simp [ends "flags" rfl, ends "datapad.status" rfl], ?_⟩
  rintro rfl
  have lastS : "pairs".toList.getLast? = some 's' := rfl
  rw [lastS, Option.some.injEq] at last
  exact notS last.symm

/-- The key of an item of a list is plain: it ends with the last digit of the item's index. -/
theorem PlainKey.item (pfx : String) (i : Nat) : PlainKey (pfx ++ "." ++ Node.intText i) := by
  obtain ⟨c, found⟩ : ∃ c, (Nat.toDigits 10 i).getLast? = some c :=
    Option.isSome_iff_exists.mp (List.getLast?_isSome.mpr Nat.toDigits_ne_nil)
  refine PlainKey.of_digit (c := c) ?_
    (Nat.isDigit_of_mem_toDigits (by decide) (by decide) (List.mem_of_getLast? found))
  have nonneg : ¬ ((i : Int) < 0) := by omega
  simp [Node.intText, nonneg, List.getLast?_cons, found]

/-! ### Values of a document -/

/-- A map that gives each element a result gives them all. -/
theorem mapM_ok_of_each {ε α β : Type} {f : α → Except ε β} :
    ∀ {l : List α}, (∀ a ∈ l, ∃ b, f a = .ok b) → ∃ bs, l.mapM f = .ok bs
  | [], _ => ⟨[], rfl⟩
  | a :: l, each => by
    obtain ⟨b, first⟩ := each a List.mem_cons_self
    obtain ⟨bs, rest⟩ := mapM_ok_of_each fun x mem => each x (List.mem_cons_of_mem a mem)
    exact ⟨b :: bs, by simp [first, rest]⟩

/-- Only an integer too long to write is refused a tagged value. -/
theorem writeTagged_ok {v : Node} (key : Option String)
    (short : ∀ n, v = .int n → decimalLength n.natAbs ≤ maxWrittenDigits) :
    ∃ V, writeTagged v key = .ok V := by
  cases v with
  | int n => exact ⟨_, writeTagged_int key (short n rfl)⟩
  | record k fs =>
    simp only [writeTagged]
    split <;> exact ⟨_, rfl⟩
  | _ => exact ⟨_, rfl⟩

/-- A node that is no record of fields and no list, and holds no integer too long, is written as
its one line. -/
theorem writeNode_single_ok {key : String} {v : Node} (plain : v.isBranch = false)
    (single : ∀ items, v ≠ .list items)
    (short : ∀ n, v = .int n → decimalLength n.natAbs ≤ maxWrittenDigits) :
    ∃ lines, writeNode key v = .ok lines := by
  obtain ⟨V, tagged⟩ := writeTagged_ok (some key) short
  rw [writeNode_single plain single, tagged]
  exact ⟨_, rfl⟩

/-- A list is written, item by item, once its kept items are known, when its key is no key of
flags and each item that holds something is written under its item key. -/
theorem writeNode_kept {key : String}
    (unflagged : (key.endsWith "flags" || key.endsWith "datapad.status") = false)
    {items : List Node} {kept : List { x // x ∈ items }} (keeps : keptItems key items = .ok kept)
    (each : ∀ x ∈ items, x.isNothing = false → ∀ i : Nat,
      ∃ lines, writeNode (key ++ "." ++ Node.intText i) x = .ok lines) :
    ∃ lines, writeNode key (.list items) = .ok lines := by
  rw [writeNode_items key unflagged keeps]
  obtain ⟨parts, mapped⟩ : ∃ parts, kept.unattach.zipIdx.mapM (itemLines key) = .ok parts :=
    mapM_ok_of_each fun entry mem => by
      obtain ⟨x, i⟩ := entry
      have inItems : x ∈ items := by
        obtain ⟨⟨y, inY⟩, -, same⟩ := List.mem_map.mp (List.fst_mem_of_mem_zipIdx mem)
        simp only at same
        exact same ▸ inY
      unfold itemLines
      split
      · exact ⟨[], rfl⟩
      · rename_i held
        exact each x inItems (by simpa using held) i
  rw [mapped]
  exact ⟨_, rfl⟩

/-- Under a plain key a list keeps its items that are not blank. -/
theorem keptItems_of_plain {key : String} (plain : PlainKey key) (items : List Node) :
    keptItems key items = .ok (items.attach.filter fun x => !isBlankItem x.val) := by
  have unpaired : (key == "pairs") = false := by simpa using plain.unpaired
  simp only [keptItems, unpaired, Bool.false_and, Bool.false_eq_true, if_false]

/-- A list under a plain key is written when each item that holds something is written under its
item key. -/
theorem writeNode_plainList {key : String} (plain : PlainKey key) {items : List Node}
    (each : ∀ x ∈ items, x.isNothing = false → ∀ i : Nat,
      ∃ lines, writeNode (key ++ "." ++ Node.intText i) x = .ok lines) :
    ∃ lines, writeNode key (.list items) = .ok lines :=
  writeNode_kept plain.unflagged (keptItems_of_plain plain items) each

/-- A value of a document whose integers are short is written under any plain key. By induction
on the value: a list is written item by item under keys that end with a digit. -/
theorem writeNode_ofValue {v : Value} (short : v.Short) :
    ∀ {key : String}, PlainKey key → ∃ lines, writeNode key (Node.ofValue v) = .ok lines := by
  induction short with
  | int bound =>
    intro key _
    exact writeNode_single_ok rfl (by simp [Node.ofValue]) fun n same => by
      cases same
      exact bound
  | arr _ ih =>
    intro key plain
    rw [Node.ofValue]
    exact writeNode_plainList plain fun x mem _ i => by
      obtain ⟨u, inItems, rfl⟩ := mem_ofItems mem
      exact ih u inItems (PlainKey.item key i)
  | _ =>
    intro key _
    exact writeNode_single_ok rfl (by simp [Node.ofValue]) (by simp [Node.ofValue])

/-! ### Lists filtered with a test that may fail -/

theorem filterAuxM_ok_of_each {α ε : Type} {p : α → Except ε Bool} :
    ∀ {l : List α} (acc : List α), (∀ x ∈ l, ∃ b, p x = .ok b) →
      ∃ r, List.filterAuxM p l acc = .ok r
  | [], acc, _ => ⟨acc, rfl⟩
  | x :: rest, acc, each => by
    obtain ⟨b, decided⟩ := each x List.mem_cons_self
    rw [List.filterAuxM, decided]
    simp only [except_ok_bind]
    exact filterAuxM_ok_of_each _ fun y mem => each y (List.mem_cons_of_mem x mem)

/-- A filter whose test gives every element an answer gives a list. -/
theorem filterM_ok_of_each {α ε : Type} {p : α → Except ε Bool} {l : List α}
    (each : ∀ x ∈ l, ∃ b, p x = .ok b) : ∃ r, l.filterM p = .ok r := by
  obtain ⟨r, filtered⟩ := filterAuxM_ok_of_each [] each
  exact ⟨r.reverse, by simp [List.filterM, filtered]⟩

theorem filterAuxM_error {α ε : Type} {p : α → Except ε Bool} :
    ∀ {l : List α} (acc : List α), (∃ x ∈ l, ∃ e, p x = .error e) →
      ∀ r, List.filterAuxM p l acc ≠ .ok r
  | [], _, ⟨_, mem, _⟩, _ => absurd mem List.not_mem_nil
  | x :: rest, acc, ⟨y, mem, e, refused⟩, r => by
    rw [List.filterAuxM]
    cases decided : p x with
    | error f =>
      simp [bind, Except.bind]
    | ok b =>
      simp only [except_ok_bind]
      -- the element refused is further on
      have later : y ∈ rest := by
        rcases List.mem_cons.mp mem with rfl | later
        · rw [refused] at decided
          cases decided
        · exact later
      exact filterAuxM_error _ ⟨y, later, e, refused⟩ r

/-- A filter whose test refuses an element gives no list. -/
theorem filterM_error {α ε : Type} {p : α → Except ε Bool} {l : List α}
    (refused : ∃ x ∈ l, ∃ e, p x = .error e) : ∀ r, l.filterM p ≠ .ok r := by
  intro r filtered
  simp only [List.filterM] at filtered
  cases aux : List.filterAuxM p l [] with
  | error e => simp [aux, bind, Except.bind] at filtered
  | ok r' => exact filterAuxM_error [] refused r' aux

/-! ### What a shape asks of its key -/

/-- Whether a name is apart from a word: neither ends with the other. -/
def apartFrom (name u : String) : Bool :=
  !(u.toList.isSuffixOf name.toList) && !(name.toList.isSuffixOf u.toList)

/-- A key that ends with a name apart from a word does not end with the word. -/
theorem joinKey_endsWith_apart {pfx name u : String} (apart : apartFrom name u = true) :
    (joinKey pfx name).endsWith u = false := by
  have ends : name.toList <:+ (joinKey pfx name).toList := by
    unfold joinKey
    split
    · exact List.suffix_rfl
    · exact ⟨(pfx ++ ".").toList, by simp⟩
  simp only [apartFrom, Bool.and_eq_true, Bool.not_eq_true', Bool.eq_false_iff, ne_eq,
    List.isSuffixOf_iff_suffix] at apart
  rw [Bool.eq_false_iff]
  intro uEnds
  rcases List.suffix_or_suffix_of_suffix (endsWith_iff_suffix.mp uEnds) ends with within | around
  · exact apart.1 within
  · exact apart.2 around

theorem joinKey_ne_pairs {pfx name : String} (apart : apartFrom name "pairs" = true) :
    joinKey pfx name ≠ "pairs" := by
  intro same
  have ends : (joinKey pfx name).endsWith "pairs" = false := joinKey_endsWith_apart apart
  rw [same, endsWith_iff_suffix.mpr List.suffix_rfl] at ends
  cases ends

/-- What a node of a shape asks of the key it is written under. A list of marks must not stand
under the pairs, whose items past the first need a key; a list of words, texts or any values
needs a plain key; a list of records a key of no flags, and the pairs only if its records are
pairs; a record must be neither the whole save nor its visibility, whose pairs hold any values.
A single value asks nothing. -/
def Shape.AllowsKey (key : String) : Shape → Prop
  | .marks => key ≠ "pairs"
  | .words | .texts | .anyList => PlainKey key
  | .records k => (key.endsWith "flags" || key.endsWith "datapad.status") = false ∧
      (key = "pairs" → k = .pair) ∧ k ≠ .visibility ∧ k ≠ .root
  | .record k | .optional k => k ≠ .visibility ∧ k ≠ .root
  | _ => True

/-- Whether a field of a shape may bear a name, under whatever key its record stands: the
computable side of `Shape.AllowsKey`. -/
def Shape.fitsName (name : String) : Shape → Bool
  | .marks => apartFrom name "pairs"
  | .words | .texts | .anyList =>
    apartFrom name "flags" && apartFrom name "datapad.status" && apartFrom name "pairs"
  | .records k => apartFrom name "flags" && apartFrom name "datapad.status" &&
      (apartFrom name "pairs" || k == .pair) && k != .visibility && k != .root
  | .record k | .optional k => k != .visibility && k != .root
  | _ => true

theorem Shape.allowsKey_of_fitsName {sh : Shape} {name : String} (fits : sh.fitsName name = true)
    (pfx : String) : sh.AllowsKey (joinKey pfx name) := by
  have unflagged (flags : apartFrom name "flags" = true)
      (status : apartFrom name "datapad.status" = true) :
      ((joinKey pfx name).endsWith "flags" || (joinKey pfx name).endsWith "datapad.status") =
        false := by
    simp [joinKey_endsWith_apart flags, joinKey_endsWith_apart status]
  cases sh with
  | marks => exact joinKey_ne_pairs fits
  | words | texts | anyList =>
    simp only [Shape.fitsName, Bool.and_eq_true] at fits
    exact ⟨unflagged fits.1.1 fits.1.2, joinKey_ne_pairs fits.2⟩
  | records k =>
    simp only [Shape.fitsName, Bool.and_eq_true, Bool.or_eq_true, beq_iff_eq, bne_iff_ne,
      ne_eq] at fits
    obtain ⟨⟨⟨⟨flags, status⟩, paired⟩, notVis⟩, notRoot⟩ := fits
    refine ⟨unflagged flags status, fun same => ?_, notVis, notRoot⟩
    rcases paired with apart | pair
    · exact absurd same (joinKey_ne_pairs apart)
    · exact pair
  | record k | optional k =>
    simp only [Shape.fitsName, Bool.and_eq_true, bne_iff_ne, ne_eq] at fits
    exact fits
  | _ => trivial

/-- Every field of every record below the save's blocks bears a name its shape allows. -/
theorem Kind.fields_fitName (k : Kind) (notVis : k ≠ .visibility) (notRoot : k ≠ .root) :
    ∀ f ∈ k.fields, f.shape.fitsName f.name = true := by
  cases k
  case root => exact absurd rfl notRoot
  case visibility => exact absurd rfl notVis
  all_goals with_unfolding_all decide

/-! ### Conforming nodes -/

/-- An item with a key is kept or dropped, never refused, past the first of the pairs. -/
theorem keepsPair_of_attr {x v : Node} (unblank : isBlankItem x = false)
    (found : x.attr? "key" = .ok v) : ∃ b, keepsPair x = .ok b := by
  unfold keepsPair
  rw [if_neg (by simp [unblank]), found]
  cases v <;> exact ⟨_, rfl⟩

/-- A pair has a key, so the entries' pairs decide on each of their items. -/
theorem keepsPair_of_pair {x : Node} (conf : Conforms (.record .pair) x) :
    ∃ b, keepsPair x = .ok b := by
  cases conf with
  | int numeric => simp at numeric
  | record nodes sized =>
    obtain ⟨key, value, rfl⟩ := List.length_eq_two.mp sized
    have found : (Node.record .pair (Kind.pair.fieldNames.zip [key, value])).attr? "key" =
        .ok key := by
      simp [Node.attr?, Kind.fieldNames, Kind.fields]
    exact keepsPair_of_attr (by simp [isBlankItem]) found

/-- A node of a shape is written under every key the shape allows. By induction on the
conformance: a record gives its fields keys the schema allows, and a list gives its items keys
that end with a digit. -/
theorem writeNode_conforms {sh : Shape} {n : Node} (conf : Conforms sh n) :
    ∀ {key : String}, sh.AllowsKey key → ∃ lines, writeNode key n = .ok lines := by
  induction conf with
  | int _ short _ =>
    intro key _
    exact writeNode_single_ok rfl (by simp) fun m same => by
      cases same
      exact short
  | real | truth | text | stage | absent =>
    intro key _
    exact writeNode_single_ok rfl (by simp) (by simp)
  | marks each =>
    rename_i items
    intro key (unpaired : key ≠ "pairs")
    by_cases flagged : (key.endsWith "flags" || key.endsWith "datapad.status") = true
    · -- written as one value of flags, a word for each mark
      have plainKept : keptItems key items = .ok (items.attach.filter fun x => !isBlankItem x.val) := by
        have unpairedKey : (key == "pairs") = false := by simpa using unpaired
        simp only [keptItems, unpairedKey, Bool.false_and, Bool.false_eq_true, if_false]
      obtain ⟨words, mapped⟩ : ∃ words, ((items.attach.filter fun x => !isBlankItem x.val).mapM
          fun x => flagWord x.val) = .ok words :=
        mapM_ok_of_each fun item _ => by
          obtain ⟨x, inItems⟩ := item
          obtain ⟨m, rfl⟩ := each x inItems
          exact ⟨"\"" ++ capitalizeWord m.value ++ "\"", by simp [flagWord, Node.attr?]⟩
      rw [writeNode.eq_2]
      simp only [plainKept, except_ok_bind, flagged, if_true, mapped]
      exact ⟨_, rfl⟩
    · exact writeNode_plainList ⟨by simpa using flagged, unpaired⟩ fun x mem _ _ => by
        obtain ⟨m, rfl⟩ := each x mem
        exact writeNode_single_ok rfl (by simp) (by simp)
  | statuses =>
    intro key _
    have nothingKept : keptItems key [] = .ok [] := by simp [keptItems]
    rw [writeNode.eq_2, nothingKept]
    simp only [except_ok_bind]
    split <;> exact ⟨_, rfl⟩
  | words _ ih | texts _ ih =>
    intro key (plain : PlainKey key)
    exact writeNode_plainList plain fun x mem _ _ => ih x mem trivial
  | anyList values short =>
    intro key (plain : PlainKey key)
    exact writeNode_plainList plain fun x mem _ i => by
      obtain ⟨u, inValues, rfl⟩ := mem_ofItems mem
      exact writeNode_ofValue (short u inValues) (PlainKey.item key i)
  | record nodes sized each ih =>
    rename_i k
    intro key allows
    cases vector : k.isVector with
    | true => exact writeNode_single_ok (by simp [Node.isBranch, vector]) (by simp) (by simp)
    | false =>
      rw [writeNode_record key vector]
      have fits := Kind.fields_fitName k allows.1 allows.2
      -- each field is written under its joined key, which its shape allows
      obtain ⟨parts, mapped⟩ : ∃ parts, (k.fieldNames.zip nodes).mapM (fieldLines key) = .ok parts :=
        mapM_ok_of_each fun field mem => by
          obtain ⟨name, v⟩ := field
          rw [Kind.fieldNames, List.zip_map_left] at mem
          obtain ⟨⟨f, u⟩, inZip, named⟩ := List.mem_map.mp mem
          simp only [Prod.map, id_eq, Prod.mk.injEq] at named
          obtain ⟨rfl, rfl⟩ := named
          unfold fieldLines
          split
          · exact ⟨[], rfl⟩
          · exact ih _ inZip (Shape.allowsKey_of_fitsName (fits f (List.of_mem_zip inZip).1) key)
      rw [mapped]
      exact ⟨_, rfl⟩
  | records each ih =>
    rename_i k items
    intro key allows
    obtain ⟨unflagged, paired, notVis, notRoot⟩ := allows
    have itemsWritten : ∀ x ∈ items, x.isNothing = false → ∀ i : Nat,
        ∃ lines, writeNode (key ++ "." ++ Node.intText i) x = .ok lines :=
      fun x mem _ _ => ih x mem ⟨notVis, notRoot⟩
    by_cases pairs : key = "pairs"
    · -- the entries' pairs: each item is a pair, which has a key
      obtain rfl := paired pairs
      subst pairs
      obtain ⟨kept, keeps⟩ : ∃ kept, keptItems "pairs" items = .ok kept := by
        unfold keptItems
        split
        · obtain ⟨r, filtered⟩ := filterM_ok_of_each (l := items.attach.zipIdx)
            (p := fun q => if q.2 == 0 then .ok true else keepsPair q.1.val) fun q _ => by
              split
              · exact ⟨true, rfl⟩
              · exact keepsPair_of_pair (each q.1.val q.1.property)
          exact ⟨_, by simp only [filtered]; rfl⟩
        · exact ⟨_, rfl⟩
      exact writeNode_kept unflagged keeps itemsWritten
    · exact writeNode_plainList ⟨unflagged, pairs⟩ itemsWritten
  | present _ ih =>
    intro key allows
    exact ih allows

/-! ### The visibility pairs -/

/-- A value of a document has no key: past the first of the pairs it is dropped when blank and
refused otherwise. -/
theorem keepsPair_ofValue (v : Value) :
    keepsPair (Node.ofValue v) = if isBlankItem (Node.ofValue v) then .ok false
      else .error (.noAttribute (Node.ofValue v).typeName "key") := by
  unfold keepsPair
  split
  · rfl
  · cases v <;> rfl

theorem val_mem_tail_of_zipIdx {α : Type} {l : List α} {x : { y // y ∈ l }} {i : Nat}
    (mem : (x, i) ∈ l.attach.zipIdx) (later : i ≠ 0) : x.val ∈ l.tail := by
  obtain ⟨j, rfl⟩ := Nat.exists_eq_succ_of_ne_zero later
  rw [List.mk_mem_zipIdx_iff_getElem?, List.getElem?_attach] at mem
  refine List.mem_iff_getElem?.mpr ⟨j, ?_⟩
  rw [List.getElem?_tail]
  cases found : l[j + 1]? with
  | none => simp [found] at mem
  | some y =>
    simp only [found, Option.pmap_some, Option.some.injEq] at mem
    rw [← mem]

theorem zipIdx_of_mem_tail {α : Type} {l : List α} {y : α} (mem : y ∈ l.tail) :
    ∃ x : { y // y ∈ l }, ∃ i, (x, i) ∈ l.attach.zipIdx ∧ i ≠ 0 ∧ x.val = y := by
  obtain ⟨j, found⟩ := List.mem_iff_getElem?.mp mem
  rw [List.getElem?_tail] at found
  refine ⟨⟨y, List.mem_of_getElem? found⟩, j + 1, ?_, by omega, rfl⟩
  rw [List.mk_mem_zipIdx_iff_getElem?, List.getElem?_attach]
  simp [found]

/-- The visibility pairs are kept exactly when every item past the first is blank. -/
theorem keptItems_visibility_iff (values : List Value) :
    (∃ kept, keptItems "pairs" (Node.ofItems values) = .ok kept) ↔
      ∀ x ∈ (Node.ofItems values).tail, isBlankItem x = true := by
  unfold keptItems
  split
  · constructor
    · rintro ⟨kept, filtered⟩ x mem
      by_contra unblank
      obtain ⟨q, i, inZip, later, rfl⟩ := zipIdx_of_mem_tail mem
      obtain ⟨u, -, same⟩ := mem_ofItems q.property
      -- that item has no key, and the filter stops at it
      have refused := filterM_error (l := (Node.ofItems values).attach.zipIdx)
        (p := fun q => if q.2 == 0 then .ok true else keepsPair q.1.val)
        ⟨(q, i), inZip, .noAttribute (Node.ofValue u).typeName "key", by
          simp only [beq_iff_eq, later, if_false, same, keepsPair_ofValue]
          rw [← same, if_neg unblank]⟩
      obtain ⟨r, ran, -⟩ := except_map_eq_ok filtered
      exact refused r ran
    · intro blank
      obtain ⟨r, filtered⟩ := filterM_ok_of_each (l := (Node.ofItems values).attach.zipIdx)
        (p := fun q => if q.2 == 0 then .ok true else keepsPair q.1.val) fun entry mem => by
          obtain ⟨q, i⟩ := entry
          by_cases first : i = 0
          · exact ⟨true, by simp [first]⟩
          · obtain ⟨u, -, same⟩ := mem_ofItems q.property
            have dropped := blank q.val (val_mem_tail_of_zipIdx mem first)
            refine ⟨false, ?_⟩
            simp only [beq_iff_eq, first, if_false, same, keepsPair_ofValue]
            rw [← same, if_pos dropped]
      exact ⟨_, by simp only [filtered]; rfl⟩
  · -- at most one item: nothing stands past the first
    rename_i few
    have short : (Node.ofItems values).tail = [] := by
      apply List.eq_nil_of_length_eq_zero
      simp only [beq_self_eq_true, Bool.true_and, decide_eq_true_eq, Nat.not_lt] at few
      simp only [List.length_tail]
      omega
    simp [short]

/-- The visibility block of a checked save is written exactly when its pairs hold nothing but
blanks past their first item. -/
theorem writeNode_visibility_iff {c : Node} (conf : Conforms (.record .visibility) c) :
    (∃ lines, writeNode "" c = .ok lines) ↔
      ∃ pairs, c.listAt? ["pairs"] = some pairs ∧ ∀ x ∈ pairs.tail, isBlankItem x = true := by
  cases conf with
  | int numeric => simp at numeric
  | record nodes sized each =>
    obtain ⟨p, rfl⟩ := List.length_eq_one_iff.mp sized
    have held := each (⟨"pairs", .anyList, .empty⟩, p) (by simp [Kind.fields])
    cases held with
    | int numeric => simp at numeric
    | anyList values short =>
      have fields : Kind.visibility.fieldNames.zip [Node.list (Node.ofItems values)] =
          [("pairs", Node.list (Node.ofItems values))] := rfl
      have listed : (Node.record .visibility [("pairs", .list (Node.ofItems values))]).listAt?
          ["pairs"] = some (Node.ofItems values) := by
        simp [Node.listAt?, Node.at?, Node.attr?]
      have unflagged : ("pairs".endsWith "flags" || "pairs".endsWith "datapad.status") = false := by
        simpa [keyOf] using keyOf_pairs_unflagged
      -- the block writes its one field, the pairs, under their own name
      have field : fieldLines "" ("pairs", Node.list (Node.ofItems values)) =
          writeNode "pairs" (.list (Node.ofItems values)) := rfl
      rw [fields, listed, writeNode_record "" rfl, List.mapM_cons, field]
      simp only [Option.some.injEq, exists_eq_left']
      rw [← keptItems_visibility_iff]
      constructor
      · -- a list whose kept items are refused is refused
        rintro ⟨lines, written⟩
        cases keeps : keptItems "pairs" (Node.ofItems values) with
        | ok kept => exact ⟨kept, rfl⟩
        | error f =>
          rw [writeNode.eq_2, keeps] at written
          simp [bind, Except.bind, Except.map] at written
      · rintro ⟨kept, keeps⟩
        obtain ⟨lines, written⟩ := writeNode_kept unflagged keeps fun x mem _ i => by
          obtain ⟨u, inValues, rfl⟩ := mem_ofItems mem
          exact writeNode_ofValue (short u inValues) (PlainKey.item "pairs" i)
        exact ⟨_, by simp only [written, List.mapM_nil]; rfl⟩

/-- A save that passes the document check is written exactly when the items of its visibility
pairs past the first are all blank, nothing or the empty text. The writer reads every list under
the key `pairs` as the entries' pairs and asks each later item that is not blank for its key; the
visibility pairs hold values of the document, which have none. Every other part of a checked save
is written (`writeNode_conforms`). -/
theorem saveText_ok_iff {doc : String} {m : Node} (checked : checkSaveDocument doc = .ok m) :
    (∃ text, m.saveText = .ok text) ↔
      ∃ pairs, m.listAt? ["saved_visibility2", "pairs"] = some pairs ∧
        ∀ x ∈ pairs.tail, isBlankItem x = true := by
  obtain ⟨a, b, c, e, rfl, confA, confB, confC, confE⟩ := (checkSaveDocument_conforms checked).root
  obtain ⟨la, writeA⟩ : ∃ lines, writeNode "" a = .ok lines :=
    writeNode_conforms confA ⟨by decide, by decide⟩
  obtain ⟨lb, writeB⟩ : ∃ lines, writeNode "" b = .ok lines :=
    writeNode_conforms confB ⟨by decide, by decide⟩
  obtain ⟨le, writeE⟩ : ∃ lines, writeNode "" e = .ok lines :=
    writeNode_conforms confE ⟨by decide, by decide⟩
  rw [listAt?_field (c := c) (by simp) (by simp) ["pairs"], ← writeNode_visibility_iff confC]
  constructor
  · rintro ⟨text, written⟩
    -- a refused block refuses the whole text
    cases writeC : writeNode "" c with
    | ok lc => exact ⟨lc, rfl⟩
    | error f =>
      simp [Node.saveText, saveBlocks, Node.attr?, writeA, writeB, writeC] at written
  · rintro ⟨lc, writeC⟩
    exact ⟨_, saveText_blocks writeA writeB writeC writeE⟩

theorem saveText_ok_iff_empty :
    checkSaveDocument "\x7b\x7d" = .ok (Kind.root.defaultWithin 9) ∧
      ((∃ text, (Kind.root.defaultWithin 9).saveText = .ok text) ↔
        ∃ pairs, (Kind.root.defaultWithin 9).listAt? ["saved_visibility2", "pairs"] = some pairs ∧
          ∀ x ∈ pairs.tail, isBlankItem x = true) :=
  ⟨checkSaveDocument_empty, saveText_ok_iff checkSaveDocument_empty⟩

end GinSave.Save
