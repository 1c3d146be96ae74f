import GinSave.Proofs.Save.Walk

/-! Assignments at different places of a save commute. An assignment walks its path from the
root: each part but the last enters a node at a slot, an item of a list or a field of a record
(filled on the way with a default record when the field is one of the optional ones), or an
attribute of a word, and the last part names the slot that takes the value; `assignPath_enter`
and `assignLast_lastSlot` read the walk in these terms. Setting a slot leaves every other slot
as it was, so two walks that part at parts naming different slots change different places.
Different parts spelled plainly name different slots; an index spelled with a leading zero or a
sign names an item that its plain spelling names too.

A word is one object wherever it stands, so two walks that part in the save may still meet at
one word and read or set the same attribute of it. A walk that comes to no word reads and sets
no attribute of a word (`assignPath_wordsFree`); two walks that part commute when one of them
comes to no word: either order leaves the same save and the same table of words' attributes, or
both fault (`assignPath_comm`). -/

namespace GinSave.Save

open GinSave.Text GinSave.Number

/-- A place in a node that an assignment changes: an item of a list, or a field of a record or an
attribute of a word. -/
inductive Slot where
  | item (i : Nat)
  | field (name : String)

namespace Node

/-- The node with what stands at a slot replaced. A node without slots of that kind stays as it
is; so does a word, whose attributes are kept apart from it. -/
def setSlot (n : Node) : Slot → Node → Node
  | .item i, X => n.withItem i X
  | .field f, X => n.withField f X

/-- Puts back at a slot the node a walk went into, as the walk left it: into the node, or into the
table of words' attributes when the node is a word. -/
def putSlot (words : WordAttrs) (n : Node) : Slot → Node → Node × WordAttrs
  | .item i, X => (n.withItem i X, words)
  | .field f, X => n.putAttr words f X

/-- Where one part of a path leads from a node the walk passes through: the node reached, the
notes printed on the way, and the slot that node stands in. -/
def enter (words : WordAttrs) (n : Node) (p : String) : Except Fault (Node × List String × Slot) :=
  if isIndexPart p then
    match readIntContent p with
    | .error f => .error f
    | .ok i =>
      match n.item? i.toNat with
      | .error f => .error f
      | .ok c => .ok (c, [], .item i.toNat)
  else
    match n.getAttr? words p with
    | .error f => .error f
    | .ok .none =>
      match suppliedKind? p with
      | some k => .ok (k.default, [], .field p)
      | Option.none => .ok (.none, ["NONE FOUND! " ++ p], .field p)
    | .ok c => .ok (c, [], .field p)

/-- The slot that the last part of a path names in a node, where the value goes, or why it names
none. -/
def lastSlot (n : Node) (last : String) : Except Fault Slot :=
  match n with
  | .list items =>
    match readIntContent last with
    | .error f => .error f
    | .ok i =>
      let j := if i < 0 then i + items.length else i
      if 0 ≤ j ∧ j < items.length then .ok (.item j.toNat) else .error .assignmentOutOfRange
  | .record k fs => if fs.any (·.1 == last) then .ok (.field last) else .error (.noField k.name last)
  | .stage _ | .mark _ =>
    if isWordOwn last then .error (.readOnlyAttribute "Enum" last) else .ok (.field last)
  | other => .error (.noAttribute other.typeName last)

/-- Whether a walk can end inside a node: a record, a list, or a vocabulary word. -/
def Settable : Node → Bool
  | .record _ _ | .list _ | .stage _ | .mark _ => true
  | _ => false

/-- Whether a walk along a path from a node comes to a word: it walks on from a word, or sets an
attribute of one. A node that is no word is entered without reading an attribute set on a word,
so this follows the save alone. -/
def meetsWord (n : Node) : List String → Bool
  | [] => false
  | [_] => n.word?.isSome
  | p :: rest =>
    n.word?.isSome ||
      match n.enter .empty p with
      | .ok (c, _, _) => c.meetsWord rest
      | .error _ => false

end Node

/-! ### One step of a walk -/

theorem withField_withField (n : Node) (f : String) (X Y : Node) :
    (n.withField f X).withField f Y = n.withField f Y := by
  cases n with
  | record k fs =>
    simp only [Node.withField, List.map_map, Node.record.injEq, true_and]
    refine List.map_congr_left fun entry _ => ?_
    obtain ⟨g, old⟩ := entry
    by_cases same : g = f <;> simp [same]
  | _ => rfl

theorem withField_comm (n : Node) {f g : String} (other : f ≠ g) (X Y : Node) :
    (n.withField f X).withField g Y = (n.withField g Y).withField f X := by
  cases n with
  | record k fs =>
    simp only [Node.withField, List.map_map, Node.record.injEq, true_and]
    refine List.map_congr_left fun entry _ => ?_
    obtain ⟨h, old⟩ := entry
    by_cases atF : h = f
    · subst atF
      simp [other]
    · by_cases atG : h = g
      · subst atG
        simp [Ne.symm other]
      · simp [atF, atG]
  | _ => rfl

@[simp] theorem word?_setSlot (n : Node) (σ : Slot) (X : Node) : (n.setSlot σ X).word? = n.word? := by
  cases σ <;> cases n <;> rfl

/-- A word has no slots of its own: setting one leaves it as it is. -/
theorem setSlot_word {n : Node} {w : Word} (word : n.word? = some w) (σ : Slot) (X : Node) :
    n.setSlot σ X = n := by
  cases n <;> simp [Node.word?] at word <;> cases σ <;> rfl

/-- Putting back a node at a slot leaves the node with that slot set. -/
@[simp] theorem putSlot_fst (W : WordAttrs) (n : Node) (σ : Slot) (X : Node) :
    (n.putSlot W σ X).1 = n.setSlot σ X := by
  cases σ with
  | item i => rfl
  | field f =>
    cases word : n.word? with
    | none => simp [Node.putSlot, Node.putAttr, word, Node.setSlot]
    | some w =>
      rw [setSlot_word word]
      by_cases own : Node.isWordOwn f = true <;> simp [Node.putSlot, Node.putAttr, word, own]

/-- At a node that is no word, putting back changes the node alone. -/
theorem putSlot_of_word?_none {n : Node} (nw : n.word? = none) (W : WordAttrs) (σ : Slot) (X : Node) :
    n.putSlot W σ X = (n.setSlot σ X, W) := by
  cases σ <;> simp [Node.putSlot, Node.putAttr, Node.setSlot, nw]

/-- A node that is no word holds its attributes itself. -/
theorem getAttr?_of_word?_none {n : Node} (nw : n.word? = none) (W : WordAttrs) (p : String) :
    n.getAttr? W p = n.attr? p := by
  simp [Node.getAttr?, nw]

/-- Entering a node that is no word reads no attribute set on a word. -/
theorem enter_words {n : Node} (nw : n.word? = none) (W W' : WordAttrs) (p : String) :
    n.enter W p = n.enter W' p := by
  simp only [Node.enter, getAttr?_of_word?_none nw]

theorem assignPath_enter (v : Except Fault Node) (W : WordAttrs) (n : Node) (p : String)
    {rest : List String} (more : rest ≠ []) :
    assignPath v W n (p :: rest) =
      match n.enter W p with
      | .error f => ⟨n, W, [], some f⟩
      | .ok (c, notes, σ) =>
        let r := assignPath v W c rest
        let (n', W') := n.putSlot r.words σ r.node
        ⟨n', W', notes ++ r.notes, r.fault⟩ := by
  rw [assignPath.eq_4 _ _ _ _ _ more]
  unfold Node.enter
  split
  · cases readIntContent p with
    | error f => rfl
    | ok i =>
      dsimp only
      cases n.item? i.toNat with
      | error f => rfl
      | ok c => rfl
  · cases n.getAttr? W p with
    | error f => rfl
    | ok c =>
      cases c with
      | none =>
        cases suppliedKind? p with
        | none => rfl
        | some k => rfl
      | _ => rfl

theorem assignLast_lastSlot (W : WordAttrs) (n : Node) (last : String) (v : Node) :
    assignLast W n last v =
      match n.lastSlot last with
      | .ok σ => let (n', W') := n.putSlot W σ v; ⟨n', W', [], none⟩
      | .error f => ⟨n, W, [], some f⟩ := by
  cases n with
  | list items =>
    simp only [assignLast, Node.lastSlot]
    cases readIntContent last with
    | error f => rfl
    | ok i =>
      simp only [Node.setItem]
      generalize (if i < 0 then i + (items.length : Int) else i) = j
      by_cases inside : 0 ≤ j ∧ j < items.length
      · simp only [if_pos inside, Node.putSlot, Node.withItem]
      · simp only [if_neg inside]
  | record k fs =>
    by_cases present : fs.any (·.1 == last) = true
    · simp [assignLast, Node.lastSlot, Node.setAttr, Node.word?, present, Node.putSlot, Node.putAttr]
    · simp [assignLast, Node.lastSlot, Node.setAttr, Node.word?, present]
  | stage s =>
    by_cases own : Node.isWordOwn last = true
    · simp [assignLast, Node.lastSlot, Node.setAttr, Node.word?, own]
    · simp [assignLast, Node.lastSlot, Node.setAttr, Node.word?, own, Node.putSlot, Node.putAttr]
  | mark m =>
    by_cases own : Node.isWordOwn last = true
    · simp [assignLast, Node.lastSlot, Node.setAttr, Node.word?, own]
    · simp [assignLast, Node.lastSlot, Node.setAttr, Node.word?, own, Node.putSlot, Node.putAttr]
  | _ => rfl

/-! ### Slots -/

namespace Slot

/-- Two slots that name different places, so that setting one leaves the other alone; slots of
different kinds never stand in one node. -/
def Apart : Slot → Slot → Prop
  | .item i, .item j => i ≠ j
  | .field f, .field g => f ≠ g
  | _, _ => True

/-- The slots a part of a path may name: the field of its name, or an item at the index the part
reads as, that very index when it is not negative. -/
def NamedBy : Slot → String → Prop
  | .item k, a => ∃ i, readIntContent a = .ok i ∧ (0 ≤ i → k = i.toNat)
  | .field f, a => f = a

/-- The slots a part of a path never names: a field of another name, or an item at another index
than the one the part reads as. A part that reads as a negative index counts from the end, so it
may name any item. -/
def MissedBy : Slot → String → Prop
  | .item k, b => ∀ j, readIntContent b = .ok j → 0 ≤ j ∧ j ≠ k
  | .field f, b => f ≠ b

end Slot

theorem setSlot_setSlot (n : Node) (σ : Slot) (X Y : Node) :
    (n.setSlot σ X).setSlot σ Y = n.setSlot σ Y := by
  cases σ with
  | item i => cases n <;> simp [Node.setSlot, Node.withItem, List.set_set]
  | field f => exact withField_withField n f X Y

theorem setSlot_comm (n : Node) {σ τ : Slot} (apart : σ.Apart τ) (X Y : Node) :
    (n.setSlot σ X).setSlot τ Y = (n.setSlot τ Y).setSlot σ X := by
  cases σ with
  | item i =>
    cases τ with
    | item j => cases n <;> simp [Node.setSlot, Node.withItem, List.set_comm X Y apart]
    | field g => cases n <;> rfl
  | field f =>
    cases τ with
    | item j => cases n <;> rfl
    | field g => exact withField_comm n apart X Y

@[simp] theorem settable_setSlot (n : Node) (σ : Slot) (X : Node) :
    (n.setSlot σ X).Settable = n.Settable := by
  cases σ <;> cases n <;> rfl

theorem lastSlot_setSlot (n : Node) (σ : Slot) (X : Node) (last : String) :
    (n.setSlot σ X).lastSlot last = n.lastSlot last := by
  cases σ with
  | item i => cases n <;> simp [Node.setSlot, Node.withItem, Node.lastSlot]
  | field f =>
    cases n with
    | record k fs =>
      simp only [Node.setSlot, Node.withField, Node.lastSlot, List.any_map]
      -- renaming keeps every field's name, so the same names are found
      congr 3
      funext entry
      obtain ⟨g, old⟩ := entry
      by_cases same : g = f <;> simp [same]
    | _ => rfl

theorem item?_withItem_ne (n : Node) {k m : Nat} (other : k ≠ m) (X : Node) :
    (n.withItem k X).item? m = n.item? m := by
  cases n <;> simp [Node.withItem, Node.item?, List.getElem?_set_ne other]

theorem item?_withField (n : Node) (f : String) (X : Node) (m : Nat) :
    (n.withField f X).item? m = n.item? m := by
  cases n <;> rfl

theorem attr?_withItem (n : Node) (k : Nat) (X : Node) (b : String) :
    (n.withItem k X).attr? b = n.attr? b := by
  cases n <;> rfl

theorem attr?_withField_ne (n : Node) {f b : String} (other : f ≠ b) (X : Node) :
    (n.withField f X).attr? b = n.attr? b := by
  cases n with
  | record k fs =>
    -- the renamed entry is the one called f, which a search for b passes over
    have found :
        (fs.map fun x => if (x.1 == f) = true then (x.1, X) else (x.1, x.2)).find? (·.1 == b) =
          fs.find? (·.1 == b) := by
      induction fs with
      | nil => rfl
      | cons entry rest more =>
        obtain ⟨g, old⟩ := entry
        have head : (if (g == f) = true then (g, X) else (g, old)).1 = g := by split <;> rfl
        by_cases atB : g = b
        · subst atB
          have kept : (g == f) = false := by simp [Ne.symm other]
          simp only [List.map_cons, List.find?_cons, kept, beq_self_eq_true, Bool.false_eq_true,
            if_false]
        · have passed : (g == b) = false := by simp [atB]
          simp only [List.map_cons, List.find?_cons, head, passed, more]
    simp only [Node.withField, Node.attr?, found]
  | _ => rfl

theorem find?_withField_self {fs : List (String × Node)} {f : String} {c : Node}
    (found : fs.find? (·.1 == f) = some (f, c)) (X : Node) :
    (fs.map fun (g, old) => if g == f then (g, X) else (g, old)).find? (·.1 == f) = some (f, X) := by
  induction fs with
  | nil => cases found
  | cons entry rest more =>
    obtain ⟨g, old⟩ := entry
    rw [List.map_cons, List.find?_cons]
    by_cases atF : g = f
    · subst atF
      simp
    · have passed : (g == f) = false := by simpa using atF
      simp only [List.find?_cons, passed] at found
      simp only [passed, Bool.false_eq_true, if_false]
      exact more found

namespace Slot

theorem apart_of_named {σ τ : Slot} {a : String} (named : σ.NamedBy a) (missed : τ.MissedBy a) :
    σ.Apart τ := by
  cases σ with
  | item k =>
    cases τ with
    | item m =>
      obtain ⟨i, reads, at_⟩ := named
      obtain ⟨nonneg, other⟩ := missed i reads
      show k ≠ m
      omega
    | field g => trivial
  | field f =>
    cases τ with
    | item m => trivial
    | field g =>
      show f ≠ g
      rw [show f = a from named]
      exact fun same => missed same.symm

end Slot

theorem enter_setSlot_missed (W : WordAttrs) (n : Node) {σ : Slot} {b : String}
    (missed : σ.MissedBy b) (X : Node) : (n.setSlot σ X).enter W b = n.enter W b := by
  cases word : n.word? with
  | some w => rw [setSlot_word word]
  | none =>
    have word' : (n.setSlot σ X).word? = none := by rw [word?_setSlot, word]
    unfold Node.enter
    by_cases index : isIndexPart b = true
    · simp only [index, if_true]
      cases reads : readIntContent b with
      | error f => rfl
      | ok j =>
        have same : (n.setSlot σ X).item? j.toNat = n.item? j.toNat := by
          cases σ with
          | item k =>
            obtain ⟨nonneg, other⟩ := missed j reads
            exact item?_withItem_ne n (by omega) X
          | field f => exact item?_withField n f X _
        simp only [same]
    · have same : (n.setSlot σ X).attr? b = n.attr? b := by
        cases σ with
        | item k => exact attr?_withItem n k X b
        | field f => exact attr?_withField_ne n missed X
      simp only [index, Bool.false_eq_true, if_false, getAttr?_of_word?_none word,
        getAttr?_of_word?_none word', same]

theorem enter_namedBy {W : WordAttrs} {n c : Node} {p : String} {notes : List String} {σ : Slot}
    (entered : n.enter W p = .ok (c, notes, σ)) : σ.NamedBy p := by
  unfold Node.enter at entered
  split at entered
  · split at entered
    · cases entered
    · rename_i i reads
      split at entered
      · cases entered
      · cases entered
        exact ⟨i, reads, fun _ => rfl⟩
  · split at entered
    · cases entered
    · split at entered <;> cases entered <;> rfl
    · cases entered
      rfl

theorem lastSlot_namedBy {n : Node} {last : String} {σ : Slot} (slot : n.lastSlot last = .ok σ) :
    σ.NamedBy last := by
  cases n with
  | list items =>
    cases reads : readIntContent last with
    | error f => simp [Node.lastSlot, reads] at slot
    | ok i =>
      simp only [Node.lastSlot, reads] at slot
      -- a negative index counts from the end, so it names its item only through the length
      by_cases negative : i < 0
      · simp only [negative, if_true] at slot
        split at slot
        · cases slot
          exact ⟨i, reads, fun nonneg => absurd nonneg (not_le.mpr negative)⟩
        · cases slot
      · simp only [negative, if_false] at slot
        split at slot
        · cases slot
          exact ⟨i, reads, fun _ => rfl⟩
        · cases slot
  | record k fs =>
    simp only [Node.lastSlot] at slot
    split at slot
    · cases slot
      rfl
    · cases slot
  | stage s | mark m =>
    simp only [Node.lastSlot] at slot
    split at slot
    · cases slot
    · cases slot
      rfl
  | _ => cases slot

/-! ### Which nodes take an assignment -/

theorem lastSlot_settable {n : Node} {last : String} {σ : Slot} (slot : n.lastSlot last = .ok σ) :
    n.Settable := by
  cases n <;> first | rfl | cases slot

theorem getAttr?_settable {W : WordAttrs} {n c : Node} {p : String} (read : n.getAttr? W p = .ok c) :
    n.Settable := by
  cases n <;> first | rfl | cases read

theorem charItem?_unsettable {s : String} {i : Nat} {c : Node} (read : Node.charItem? s i = .ok c) :
    c.Settable = false := by
  unfold Node.charItem? at read
  split at read
  · cases read
    rfl
  · cases read

/-- Only a list's items take an assignment: the items of a text are its characters, texts
themselves. -/
theorem item?_settable_list {n c : Node} {i : Nat} (read : n.item? i = .ok c) (settable : c.Settable) :
    ∃ items, n = .list items := by
  cases n with
  | list items => exact ⟨items, rfl⟩
  | text s | stage s | mark s =>
    rw [charItem?_unsettable read] at settable
    cases settable
  | _ => cases read

theorem item?_settable {n c : Node} {i : Nat} (read : n.item? i = .ok c) (settable : c.Settable) :
    n.Settable := by
  obtain ⟨items, rfl⟩ := item?_settable_list read settable
  rfl

theorem enter_settable {W : WordAttrs} {n c : Node} {p : String} {notes : List String} {σ : Slot}
    (entered : n.enter W p = .ok (c, notes, σ)) (settable : c.Settable) : n.Settable := by
  unfold Node.enter at entered
  by_cases index : isIndexPart p = true
  · simp only [index, if_true] at entered
    cases reads : readIntContent p with
    | error f => simp [reads] at entered
    | ok i =>
      cases read : n.item? i.toNat with
      | error f => simp [reads, read] at entered
      | ok c' =>
        simp only [reads, read, Except.ok.injEq, Prod.mk.injEq] at entered
        exact item?_settable read (entered.1 ▸ settable)
  · cases read : n.getAttr? W p with
    | error f => simp [index, read] at entered
    | ok c' => exact getAttr?_settable read

theorem item?_withItem_self {n c : Node} {k : Nat} (read : n.item? k = .ok c) (settable : c.Settable)
    (X : Node) : (n.withItem k X).item? k = .ok X := by
  obtain ⟨items, rfl⟩ := item?_settable_list read settable
  simp only [Node.item?] at read
  split at read
  · rename_i found
    have inside : k < items.length := (List.getElem?_eq_some_iff.mp found).1
    simp [Node.withItem, Node.item?, List.getElem?_set_self inside]
  · cases read

/-- Only a record's fields take an assignment by name: the attributes a word holds itself are
texts. -/
theorem attr?_withField_self {n c : Node} {p : String} (read : n.attr? p = .ok c)
    (notText : ∀ t, c ≠ .text t) (X : Node) : (n.withField p X).attr? p = .ok X := by
  cases n with
  | record k fs =>
    simp only [Node.attr?] at read
    split at read
    · rename_i p' c' found
      cases read
      have named : p' = p := by simpa using List.find?_some found
      subst named
      simp only [Node.withField, Node.attr?, find?_withField_self found X]
    · cases read
  | stage s | mark s =>
    simp only [Node.attr?] at read
    split_ifs at read <;> cases read <;> exact absurd rfl (notText _)
  | _ => cases read

/-- Entering by name a field that holds something. -/
theorem enter_field {W : WordAttrs} {n c : Node} {p : String} (named : isIndexPart p = false)
    (read : n.getAttr? W p = .ok c) (filled : c ≠ .none) : n.enter W p = .ok (c, [], .field p) := by
  unfold Node.enter
  simp only [named, Bool.false_eq_true, if_false, read]

/-- Having assigned into the node entered at a part of a node that is no word, the same part
enters the new node, at the same slot and without notes: a field filled in on the way is filled
now. -/
theorem enter_setSlot_self {W W' : WordAttrs} {n c : Node} {p : String} {notes : List String}
    {σ : Slot} (nw : n.word? = none) (entered : n.enter W p = .ok (c, notes, σ))
    (settable : c.Settable) {X : Node} (settableX : X.Settable) :
    (n.setSlot σ X).enter W' p = .ok (X, [], σ) := by
  have filled : X ≠ .none := by
    rintro rfl
    cases settableX
  have nw' : (n.setSlot σ X).word? = none := by rw [word?_setSlot, nw]
  unfold Node.enter at entered
  by_cases index : isIndexPart p = true
  · simp only [index, if_true] at entered
    cases reads : readIntContent p with
    | error f => simp [reads] at entered
    | ok i =>
      cases read : n.item? i.toNat with
      | error f => simp [reads, read] at entered
      | ok c' =>
        simp only [reads, read, Except.ok.injEq, Prod.mk.injEq] at entered
        obtain ⟨rfl, -, rfl⟩ := entered
        simp [Node.enter, Node.setSlot, index, reads, item?_withItem_self read settable]
  · have named : isIndexPart p = false := by simpa using index
    simp only [named, Bool.false_eq_true, if_false, getAttr?_of_word?_none nw] at entered
    cases read : n.attr? p with
    | error f => simp [read] at entered
    | ok c' =>
      -- whatever the field held, the slot is the field, and what it held was no text
      have slot : σ = .field p ∧ ∀ t, c' ≠ .text t := by
        cases c' with
        | none =>
          cases supplied : suppliedKind? p with
          | some k =>
            simp only [read, supplied, Except.ok.injEq, Prod.mk.injEq] at entered
            exact ⟨entered.2.2.symm, fun t held => by cases held⟩
          | none =>
            simp only [read, supplied, Except.ok.injEq, Prod.mk.injEq] at entered
            rw [← entered.1] at settable
            cases settable
        | text t =>
          simp only [read, Except.ok.injEq, Prod.mk.injEq] at entered
          rw [← entered.1] at settable
          cases settable
        | _ =>
          simp only [read, Except.ok.injEq, Prod.mk.injEq] at entered
          exact ⟨entered.2.2.symm, fun t held => by cases held⟩
      obtain ⟨rfl, notText⟩ := slot
      exact enter_field named (by rw [getAttr?_of_word?_none nw']; exact attr?_withField_self read notText X)
        filled

/-! ### Assignments along a path -/

theorem assignPath_last (v : Node) (W : WordAttrs) (n : Node) (last : String) :
    assignPath (.ok v) W n [last] = assignLast W n last v := rfl

/-- An assignment along a path that ends without fault starts from a node that takes one, and
leaves one. -/
theorem assigned_settable (v : Except Fault Node) {path : List String} (nonempty : path ≠ []) :
    ∀ {W : WordAttrs} {n : Node}, (assignPath v W n path).fault = none →
      n.Settable ∧ (assignPath v W n path).node.Settable := by
  induction path with
  | nil => exact absurd rfl nonempty
  | cons p rest more =>
    intro W n clean
    cases rest with
    | nil =>
      cases v with
      | error f => simp [assignPath] at clean
      | ok w =>
        rw [assignPath_last, assignLast_lastSlot] at clean ⊢
        cases slot : n.lastSlot p with
        | error f => simp [slot] at clean
        | ok σ => simp [lastSlot_settable slot]
    | cons q rest' =>
      rw [assignPath_enter v W n p (List.cons_ne_nil q rest')] at clean ⊢
      cases entered : n.enter W p with
      | error f => simp [entered] at clean
      | ok e =>
        obtain ⟨c, notes, σ⟩ := e
        simp only [entered] at clean ⊢
        simp [enter_settable entered (more (List.cons_ne_nil q rest') clean).1]

/-- An assignment that ends without fault changed its node at one slot, one its first part
names. -/
theorem assigned_slot (v : Except Fault Node) (W : WordAttrs) (n : Node) (a : String)
    (rest : List String) (clean : (assignPath v W n (a :: rest)).fault = none) :
    ∃ σ X, σ.NamedBy a ∧ (assignPath v W n (a :: rest)).node = n.setSlot σ X := by
  cases rest with
  | nil =>
    cases v with
    | error f => simp [assignPath] at clean
    | ok w =>
      rw [assignPath_last, assignLast_lastSlot] at clean ⊢
      cases slot : n.lastSlot a with
      | error f => simp [slot] at clean
      | ok σ => exact ⟨σ, w, lastSlot_namedBy slot, putSlot_fst W n σ w⟩
  | cons q rest' =>
    rw [assignPath_enter v W n a (List.cons_ne_nil q rest')] at clean ⊢
    cases entered : n.enter W a with
    | error f => simp [entered] at clean
    | ok e =>
      obtain ⟨c, notes, σ⟩ := e
      exact ⟨σ, (assignPath v W c (q :: rest')).node, enter_namedBy entered, putSlot_fst _ n σ _⟩

/-- A walk from a word leaves the word as it is: what it changes, it changes in the table of
words' attributes. -/
theorem assignPath_word_node (v : Except Fault Node) (W : WordAttrs) {n : Node} {w : Word}
    (word : n.word? = some w) : ∀ path, (assignPath v W n path).node = n
  | [] => rfl
  | [last] => by
    cases v with
    | error f => rfl
    | ok x =>
      rw [assignPath_last, assignLast_lastSlot]
      cases n.lastSlot last with
      | error f => rfl
      | ok σ => exact (putSlot_fst W n σ x).trans (setSlot_word word σ x)
  | p :: q :: rest => by
    rw [assignPath_enter v W n p (List.cons_ne_nil q rest)]
    cases n.enter W p with
    | error f => rfl
    | ok e => exact (putSlot_fst _ n e.2.2 _).trans (setSlot_word word _ _)

/-- An assignment whose first part misses a slot does the same with the slot set beforehand:
the slot stays as it was set, and the table, the notes and the fault are the same. -/
theorem assignPath_setSlot_missed (v : Except Fault Node) (W : WordAttrs) (n : Node) {σ : Slot}
    {b : String} (missed : σ.MissedBy b) (X : Node) (rest : List String) :
    assignPath v W (n.setSlot σ X) (b :: rest) =
      (assignPath v W n (b :: rest)).within (·.setSlot σ X) := by
  cases word : n.word? with
  | some w =>
    -- a word has no slots, and a walk from it leaves it as it is
    have kept := assignPath_word_node v W word (b :: rest)
    rw [setSlot_word word]
    rcases assigned : assignPath v W n (b :: rest) with ⟨node, words, notes, fault⟩
    rw [assigned] at kept
    simp only at kept
    subst kept
    simp [Assigned.within, setSlot_word word]
  | none =>
    have word' : (n.setSlot σ X).word? = none := by rw [word?_setSlot, word]
    cases rest with
    | nil =>
      cases v with
      | error f => rfl
      | ok w =>
        rw [assignPath_last, assignPath_last, assignLast_lastSlot, assignLast_lastSlot,
          lastSlot_setSlot]
        cases slot : n.lastSlot b with
        | error f => rfl
        | ok τ =>
          simp only [Assigned.within, putSlot_of_word?_none word, putSlot_of_word?_none word']
          rw [setSlot_comm n (Slot.apart_of_named (lastSlot_namedBy slot) missed)]
    | cons q rest' =>
      rw [assignPath_enter v W _ b (List.cons_ne_nil q rest'),
        assignPath_enter v W n b (List.cons_ne_nil q rest'), enter_setSlot_missed W n missed]
      cases entered : n.enter W b with
      | error f => rfl
      | ok e =>
        obtain ⟨c, notes, τ⟩ := e
        simp only [Assigned.within, putSlot_of_word?_none word, putSlot_of_word?_none word']
        rw [setSlot_comm n (Slot.apart_of_named (enter_namedBy entered) missed)]

/-! ### Walks that come to no word -/

theorem meetsWord_of_word {n : Node} {w : Word} (word : n.word? = some w) :
    ∀ {path : List String}, path ≠ [] → n.meetsWord path = true
  | [_], _ => by simp [Node.meetsWord, word]
  | _ :: _ :: _, _ => by simp [Node.meetsWord, word]

/-- A walk that comes to no word goes on from a node that is no word. -/
theorem word?_of_meetsWord {n : Node} {path : List String} (nonempty : path ≠ [])
    (free : n.meetsWord path = false) : n.word? = none := by
  cases word : n.word? with
  | none => rfl
  | some w => simp [meetsWord_of_word word nonempty] at free

/-- From a node that is no word, a walk comes to a word exactly when its walk on from the node
entered does. -/
theorem meetsWord_enter {W : WordAttrs} {n c : Node} {p : String} {notes : List String} {σ : Slot}
    (nw : n.word? = none) (entered : n.enter W p = .ok (c, notes, σ)) {rest : List String}
    (more : rest ≠ []) : n.meetsWord (p :: rest) = c.meetsWord rest := by
  obtain ⟨q, rest', rfl⟩ := List.exists_cons_of_ne_nil more
  rw [enter_words nw W .empty] at entered
  simp [Node.meetsWord, nw, entered]

/-- A walk that comes to no word does the same from any table of words' attributes, and leaves
the table as it found it. By induction along the path: each node the walk enters is no word, so
it is entered and put back in the save alone. -/
theorem assignPath_wordsFree (v : Except Fault Node) :
    ∀ (path : List String) (n : Node), n.meetsWord path = false → ∀ W W' : WordAttrs,
      assignPath v W n path = { assignPath v W' n path with words := W }
  | [], _, _, _, _ => rfl
  | [last], n, free, W, W' => by
    have nw := word?_of_meetsWord (List.cons_ne_nil last []) free
    cases v with
    | error f => rfl
    | ok x =>
      rw [assignPath_last, assignPath_last, assignLast_lastSlot, assignLast_lastSlot]
      cases n.lastSlot last with
      | error f => rfl
      | ok σ => simp [putSlot_of_word?_none nw]
  | p :: q :: rest, n, free, W, W' => by
    have nw := word?_of_meetsWord (List.cons_ne_nil p _) free
    rw [assignPath_enter v W n p (List.cons_ne_nil q rest),
      assignPath_enter v W' n p (List.cons_ne_nil q rest), enter_words nw W W']
    cases entered : n.enter W' p with
    | error f => rfl
    | ok e =>
      obtain ⟨c, notes, σ⟩ := e
      have deeper := meetsWord_enter nw entered (List.cons_ne_nil q rest) ▸ free
      simp [assignPath_wordsFree v (q :: rest) c deeper W W', putSlot_of_word?_none nw]

theorem assignPath_words_of_free (v : Except Fault Node) {path : List String} {n : Node}
    (free : n.meetsWord path = false) (W : WordAttrs) : (assignPath v W n path).words = W := by
  rw [assignPath_wordsFree v path n free W W]

/-! ### Commuting assignments -/

/-- What an assignment leaves, when no fault stopped it: the save and the table of words'
attributes. -/
def Assigned.result (r : Assigned) : Option (Node × WordAttrs) :=
  match r.fault with
  | none => some (r.node, r.words)
  | some _ => none

@[simp] theorem Assigned.result_within (plug : Node → Node) (r : Assigned) :
    (r.within plug).result = r.result.map fun (n, W) => (plug n, W) := by
  rcases r with ⟨node, words, notes, fault⟩
  cases fault <;> rfl

@[simp] theorem Assigned.result_withWords (r : Assigned) (W : WordAttrs) :
    ({ r with words := W }).result = r.result.map fun (n, _) => (n, W) := by
  rcases r with ⟨node, words, notes, fault⟩
  cases fault <;> rfl

theorem Assigned.result_eq_some {r : Assigned} {n : Node} {W : WordAttrs} :
    r.result = some (n, W) ↔ r.fault = none ∧ r.node = n ∧ r.words = W := by
  rcases r with ⟨node, words, notes, fault⟩
  cases fault <;> simp [Assigned.result]

theorem result_slot {v : Except Fault Node} {W W' : WordAttrs} {s n : Node} {a : String}
    {rest : List String} (reached : (assignPath v W s (a :: rest)).result = some (n, W')) :
    ∃ σ X, σ.NamedBy a ∧ n = s.setSlot σ X := by
  obtain ⟨clean, rfl, -⟩ := Assigned.result_eq_some.mp reached
  exact assigned_slot v W s a rest clean

/-- A walk that comes to no word and reaches a result leaves the table as it found it. -/
theorem result_words_of_free {v : Except Fault Node} {W W' : WordAttrs} {s n : Node}
    {path : List String} (free : s.meetsWord path = false)
    (reached : (assignPath v W s path).result = some (n, W')) : W' = W := by
  obtain ⟨-, -, rfl⟩ := Assigned.result_eq_some.mp reached
  exact assignPath_words_of_free v free W

theorem result_enter (v : Except Fault Node) (W : WordAttrs) (n : Node) (p : String)
    {rest : List String} (more : rest ≠ []) :
    (assignPath v W n (p :: rest)).result =
      match n.enter W p with
      | .error _ => none
      | .ok (c, _, σ) => (assignPath v W c rest).result.map fun (X, W') => n.putSlot W' σ X := by
  rw [assignPath_enter v W n p more]
  cases n.enter W p with
  | error f => rfl
  | ok e =>
    obtain ⟨c, notes, σ⟩ := e
    simp only [Assigned.result]
    cases (assignPath v W c rest).fault <;> rfl

/-- Two assignments that enter a node that is no word by the same part: the second enters what
the first left there, at the same slot. -/
theorem result_reenter (u v : Except Fault Node) {W : WordAttrs} {s c : Node} {p : String}
    {notes : List String} {σ : Slot} (nw : s.word? = none) (entered : s.enter W p = .ok (c, notes, σ))
    {rest rest' : List String} (more : rest ≠ []) (more' : rest' ≠ []) :
    ((assignPath u W s (p :: rest)).result.bind fun (n, W') => (assignPath v W' n (p :: rest')).result) =
      ((assignPath u W c rest).result.bind fun (X, W') => (assignPath v W' X rest').result).map
        fun (X, W'') => (s.setSlot σ X, W'') := by
  simp only [result_enter u W s p more, entered, putSlot_of_word?_none nw]
  cases first : (assignPath u W c rest).result with
  | none => rfl
  | some r =>
    obtain ⟨X, W₁⟩ := r
    obtain ⟨clean, reached, -⟩ := Assigned.result_eq_some.mp first
    have settable := assigned_settable u more clean
    rw [reached] at settable
    have nw' : (s.setSlot σ X).word? = none := by rw [word?_setSlot, nw]
    simp only [Option.map_some, Option.bind_some]
    rw [result_enter v _ _ p more', enter_setSlot_self nw entered settable.1 settable.2]
    simp only [putSlot_of_word?_none nw', setSlot_setSlot]

section Commute

variable (u v : Except Fault Node) {x y : String}
  (xMisses : ∀ σ : Slot, σ.NamedBy x → σ.MissedBy y) (yMisses : ∀ σ : Slot, σ.NamedBy y → σ.MissedBy x)

include xMisses yMisses

/-- Two assignments whose paths start at parts naming different slots commute when the second
comes to no word: it then reads nothing that the first sets on a word, and sets nothing there
itself. -/
theorem assignPath_comm_parted (r r' : List String) (W : WordAttrs) (s : Node)
    (free : s.meetsWord (y :: r') = false) :
    ((assignPath u W s (x :: r)).result.bind fun (n, W') => (assignPath v W' n (y :: r')).result) =
      ((assignPath v W s (y :: r')).result.bind fun (n, W') => (assignPath u W' n (x :: r)).result) := by
  -- from any table, the second assignment does what it does from the first one's
  have second : ∀ W', (assignPath v W' s (y :: r')).result =
      (assignPath v W s (y :: r')).result.map fun (m, _) => (m, W') := fun W' => by
    rw [assignPath_wordsFree v (y :: r') s free W' W, Assigned.result_withWords]
  cases first : (assignPath u W s (x :: r)).result with
  | none =>
    cases later : (assignPath v W s (y :: r')).result with
    | none => rfl
    | some m =>
      obtain ⟨m, W₂⟩ := m
      obtain ⟨τ, Y, named, rfl⟩ := result_slot later
      have kept := result_words_of_free free later
      rw [kept] at later ⊢
      simp [assignPath_setSlot_missed u W s (yMisses τ named), first]
  | some n =>
    obtain ⟨n, W₁⟩ := n
    obtain ⟨σ, X, named, rfl⟩ := result_slot first
    simp only [Option.bind_some, assignPath_setSlot_missed v W₁ s (xMisses σ named),
      Assigned.result_within, second W₁, Option.map_map]
    cases later : (assignPath v W s (y :: r')).result with
    | none => rfl
    | some m =>
      obtain ⟨m, W₂⟩ := m
      obtain ⟨τ, Y, named', rfl⟩ := result_slot later
      have kept := result_words_of_free free later
      rw [kept] at later ⊢
      simp only [Option.map_some, Option.bind_some, Function.comp_apply,
        assignPath_setSlot_missed u W s (yMisses τ named'), Assigned.result_within, first]
      rw [setSlot_comm s (Slot.apart_of_named named' (xMisses σ named))]

end Commute

/-! ### Paths that part -/

/-- Whether a part of a path is spelled plainly: when it reads as an integer at all, it is the
decimal text of that integer, and the integer is not negative. Parts such as `05`, `+5` or `-1`
are not plain: each names an item that another spelling names too. -/
def plainPart (p : String) : Bool :=
  match readIntContent p with
  | .ok i => decide (0 ≤ i) && p == Node.intText i
  | .error _ => true

example : plainPart "5" = true ∧ plainPart "type" = true ∧ plainPart "05" = false ∧
    plainPart "+5" = false ∧ plainPart "-1" = false := by
  with_unfolding_all decide

/-- Whether two paths part: after a common start they go on by different parts, both spelled
plainly. Neither path is then a start of the other. -/
def pathsApart : List String → List String → Bool
  | a :: r, b :: r' => if a = b then pathsApart r r' else plainPart a && plainPart b
  | _, _ => false

/-- Different parts spelled plainly name different slots. -/
theorem missedBy_of_plain {a b : String} (plainA : plainPart a = true) (plainB : plainPart b = true)
    (other : a ≠ b) : ∀ σ : Slot, σ.NamedBy a → σ.MissedBy b := by
  intro σ named
  cases σ with
  | item k =>
    obtain ⟨i, readsA, at_⟩ := named
    simp only [plainPart, readsA, Bool.and_eq_true, decide_eq_true_eq, beq_iff_eq] at plainA
    intro j readsB
    simp only [plainPart, readsB, Bool.and_eq_true, decide_eq_true_eq, beq_iff_eq] at plainB
    have differ : j ≠ i := by
      rintro rfl
      exact other (plainA.2.trans plainB.2.symm)
    have named := at_ plainA.1
    omega
  | field f =>
    show f ≠ b
    rw [show f = a from named]
    exact other

/-- Two assignments along paths that part commute when one of them comes to no word: from any
save and table, both orders leave the same save and the same table, or both fault. Along the
common start each part enters the same slot in both orders, of a node that is no word, as a walk
that goes on from a word comes to it; where the paths part, the two assignments change
different slots, and only one of them reads or sets attributes of words. -/
theorem assignPath_comm (u v : Except Fault Node) :
    ∀ (pa pb : List String), pathsApart pa pb = true → ∀ (W : WordAttrs) (s : Node),
      (s.meetsWord pa = false ∨ s.meetsWord pb = false) →
      ((assignPath u W s pa).result.bind fun (n, W') => (assignPath v W' n pb).result) =
        ((assignPath v W s pb).result.bind fun (n, W') => (assignPath u W' n pa).result)
  | a :: r, b :: r', apart, W, s, free => by
    by_cases same : a = b
    · subst same
      simp only [pathsApart, if_true] at apart
      have more : r ≠ [] := by
        rintro rfl
        simp [pathsApart] at apart
      have more' : r' ≠ [] := by
        rintro rfl
        cases r <;> simp [pathsApart] at apart
      have nw : s.word? = none := by
        rcases free with free | free
        · exact word?_of_meetsWord (List.cons_ne_nil a r) free
        · exact word?_of_meetsWord (List.cons_ne_nil a r') free
      cases entered : s.enter W a with
      | error f => simp [result_enter _ _ _ _ more, result_enter _ _ _ _ more', entered]
      | ok e =>
        obtain ⟨ch, notes, σ⟩ := e
        rw [meetsWord_enter nw entered more, meetsWord_enter nw entered more'] at free
        rw [result_reenter u v nw entered more more', result_reenter v u nw entered more' more,
          assignPath_comm u v r r' apart W ch free]
    · simp only [pathsApart, same, if_false, Bool.and_eq_true] at apart
      have xMisses := missedBy_of_plain apart.1 apart.2 same
      have yMisses := missedBy_of_plain apart.2 apart.1 (Ne.symm same)
      rcases free with xFree | yFree
      · exact (assignPath_comm_parted v u yMisses xMisses r' r W s xFree).symm
      · exact assignPath_comm_parted u v xMisses yMisses r r' W s yFree
  | [], _, apart, _, _, _ => by simp [pathsApart] at apart
  | _ :: _, [], apart, _, _, _ => by simp [pathsApart] at apart

end GinSave.Save
