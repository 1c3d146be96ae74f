import GinSave.Save.Check
import GinSave.Proofs.Json.Short
import GinSave.Proofs.Save.Walk

/-! What the check of a save document gives when it finds no issue. Every field holds a node of
its declared shape: an integer of at most `maxWrittenDigits` digits, within `0` and `2 ^ 64 - 1`
for a 64-bit word, a real, a truth value, a
text, a stage, a list of marks, an empty list of statuses, a list of words or texts, a list of
document values, a record of the kind with one node per field in schema order, a list of such records, or, for an
optional record, nothing. Main statement: `checkSaveDocument_conforms`.

The check runs within a nesting fuel; `Kind.soundWithin` says, by the schema alone, that the
fuel it is given suffices for every kind below and that every seed is of its field's shape. -/

namespace GinSave.Save

open GinSave.Json GinSave.Number

/-- The nodes the check gives for a field of a shape when it finds no issue. -/
inductive Conforms : Shape → Node → Prop
  | int {shape : Shape} {n : Int} (numeric : shape = .integer ∨ shape = .word32 ∨ shape = .word64)
      (short : decimalLength n.natAbs ≤ maxWrittenDigits)
      (ranged : shape = .word64 → 0 ≤ n ∧ n ≤ 2 ^ 64 - 1) : Conforms shape (.int n)
  | real (x : Float) : Conforms .real (.real x)
  | truth (b : Bool) : Conforms .truth (.bool b)
  | text (s : String) : Conforms .text (.text s)
  | stage (s : Stage) : Conforms .stage (.stage s)
  | marks {items : List Node} (each : ∀ n ∈ items, ∃ m, n = .mark m) : Conforms .marks (.list items)
  | statuses : Conforms .statuses (.list [])
  | words {items : List Node} (each : ∀ n ∈ items, Conforms .word32 n) : Conforms .words (.list items)
  | texts {items : List Node} (each : ∀ n ∈ items, Conforms .text n) : Conforms .texts (.list items)
  | anyList (values : List Value) (short : ∀ v ∈ values, v.Short) :
      Conforms .anyList (.list (Node.ofItems values))
  | record {k : Kind} (nodes : List Node) (sized : nodes.length = k.fields.length)
      (each : ∀ p ∈ k.fields.zip nodes, Conforms p.1.shape p.2) :
      Conforms (.record k) (.record k (k.fieldNames.zip nodes))
  | records {k : Kind} {items : List Node} (each : ∀ n ∈ items, Conforms (.record k) n) :
      Conforms (.records k) (.list items)
  | absent (k : Kind) : Conforms (.optional k) .none
  | present {k : Kind} {n : Node} (record : Conforms (.record k) n) : Conforms (.optional k) n

/-! ### The schema -/

/-- Whether a seed's default is of a field's shape. -/
def Seed.suits : Shape → Seed → Bool
  | .integer, .int n | .word32, .int n => decide (n.natAbs < 10 ^ maxWrittenDigits)
  | .word64, .int n => decide (0 ≤ n ∧ n ≤ 2 ^ 64 - 1)
  | .real, .real _ | .truth, .truth _ | .text, .text _ | .stage, .stage _ => true
  | .marks, .marks _ | .statuses, .empty | .anyList, .empty => true
  | .words, .zeros _ | .texts, .blanks _ => true
  | .record k, .vector xs => xs.length == k.fields.length && k.fields.all (·.shape == .real)
  | .record _, .record | .records _, .records _ | .optional _, .absent => true
  | _, _ => false

/-- Whether checking a record of kind `k` within `fuel` finds every kind below it still within
fuel, with every seed of its field's shape. -/
def Kind.soundWithin : Nat → Kind → Bool
  | 0, _ => false
  | fuel + 1, k => k.fields.all fun f =>
      f.seed.suits f.shape && f.shape.recordKind?.all (Kind.soundWithin fuel)

theorem fieldDefaults_eq_map (fuel : Nat) (k : Kind) :
    ∀ fields : List Field, fieldDefaults fuel k fields =
      fields.map fun f => (f.name, seedNode fuel f.shape f.seed)
  | [] => by simp [fieldDefaults]
  | f :: rest => by rw [fieldDefaults, fieldDefaults_eq_map fuel k rest, List.map_cons]

theorem zip_map_names (fields : List Field) (g : Field → Node) :
    (fields.map (·.name)).zip (fields.map g) = fields.map fun f => (f.name, g f) := by
  induction fields with
  | nil => rfl
  | cons f rest ih => simp [ih]

/-! ### Integers the check lets through -/

theorem Binary64.ofFloat_finite {x : Float} {neg : Bool} {m : Nat} {e : Int}
    (finite : Binary64.ofFloat x = .finite neg m e) : m < 2 ^ 53 ∧ e ≤ 971 := by
  unfold Binary64.ofFloat at finite
  have frac : x.toBits.toNat % Nat.pow 2 52 < Nat.pow 2 52 := Nat.mod_lt _ (by decide)
  have field : x.toBits.toNat / Nat.pow 2 52 % Nat.pow 2 11 < Nat.pow 2 11 := Nat.mod_lt _ (by decide)
  have low : Nat.pow 2 52 = 4503599627370496 := rfl
  have width : Nat.pow 2 11 = 2048 := rfl
  have high : (2 : Nat) ^ 53 = 9007199254740992 := rfl
  simp only at finite
  split at finite
  · split at finite <;> cases finite
  · rename_i notTop
    split at finite
    · cases finite
      exact ⟨by omega, by decide⟩
    · cases finite
      simp only [beq_iff_eq] at notTop
      omega

/-- The integer part of a double has at most `maxWrittenDigits` digits: it is below `2^1024`. -/
theorem truncate_short {x : Float} {n : Int} (cut : truncate x = .ok (some n)) :
    decimalLength n.natAbs ≤ maxWrittenDigits := by
  unfold truncate at cut
  split at cut
  · cases cut
  · cases cut
  · rename_i neg m e finite
    obtain ⟨small, top⟩ := Binary64.ofFloat_finite finite
    simp only [Except.ok.injEq, Option.some.injEq] at cut
    have whole : m * Nat.pow 2 e.toNat / Nat.pow 2 (-e).toNat < 10 ^ maxWrittenDigits := by
      calc m * Nat.pow 2 e.toNat / Nat.pow 2 (-e).toNat
          ≤ m * Nat.pow 2 e.toNat := Nat.div_le_self _ _
        _ < 10 ^ 53 * 10 ^ e.toNat :=
          Nat.mul_lt_mul_of_lt_of_le (Nat.lt_of_lt_of_le small (Nat.pow_le_pow_left (by decide) 53))
            (Nat.pow_le_pow_left (by decide) _) (Nat.pos_of_ne_zero (by simp))
        _ = 10 ^ (53 + e.toNat) := (Nat.pow_add 10 53 e.toNat).symm
        _ ≤ 10 ^ maxWrittenDigits := Nat.pow_le_pow_right (by decide) (by unfold maxWrittenDigits; omega)
    have bound := decimalLength_le_of_lt_pow whole (by decide)
    rw [← cut]
    split <;> simp only [Int.natAbs_neg, Int.natAbs_natCast] <;> exact bound

/-- An integer a short document value is coerced to has at most `maxWrittenDigits` digits. -/
theorem coerceInt_short {v : Value} {n : Int} (short : v.Short) (coerced : coerceInt v = .ok (some n)) :
    decimalLength n.natAbs ≤ maxWrittenDigits := by
  unfold coerceInt at coerced
  split at coerced
  · cases coerced
    cases short with
    | int bound => exact bound
  · cases coerced
    rw [decimalLength, if_pos (by split <;> decide)]
    decide
  · exact truncate_short coerced
  · split at coerced
    · cases coerced
      exact readInt_short ‹_›
    · cases coerced
  · cases coerced

/-! ### Single values and lists of them -/

/-- A scalar field checked without issue holds a node of its shape. -/
theorem checkScalar_conforms {shape : Shape} {loc : List String} {v : Value} {n : Node}
    (scalar : shape = .integer ∨ shape = .word32 ∨ shape = .word64 ∨ shape = .real ∨
      shape = .truth ∨ shape = .text ∨ shape = .stage)
    (short : v.Short) (checked : checkScalar shape loc v = .ok (n, [])) : Conforms shape n := by
  unfold checkScalar at checked
  split at checked
  · simp at checked
  · rcases scalar with rfl | rfl | rfl | rfl | rfl | rfl | rfl
    · cases coerced : coerceInt v with
      | error e => simp [coerced] at checked
      | ok r =>
        cases r with
        | none => simp [coerced] at checked
        | some k =>
          simp only [coerced, except_ok_bind, pure, Except.pure, Except.ok.injEq, Prod.mk.injEq] at checked
          rw [← checked.1]
          exact .int (.inl rfl) (coerceInt_short short coerced) (by simp)
    · cases coerced : coerceInt v with
      | error e => simp [coerced] at checked
      | ok r =>
        cases r with
        | none => simp [coerced] at checked
        | some k =>
          simp only [coerced, except_ok_bind, pure, Except.pure, Except.ok.injEq, Prod.mk.injEq] at checked
          rw [← checked.1]
          exact .int (.inr (.inl rfl)) (coerceInt_short short coerced) (by simp)
    · cases coerced : coerceInt v with
      | error e => simp [coerced] at checked
      | ok r =>
        cases r with
        | none => simp [coerced] at checked
        | some k =>
          simp only [coerced, except_ok_bind] at checked
          split at checked
          · simp at checked
          rename_i nonneg
          split at checked
          · simp at checked
          rename_i fits
          simp only [pure, Except.pure, Except.ok.injEq, Prod.mk.injEq] at checked
          rw [← checked.1]
          simp only [Nat.pow_eq, Nat.reducePow, Nat.cast_ofNat] at fits
          exact .int (.inr (.inr rfl)) (coerceInt_short short coerced) fun _ => ⟨by omega, by omega⟩
    · cases coerced : coerceReal v with
      | error e => simp [coerced] at checked
      | ok r =>
        cases r with
        | none => simp [coerced] at checked
        | some x =>
          simp only [coerced, except_ok_bind, pure, Except.pure, Except.ok.injEq, Prod.mk.injEq] at checked
          rw [← checked.1]
          exact .real x
    · simp only at checked
      split at checked
      · simp only [Except.ok.injEq, Prod.mk.injEq] at checked
        rw [← checked.1]
        exact .truth _
      · simp at checked
    · cases coerced : coerceText v with
      | error e => simp [coerced] at checked
      | ok r =>
        cases r with
        | none => simp [coerced] at checked
        | some s =>
          simp only [coerced, except_ok_bind, pure, Except.pure, Except.ok.injEq, Prod.mk.injEq] at checked
          rw [← checked.1]
          exact .text s
    · simp only at checked
      split at checked
      · split at checked
        · simp only [Except.ok.injEq, Prod.mk.injEq] at checked
          rw [← checked.1]
          exact .stage _
        · simp at checked
      · simp at checked

/-- Gathering the checked items of a list: with no issue at the end, there was no issue before,
and every item was checked without one. -/
theorem foldlM_gather (g : Value × Nat → Checked) :
    ∀ (items : List (Value × Nat)) (acc : Array Node × Array Issue) (r : Array Node × Array Issue),
      items.foldlM (fun b a => (fun c => (b.1.push c.1, b.2 ++ c.2.toArray)) <$> g a) acc = .ok r →
      r.2 = #[] → acc.2 = #[] ∧ ∃ nodes, r.1 = acc.1 ++ nodes.toArray ∧
        nodes.length = items.length ∧ ∀ p ∈ items.zip nodes, g p.1 = .ok (p.2, [])
  | [], acc, r, folded, clean => by
    simp only [List.foldlM_nil, pure, Except.pure, Except.ok.injEq] at folded
    subst folded
    exact ⟨clean, [], by simp, rfl, by simp⟩
  | a :: rest, acc, r, folded, clean => by
    rw [List.foldlM_cons] at folded
    cases checked : g a with
    | error e => simp [checked, Functor.map, Except.map] at folded
    | ok c =>
      simp only [checked, Functor.map, Except.map, except_ok_bind] at folded
      obtain ⟨before, nodes, gathered, sized, each⟩ := foldlM_gather g rest _ r folded clean
      have empty : acc.2 = #[] ∧ c.2 = [] := by
        simp only [Array.append_eq_empty_iff] at before
        exact ⟨before.1, by simpa using congrArg Array.toList before.2⟩
      refine ⟨empty.1, c.1 :: nodes, by simp [gathered], by simp [sized], ?_⟩
      intro p mem
      rcases List.mem_cons.mp mem with rfl | later
      · simp [checked, ← empty.2]
      · exact each p later

theorem mem_zip_of_mem_right {α β : Type} {as : List α} {bs : List β} {b : β}
    (sized : as.length = bs.length) (mem : b ∈ bs) : ∃ a, (a, b) ∈ as.zip bs := by
  obtain ⟨i, lt, rfl⟩ := List.getElem_of_mem mem
  exact ⟨as[i], List.mem_iff_getElem.mpr ⟨i, by simp [sized, lt], by simp⟩⟩

/-- The items of a list checked without issue: one node for each item, and each node the
check of an item without issue. -/
theorem checkItems_ok {loc : List String} {check : List String → Value → Checked}
    {items : List Value} {n : Node} (checked : checkItems loc check items = .ok (n, [])) :
    ∃ nodes, n = .list nodes ∧ nodes.length = items.length ∧
      ∀ node ∈ nodes, ∃ item ∈ items, ∃ l, check l item = .ok (node, []) := by
  unfold checkItems at checked
  simp only [bind_pure_comp] at checked
  simp at checked
  change (fun r : Array Node × Array Issue => (Node.list r.1.toList, r.2.toList)) <$>
    List.foldlM (fun (b : Array Node × Array Issue) (a : Value × Nat) =>
      (fun c : Node × List Issue => (b.1.push c.1, b.2 ++ c.2.toArray)) <$>
        check (loc ++ [Node.intText a.2]) a.1) (#[], #[]) items.zipIdx = Except.ok (n, []) at checked
  cases folded : List.foldlM (fun (b : Array Node × Array Issue) (a : Value × Nat) =>
      (fun c : Node × List Issue => (b.1.push c.1, b.2 ++ c.2.toArray)) <$>
        check (loc ++ [Node.intText a.2]) a.1) (#[], #[]) items.zipIdx with
  | error e =>
    rw [folded] at checked
    cases checked
  | ok r =>
    rw [folded] at checked
    simp only [Functor.map, Except.map, Except.ok.injEq, Prod.mk.injEq] at checked
    obtain ⟨-, nodes, gathered, sized, each⟩ :=
      foldlM_gather (fun a => check (loc ++ [Node.intText a.2]) a.1) _ _ r folded
        (by simpa using checked.2)
    refine ⟨nodes, by simp [← checked.1, gathered], by simpa using sized, fun node mem => ?_⟩
    obtain ⟨q, inZip⟩ := mem_zip_of_mem_right sized.symm mem
    exact ⟨q.1, List.fst_mem_of_mem_zipIdx (List.of_mem_zip inZip).1, _, each _ inZip⟩

theorem checkList_ok {loc : List String} {check : List String → Value → Checked} {v : Value}
    {n : Node} (checked : checkList loc check v = .ok (n, [])) :
    ∃ items, v = .arr items ∧ checkItems loc check items = .ok (n, []) := by
  unfold checkList at checked
  split at checked
  · simp at checked
  · exact ⟨_, rfl, checked⟩
  · simp at checked

theorem checkMark_ok {loc : List String} {v : Value} {n : Node}
    (checked : checkMark loc v = .ok (n, [])) : ∃ m, n = .mark m := by
  unfold checkMark at checked
  split at checked
  · simp at checked
  · split at checked
    · simp only [Except.ok.injEq, Prod.mk.injEq] at checked
      exact ⟨_, checked.1.symm⟩
    · simp at checked
  · simp at checked

/-- No status word passes: the vocabulary of statuses has no words. -/
theorem checkStatus_issue (loc : List String) (v : Value) (n : Node) :
    checkStatus loc v ≠ .ok (n, []) := by
  unfold checkStatus
  split <;> simp

/-! ### Arguments of records -/

theorem mem_of_mapM_some {α β : Type} {f : α → Option β} :
    ∀ {l : List α} {ys : List β}, l.mapM f = some ys → ∀ y ∈ ys, ∃ x ∈ l, f x = some y
  | [], ys, mapped => by
    simp only [List.mapM_nil, pure, Option.some.injEq] at mapped
    simp [← mapped]
  | x :: rest, ys, mapped => by
    rw [List.mapM_cons] at mapped
    cases fx : f x with
    | none => simp [fx] at mapped
    | some y =>
      cases more : rest.mapM f with
      | none => simp [fx, more] at mapped
      | some zs =>
        simp only [fx, more, Option.bind_some, Option.some.injEq, bind, pure] at mapped
        intro w mem
        rw [← mapped] at mem
        rcases List.mem_cons.mp mem with rfl | later
        · exact ⟨x, List.mem_cons_self, fx⟩
        · obtain ⟨x', inRest, found⟩ := mem_of_mapM_some more w later
          exact ⟨x', List.mem_cons_of_mem x inRest, found⟩

theorem pairsOf_short {items : List Value} {pairs : List (Value × Value)}
    (each : ∀ v ∈ items, v.Short) (paired : pairsOf items = some pairs) : ∀ p ∈ pairs, p.2.Short := by
  intro p mem
  obtain ⟨item, inItems, found⟩ := mem_of_mapM_some paired p mem
  have short := each item inItems
  split at found
  · split at found
    · cases found
    · cases found
    · cases found
      cases short with
      | arr members => exact members _ (by simp)
  · split at found
    · cases found
      exact .str _
    · cases found
  · cases found
    exact .str _
  · cases found

/-- An invariant of the state of a fold that every step keeps holds of its result. -/
theorem foldlM_invariant {ε α β : Type} {f : β → α → Except ε β} (P : β → Prop) (Q : α → Prop)
    (step : ∀ b a b', P b → Q a → f b a = .ok b' → P b') :
    ∀ (l : List α) (b r : β), P b → (∀ a ∈ l, Q a) → l.foldlM f b = .ok r → P r
  | [], b, r, holds, _, folded => by
    simp only [List.foldlM_nil, pure, Except.pure, Except.ok.injEq] at folded
    exact folded ▸ holds
  | a :: rest, b, r, holds, each, folded => by
    rw [List.foldlM_cons] at folded
    cases stepped : f b a with
    | error e => simp [stepped] at folded
    | ok b' =>
      rw [stepped, except_ok_bind] at folded
      exact foldlM_invariant P Q step rest b' r
        (step b a b' holds (each a List.mem_cons_self) stepped)
        (fun x mem => each x (List.mem_cons_of_mem a mem)) folded

theorem keywordsOf_short {pairs : List (Value × Value)} {args : List (String × Value)}
    (each : ∀ p ∈ pairs, p.2.Short) (given : keywordsOf pairs = .ok args) : ∀ a ∈ args, a.2.Short := by
  unfold keywordsOf at given
  refine foldlM_invariant (fun acc : List (String × Value) => ∀ a ∈ acc, a.2.Short)
    (fun p : Value × Value => p.2.Short) ?_ pairs [] args (by simp) each given
  intro acc p acc' before short added
  obtain ⟨k, v⟩ := p
  cases k
  case str s =>
    simp only [Except.ok.injEq] at added
    rw [← added]
    exact addMember_short before short
  all_goals simp at added

/-- The arguments a short document value gives a record are short. -/
theorem recordArguments_short {v : Value} {args : List (String × Value)} (short : v.Short)
    (given : recordArguments v = some (.ok args)) : ∀ a ∈ args, a.2.Short := by
  unfold recordArguments at given
  split at given
  · cases given
    cases short with
    | obj members => exact members
  · rename_i items
    cases paired : pairsOf items with
    | none => simp [paired] at given
    | some pairs =>
      simp only [paired, Option.map_some, Option.some.injEq] at given
      split at given
      · cases short with
        | arr each => exact keywordsOf_short (pairsOf_short each paired) given
      · cases given
  · cases given

/-! ### Defaults -/

/-- A seed of its field's shape gives a conforming default, given that the records below
conform at the fuel the seed is grown with. -/
theorem seedNode_conforms {fuel : Nat}
    (defaults : ∀ k, Kind.soundWithin fuel k = true → Conforms (.record k) (k.defaultWithin (fuel + 1)))
    {shape : Shape} {seed : Seed} (suits : seed.suits shape = true)
    (sound : shape.recordKind?.all (Kind.soundWithin fuel) = true) :
    Conforms shape (seedNode (fuel + 1) shape seed) := by
  cases seed with
  | int n =>
    have bound (small : n.natAbs < 10 ^ maxWrittenDigits) :
        decimalLength n.natAbs ≤ maxWrittenDigits :=
      decimalLength_le_of_lt_pow small (by decide)
    cases shape <;> simp [Seed.suits] at suits
    case integer | word32 =>
      simp only [seedNode]
      exact .int (by simp) (bound suits) (by simp)
    case word64 =>
      -- a 64-bit word has at most twenty digits
      have small : n.natAbs < 10 ^ 20 := by omega
      simp only [seedNode]
      exact .int (by simp) ((decimalLength_le_of_lt_pow small (by decide)).trans (by decide)) fun _ => suits
  | real x =>
    cases shape <;> simp [Seed.suits] at suits
    simp only [seedNode]
    exact .real x
  | truth b =>
    cases shape <;> simp [Seed.suits] at suits
    simp only [seedNode]
    exact .truth b
  | text s =>
    cases shape <;> simp [Seed.suits] at suits
    simp only [seedNode]
    exact .text s
  | stage s =>
    cases shape <;> simp [Seed.suits] at suits
    simp only [seedNode]
    exact .stage s
  | marks ms =>
    cases shape <;> simp [Seed.suits] at suits
    simp only [seedNode]
    exact .marks fun n mem => by
      obtain ⟨m, -, rfl⟩ := List.mem_map.mp mem
      exact ⟨m, rfl⟩
  | zeros count =>
    cases shape <;> simp [Seed.suits] at suits
    simp only [seedNode]
    exact .words fun n mem => by
      rw [List.eq_of_mem_replicate mem]
      exact .int (by simp) (by rw [decimalLength, if_pos (by decide)]; decide) (by simp)
  | blanks count =>
    cases shape <;> simp [Seed.suits] at suits
    simp only [seedNode]
    exact .texts fun n mem => by
      rw [List.eq_of_mem_replicate mem]
      exact .text ""
  | empty =>
    cases shape <;> simp [Seed.suits] at suits
    · simp only [seedNode]
      exact .statuses
    · simp only [seedNode]
      exact .anyList [] (by simp)
  | vector xs =>
    cases shape <;> simp [Seed.suits] at suits
    rename_i k
    obtain ⟨sized, reals⟩ := suits
    have built := Conforms.record (k := k) (xs.map .real) (by simpa using sized) fun p mem => by
      obtain ⟨inFields, inReals⟩ := List.of_mem_zip mem
      obtain ⟨x, -, same⟩ := List.mem_map.mp inReals
      rw [reals p.1 inFields, ← same]
      exact .real x
    simpa [seedNode] using built
  | record =>
    cases shape <;> simp [Seed.suits] at suits
    rename_i k
    simpa [seedNode, Shape.recordKind?] using defaults k (by simpa [Shape.recordKind?] using sound)
  | records count =>
    cases shape <;> simp [Seed.suits] at suits
    rename_i k
    have each := defaults k (by simpa [Shape.recordKind?] using sound)
    simp only [seedNode, Shape.recordKind?]
    exact .records fun n mem => by
      rw [List.eq_of_mem_replicate mem]
      exact each
  | absent =>
    cases shape <;> simp [Seed.suits] at suits
    simp only [seedNode]
    exact .absent _

theorem mem_zip_map_self {α β : Type} {g : α → β} :
    ∀ {l : List α} {p : α × β}, p ∈ l.zip (l.map g) → p.1 ∈ l ∧ p.2 = g p.1
  | [], _, mem => by simp at mem
  | a :: rest, p, mem => by
    rcases List.mem_cons.mp mem with rfl | later
    · exact ⟨List.mem_cons_self, rfl⟩
    · obtain ⟨inRest, same⟩ := mem_zip_map_self later
      exact ⟨List.mem_cons_of_mem a inRest, same⟩

/-- The default of a kind conforms when the schema is sound for it. By induction on the fuel:
the defaults of its record fields are grown with one level less. -/
theorem defaultWithin_conforms : ∀ (fuel : Nat) (k : Kind), k.soundWithin fuel = true →
    Conforms (.record k) (k.defaultWithin (fuel + 1))
  | 0, k, sound => by simp [Kind.soundWithin] at sound
  | fuel + 1, k, sound => by
    simp only [Kind.soundWithin, List.all_eq_true, Bool.and_eq_true] at sound
    have built := Conforms.record (k := k) (k.fields.map fun f => seedNode (fuel + 1) f.shape f.seed)
      (by simp) fun p mem => by
        obtain ⟨inFields, same⟩ := mem_zip_map_self mem
        rw [same]
        exact seedNode_conforms (defaultWithin_conforms fuel) (sound p.1 inFields).1
          (sound p.1 inFields).2
    rw [Kind.defaultWithin, fieldDefaults_eq_map, ← zip_map_names]
    exact built

/-! ### The check -/

/-- Checking a value as a record of a kind within `fuel` gives a conforming record, for every
kind the schema is sound for at that fuel. -/
def RecordCheckSound (fuel : Nat) : Prop :=
  ∀ (k : Kind) (loc : List String) (v : Value) (n : Node), k.soundWithin fuel = true → v.Short →
    checkRecordValue fuel k loc v = .ok (n, []) → Conforms (.record k) n

theorem checkRecordItems_conforms {fuel : Nat} (records : RecordCheckSound fuel) {k : Kind}
    {loc : List String} (sound : k.soundWithin fuel = true) :
    ∀ (items : List Value) (i : Nat) (n : Node), (∀ v ∈ items, v.Short) →
      checkRecordItems fuel k loc i items = .ok (n, []) →
      ∃ nodes, n = .list nodes ∧ ∀ x ∈ nodes, Conforms (.record k) x
  | [], i, n, _, checked => by
    unfold checkRecordItems at checked
    simp only [Except.ok.injEq, Prod.mk.injEq] at checked
    exact ⟨[], checked.1.symm, by simp⟩
  | item :: rest, i, n, each, checked => by
    unfold checkRecordItems at checked
    simp only [bind, Except.bind] at checked
    have restShort : ∀ v ∈ rest, v.Short := fun v mem => each v (List.mem_cons_of_mem _ mem)
    split at checked
    · -- a missing record is an issue
      simp only [pure, Except.pure] at checked
      cases tail : checkRecordItems fuel k loc (i + 1) rest with
      | error e => simp [tail] at checked
      | ok s =>
        simp only [tail] at checked
        split at checked <;> simp at checked
    · cases head : checkRecordValue fuel k (loc ++ [Node.intText i]) item with
      | error e => simp [head] at checked
      | ok r =>
        obtain ⟨x, headIssues⟩ := r
        cases tail : checkRecordItems fuel k loc (i + 1) rest with
        | error e => simp [head, tail] at checked
        | ok s =>
          obtain ⟨ns, tailIssues⟩ := s
          simp only [head, tail, pure, Except.pure] at checked
          have clean : headIssues = [] ∧ tailIssues = [] := by
            split at checked <;> simpa using (Prod.mk.inj (Except.ok.inj checked)).2
          rw [clean.1] at head
          rw [clean.2] at tail
          have conforms := records k _ item x sound (each item List.mem_cons_self) head
          obtain ⟨nodes, rfl, all⟩ := checkRecordItems_conforms records sound rest (i + 1) ns
            restShort tail
          simp only [Except.ok.injEq, Prod.mk.injEq] at checked
          refine ⟨x :: nodes, checked.1.symm, fun y mem => ?_⟩
          rcases List.mem_cons.mp mem with rfl | later
          · exact conforms
          · exact all y later

/-- A field checked without issue within `fuel + 1` holds a node of its shape. -/
theorem checkShape_conforms {fuel : Nat} (records : RecordCheckSound fuel) {shape : Shape}
    {loc : List String} {v : Value} {n : Node}
    (sound : shape.recordKind?.all (Kind.soundWithin fuel) = true) (short : v.Short)
    (checked : checkShape (fuel + 1) shape loc v = .ok (n, [])) : Conforms shape n := by
  have scalar (plain : shape = .integer ∨ shape = .word32 ∨ shape = .word64 ∨ shape = .real ∨
      shape = .truth ∨ shape = .text ∨ shape = .stage) : Conforms shape n := by
    unfold checkShape at checked
    rcases plain with rfl | rfl | rfl | rfl | rfl | rfl | rfl <;>
      exact checkScalar_conforms (by simp) short checked
  have each {items : List Value} (given : v = .arr items) : ∀ x ∈ items, x.Short := by
    subst given
    cases short with
    | arr each => exact each
  cases shape with
  | integer | word32 | word64 | real | truth | text | stage => exact scalar (by simp)
  | marks =>
    unfold checkShape at checked
    obtain ⟨items, rfl, listed⟩ := checkList_ok checked
    obtain ⟨nodes, rfl, -, checkedItems⟩ := checkItems_ok listed
    exact .marks fun x mem => by
      obtain ⟨_, _, _, marked⟩ := checkedItems x mem
      exact checkMark_ok marked
  | statuses =>
    unfold checkShape at checked
    obtain ⟨items, rfl, listed⟩ := checkList_ok checked
    obtain ⟨nodes, rfl, -, checkedItems⟩ := checkItems_ok listed
    cases nodes with
    | nil => exact .statuses
    | cons x rest =>
      obtain ⟨_, _, _, status⟩ := checkedItems x List.mem_cons_self
      exact absurd status (checkStatus_issue _ _ _)
  | words =>
    unfold checkShape at checked
    obtain ⟨items, given, listed⟩ := checkList_ok checked
    obtain ⟨nodes, rfl, -, checkedItems⟩ := checkItems_ok listed
    exact .words fun x mem => by
      obtain ⟨item, inItems, _, word⟩ := checkedItems x mem
      exact checkScalar_conforms (by simp) (each given item inItems) word
  | texts =>
    unfold checkShape at checked
    obtain ⟨items, given, listed⟩ := checkList_ok checked
    obtain ⟨nodes, rfl, -, checkedItems⟩ := checkItems_ok listed
    exact .texts fun x mem => by
      obtain ⟨item, inItems, _, text⟩ := checkedItems x mem
      exact checkScalar_conforms (by simp) (each given item inItems) text
  | anyList =>
    unfold checkShape at checked
    simp only at checked
    split at checked
    · simp at checked
    · simp only [Except.ok.injEq, Prod.mk.injEq] at checked
      rw [← checked.1]
      exact .anyList _ (each rfl)
    · simp at checked
  | record k =>
    unfold checkShape at checked
    simp only at checked
    split at checked
    · simp at checked
    · exact records k loc v n (by simpa [Shape.recordKind?] using sound) short checked
  | optional k =>
    unfold checkShape at checked
    simp only at checked
    split at checked
    · simp only [Except.ok.injEq, Prod.mk.injEq] at checked
      rw [← checked.1]
      exact .absent k
    · exact .present (records k loc v n (by simpa [Shape.recordKind?] using sound) short checked)
  | records k =>
    unfold checkShape at checked
    simp only at checked
    split at checked
    · simp at checked
    · obtain ⟨nodes, rfl, all⟩ := checkRecordItems_conforms records
        (by simpa [Shape.recordKind?] using sound) _ 0 n (each rfl) checked
      exact .records all
    · simp at checked

/-- Fields that the arguments do not give take their defaults, without issue. -/
theorem checkFields_absent {fuel : Nat} {k : Kind} {loc : List String}
    {args : List (String × Value)} :
    ∀ fields : List Field, (∀ f ∈ fields, args.find? (·.1 == f.name) = none) →
      checkFields fuel k loc args fields = .ok (.record k (fieldDefaults fuel k fields), [])
  | [], _ => by unfold checkFields; rw [fieldDefaults]
  | f :: rest, absent => by
    have tail := @checkFields_absent fuel k loc args rest
      fun g mem => absent g (List.mem_cons_of_mem f mem)
    unfold checkFields
    rw [absent f List.mem_cons_self]
    simp only [tail, fieldDefaults]
    rfl

/-- The fields of a record checked without issue within `fuel + 1`: one node for each field, in
order, each of the field's shape. -/
theorem checkFields_conforms {fuel : Nat} (records : RecordCheckSound fuel) {k : Kind}
    {loc : List String} {args : List (String × Value)} (argsShort : ∀ a ∈ args, a.2.Short) :
    ∀ (fields : List Field) (n : Node),
      (∀ f ∈ fields, f.seed.suits f.shape = true ∧
        f.shape.recordKind?.all (Kind.soundWithin fuel) = true) →
      checkFields (fuel + 1) k loc args fields = .ok (n, []) →
      ∃ nodes, n = .record k ((fields.map (·.name)).zip nodes) ∧ nodes.length = fields.length ∧
        ∀ p ∈ fields.zip nodes, Conforms p.1.shape p.2
  | [], n, _, checked => by
    unfold checkFields at checked
    simp only [Except.ok.injEq, Prod.mk.injEq] at checked
    exact ⟨[], by simp [← checked.1], rfl, by simp⟩
  | f :: rest, n, sound, checked => by
    unfold checkFields at checked
    obtain ⟨fieldOk, kindsOk⟩ := sound f List.mem_cons_self
    extract_lets next at checked
    -- the rest of the fields, once the first field's node is known
    have finish : ∀ x is, (is = [] → Conforms f.shape x) → next (x, is) = .ok (n, []) →
        ∃ nodes, n = .record k (((f :: rest).map (·.name)).zip nodes) ∧
          nodes.length = (f :: rest).length ∧ ∀ p ∈ (f :: rest).zip nodes, Conforms p.1.shape p.2 := by
      intro x is head more
      unfold next at more
      obtain ⟨⟨r, is'⟩, restChecked, final⟩ := except_bind_ok more
      have clean : is = [] ∧ is' = [] := by
        simp only [pure, Except.pure] at final
        split at final <;>
          simpa using (Prod.mk.inj (Except.ok.inj final)).2
      obtain ⟨nodes, rfl, sized, each⟩ := checkFields_conforms records argsShort rest r
        (fun g mem => sound g (List.mem_cons_of_mem f mem)) (clean.2 ▸ restChecked)
      simp only [pure, Except.pure, Except.ok.injEq, Prod.mk.injEq] at final
      refine ⟨x :: nodes, by simp [← final.1], by simp [sized], fun p mem => ?_⟩
      rcases List.mem_cons.mp mem with rfl | later
      · exact head clean.1
      · exact each p later
    split at checked
    · rename_i found
      obtain ⟨⟨x, is⟩, first, more⟩ := except_bind_ok checked
      exact finish x is (fun clean => checkShape_conforms records kindsOk
        (argsShort _ (List.mem_of_find?_eq_some found)) (clean ▸ first)) more
    · obtain ⟨⟨x, is⟩, first, more⟩ := except_bind_ok checked
      simp only [pure, Except.pure, Except.ok.injEq, Prod.mk.injEq] at first
      rw [← first.1, ← first.2] at more
      exact finish _ _ (fun _ => seedNode_conforms (defaultWithin_conforms fuel) fieldOk kindsOk) more

theorem recordCheckSound_succ {fuel : Nat} (records : RecordCheckSound fuel) :
    RecordCheckSound (fuel + 1) := by
  intro k loc v n sound short checked
  simp only [Kind.soundWithin, List.all_eq_true, Bool.and_eq_true] at sound
  unfold checkRecordValue at checked
  split at checked
  · simp at checked
  · simp at checked
  · rename_i args given
    -- a vector that is given itself or misses a component is an issue
    unfold checkArguments at checked
    split at checked
    · simp at checked
    · extract_lets missing at checked
      split at checked
      · simp at checked
      · obtain ⟨nodes, rfl, sized, each⟩ := checkFields_conforms records
          (recordArguments_short short given) k.fields n sound checked
        exact .record nodes sized each

/-- The check of a record, at any fuel the schema is sound for. -/
theorem recordCheckSound : ∀ fuel, RecordCheckSound fuel
  | 0 => fun _ _ _ _ sound => by simp [Kind.soundWithin] at sound
  | fuel + 1 => recordCheckSound_succ (recordCheckSound fuel)

/-- The schema is sound for the save at the fuel its check is given. -/
theorem root_soundWithin : Kind.root.soundWithin schemaDepth = true := by decide +kernel

theorem documentArguments_short {model text : String} {args : List (String × Value)}
    (given : documentArguments model text = .ok args) : ∀ a ∈ args, a.2.Short := by
  unfold documentArguments at given
  split at given
  · cases given
  · rename_i v read
    split at given
    · rename_i r found
      cases r with
      | ok args' =>
        cases given
        exact recordArguments_short (parse_short read) found
      | error e => cases given
    · cases given

/-- A save document that passes its check gives a save of the root's shape: its four blocks in
order, every field of every record a node of the field's shape. -/
theorem checkSaveDocument_conforms {text : String} {m : Node}
    (checked : checkSaveDocument text = .ok m) : Conforms (.record .root) m := by
  unfold checkSaveDocument at checked
  obtain ⟨args, given, fields⟩ := except_bind_ok checked
  have sound : Kind.soundWithin (7 + 1) Kind.root = true := root_soundWithin
  rw [Kind.soundWithin] at sound
  simp only [List.all_eq_true, Bool.and_eq_true] at sound
  split at fields
  · cases fields
  · cases fields
    rename_i found
    obtain ⟨nodes, rfl, sized, each⟩ := checkFields_conforms (recordCheckSound 7)
      (documentArguments_short given) Kind.root.fields m sound found
    exact .record nodes sized each
  · cases fields

end GinSave.Save
