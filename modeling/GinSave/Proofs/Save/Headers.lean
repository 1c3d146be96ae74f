import GinSave.Proofs.Save.Total

/-! The headers of lists in written save text. Within a block every line is a key and a value,
the key a dotted path of parts. A list writes a header `P = Array(n)` and then its kept items under
`P.0`, …, `P.(n-1)`. Read as entries of a key path and a value, the lines of every block of a
checked save have no key twice, and under every header the parts that follow its key are the
indices below its count (`compiled_headers_count`). The visibility pairs whose first item holds
nothing are the exception: past one item the writer keeps the first item of every list under
`pairs` and counts it, but an item that holds nothing writes no line.

The proof follows the writer's recursion. A node writes its entries at the path of its key
(`LinesAt`): a value one entry, a record the entries of its fields, a list its header and the
entries of its items. Fields and items stand under distinct parts of the path, so what one of them
writes never meets what another writes (`KeyedAt.flatMap`, `HeadersCount.flatMap`). -/

namespace GinSave.Save

open GinSave.Json

/-! ### Lines as keyed entries -/

/-- A line of a block: a key, given by its parts, and a value. -/
def entryLine (e : List String × String) : String :=
  keyOf e.1 ++ " = " ++ e.2

/-- The value of the header of a list of `n` items. -/
def arrayValue (n : Nat) : String :=
  "Array(" ++ Node.intText n ++ ")"

/-- Entries written at a path: every key is made of parts of keys and extends the path, and no
key comes twice. -/
structure KeyedAt (ctx : List String) (entries : List (List String × String)) : Prop where
  atoms : ∀ e ∈ entries, ∀ a ∈ e.1, Atom a
  below : ∀ e ∈ entries, ctx <+: e.1
  apart : (entries.map Prod.fst).Nodup

/-- A part that follows a key in some key of the entries. -/
def Follows (entries : List (List String × String)) (P : List String) (a : String) : Prop :=
  ∃ e ∈ entries, P ++ [a] <+: e.1

/-- Every header counts what is written under it: the parts that follow its key are exactly the
indices below its count. -/
def HeadersCount (entries : List (List String × String)) : Prop :=
  ∀ P n, (P, arrayValue n) ∈ entries → ∀ a, Follows entries P a ↔ ∃ i < n, a = Node.intText i

/-- The entries a node writes at a path: keyed there, every header counting its items, and at
least one entry when the node holds something. -/
structure WrittenAt (ctx : List String) (n : Node) (entries : List (List String × String)) :
    Prop where
  keyed : KeyedAt ctx entries
  counts : HeadersCount entries
  held : n.isNothing = false → entries ≠ []

/-- The lines a node writes at a path, read as entries. -/
def LinesAt (ctx : List String) (n : Node) (lines : List String) : Prop :=
  ∃ entries, lines = entries.map entryLine ∧ WrittenAt ctx n entries

/-- The lines of a block, read as entries: no key comes twice, and under every header the parts
that follow its key are the indices below its count, but for the first of the visibility pairs
when it holds nothing and others follow it. -/
def BlockCounted (b : String) (block : Node) (lines : List String) : Prop :=
  ∃ entries, lines = entries.map entryLine ∧ KeyedAt [] entries ∧
    ∀ P n, (P, arrayValue n) ∈ entries → ∀ a, Follows entries P a ↔
      ∃ i < n, a = Node.intText i ∧ ¬ (b = "saved_visibility2" ∧ P = ["pairs"] ∧ i = 0 ∧
        ∃ rest, rest ≠ [] ∧ block.listAt? ["pairs"] = some (.none :: rest))

/-! ### Keys and values -/

/-- Two keys one part longer than a path, both leading a third key, agree on that part. -/
theorem part_eq_of_leads {ctx key : List String} {a b : String} (first : ctx ++ [a] <+: key)
    (second : ctx ++ [b] <+: key) : a = b := by
  have same := (List.prefix_of_prefix_length_le first second (by simp)).eq_of_length (by simp)
  simpa using same

theorem not_prefix_of_length {ctx key : List String} {a : String}
    (shorter : key.length ≤ ctx.length) : ¬ ctx ++ [a] <+: key := by
  intro pre
  have longer := pre.length_le
  simp only [List.length_append, List.length_singleton] at longer
  omega

theorem intText_natCast_inj {i j : Nat} (same : Node.intText i = Node.intText j) : i = j := by
  rw [intText_natCast, intText_natCast] at same
  exact Nat.repr_inj.mp same

theorem arrayValue_inj {n k : Nat} (same : arrayValue n = arrayValue k) : n = k := by
  have lists := congrArg String.toList same
  simp only [arrayValue, String.toList_append, List.append_cancel_left_eq,
    List.append_cancel_right_eq] at lists
  exact intText_natCast_inj (String.toList_inj.mp lists)

theorem arrayValue_head (n : Nat) : (arrayValue n).toList.head? = some 'A' := by
  simp [arrayValue]

theorem header_entryLine (ctx : List String) (n : Nat) :
    keyOf ctx ++ " = Array(" ++ Node.intText n ++ ")" = entryLine (ctx, arrayValue n) := by
  simp only [entryLine, arrayValue, String.append_assoc]
  rfl

/-- No value the writer puts on a line of its own starts as a header does. -/
theorem writeTagged_unheaded {v : Node} {key : Option String} {V : String}
    (plain : v.isBranch = false) (tagged : writeTagged v key = .ok V) :
    V.toList.head? ≠ some 'A' := by
  cases v with
  | int n =>
    obtain ⟨digits, -, done⟩ := except_bind_ok tagged
    simp only [except_pure, Except.ok.injEq] at done
    subst done
    rcases intTag_cases key with same | same | same <;> simp [same]
  | record k fs =>
    have vector : k.isVector = true := by simpa [Node.isBranch] using plain
    simp only [writeTagged, vector, if_true, Except.ok.injEq] at tagged
    subst tagged
    cases k <;> simp_all [Kind.isVector, Kind.name]
  | real x =>
    simp only [writeTagged, Except.ok.injEq] at tagged
    subst tagged
    split <;> simp
  | _ =>
    simp only [writeTagged, Except.ok.injEq] at tagged
    subst tagged
    simp [Node.plainText, Node.display]

/-! ### Writing one line -/

theorem WrittenAt.nothing {ctx : List String} {n : Node} (nothing : n.isNothing = true) :
    WrittenAt ctx n [] :=
  ⟨⟨by simp, by simp, by simp⟩, fun _ _ header => absurd header List.not_mem_nil,
    fun held => absurd nothing (by simp [held])⟩

/-- A node written as one line whose value is no header. -/
theorem linesAt_one {ctx : List String} (atoms : ∀ a ∈ ctx, Atom a) {n : Node} {V : String}
    (unheaded : V.toList.head? ≠ some 'A') : LinesAt ctx n [keyOf ctx ++ " = " ++ V] := by
  refine ⟨[(ctx, V)], rfl, ⟨⟨by simpa using atoms, by simp, by simp⟩, ?_, by simp⟩⟩
  intro P k header
  simp only [List.mem_singleton, Prod.mk.injEq] at header
  exact absurd (header.2 ▸ arrayValue_head k) unheaded

theorem linesAt_single {ctx : List String} (atoms : ∀ a ∈ ctx, Atom a) {v : Node}
    (plain : v.isBranch = false) (single : ∀ items, v ≠ .list items) {lines : List String}
    (written : writeNode (keyOf ctx) v = .ok lines) : LinesAt ctx v lines := by
  rw [writeNode_single plain single] at written
  obtain ⟨V, tagged, rfl⟩ := except_map_eq_ok written
  exact linesAt_one atoms (writeTagged_unheaded plain tagged)

/-! ### Entries of several parts -/

/-- A map that writes each element's lines as entries writes, all in all, the entries of every
element in order. -/
theorem mapM_entries {α : Type} {f : α → Except Fault (List String)}
    {R : α → List (List String × String) → Prop} :
    ∀ {l : List α} {parts : List (List String)}, l.mapM f = .ok parts →
      (∀ a ∈ l, ∀ lines, f a = .ok lines → ∃ entries, lines = entries.map entryLine ∧ R a entries) →
      ∃ written : List (α × List (List String × String)), written.map Prod.fst = l ∧
        parts.flatten = (written.flatMap Prod.snd).map entryLine ∧ ∀ w ∈ written, R w.1 w.2
  | [], parts, mapped, _ => by
    simp only [List.mapM_nil, except_pure, Except.ok.injEq] at mapped
    subst mapped
    exact ⟨[], rfl, rfl, by simp⟩
  | a :: l, parts, mapped, each => by
    rw [List.mapM_cons] at mapped
    obtain ⟨lines, first, rest⟩ := except_bind_ok mapped
    obtain ⟨others, restMapped, done⟩ := except_bind_ok rest
    simp only [except_pure, Except.ok.injEq] at done
    subst done
    obtain ⟨entries, rfl, holds⟩ := each a List.mem_cons_self lines first
    obtain ⟨written, firsts, flat, all⟩ :=
      mapM_entries restMapped fun b mem => each b (List.mem_cons_of_mem a mem)
    refine ⟨(a, entries) :: written, by simp [firsts], by simp [flat], ?_⟩
    intro w mem
    rcases List.mem_cons.mp mem with rfl | later
    · exact holds
    · exact all w later

section Parts

variable {β : Type} {ctx : List String} {name : β → String}
  {written : List (β × List (List String × String))}

/-- Only the part a key lies in writes keys that lead with it. -/
theorem part_of_leading_key (names : (written.map (name ∘ Prod.fst)).Nodup)
    (keyed : ∀ w ∈ written, KeyedAt (ctx ++ [name w.1]) w.2)
    {w w' : β × List (List String × String)} (mem : w ∈ written) (mem' : w' ∈ written)
    {P key : List String} (led : ctx ++ [name w.1] <+: P) (inW' : ∃ e ∈ w'.2, e.1 = key)
    (leads : P <+: key) : w = w' := by
  obtain ⟨e', inW', rfl⟩ := inW'
  have first : ctx ++ [name w.1] <+: e'.1 := led.trans leads
  have second := (keyed w' mem').below e' inW'
  exact List.inj_on_of_nodup_map names mem mem' (part_eq_of_leads first second)

theorem KeyedAt.flatMap (names : (written.map (name ∘ Prod.fst)).Nodup)
    (keyed : ∀ w ∈ written, KeyedAt (ctx ++ [name w.1]) w.2) :
    KeyedAt ctx (written.flatMap Prod.snd) := by
  refine ⟨fun e mem => ?_, fun e mem => ?_, ?_⟩
  · obtain ⟨w, inWritten, inW⟩ := List.mem_flatMap.mp mem
    exact (keyed w inWritten).atoms e inW
  · obtain ⟨w, inWritten, inW⟩ := List.mem_flatMap.mp mem
    exact (List.prefix_append ctx _).trans ((keyed w inWritten).below e inW)
  · rw [List.map_flatMap, List.nodup_flatMap]
    refine ⟨fun w mem => (keyed w mem).apart, ?_⟩
    -- two parts under distinct names write disjoint keys
    refine (List.pairwise_map.mp names).imp_of_mem fun {w w'} mem mem' apart => ?_
    intro key inW inW'
    obtain ⟨e, inPart, rfl⟩ := List.mem_map.mp inW
    obtain ⟨e', inPart', same⟩ := List.mem_map.mp inW'
    exact apart (congrArg (name ∘ Prod.fst) (part_of_leading_key names keyed mem mem'
      ((keyed w mem).below e inPart) ⟨e', inPart', same⟩ (List.prefix_refl _)))

theorem HeadersCount.flatMap (names : (written.map (name ∘ Prod.fst)).Nodup)
    (keyed : ∀ w ∈ written, KeyedAt (ctx ++ [name w.1]) w.2)
    (counts : ∀ w ∈ written, HeadersCount w.2) : HeadersCount (written.flatMap Prod.snd) := by
  intro P n header a
  obtain ⟨w, mem, inW⟩ := List.mem_flatMap.mp header
  rw [← counts w mem P n inW a]
  constructor
  · -- a key that follows the header lies in the header's own part
    rintro ⟨e, inAll, leads⟩
    obtain ⟨w', mem', inW'⟩ := List.mem_flatMap.mp inAll
    have led := (keyed w mem).below _ inW
    obtain rfl := part_of_leading_key names keyed mem mem' led ⟨e, inW', rfl⟩
      ((List.prefix_append P [a]).trans leads)
    exact ⟨e, inW', leads⟩
  · rintro ⟨e, inW', leads⟩
    exact ⟨e, List.mem_flatMap.mpr ⟨w, mem, inW'⟩, leads⟩

end Parts

/-! ### Records and lists -/

/-- A record writes the entries of its fields, each under its own name; it writes one at least
when one of its fields holds something. -/
theorem linesAt_record {ctx : List String} (atoms : ∀ a ∈ ctx, Atom a) {k : Kind}
    (branch : k.isVector = false) {fs : List (String × Node)} (names : (fs.map Prod.fst).Nodup)
    (held : ∃ p ∈ fs, p.2.isNothing = false)
    (each : ∀ p ∈ fs, p.2.isNothing = false → ∀ lines,
      writeNode (keyOf (ctx ++ [p.1])) p.2 = .ok lines → LinesAt (ctx ++ [p.1]) p.2 lines)
    {lines : List String} (written : writeNode (keyOf ctx) (.record k fs) = .ok lines) :
    LinesAt ctx (.record k fs) lines := by
  rw [writeNode_record _ branch] at written
  obtain ⟨parts, mapped, rfl⟩ := except_map_eq_ok written
  obtain ⟨ws, firsts, flat, all⟩ := mapM_entries
    (R := fun p entries => WrittenAt (ctx ++ [p.1]) p.2 entries) mapped fun p mem ls fieldOk => by
      unfold fieldLines at fieldOk
      split at fieldOk
      · rename_i nothing
        simp only [Except.ok.injEq] at fieldOk
        exact ⟨[], fieldOk.symm, WrittenAt.nothing nothing⟩
      · rename_i something
        rw [joinKey_keyOf atoms] at fieldOk
        exact each p mem (by simpa using something) ls fieldOk
  have distinct : (ws.map (Prod.fst ∘ Prod.fst)).Nodup := by
    rw [← List.map_map, firsts]
    exact names
  refine ⟨_, flat, KeyedAt.flatMap distinct fun w mem => (all w mem).keyed,
    HeadersCount.flatMap distinct (fun w mem => (all w mem).keyed) fun w mem => (all w mem).counts,
    fun _ => ?_⟩
  -- the field that holds something writes an entry
  obtain ⟨p, mem, something⟩ := held
  rw [← firsts] at mem
  obtain ⟨w, inWs, rfl⟩ := List.mem_map.mp mem
  obtain ⟨e, inW⟩ := List.exists_mem_of_ne_nil _ ((all w inWs).held something)
  exact List.ne_nil_of_mem (List.mem_flatMap.mpr ⟨w, inWs, inW⟩)

theorem mem_of_mem_unattach {items : List Node} {kept : List { x // x ∈ items }} {x : Node}
    (mem : x ∈ kept.unattach) : x ∈ items := by
  obtain ⟨⟨y, inItems⟩, -, same⟩ := List.mem_map.mp mem
  exact same ▸ inItems

/-- The header of a list counts its kept items, which all write entries: the parts that follow
its key are the indices of the items. -/
theorem follows_items {ctx : List String} {kept : List Node}
    {ws : List ((Node × Nat) × List (List String × String))}
    (firsts : ws.map Prod.fst = kept.zipIdx) (held : ∀ x ∈ kept, x.isNothing = false)
    (all : ∀ w ∈ ws, WrittenAt (ctx ++ [Node.intText w.1.2]) w.1.1 w.2) (a : String) :
    Follows ((ctx, arrayValue kept.length) :: ws.flatMap Prod.snd) ctx a ↔
      ∃ i < kept.length, a = Node.intText i := by
  constructor
  · rintro ⟨e, mem, leads⟩
    rcases List.mem_cons.mp mem with rfl | inItems
    · exact absurd leads (not_prefix_of_length le_rfl)
    · obtain ⟨w, inWs, inW⟩ := List.mem_flatMap.mp inItems
      have inZip : w.1 ∈ kept.zipIdx := firsts ▸ List.mem_map_of_mem inWs
      have bound : w.1.2 < kept.length := by simpa using (List.mem_zipIdx inZip).2.1
      exact ⟨w.1.2, bound,
        part_eq_of_leads leads ((all w inWs).keyed.below e inW)⟩
  · rintro ⟨i, bound, rfl⟩
    have inZip : (kept[i], i) ∈ kept.zipIdx := by
      rw [List.mk_mem_zipIdx_iff_getElem?, List.getElem?_eq_getElem bound]
    rw [← firsts] at inZip
    obtain ⟨w, inWs, same⟩ := List.mem_map.mp inZip
    have something : w.1.1.isNothing = false := by
      rw [same]
      exact held _ (List.getElem_mem bound)
    obtain ⟨e, inW⟩ := List.exists_mem_of_ne_nil _ ((all w inWs).held something)
    refine ⟨e, List.mem_cons_of_mem _ (List.mem_flatMap.mpr ⟨w, inWs, inW⟩), ?_⟩
    have below := (all w inWs).keyed.below e inW
    rwa [same] at below

/-- A list that is no list of flags writes its header and the entries of its kept items, each
under its index. -/
theorem linesAt_items {ctx : List String} (atoms : ∀ a ∈ ctx, Atom a) (nonempty : ctx ≠ [])
    {items : List Node} {kept : List { x // x ∈ items }}
    (unflagged : ((keyOf ctx).endsWith "flags" || (keyOf ctx).endsWith "datapad.status") = false)
    (keeps : keptItems (keyOf ctx) items = .ok kept) (held : ∀ x ∈ kept.unattach, x.isNothing = false)
    (each : ∀ x ∈ items, x.isNothing = false → ∀ (i : Nat) lines,
      writeNode (keyOf (ctx ++ [Node.intText i])) x = .ok lines →
        LinesAt (ctx ++ [Node.intText i]) x lines)
    {lines : List String} (written : writeNode (keyOf ctx) (.list items) = .ok lines) :
    LinesAt ctx (.list items) lines := by
  rw [writeNode_items _ unflagged keeps] at written
  obtain ⟨parts, mapped, rfl⟩ := except_map_eq_ok written
  obtain ⟨ws, firsts, flat, all⟩ := mapM_entries
    (R := fun q entries => WrittenAt (ctx ++ [Node.intText q.2]) q.1 entries) mapped
    fun q mem ls itemOk => by
      unfold itemLines at itemOk
      split at itemOk
      · rename_i nothing
        simp only [Except.ok.injEq] at itemOk
        exact ⟨[], itemOk.symm, WrittenAt.nothing nothing⟩
      · rename_i something
        rw [keyOf_append_single nonempty] at itemOk
        exact each q.1 (mem_of_mem_unattach (List.fst_mem_of_mem_zipIdx mem))
          (by simpa using something) q.2 ls itemOk
  -- the items stand under distinct indices
  have distinct : (ws.map ((fun q : Node × Nat => Node.intText q.2) ∘ Prod.fst)).Nodup := by
    have indexed : (fun q : Node × Nat => Node.intText q.2) = (fun i : Nat => Node.intText i) ∘ Prod.snd :=
      rfl
    rw [← List.map_map, firsts, indexed, ← List.map_map, List.zipIdx_map_snd]
    exact (List.nodup_range' 1).map fun _ _ same => intText_natCast_inj same
  have keyed : ∀ w ∈ ws, KeyedAt (ctx ++ [Node.intText w.1.2]) w.2 := fun w mem => (all w mem).keyed
  have items := KeyedAt.flatMap distinct keyed
  have counted := HeadersCount.flatMap distinct keyed
    fun w mem => (all w mem).counts
  -- the header's key is shorter than every key of the items
  have shorter : ∀ {P : List String} {a : String}, (∃ e ∈ ws.flatMap Prod.snd, e.1 = P) →
      ¬ P ++ [a] <+: ctx := by
    rintro P a ⟨e, inItems, rfl⟩ leads
    obtain ⟨w, inWs, inW⟩ := List.mem_flatMap.mp inItems
    have longer := ((keyed w inWs).below e inW).length_le
    have within := leads.length_le
    simp only [List.length_append, List.length_singleton] at longer within
    omega
  have kept_length : kept.length = kept.unattach.length := List.length_unattach.symm
  refine ⟨(ctx, arrayValue kept.length) :: ws.flatMap Prod.snd, ?_, ⟨⟨?_, ?_, ?_⟩, ?_, by simp⟩⟩
  · rw [List.map_cons, ← flat, header_entryLine]
  · intro e mem
    rcases List.mem_cons.mp mem with rfl | inItems
    · exact atoms
    · exact items.atoms e inItems
  · intro e mem
    rcases List.mem_cons.mp mem with rfl | inItems
    · exact List.prefix_refl _
    · exact items.below e inItems
  · rw [List.map_cons, List.nodup_cons]
    refine ⟨fun inItems => ?_, items.apart⟩
    obtain ⟨e, inItems, same⟩ := List.mem_map.mp inItems
    obtain ⟨w, inWs, inW⟩ := List.mem_flatMap.mp inItems
    have longer := ((keyed w inWs).below e inW).length_le
    rw [same] at longer
    simp at longer
  · intro P n header a
    rcases List.mem_cons.mp header with same | inItems
    · -- the list's own header
      simp only [Prod.mk.injEq] at same
      obtain ⟨rfl, counts⟩ := same
      rw [arrayValue_inj counts, kept_length]
      exact follows_items firsts held all a
    · rw [← counted P n inItems a]
      constructor
      · rintro ⟨e, mem, leads⟩
        rcases List.mem_cons.mp mem with rfl | inAll
        · exact absurd leads (shorter ⟨_, inItems, rfl⟩)
        · exact ⟨e, inAll, leads⟩
      · rintro ⟨e, inAll, leads⟩
        exact ⟨e, List.mem_cons_of_mem _ inAll, leads⟩

/-- A list writes its entries at its key: one value of flags under a key of flags, else its
header and its items. -/
theorem linesAt_list {ctx : List String} (atoms : ∀ a ∈ ctx, Atom a) (nonempty : ctx ≠ [])
    {items : List Node}
    (held : ∀ kept, keptItems (keyOf ctx) items = .ok kept → ∀ x ∈ kept.unattach,
      x.isNothing = false)
    (each : ∀ x ∈ items, x.isNothing = false → ∀ (i : Nat) lines,
      writeNode (keyOf (ctx ++ [Node.intText i])) x = .ok lines →
        LinesAt (ctx ++ [Node.intText i]) x lines)
    {lines : List String} (written : writeNode (keyOf ctx) (.list items) = .ok lines) :
    LinesAt ctx (.list items) lines := by
  obtain ⟨kept, keeps⟩ : ∃ kept, keptItems (keyOf ctx) items = .ok kept := by
    cases keeps : keptItems (keyOf ctx) items with
    | ok kept => exact ⟨kept, rfl⟩
    | error f =>
      rw [writeNode.eq_2, keeps] at written
      cases written
  cases flagged : ((keyOf ctx).endsWith "flags" || (keyOf ctx).endsWith "datapad.status")
  · exact linesAt_items atoms nonempty flagged keeps (held kept keeps) each written
  · -- one value of flags
    rw [writeNode.eq_2, keeps] at written
    simp only [except_ok_bind, flagged, if_true] at written
    obtain ⟨words, -, done⟩ := except_bind_ok written
    simp only [except_pure, Except.ok.injEq] at done
    subst done
    have flagsLine : keyOf ctx ++ " = Flags(" ++ String.join words ++ ")" =
        keyOf ctx ++ " = " ++ ("Flags(" ++ String.join words ++ ")") := by
      simp only [String.append_assoc]
      rfl
    rw [flagsLine]
    exact linesAt_one atoms (by simp)

/-! ### Conforming nodes -/

theorem isNothing_of_unblank {x : Node} (unblank : isBlankItem x = false) :
    x.isNothing = false := by
  cases x <;> simp_all [isBlankItem, Node.isNothing]

/-- Outside the pairs a list keeps no item that holds nothing. -/
theorem keptItems_held_of_plain {key : String} (unpaired : key ≠ "pairs") {items : List Node}
    {kept : List { x // x ∈ items }} (keeps : keptItems key items = .ok kept) :
    ∀ x ∈ kept.unattach, x.isNothing = false := by
  intro x mem
  have filtered := keptItems_plain unpaired items
  rw [keeps] at filtered
  simp only [Except.map, Except.ok.injEq] at filtered
  rw [filtered, List.mem_filter] at mem
  exact isNothing_of_unblank (by simpa using mem.2)

/-- A list under a key other than the pairs writes its entries when each item that holds
something writes its own. -/
theorem linesAt_unpaired {ctx : List String} (atoms : ∀ a ∈ ctx, Atom a) (nonempty : ctx ≠ [])
    (unpaired : keyOf ctx ≠ "pairs") {items : List Node}
    (each : ∀ x ∈ items, x.isNothing = false → ∀ (i : Nat) lines,
      writeNode (keyOf (ctx ++ [Node.intText i])) x = .ok lines →
        LinesAt (ctx ++ [Node.intText i]) x lines)
    {lines : List String} (written : writeNode (keyOf ctx) (.list items) = .ok lines) :
    LinesAt ctx (.list items) lines :=
  linesAt_list atoms nonempty (fun _ keeps => keptItems_held_of_plain unpaired keeps) each written

/-- Every kind that is written field by field leads with a field that is not optional. -/
theorem Kind.first_unoptional (k : Kind) (branch : k.isVector = false) :
    ∃ f rest, k.fields = f :: rest ∧ ∀ k', f.shape ≠ .optional k' := by
  cases k <;> simp [Kind.fields, Kind.isVector] at branch ⊢

theorem Conforms.isNothing {sh : Shape} {n : Node} (conf : Conforms sh n)
    (unoptional : ∀ k, sh ≠ .optional k) : n.isNothing = false := by
  cases conf with
  | absent k => exact absurd rfl (unoptional k)
  | present record => cases record <;> rfl
  | _ => rfl

/-- A conforming record written field by field has a field that holds something: its first. -/
theorem Conforms.record_held {k : Kind} {nodes : List Node} (branch : k.isVector = false)
    (sized : nodes.length = k.fields.length) (each : ∀ p ∈ k.fields.zip nodes, Conforms p.1.shape p.2) :
    ∃ p ∈ k.fieldNames.zip nodes, p.2.isNothing = false := by
  obtain ⟨f, rest, fields, unoptional⟩ := Kind.first_unoptional k branch
  obtain ⟨n₀, others, rfl⟩ : ∃ n₀ others, nodes = n₀ :: others := by
    cases nodes with
    | nil => simp [fields] at sized
    | cons n₀ others => exact ⟨n₀, others, rfl⟩
  have first := each (f, n₀) (by simp [fields])
  exact ⟨(f.name, n₀), by simp [Kind.fieldNames, fields], first.isNothing unoptional⟩

theorem listed_of_top {ctx : List String} {items : List Node}
    (top : ctx = [] → (Node.list items).isBranch = true) : ctx ≠ [] := by
  rintro rfl
  simpa [Node.isBranch] using top rfl

/-- A document value writes its entries at a plain key. By induction on the value: a list keeps
its items that are not blank, each under a plain key that ends with its index. -/
theorem linesAt_ofValue {v : Value} (short : v.Short) :
    ∀ {ctx : List String} {lines : List String}, (∀ a ∈ ctx, Atom a) → ctx ≠ [] →
      PlainKey (keyOf ctx) → writeNode (keyOf ctx) (Node.ofValue v) = .ok lines →
        LinesAt ctx (Node.ofValue v) lines := by
  induction short with
  | arr _ ih =>
    intro ctx lines atoms nonempty plain written
    rw [Node.ofValue] at written ⊢
    refine linesAt_unpaired atoms nonempty plain.unpaired (fun x mem _ i ls itemOk => ?_) written
    obtain ⟨u, inValues, rfl⟩ := mem_ofItems mem
    have plainItem : PlainKey (keyOf (ctx ++ [Node.intText i])) := by
      rw [← keyOf_append_single nonempty]
      exact PlainKey.item _ i
    exact ih u inValues (atoms_snoc atoms (atom_intText i)) (by simp) plainItem itemOk
  | _ =>
    intro ctx lines atoms _ _ written
    exact linesAt_single atoms rfl (by simp [Node.ofValue]) written

/-- The items of a list of document values write their entries, each under its index. -/
theorem linesAt_ofItems {values : List Value} (short : ∀ v ∈ values, v.Short) {ctx : List String}
    (atoms : ∀ a ∈ ctx, Atom a) (nonempty : ctx ≠ []) :
    ∀ x ∈ Node.ofItems values, x.isNothing = false → ∀ (i : Nat) lines,
      writeNode (keyOf (ctx ++ [Node.intText i])) x = .ok lines →
        LinesAt (ctx ++ [Node.intText i]) x lines := by
  intro x mem _ i lines itemOk
  obtain ⟨u, inValues, rfl⟩ := mem_ofItems mem
  have plainItem : PlainKey (keyOf (ctx ++ [Node.intText i])) := by
    rw [← keyOf_append_single nonempty]
    exact PlainKey.item _ i
  exact linesAt_ofValue (short u inValues) (atoms_snoc atoms (atom_intText i)) (by simp) plainItem
    itemOk

/-- A node of a shape writes its entries at every key the shape allows. By induction on the
conformance, each kind of node handed to the lemma for its own form of writing. -/
theorem Conforms.linesAt {sh : Shape} {n : Node} (conf : Conforms sh n) :
    ∀ {ctx : List String} {lines : List String}, (∀ a ∈ ctx, Atom a) → sh.AllowsKey (keyOf ctx) →
      (ctx = [] → n.isBranch = true) → writeNode (keyOf ctx) n = .ok lines →
        LinesAt ctx n lines := by
  induction conf with
  | int _ _ _ | real | truth | text | stage | absent =>
    intro ctx lines atoms _ _ written
    exact linesAt_single atoms rfl (by simp) written
  | marks each =>
    intro ctx lines atoms (unpaired : keyOf ctx ≠ "pairs") top written
    refine linesAt_unpaired atoms (listed_of_top top) unpaired (fun x mem _ i ls itemOk => ?_) written
    obtain ⟨m, rfl⟩ := each x mem
    exact linesAt_single (atoms_snoc atoms (atom_intText i)) rfl (by simp) itemOk
  | statuses =>
    intro ctx lines atoms _ top written
    exact linesAt_list atoms (listed_of_top top)
      (fun _ _ x mem => absurd (mem_of_mem_unattach mem) List.not_mem_nil)
      (fun x mem => absurd mem List.not_mem_nil) written
  | words each =>
    intro ctx lines atoms (plain : PlainKey _) top written
    refine linesAt_unpaired atoms (listed_of_top top) plain.unpaired
      (fun x mem _ i ls itemOk => ?_) written
    cases each x mem with
    | int => exact linesAt_single (atoms_snoc atoms (atom_intText i)) rfl (by simp) itemOk
  | texts each =>
    intro ctx lines atoms (plain : PlainKey _) top written
    refine linesAt_unpaired atoms (listed_of_top top) plain.unpaired
      (fun x mem _ i ls itemOk => ?_) written
    cases each x mem with
    | int numeric => simp at numeric
    | text => exact linesAt_single (atoms_snoc atoms (atom_intText i)) rfl (by simp) itemOk
  | anyList values short =>
    intro ctx lines atoms (plain : PlainKey _) top written
    exact linesAt_unpaired atoms (listed_of_top top) plain.unpaired
      (linesAt_ofItems short atoms (listed_of_top top)) written
  | record nodes sized each ih =>
    rename_i k
    intro ctx lines atoms allows _ written
    cases vector : k.isVector with
    | true =>
      exact linesAt_single atoms (by simp [Node.isBranch, vector]) (by simp) written
    | false =>
      have fits := Kind.fields_fitName k allows.1 allows.2
      refine linesAt_record atoms vector (names_zip_nodup k sized) (Conforms.record_held vector sized each)
        (fun p mem _ ls fieldOk => ?_) written
      -- each field is written under its name, which its shape allows
      obtain ⟨name, v⟩ := p
      rw [Kind.fieldNames, List.zip_map_left] at mem
      obtain ⟨⟨f, u⟩, inZip, named⟩ := List.mem_map.mp mem
      simp only [Prod.map, id_eq, Prod.mk.injEq] at named
      obtain ⟨rfl, rfl⟩ := named
      have allowed := Shape.allowsKey_of_fitsName (fits f (List.of_mem_zip inZip).1) (keyOf ctx)
      rw [joinKey_keyOf atoms] at allowed
      have atom := ((Kind.names_wellFormed k).2 _ (List.mem_map_of_mem (List.of_mem_zip inZip).1)).1
      exact ih _ inZip (atoms_snoc atoms atom) allowed (by simp) fieldOk
  | records each ih =>
    rename_i k items
    intro ctx lines atoms allows top written
    obtain ⟨-, -, notVis, notRoot⟩ := allows
    refine linesAt_list atoms (listed_of_top top)
      (fun _ _ x mem => isNothing_of_unblank (each x (mem_of_mem_unattach mem)).record_unblank)
      (fun x mem _ i ls itemOk => ?_) written
    exact ih x mem (atoms_snoc atoms (atom_intText i)) ⟨notVis, notRoot⟩ (by simp) itemOk
  | present _ ih =>
    intro ctx lines atoms allows top written
    exact ih atoms allows top written

/-! ### The blocks of a checked save -/

theorem Conforms.record_isBranch {k : Kind} {n : Node} (conf : Conforms (.record k) n)
    (branch : k.isVector = false) : n.isBranch = true := by
  cases conf with
  | int numeric => simp at numeric
  | record => simp [Node.isBranch, branch]

/-- A block other than the visibility writes its entries from the top, every header counting its
items. -/
theorem blockCounted_of_conforms {k : Kind} {block : Node} (conf : Conforms (.record k) block)
    (inner : k ≠ .visibility ∧ k ≠ .root) (branch : k.isVector = false) {lines : List String}
    (written : writeNode "" block = .ok lines) {b : String} (other : b ≠ "saved_visibility2") :
    BlockCounted b block lines := by
  obtain ⟨entries, rfl, keyed, counts, -⟩ :=
    @Conforms.linesAt _ _ conf [] lines (by simp) inner (fun _ => conf.record_isBranch branch) written
  refine ⟨entries, rfl, keyed, fun P n header a => ?_⟩
  rw [counts P n header a]
  simp [other]

/-- Past one item the visibility pairs keep their first item only. -/
theorem keptItems_visibility_first {values : List Value} {first : Node} {rest : List Node}
    (more : rest ≠ []) (items : Node.ofItems values = first :: rest)
    {kept : List { x // x ∈ Node.ofItems values }}
    (keeps : keptItems "pairs" (Node.ofItems values) = .ok kept) : kept.unattach = [first] := by
  have blank := (keptItems_visibility_iff values).mp ⟨kept, keeps⟩
  rw [items] at blank
  have firstOnly := @keptItems_pairs first [] rest
    (by simpa using List.length_pos_of_ne_nil more) (by simp) fun p mem => by
      simp [keepsPair, blank p mem]
  rw [List.singleton_append, ← items, keeps] at firstOnly
  simpa [Except.map] using firstOnly

/-- The visibility pairs keep no item that holds nothing, but for a first item that holds
nothing and has others after it. -/
theorem keptItems_visibility_held {values : List Value}
    (whole : ¬ ∃ rest, rest ≠ [] ∧ Node.ofItems values = .none :: rest)
    {kept : List { x // x ∈ Node.ofItems values }}
    (keeps : keptItems "pairs" (Node.ofItems values) = .ok kept) :
    ∀ x ∈ kept.unattach, x.isNothing = false := by
  intro x mem
  by_cases more : ∃ first rest, rest ≠ [] ∧ Node.ofItems values = first :: rest
  · obtain ⟨first, rest, nonempty, items⟩ := more
    rw [keptItems_visibility_first nonempty items keeps, List.mem_singleton] at mem
    subst mem
    cases x with
    | none => exact absurd ⟨rest, nonempty, items⟩ whole
    | _ => rfl
  · -- one item at most: the pairs are filtered as any list
    have few : ¬ (Node.ofItems values).length > 1 := by
      intro long
      obtain ⟨first, rest, items⟩ := List.exists_cons_of_length_pos (by omega : 0 < (Node.ofItems values).length)
      refine more ⟨first, rest, fun empty => ?_, items⟩
      simp [items, empty] at long
    simp only [keptItems, beq_self_eq_true, Bool.true_and, few, decide_false, Bool.false_eq_true,
      if_false, Except.ok.injEq] at keeps
    subst keeps
    obtain ⟨⟨y, inItems⟩, kept, same⟩ := List.mem_map.mp mem
    simp only [List.mem_filter, Bool.not_eq_true'] at kept
    exact isNothing_of_unblank (same ▸ kept.2)

/-- The visibility block: its pairs under their own name. -/
theorem visibility_pairs {c : Node} (conf : Conforms (.record .visibility) c) {lines : List String}
    (written : writeNode "" c = .ok lines) :
    ∃ values : List Value, (∀ v ∈ values, v.Short) ∧
      c = .record .visibility [("pairs", .list (Node.ofItems values))] ∧
      writeNode (keyOf ["pairs"]) (.list (Node.ofItems values)) = .ok lines := by
  cases conf with
  | int numeric => simp at numeric
  | record nodes sized each =>
    obtain ⟨p, rfl⟩ := List.length_eq_one_iff.mp sized
    have held := each (⟨"pairs", .anyList, .empty⟩, p) (by simp [Kind.fields])
    cases held with
    | int numeric => simp at numeric
    | anyList values short =>
      have field : fieldLines "" ("pairs", Node.list (Node.ofItems values)) =
          writeNode (keyOf ["pairs"]) (.list (Node.ofItems values)) := rfl
      refine ⟨values, short, rfl, ?_⟩
      rw [show Kind.visibility.fieldNames.zip [Node.list (Node.ofItems values)] =
        [("pairs", Node.list (Node.ofItems values))] from rfl, writeNode_record "" rfl,
        List.mapM_cons, field] at written
      obtain ⟨parts, mapped, rfl⟩ := except_map_eq_ok written
      obtain ⟨pairLines, pairs, rest⟩ := except_bind_ok mapped
      simp only [List.mapM_nil, except_ok_bind, except_pure, Except.ok.injEq] at rest
      subst rest
      simpa using pairs

/-- The visibility block writes its pairs: every header counts its items, but for the pairs'
own header when their first item holds nothing and others follow it, where the writer counts the
first item and writes nothing under its index. -/
theorem visibility_counted {c : Node} (conf : Conforms (.record .visibility) c)
    {lines : List String} (written : writeNode "" c = .ok lines) :
    BlockCounted "saved_visibility2" c lines := by
  obtain ⟨values, short, rfl, pairsWritten⟩ := visibility_pairs conf written
  have listed : (Node.record .visibility [("pairs", .list (Node.ofItems values))]).listAt?
      ["pairs"] = some (Node.ofItems values) := by
    simp [Node.listAt?, Node.at?, Node.attr?]
  have pairsAtom : ∀ a ∈ ["pairs"], Atom a := by
    simp only [List.mem_singleton, forall_eq]
    exact ((Kind.names_wellFormed .visibility).2 "pairs" (by simp [Kind.fieldNames, Kind.fields])).1
  obtain ⟨kept, keeps⟩ : ∃ kept, keptItems (keyOf ["pairs"]) (Node.ofItems values) = .ok kept := by
    cases keeps : keptItems (keyOf ["pairs"]) (Node.ofItems values) with
    | ok kept => exact ⟨kept, rfl⟩
    | error f =>
      rw [writeNode.eq_2, keeps] at pairsWritten
      cases pairsWritten
  by_cases hollow : ∃ rest, rest ≠ [] ∧ Node.ofItems values = .none :: rest
  · -- the first item is counted and writes nothing: one header, nothing under it
    obtain ⟨rest, more, items⟩ := hollow
    have firstOnly := keptItems_visibility_first more items keeps
    have unflagged : ((keyOf ["pairs"]).endsWith "flags" ||
        (keyOf ["pairs"]).endsWith "datapad.status") = false := keyOf_pairs_unflagged
    rw [writeNode_items _ unflagged keeps, firstOnly, ← List.length_unattach, firstOnly] at pairsWritten
    simp only [List.zipIdx_cons, List.zipIdx_nil, List.mapM_cons, List.mapM_nil, itemLines,
      Node.isNothing, if_true, except_ok_bind, except_pure, Except.map, Except.ok.injEq] at pairsWritten
    subst pairsWritten
    refine ⟨[(["pairs"], arrayValue 1)], by rw [List.map_singleton, ← header_entryLine]; rfl,
      ⟨by simpa using pairsAtom,
      by simp, by simp⟩, fun P n header a => ?_⟩
    simp only [List.mem_singleton, Prod.mk.injEq] at header
    obtain ⟨rfl, counted⟩ := header
    obtain rfl := arrayValue_inj counted
    constructor
    · rintro ⟨e, mem, leads⟩
      rw [List.mem_singleton] at mem
      subst mem
      exact absurd leads (not_prefix_of_length le_rfl)
    · rintro ⟨i, bound, -, whole⟩
      exact absurd ⟨rfl, rfl, by omega, rest, more, by rw [listed, items]⟩ whole
  · -- every kept item holds something: every header counts its items
    obtain ⟨entries, rfl, keyed, counts, -⟩ := linesAt_list pairsAtom (by simp)
      (fun _ keeps' => keptItems_visibility_held hollow keeps')
      (linesAt_ofItems short pairsAtom (by simp)) pairsWritten
    refine ⟨entries, rfl, ⟨keyed.atoms, fun e _ => List.nil_prefix, keyed.apart⟩,
      fun P n header a => ?_⟩
    rw [counts P n header a, listed]
    constructor
    · rintro ⟨i, bound, rfl⟩
      refine ⟨i, bound, rfl, ?_⟩
      rintro ⟨-, -, -, rest, more, items⟩
      exact hollow ⟨rest, more, by simpa using items⟩
    · rintro ⟨i, bound, rfl, -⟩
      exact ⟨i, bound, rfl⟩

/-- Every block of a checked save, as written: no key stands on two lines, and under every header
`P = Array(n)` the parts that follow `P` in the keys written are exactly the indices `0`, …,
`n - 1`, with one exception. When the visibility pairs hold more than one item and the first holds
nothing, their header counts that first item but no key stands under its index: the writer keeps
the first of every list under `pairs` past one item, and an item that holds nothing writes no
line. -/
theorem compiled_headers_count {doc : String} {m : Node} (checked : checkSaveDocument doc = .ok m)
    {b : String} (named : b ∈ saveBlocks) {block : Node} (found : m.attr? b = .ok block)
    {lines : List String} (written : writeNode "" block = .ok lines) :
    BlockCounted b block lines := by
  obtain ⟨s, e, c, d, rfl, confS, confE, confC, confD⟩ := (checkSaveDocument_conforms checked).root
  simp only [saveBlocks, List.mem_cons, List.not_mem_nil, or_false] at named
  rcases named with rfl | rfl | rfl | rfl <;> simp [Node.attr?] at found <;> subst found
  · exact blockCounted_of_conforms confS (by decide) rfl written (by decide)
  · exact blockCounted_of_conforms confE (by decide) rfl written (by decide)
  · exact visibility_counted confC written
  · exact blockCounted_of_conforms confD (by decide) rfl written (by decide)

theorem compiled_headers_count_empty :
    ∃ block lines, (Kind.root.defaultWithin 9).attr? "save" = .ok block ∧
      writeNode "" block = .ok lines ∧ BlockCounted "save" block lines := by
  obtain ⟨s, e, c, d, same, confS, -, -, -⟩ :=
    (checkSaveDocument_conforms checkSaveDocument_empty).root
  obtain ⟨lines, written⟩ := writeNode_conforms confS ⟨by decide, by decide⟩
  have found : (Kind.root.defaultWithin 9).attr? "save" = .ok s := by
    rw [same]
    simp [Node.attr?]
  exact ⟨s, lines, found, written,
    compiled_headers_count checkSaveDocument_empty (by simp [saveBlocks]) found written⟩

end GinSave.Save
