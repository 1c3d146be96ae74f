import GinSave.Proofs.Save.Layout

/-! Save text, written and read back. A save is written block by block: a header naming the
block, the block's lines indented by two blanks, a closing brace, and an empty line. Reading cuts
the text into lines, drops the empty ones, trims the others and sorts them into groups by their
headers; the lines of each group are then applied under the group's name. The main statement,
`saveText_roundTrip`, says that a save that passes the document check and is well shaped is
written without fault as text that reads back, over a fresh save, as the save itself. -/

namespace GinSave.Save

open GinSave.Text GinSave.Number

/-! ### Written lines -/

theorem isBlank_of_isLineBoundary {c : Char} (boundary : isLineBoundary c = true) :
    isBlank c = true := by
  simp only [isLineBoundary, isBlank, Bool.or_eq_true, Bool.and_eq_true, decide_eq_true_eq,
    beq_iff_eq] at boundary ⊢
  omega

theorem keyOf_head? {a : String} {rest : List String} (nonempty : a ≠ "") :
    (keyOf (a :: rest)).toList.head? = a.toList.head? := by
  obtain ⟨c, cs, split⟩ := List.exists_cons_of_ne_nil (show a.toList ≠ [] by simpa using nonempty)
  cases rest with
  | nil => simp [keyOf]
  | cons b rest =>
    rw [keyOf_cons (List.cons_ne_nil b rest)]
    simp [split]

/-- A line written at the top of a block holds no line boundary, starts with a character of its
key's first part and ends with its value's closing parenthesis. -/
theorem LineAt.top {l : String} (at_ : LineAt [] l) :
    (∀ c ∈ l.toList, isLineBoundary c = false) ∧ EndsClear isBlank l ∧
      l.toList.getLast? = some ')' := by
  obtain ⟨sub, V, nonempty, atoms, ⟨plain, last⟩, rfl⟩ := at_
  obtain ⟨a, rest, rfl⟩ := List.exists_cons_of_ne_nil (by simpa using nonempty)
  rw [List.nil_append]
  have atom := atoms a List.mem_cons_self
  have ends : (keyOf (a :: rest) ++ " = " ++ V).toList.getLast? = some ')' := by
    rw [String.toList_append, List.getLast?_append, last]
    rfl
  have starts : (keyOf (a :: rest) ++ " = " ++ V).toList.head? = a.toList.head? := by
    rw [String.append_assoc, String.toList_append, List.head?_append, keyOf_head? atom.1]
    obtain ⟨c, cs, split⟩ := List.exists_cons_of_ne_nil (show a.toList ≠ [] by simpa using atom.1)
    simp [split]
  refine ⟨fun c mem => ?_, ⟨fun c first => ?_, fun c final => ?_⟩, ends⟩
  · simp only [String.toList_append, List.mem_append] at mem
    rcases mem with (inKey | inSep) | inValue
    · rcases mem_keyOf inKey with rfl | ⟨x, inParts, inX⟩
      · decide
      · -- a line boundary is a blank, and a key holds none
        cases boundary : isLineBoundary c
        · rfl
        · exact absurd (isBlank_of_isLineBoundary boundary) (by simp [((atoms x inParts).2 c inX).2])
    · simp only [show (" = " : String).toList = [' ', '=', ' '] from rfl, List.mem_cons,
        List.not_mem_nil, or_false] at inSep
      rcases inSep with rfl | rfl | rfl <;> decide
    · exact plain c inValue
  · rw [starts] at first
    exact (atom.2 c (List.mem_of_head? first)).2
  · rw [ends] at final
    cases final
    decide

/-- A written line, indented, is trimmed back to itself. -/
theorem trimBlanks_indented {l : String} (at_ : LineAt [] l) : trimBlanks ("  " ++ l) = l :=
  @trimBlanks_pad [' ', ' '] l (List.all_eq_true.mp (by decide)) (LineAt.top at_).2.1

/-! ### Blocks -/

/-- The header of a block. -/
def blockHeader (name : String) : String :=
  capitalizeWord name ++ " \x7b"

/-- The lines of one block of save text as the reader cuts them: its header, its lines indented,
its closing brace, and the empty line that follows. -/
def blockLines (name : String) (lines : List String) : List String :=
  blockHeader name :: lines.map ("  " ++ ·) ++ ["\x7d", ""]

theorem joined_blocks {blocks : List (String × List String)} (nonempty : blocks ≠ []) :
    ("\n".intercalate (blocks.flatMap fun b =>
        [blockHeader b.1] ++ b.2.map ("  " ++ ·) ++ ["\x7d\n"]) ++ "\n").toList =
      (blocks.flatMap fun b => blockLines b.1 b.2).flatMap fun x => x.toList ++ ['\n'] := by
  obtain ⟨b, rest, rfl⟩ := List.exists_cons_of_ne_nil nonempty
  rw [toList_intercalate_newline _ (by simp), List.flatMap_assoc, List.flatMap_assoc]
  refine List.flatMap_congr fun b _ => ?_
  simp [blockLines]

/-- Blocks of written lines, read as trimmed lines: the empty lines are gone and every line is
trimmed back to what was written. -/
theorem trimmedLines_blocks {blocks : List (String × List String)}
    (headers : ∀ b ∈ blocks, (∀ c ∈ (blockHeader b.1).toList, isLineBoundary c = false) ∧
      blockHeader b.1 ≠ "" ∧ trimBlanks (blockHeader b.1) = blockHeader b.1)
    (written : ∀ b ∈ blocks, ∀ l ∈ b.2, LineAt [] l) :
    trimmedLines (String.ofList ((blocks.flatMap fun b => blockLines b.1 b.2).flatMap
        fun x => x.toList ++ ['\n'])) =
      blocks.flatMap fun b => blockHeader b.1 :: (b.2 ++ ["\x7d"]) := by
  have plain : ∀ x ∈ blocks.flatMap (fun b => blockLines b.1 b.2),
      ∀ c ∈ x.toList, isLineBoundary c = false := by
    intro x mem c inX
    obtain ⟨b, inBlocks, inBlock⟩ := List.mem_flatMap.mp mem
    simp only [blockLines, List.cons_append, List.mem_cons, List.mem_append, List.mem_map,
      List.not_mem_nil, or_false] at inBlock
    rcases inBlock with rfl | ⟨l, inLines, rfl⟩ | rfl | rfl
    · exact (headers b inBlocks).1 c inX
    · simp only [String.toList_append, List.mem_append] at inX
      rcases inX with blank | inL
      · simp [show ("  " : String).toList = [' ', ' '] from rfl] at blank
        subst blank
        decide
      · exact (LineAt.top (written b inBlocks l inLines)).1 c inL
    · simp [show ("\x7d" : String).toList = ['\x7d'] from rfl] at inX
      subst inX
      decide
    · simp at inX
  unfold trimmedLines splitLines
  rw [String.toList_ofList, splitLinesAux_lines _ plain, List.filter_flatMap, List.map_flatMap]
  refine List.flatMap_congr fun b inBlocks => ?_
  simp only [blockLines, List.cons_append, List.filter_cons, List.filter_append, List.map_cons,
    List.map_append, (headers b inBlocks).2.1, (headers b inBlocks).2.2, bne_iff_ne, ne_eq,
    not_false_eq_true, if_true]
  rw [List.filter_eq_self.mpr (by simp), List.map_map]
  have trimmed : ∀ l ∈ b.2, ((trimBlanks ∘ fun x => "  " ++ x) l) = l :=
    fun l mem => trimBlanks_indented (written b inBlocks l mem)
  simp only [List.map_congr_left trimmed, List.map_id']
  simp [show trimBlanks "\x7d" = "\x7d" by with_unfolding_all decide]

/-! ### Groups -/

theorem Groups.openGroup_fresh {gs : Groups} {g : String} (fresh : g ∉ gs.map (·.1)) :
    gs.openGroup g = gs ++ [(g, [])] := by
  have none_ : gs.any (·.1 == g) = false := by
    simpa [List.any_eq_false] using fun n ls mem eq => fresh (List.mem_map.mpr ⟨(n, ls), mem, eq⟩)
  simp [Groups.openGroup, none_]

theorem Groups.addLine_fresh {gs : Groups} {g : String} (fresh : g ∉ gs.map (·.1))
    (ls : List String) (l : String) : (gs ++ [(g, ls)]).addLine g l = gs ++ [(g, ls ++ [l])] := by
  unfold Groups.addLine
  rw [List.map_append]
  congr 1
  · refine (List.map_congr_left ?_).trans (List.map_id gs)
    rintro ⟨n, ls'⟩ mem
    have other : n ≠ g := fun eq => fresh (List.mem_map.mpr ⟨(n, ls'), mem, eq⟩)
    simp [other]
  · simp

theorem groupLines_header (gs : Groups) (g : String) (rest : List String) :
    groupLines none gs ((g ++ " \x7b") :: rest) = groupLines (some g) (gs.openGroup g) rest := by
  have opens : (g ++ " \x7b").endsWith "\x7b" = true :=
    endsWith_iff_suffix.mpr ⟨g.toList ++ [' '], by simp⟩
  have name : String.ofList (g ++ " \x7b").toList.dropLast.dropLast = g := by
    simp [String.ofList_toList]
  rw [groupLines, if_pos opens, name]

/-- Inside a group, every line up to the closing brace joins the group. -/
theorem groupLines_body {gs : Groups} {g : String} (fresh : g ∉ gs.map (·.1))
    (acc : List String) {ls : List String} (rest : List String) (open_ : ∀ l ∈ ls, l ≠ "\x7d") :
    groupLines (some g) (gs ++ [(g, acc)]) (ls ++ "\x7d" :: rest) =
      groupLines none (gs ++ [(g, acc ++ ls)]) rest := by
  induction ls generalizing acc with
  | nil => simp [groupLines]
  | cons l ls ih =>
    have inside : (l == "\x7d") = false := by simpa using open_ l List.mem_cons_self
    rw [List.cons_append, groupLines, if_neg (by simp [inside]), Groups.addLine_fresh fresh,
      ih _ (fun x mem => open_ x (List.mem_cons_of_mem l mem))]
    simp

/-- Blocks of lines, each under a header of a new name and closed by a brace that none of its
lines is, sort into one group each, in order. By induction on the blocks; the groups read so
far carry the invariant. -/
theorem groupLines_blocks :
    ∀ (blocks : List (String × List String)) (gs : Groups), (blocks.map (·.1)).Nodup →
      (∀ b ∈ blocks, b.1 ∉ gs.map (·.1)) → (∀ b ∈ blocks, ∀ l ∈ b.2, l ≠ "\x7d") →
      groupLines none gs (blocks.flatMap fun b => (b.1 ++ " \x7b") :: (b.2 ++ ["\x7d"])) =
        gs ++ blocks
  | [], gs, _, _, _ => by simp [groupLines]
  | (g, ls) :: rest, gs, nodup, fresh, open_ => by
    rw [List.map_cons, List.nodup_cons] at nodup
    have new := fresh (g, ls) List.mem_cons_self
    have later : ∀ b ∈ rest, b.1 ∉ (gs ++ [(g, ls)]).map (·.1) := by
      intro b mem inGroups
      rw [List.map_append, List.mem_append] at inGroups
      rcases inGroups with old | same
      · exact fresh b (List.mem_cons_of_mem _ mem) old
      · simp only [List.map_cons, List.map_nil, List.mem_singleton] at same
        exact nodup.1 (List.mem_map.mpr ⟨b, mem, same⟩)
    rw [List.flatMap_cons, List.cons_append, List.append_assoc, groupLines_header,
      Groups.openGroup_fresh new, List.singleton_append,
      groupLines_body new [] _ (open_ (g, ls) List.mem_cons_self), List.nil_append,
      groupLines_blocks rest _ nodup.2 later fun b mem => open_ b (List.mem_cons_of_mem _ mem)]
    simp

/-- The content lines of written blocks: each block's lines under its group, block after block. -/
theorem contentLines_blocks {blocks : List (String × List String)}
    (headers : ∀ b ∈ blocks, (∀ c ∈ (blockHeader b.1).toList, isLineBoundary c = false) ∧
      blockHeader b.1 ≠ "" ∧ trimBlanks (blockHeader b.1) = blockHeader b.1)
    (names : (blocks.map fun b => capitalizeWord b.1).Nodup)
    (written : ∀ b ∈ blocks, ∀ l ∈ b.2, LineAt [] l) :
    contentLines (String.ofList ((blocks.flatMap fun b => blockLines b.1 b.2).flatMap
        fun x => x.toList ++ ['\n'])) =
      blocks.flatMap fun b => b.2.map (Line.mk (capitalizeWord b.1)) := by
  -- a written line ends with a parenthesis, so it closes no group
  have open_ : ∀ b ∈ blocks.map (fun b => (capitalizeWord b.1, b.2)), ∀ l ∈ b.2, l ≠ "\x7d" := by
    intro b mem l inL closing
    obtain ⟨b', inBlocks, rfl⟩ := List.mem_map.mp mem
    have last := (LineAt.top (written b' inBlocks l inL)).2.2
    rw [closing] at last
    exact absurd last (by decide)
  have grouped := groupLines_blocks (blocks.map fun b => (capitalizeWord b.1, b.2)) []
    (by simpa [List.map_map, Function.comp_def] using names) (by simp) open_
  have headed : (blocks.flatMap fun b => blockHeader b.1 :: (b.2 ++ ["\x7d"])) =
      (blocks.map fun b => (capitalizeWord b.1, b.2)).flatMap
        fun b => (b.1 ++ " \x7b") :: (b.2 ++ ["\x7d"]) := by
    simp [List.flatMap_map, blockHeader]
  unfold contentLines
  rw [trimmedLines_blocks headers written, headed, grouped]
  simp [List.flatMap_map]

/-! ### The save -/

/-- A conforming save is the root record of its four blocks. -/
theorem Conforms.root {m : Node} (conf : Conforms (.record .root) m) :
    ∃ a b c e, m = .record .root [("save", a), ("saved_entries", b), ("saved_visibility2", c),
        ("saved_not_important", e)] ∧
      Conforms (.record .save) a ∧ Conforms (.record .savedEntries) b ∧
      Conforms (.record .visibility) c ∧ Conforms (.record .notImportant) e := by
  cases conf with
  | int numeric _ => simp at numeric
  | record nodes sized each =>
    match nodes, sized with
    | [a, b, c, e], _ =>
      exact ⟨a, b, c, e, rfl, each (⟨"save", .record .save, .record⟩, a) (by simp [Kind.fields]),
        each (⟨"saved_entries", .record .savedEntries, .record⟩, b) (by simp [Kind.fields]),
        each (⟨"saved_visibility2", .record .visibility, .record⟩, c) (by simp [Kind.fields]),
        each (⟨"saved_not_important", .record .notImportant, .record⟩, e) (by simp [Kind.fields])⟩

/-- The fresh save: the default of each block, built within seven levels. -/
theorem freshSave_blocks : freshSave = .record .root [("save", Kind.save.defaultWithin 7),
    ("saved_entries", Kind.savedEntries.defaultWithin 7),
    ("saved_visibility2", Kind.visibility.defaultWithin 7),
    ("saved_not_important", Kind.notImportant.defaultWithin 7)] := by
  rw [freshSave, Kind.default, schemaDepth, Kind.defaultWithin, fieldDefaults_eq_map]
  simp only [Kind.fields, List.map_cons, List.map_nil, seedNode, Shape.recordKind?]

/-- A block's header holds no line boundary and is trimmed to itself. -/
theorem blockHeader_plain : ∀ name ∈ saveBlocks,
    (∀ c ∈ (blockHeader name).toList, isLineBoundary c = false) ∧ blockHeader name ≠ "" ∧
      trimBlanks (blockHeader name) = blockHeader name := by
  intro name mem
  have checked : (blockHeader name).toList.all (fun c => !isLineBoundary c) = true ∧
      blockHeader name ≠ "" ∧ trimBlanks (blockHeader name) = blockHeader name := by
    simp only [saveBlocks, List.mem_cons, List.not_mem_nil, or_false] at mem
    rcases mem with rfl | rfl | rfl | rfl <;> with_unfolding_all decide
  exact ⟨by simpa using checked.1, checked.2⟩

/-- The group of each block's header names the block again. -/
theorem blockGroup_lower : ∀ name ∈ saveBlocks,
    lowerText (capitalizeWord name) = name ∧ isIndexPart name = false ∧ '.' ∉ name.toList := by
  decide +kernel

/-- The save text of a save whose blocks are written without fault. -/
theorem saveText_blocks {a b c e : Node} {la lb lc le : List String}
    (writeA : writeNode "" a = .ok la) (writeB : writeNode "" b = .ok lb)
    (writeC : writeNode "" c = .ok lc) (writeE : writeNode "" e = .ok le) :
    (Node.record .root [("save", a), ("saved_entries", b), ("saved_visibility2", c),
        ("saved_not_important", e)]).saveText =
      .ok (String.ofList (([("save", la), ("saved_entries", lb), ("saved_visibility2", lc),
        ("saved_not_important", le)].flatMap fun b => blockLines b.1 b.2).flatMap
          fun x => x.toList ++ ['\n'])) := by
  rw [← joined_blocks (by simp), String.ofList_toList]
  simp [Node.saveText, saveBlocks, Node.attr?, writeA, writeB, writeC, writeE, blockHeader]

/-- One block read into the root: its lines, under the block's group, turn the block's default
into the block. -/
theorem applyLines_block {pre post : List (String × Node)} {name : String} {d n : Node}
    {lines : List String} (writes : WritesBack [] d n lines)
    (group : lowerText (capitalizeWord name) = name ∧ isIndexPart name = false ∧
      '.' ∉ name.toList)
    (freshPre : name ∉ pre.map Prod.fst) (freshPost : name ∉ post.map Prod.fst) (W : WordAttrs) :
    applyLines W (.record .root (pre ++ (name, d) :: post))
        (lines.map (Line.mk (capitalizeWord name))) =
      ⟨.record .root (pre ++ (name, n) :: post), W, [], none⟩ :=
  writes.reads _ (fun S => .record .root (pre ++ (name, S) :: post)) (by rw [group.1]; exact group.2.2)
    (Hole.top group.1 group.2.1 freshPre freshPost) W

/-- A save that passes the document check and is well shaped is written without fault, and its
save text reads back, over a fresh save, as the save itself, with no note and no fault; it sets
no attribute on a word, whatever attributes words hold. Each
block fits the fresh save's block (`Fits.save`, `Fits.savedEntries`, `Fits.visibility`, and
leaves for the last), so its lines read back in the block's context; the text keeps the lines of
each block under the block's group. -/
theorem saveText_roundTrip {doc : String} {m : Node} (checked : checkSaveDocument doc = .ok m)
    (shaped : WellShaped m) :
    ∃ text, m.saveText = .ok text ∧
      ∀ words, readSaveText words freshSave text = ⟨m, words, [], none⟩ := by
  obtain ⟨a, b, c, e, rfl, confA, confB, confC, confE⟩ := (checkSaveDocument_conforms checked).root
  have walk : ∀ name x, (name, x) ∈ [("save", a), ("saved_entries", b), ("saved_visibility2", c),
      ("saved_not_important", e)] → ∀ rest, (Node.record .root [("save", a), ("saved_entries", b),
        ("saved_visibility2", c), ("saved_not_important", e)]).listAt? (name :: rest) =
          x.listAt? rest :=
    fun name x mem rest => listAt?_field (by simp) mem rest
  have legible := shaped.legible
  -- each block fits the fresh save's block
  have fitsA : Fits [] (Kind.save.defaultWithin 7) a := Fits.save confA (legible.field (show ("save", a) ∈ _ by simp))
    (by simpa only [walk "save" a (by simp)] using shaped.markers)
    (by simpa only [walk "save" a (by simp)] using shaped.faces)
    (by simpa only [walk "save" a (by simp)] using shaped.edges)
    (by simpa only [walk "save" a (by simp)] using shaped.triggerCount)
    (by simpa only [walk "save" a (by simp)] using shaped.trail)
    (by simpa only [walk "save" a (by simp)] using shaped.triggers)
  have fitsB : Fits [] (Kind.savedEntries.defaultWithin 7) b :=
    Fits.savedEntries confB (legible.field (show ("saved_entries", b) ∈ _ by simp))
      (by simpa only [walk "saved_entries" b (by simp)] using shaped.entryCount)
      (by simpa only [walk "saved_entries" b (by simp)] using shaped.entries)
  have fitsC : Fits [] (Kind.visibility.defaultWithin 7) c :=
    Fits.visibility confC (legible.field (show ("saved_visibility2", c) ∈ _ by simp))
      (by simpa only [walk "saved_visibility2" c (by simp)] using shaped.visible)
  have fitsE : Fits [] (Kind.notImportant.defaultWithin 7) e :=
    Fits.ofLeaves rfl (by decide) confE (legible.field (show ("saved_not_important", e) ∈ _ by simp))
  obtain ⟨la, writeA, backA⟩ := fitsA.writesBack (by simp)
  obtain ⟨lb, writeB, backB⟩ := fitsB.writesBack (by simp)
  obtain ⟨lc, writeC, backC⟩ := fitsC.writesBack (by simp)
  obtain ⟨le, writeE, backE⟩ := fitsE.writesBack (by simp)
  simp only [show keyOf [] = "" from rfl] at writeA writeB writeC writeE
  refine ⟨_, saveText_blocks writeA writeB writeC writeE, fun W => ?_⟩
  -- the text keeps each block's lines under its group
  have written : ∀ x ∈ [("save", la), ("saved_entries", lb), ("saved_visibility2", lc),
      ("saved_not_important", le)], ∀ l ∈ x.2, LineAt [] l := by
    simp only [List.mem_cons, List.not_mem_nil, or_false]
    rintro x (rfl | rfl | rfl | rfl)
    exacts [backA.located, backB.located, backC.located, backE.located]
  have headers : ∀ x ∈ [("save", la), ("saved_entries", lb), ("saved_visibility2", lc),
      ("saved_not_important", le)], (∀ c ∈ (blockHeader x.1).toList, isLineBoundary c = false) ∧
        blockHeader x.1 ≠ "" ∧ trimBlanks (blockHeader x.1) = blockHeader x.1 := by
    simp only [List.mem_cons, List.not_mem_nil, or_false]
    rintro x (rfl | rfl | rfl | rfl) <;> exact blockHeader_plain _ (by simp [saveBlocks])
  unfold readSaveText
  have names : ([("save", la), ("saved_entries", lb), ("saved_visibility2", lc),
      ("saved_not_important", le)].map fun x => capitalizeWord x.1).Nodup := by
    simp only [List.map_cons, List.map_nil]
    with_unfolding_all decide
  rw [contentLines_blocks headers names written, freshSave_blocks]
  simp only [List.flatMap_cons, List.flatMap_nil, List.append_nil]
  have stepA := @applyLines_block [] [("saved_entries", Kind.savedEntries.defaultWithin 7),
    ("saved_visibility2", Kind.visibility.defaultWithin 7),
    ("saved_not_important", Kind.notImportant.defaultWithin 7)] "save" _ _ _ backA
    (blockGroup_lower _ (by decide)) (by simp) (by simp) W
  have stepB := @applyLines_block [("save", a)] [("saved_visibility2", Kind.visibility.defaultWithin 7),
    ("saved_not_important", Kind.notImportant.defaultWithin 7)] "saved_entries" _ _ _ backB
    (blockGroup_lower _ (by decide)) (by simp) (by simp) W
  have stepC := @applyLines_block [("save", a), ("saved_entries", b)]
    [("saved_not_important", Kind.notImportant.defaultWithin 7)] "saved_visibility2" _ _ _ backC
    (blockGroup_lower _ (by decide)) (by simp) (by simp) W
  have stepE := @applyLines_block [("save", a), ("saved_entries", b), ("saved_visibility2", c)] []
    "saved_not_important" _ _ _ backE (blockGroup_lower _ (by decide)) (by simp) (by simp) W
  simp only [List.nil_append, List.cons_append] at stepA stepB stepC stepE
  rw [applyLines_append_ok _ stepA, applyLines_append_ok _ stepB, applyLines_append_ok _ stepC,
    stepE]

/-- An empty document checks to the default save. -/
theorem checkSaveDocument_empty : checkSaveDocument "\x7b\x7d" = .ok (Kind.root.defaultWithin 9) := by
  have args : documentArguments Kind.root.name "\x7b\x7d" = .ok [] := by
    simp [documentArguments, Json.parse, Json.scanValue, Json.scanObject, Json.skipSpace,
      Json.charAt, Json.isSpace, recordArguments]
  simp only [checkSaveDocument, args, except_ok_bind, schemaDepth]
  rw [checkFields_absent _ fun _ _ => rfl, Kind.defaultWithin]

/-- The default save is well shaped. -/
theorem defaultSave_wellShaped : WellShaped (Kind.root.defaultWithin 9) := by
  refine ⟨?markers, ?faces, ?edges, ?triggerCount, ?entryCount, ?trail, ?visible,
    ⟨[], 12, ?triggers, by simp⟩,
    ⟨Kind.pair.defaultWithin 7, [], List.replicate 1709 (Kind.pair.defaultWithin 7), ?entries,
      by simp, fun p mem => ?defaults⟩, Legible.defaultWithin 9 .root⟩
  case defaults => rw [List.eq_of_mem_replicate mem, Kind.pair_defaultWithin]
  -- each list is read off the schema, one field at a time
  all_goals simp only [Node.listAt?, Node.at?, Kind.defaultWithin_attr?, Kind.fields, List.find?,
    String.reduceBEq, seedNode, Shape.recordKind?, Option.map_some, List.length_replicate,
    List.map_nil, List.nil_append]
  case entries => rfl

theorem saveText_roundTrip_empty :
    checkSaveDocument "\x7b\x7d" = .ok (Kind.root.defaultWithin 9) ∧
      WellShaped (Kind.root.defaultWithin 9) ∧
      ∃ text, (Kind.root.defaultWithin 9).saveText = .ok text ∧
        ∀ words, readSaveText words freshSave text = ⟨Kind.root.defaultWithin 9, words, [], none⟩ :=
  ⟨checkSaveDocument_empty, defaultSave_wellShaped,
    saveText_roundTrip checkSaveDocument_empty defaultSave_wellShaped⟩

end GinSave.Save
