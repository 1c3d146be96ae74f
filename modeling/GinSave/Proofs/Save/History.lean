import GinSave.Save.Session
import GinSave.Proofs.Save.RoundTrip
import GinSave.Proofs.Save.Values

/-! What a save parser's answers depend on. A reading starts from the save the parser holds, and
the attributes set on words, and leaves the parser holding what it reached, so texts read one
after another act as one run of their content lines (`run_parses_save`): a text is answered as
the lines of every text read before it, followed by its own, read from where the parser started
(`parse_answer_after_parses`). A compile that passes the check replaces the save: the parser then
holds the checked document, and the words keep their attributes (`compile_replaces`). So the
answer to a text is not the text's alone: a fresh parser fails on a text that a parser which has
read another text first answers with a document (`parse_answer_remembers_earlier_parse`). -/

namespace GinSave.Save

open GinSave.Text

/-! ### Calls, one at a time -/

namespace SaveParser

@[simp] theorem parse_leaves (p : SaveParser) (text : String) :
    (p.parse text).2 = ⟨(readSaveText p.words p.save text).node,
      (readSaveText p.words p.save text).words⟩ := rfl

@[simp] theorem parse_answer (p : SaveParser) (text : String) :
    (p.parse text).1.answer = (readSaveText p.words p.save text).answer := rfl

@[simp] theorem run_nil (p : SaveParser) : p.run [] = ([], p) := rfl

@[simp] theorem run_cons (p : SaveParser) (c : Call) (cs : List Call) :
    (p.run (c :: cs)).2 = ((p.call c).2.run cs).2 := rfl

/-- A compile of a document that passes the check leaves the parser holding the checked document,
whatever save the parser held before; the attributes set on words stay. -/
theorem compile_replaces (p : SaveParser) {json : String} {d : Node}
    (checked : checkSaveDocument json = .ok d) : (p.compile json).2 = ⟨d, p.words⟩ := by
  simp [compile, checked]

end SaveParser

/-! ### Lines read in turn -/

/-- Lines read after lines that meet no fault go on from the save and the table those reached,
and the notes of both are printed in order. By induction on the first lines. -/
theorem applyLines_append_clean {W : WordAttrs} {X : Node} {ls : List Line} (ms : List Line)
    (clean : (applyLines W X ls).fault = none) :
    applyLines W X (ls ++ ms) =
      ⟨(applyLines (applyLines W X ls).words (applyLines W X ls).node ms).node,
        (applyLines (applyLines W X ls).words (applyLines W X ls).node ms).words,
        (applyLines W X ls).notes ++
          (applyLines (applyLines W X ls).words (applyLines W X ls).node ms).notes,
        (applyLines (applyLines W X ls).words (applyLines W X ls).node ms).fault⟩ := by
  induction ls generalizing W X with
  | nil => simp [applyLines]
  | cons l ls ih =>
    rw [applyLines.eq_2] at clean
    rcases step : applyLine W X l with ⟨node, words, notes, fault⟩
    rw [step] at clean
    cases fault with
    | some f => cases clean
    | none =>
      -- the first line is clean, so the rest of the first lines are read from where it left off
      have rest : (applyLines words node ls).fault = none := clean
      simp only [List.cons_append, applyLines.eq_2, step, ih rest, List.append_assoc]

/-- Lines that meet no fault begin with lines that meet none. -/
theorem applyLines_clean_left {W : WordAttrs} {X : Node} {ls ms : List Line}
    (clean : (applyLines W X (ls ++ ms)).fault = none) : (applyLines W X ls).fault = none := by
  induction ls generalizing W X with
  | nil => rfl
  | cons l ls ih =>
    rw [List.cons_append, applyLines.eq_2] at clean
    rw [applyLines.eq_2]
    rcases step : applyLine W X l with ⟨node, words, notes, fault⟩
    rw [step] at clean
    cases fault with
    | some f => cases clean
    | none => exact ih clean

/-- Texts read one after another, their lines meeting no fault, leave the parser holding the save
and the table that all their content lines, read in turn, reach. By induction on the texts. -/
theorem run_parses_save (p : SaveParser) (texts : List String)
    (clean : (applyLines p.words p.save (texts.flatMap contentLines)).fault = none) :
    (p.run (texts.map .parse)).2 = ⟨(applyLines p.words p.save (texts.flatMap contentLines)).node,
      (applyLines p.words p.save (texts.flatMap contentLines)).words⟩ := by
  induction texts generalizing p with
  | nil => rfl
  | cons t ts ih =>
    rw [List.flatMap_cons] at clean ⊢
    have first : (applyLines p.words p.save (contentLines t)).fault = none :=
      applyLines_clean_left clean
    rw [applyLines_append_clean _ first] at clean ⊢
    simp only [List.map_cons, SaveParser.run_cons, SaveParser.call]
    exact ih _ clean

/-- The answer of a reading is read off its fault and the save it reached. -/
theorem Assigned.answer_eq {r r' : Assigned} (fault : r.fault = r'.fault) (node : r.node = r'.node) :
    r.answer = r'.answer := by
  simp [Assigned.answer, fault, node]

/-! ### Text of one block -/

/-- Save text of one block, its lines none of them a closing brace, reads as the block's lines
under its group. -/
theorem contentLines_oneBlock {text : String} (g : String) (ls : List String)
    (trimmed : trimmedLines text = (g ++ " \x7b") :: (ls ++ ["\x7d"]))
    (open_ : ∀ l ∈ ls, l ≠ "\x7d") : contentLines text = ls.map (Line.mk g) := by
  unfold contentLines
  rw [trimmed, groupLines_header, Groups.openGroup_fresh List.not_mem_nil,
    groupLines_body (by simp) [] [] open_]
  simp [groupLines]

/-- The group of the details block, as save text spells it, lowers to the block's field, a
name without a point that is no index. -/
theorem lowerText_details : lowerText "Saved_not_important" = "saved_not_important" ∧
    isIndexPart "saved_not_important" = false ∧ '.' ∉ "saved_not_important".toList := by
  have lower := blockGroup_lower "saved_not_important" (by simp [saveBlocks])
  rwa [show capitalizeWord "saved_not_important" = "Saved_not_important" by decide] at lower

/-! ### The details of a save -/

/-- The record of the details of a fresh save, field by field. -/
theorem notImportant_defaultWithin :
    Kind.notImportant.defaultWithin 7 = .record .notImportant ([] ++ ("playtime", .real 0) ::
      [("last_save_time", .real 0), ("liquid_nacres_count", .int 0), ("solidify_nacre_count", .int 0)]) := by
  simp [Kind.defaultWithin, fieldDefaults, seedNode, Kind.fields]

/-- A fresh save with its block of details last. -/
theorem freshSave_details : freshSave = .record .root ([("save", Kind.save.defaultWithin 7),
    ("saved_entries", Kind.savedEntries.defaultWithin 7),
    ("saved_visibility2", Kind.visibility.defaultWithin 7)] ++
    ("saved_not_important", Kind.notImportant.defaultWithin 7) :: []) :=
  freshSave_blocks

/-- The save after the playtime of the details is set to the story stage `Up`. -/
def playtimeUpSave : Node :=
  .record .root ([("save", Kind.save.defaultWithin 7),
    ("saved_entries", Kind.savedEntries.defaultWithin 7),
    ("saved_visibility2", Kind.visibility.defaultWithin 7)] ++
    ("saved_not_important", .record .notImportant ([] ++ ("playtime", .stage .up) ::
      [("last_save_time", .real 0), ("liquid_nacres_count", .int 0),
        ("solidify_nacre_count", .int 0)])) :: [])

/-- Reading a text that sets the playtime to a story stage, a value no check stops, meets no
fault. -/
theorem readSaveText_playtime_up (W : WordAttrs) :
    readSaveText W freshSave "Saved_not_important \x7b\n  playtime = Enum_single(\"Up\")\n\x7d\n" =
      ⟨playtimeUpSave, W, [], none⟩ := by
  obtain ⟨lower, named, pointless⟩ := lowerText_details
  have lines : contentLines "Saved_not_important \x7b\n  playtime = Enum_single(\"Up\")\n\x7d\n" =
      [⟨"Saved_not_important", keyOf ["playtime"] ++ " = " ++ "Enum_single(\"Up\")"⟩] :=
    contentLines_oneBlock _ [keyOf ["playtime"] ++ " = " ++ "Enum_single(\"Up\")"] (by decide) (by decide)
  have stage : readTagged "Enum_single(\"Up\")" = .ok (.stage .up) := (leafLine_stage "playtime" .up).reads
  rw [readSaveText, lines, applyLines.eq_2,
    applyLine_entry (by decide) (by simp) (by rwa [lower]) _ _ (by simp), stage, lower]
  simp only [freshSave_details, notImportant_defaultWithin]
  rw [assignPath_field named (by decide) (by decide) _ (by simp) _ (by simp),
    assignPath_field_last (by decide) (by decide)]
  rfl

/-! ### Answers after earlier readings -/

/-- A parser that has read texts one after another, whose lines meet no fault, answers the next
text as the content lines of all of them and then of the text, read in turn from the save it
started with: what it read before stays in the save it holds. -/
theorem parse_answer_after_parses (p : SaveParser) (earlier : List String) (t : String)
    (clean : (applyLines p.words p.save (earlier.flatMap contentLines)).fault = none) :
    ((p.run (earlier.map .parse)).2.parse t).1.answer =
      (applyLines p.words p.save (earlier.flatMap contentLines ++ contentLines t)).answer := by
  rw [SaveParser.parse_answer, run_parses_save p earlier clean, readSaveText,
    applyLines_append_clean _ clean]
  exact Assigned.answer_eq rfl rfl

/-- A parser that has read the playtime as a story stage answers the next text as the two texts'
lines read in turn from the default save. -/
theorem parse_answer_after_playtime :
    (applyLines SaveParser.fresh.words SaveParser.fresh.save
        (["Saved_not_important \x7b\n  playtime = Enum_single(\"Up\")\n\x7d\n"].flatMap
          contentLines)).fault = none ∧
      ((SaveParser.fresh.run (["Saved_not_important \x7b\n  playtime = Enum_single(\"Up\")\n\x7d\n"].map
          .parse)).2.parse "Saved_not_important \x7b\n  playtime.foo = i32(1)\n\x7d\n").1.answer =
        (applyLines SaveParser.fresh.words SaveParser.fresh.save
          (["Saved_not_important \x7b\n  playtime = Enum_single(\"Up\")\n\x7d\n"].flatMap contentLines ++
            contentLines "Saved_not_important \x7b\n  playtime.foo = i32(1)\n\x7d\n")).answer := by
  have clean : (applyLines SaveParser.fresh.words SaveParser.fresh.save
      (["Saved_not_important \x7b\n  playtime = Enum_single(\"Up\")\n\x7d\n"].flatMap contentLines)).fault =
        none := by
    simp only [List.flatMap_cons, List.flatMap_nil, List.append_nil, SaveParser.fresh]
    rw [← readSaveText, readSaveText_playtime_up]
  exact ⟨clean, parse_answer_after_parses SaveParser.fresh _ _ clean⟩

/-- A parser that has read the playtime as a story stage answers a text that sets an attribute of
the playtime with a document, as a story stage takes any attribute but its spelling and name; a
fresh parser, whose playtime is the real `0`, fails on the same text. -/
theorem parse_answer_remembers_earlier_parse :
    ((SaveParser.fresh.run [.parse "Saved_not_important \x7b\n  playtime = Enum_single(\"Up\")\n\x7d\n"]).2.parse
        "Saved_not_important \x7b\n  playtime.foo = i32(1)\n\x7d\n").1.answer ≠
      (SaveParser.fresh.parse "Saved_not_important \x7b\n  playtime.foo = i32(1)\n\x7d\n").1.answer := by
  obtain ⟨lower, named, pointless⟩ := lowerText_details
  have lines : contentLines "Saved_not_important \x7b\n  playtime.foo = i32(1)\n\x7d\n" =
      [⟨"Saved_not_important", keyOf ["playtime", "foo"] ++ " = " ++ "i32(1)"⟩] :=
    contentLines_oneBlock _ [keyOf ["playtime", "foo"] ++ " = " ++ "i32(1)"] (by decide) (by decide)
  have one : readTagged "i32(1)" = .ok (.int 1) := by
    have read := @readTagged_int "i32" (Or.inl rfl) 1 (by cbv)
    rwa [show "i32" ++ "(" ++ Node.intText 1 ++ ")" = "i32(1)" by simp +decide] at read
  -- both readings walk to the playtime and set its attribute `foo`
  have line : ∀ (W : WordAttrs) (X : Node),
      applyLine W X ⟨"Saved_not_important", keyOf ["playtime", "foo"] ++ " = " ++ "i32(1)"⟩ =
        assignPath (.ok (.int 1)) W X ["saved_not_important", "playtime", "foo"] := by
    intro W X
    rw [applyLine_entry (by decide) (by simp) (by rwa [lower]) W X (by simp), one, lower]
  have setsFoo : ∀ (W : WordAttrs) (S : Node),
      assignPath (.ok (.int 1)) W S ["foo"] = assignLast W S "foo" (.int 1) := by
    intro W S
    rfl
  have inside : ∀ (W : WordAttrs) (S : Node), S ≠ .none →
      assignPath (.ok (.int 1)) W (.record .root ([("save", Kind.save.defaultWithin 7),
        ("saved_entries", Kind.savedEntries.defaultWithin 7),
        ("saved_visibility2", Kind.visibility.defaultWithin 7)] ++
        ("saved_not_important", .record .notImportant ([] ++ ("playtime", S) ::
          [("last_save_time", .real 0), ("liquid_nacres_count", .int 0),
            ("solidify_nacre_count", .int 0)])) :: []))
        ["saved_not_important", "playtime", "foo"] =
      ((assignLast W S "foo" (.int 1)).within fun X => .record .notImportant ([] ++ ("playtime", X) ::
          [("last_save_time", .real 0), ("liquid_nacres_count", .int 0),
            ("solidify_nacre_count", .int 0)])).within
        fun X => .record .root ([("save", Kind.save.defaultWithin 7),
          ("saved_entries", Kind.savedEntries.defaultWithin 7),
          ("saved_visibility2", Kind.visibility.defaultWithin 7)] ++ ("saved_not_important", X) :: []) := by
    intro W S present
    rw [assignPath_field named (by decide) (by decide) W (by simp) _ (by simp),
      assignPath_field (by cbv) (by decide) (by decide) W present _ (by simp), setsFoo]
  intro same
  have earlier : (SaveParser.fresh.run
      [.parse "Saved_not_important \x7b\n  playtime = Enum_single(\"Up\")\n\x7d\n"]).2 =
        ⟨playtimeUpSave, .empty⟩ := by
    simp [SaveParser.call, SaveParser.parse, SaveParser.fresh, readSaveText_playtime_up]
  rw [earlier, SaveParser.parse_answer, SaveParser.parse_answer, readSaveText, readSaveText, lines] at same
  simp only [SaveParser.fresh, playtimeUpSave, freshSave_details, notImportant_defaultWithin,
    applyLines.eq_2, line, inside _ (.real 0) (by simp), inside _ (.stage .up) (by simp)] at same
  -- the story stage takes the attribute into the table of words' attributes, the real refuses it
  simp [assignLast, Node.setAttr, Node.word?, Node.isWordOwn, Assigned.within, Assigned.answer,
    applyLines] at same

end GinSave.Save
