import GinSave.Proofs.Save.RoundTrip

/-! Save text read in the order of its lines. The reader sorts the content lines into groups by
name before it applies any, the groups in the order they were first opened. Read in text order
instead, each content line is applied where it stands. The two agree whenever no group name opens
twice (`readSaveText_textOrder`): the grouping then keeps every line and moves none. A name opened
a second time empties its group, so the lines read under its first opening are lost, and a line
that would stop the reading in text order is never applied (`readSaveText_reopened`). -/

namespace GinSave.Save

open GinSave.Text

/-- The content lines of trimmed save text in the order they stand, each with the group it is
read under; `current` is the open group, if any. -/
def linesInOrder : Option String → List String → List Line
  | _, [] => []
  | none, l :: rest =>
    if l.endsWith "\x7b" then linesInOrder (some (String.ofList l.toList.dropLast.dropLast)) rest
    else linesInOrder none rest
  | some g, l :: rest =>
    if l == "\x7d" then linesInOrder none rest
    else ⟨g, l⟩ :: linesInOrder (some g) rest

/-- The names of the groups that trimmed save text opens, one for each header, in order. -/
def groupsOpened : Option String → List String → List String
  | _, [] => []
  | none, l :: rest =>
    if l.endsWith "\x7b" then
      let name := String.ofList l.toList.dropLast.dropLast
      name :: groupsOpened (some name) rest
    else groupsOpened none rest
  | some g, l :: rest =>
    if l == "\x7d" then groupsOpened none rest else groupsOpened (some g) rest

/-- The lines that groups hold, group after group, each under its group. -/
def Groups.lines (gs : Groups) : List Line :=
  gs.flatMap fun (g, ls) => ls.map (Line.mk g)

@[simp] theorem Groups.lines_append (gs hs : Groups) : (gs ++ hs).lines = gs.lines ++ hs.lines := by
  simp [Groups.lines]

@[simp] theorem Groups.lines_single (g : String) (ls : List String) :
    Groups.lines [(g, ls)] = ls.map (Line.mk g) := by
  simp [Groups.lines]

theorem contentLines_eq_lines (text : String) :
    contentLines text = (groupLines none [] (trimmedLines text)).lines := rfl

/-- Adding a line renames no group. -/
theorem Groups.addLine_names (gs : Groups) (g l : String) :
    (gs.addLine g l).map (·.1) = gs.map (·.1) := by
  unfold Groups.addLine
  rw [List.map_map]
  refine List.map_congr_left fun ⟨n, ls⟩ _ => ?_
  by_cases same : n = g <;> simp [same]

/-- What the grouping keeps as it reads: its group names are distinct, and the open group, if
any, is the last one. -/
structure GroupsReady (current : Option String) (gs : Groups) : Prop where
  distinct : (gs.map (·.1)).Nodup
  lastOpen : ∀ g, current = some g → ∃ pre ls, gs = pre ++ [(g, ls)]

theorem GroupsReady.closed {current : Option String} {gs : Groups}
    (ready : GroupsReady current gs) : GroupsReady none gs :=
  ⟨ready.distinct, fun _ h => absurd h (by simp)⟩

/-- Opening a group of a new name keeps the grouping ready, with the new group open. -/
theorem GroupsReady.openFresh {gs : Groups} {name : String} (ready : GroupsReady none gs)
    (fresh : name ∉ gs.map (·.1)) : GroupsReady (some name) (gs.openGroup name) := by
  rw [Groups.openGroup_fresh fresh]
  refine ⟨?_, fun g h => ⟨gs, [], by cases h; rfl⟩⟩
  rw [List.map_append, List.nodup_append]
  exact ⟨ready.distinct, by simp, fun a inGs b inNew same => by simp_all⟩

/-- A line added to the open group joins the end of the lines held. -/
theorem GroupsReady.addLine {gs : Groups} {g : String} (ready : GroupsReady (some g) gs)
    (l : String) :
    GroupsReady (some g) (gs.addLine g l) ∧ (gs.addLine g l).lines = gs.lines ++ [⟨g, l⟩] := by
  obtain ⟨pre, ls, rfl⟩ := ready.lastOpen g rfl
  have fresh : g ∉ pre.map (·.1) := by
    have distinct := ready.distinct
    simp only [List.map_append, List.map_cons, List.map_nil, List.nodup_append] at distinct
    exact fun mem => distinct.2.2 g mem g (by simp) rfl
  rw [Groups.addLine_fresh fresh]
  refine ⟨⟨by simpa using ready.distinct, fun g' h => ⟨pre, ls ++ [l], by cases h; rfl⟩⟩, ?_⟩
  simp

/-- Read from any point on, the grouping adds the lines of text order after the lines it holds,
as long as every name still to open is new and opens once. By induction along the reader; the
grouping stays ready at every step. -/
theorem groupLines_lines (current : Option String) (gs : Groups) (rest : List String)
    (ready : GroupsReady current gs) (once : (groupsOpened current rest).Nodup)
    (fresh : ∀ n ∈ groupsOpened current rest, n ∉ gs.map (·.1)) :
    (groupLines current gs rest).lines = gs.lines ++ linesInOrder current rest := by
  induction rest generalizing current gs with
  | nil => cases current <;> simp [groupLines, linesInOrder]
  | cons l rest ih =>
    cases current with
    | none =>
      by_cases header : l.endsWith "\x7b" = true
      · -- a header opens a group of a name not seen before
        simp only [groupsOpened, header, if_true, List.nodup_cons, List.mem_cons,
          forall_eq_or_imp] at once fresh
        have opened := ready.openFresh fresh.1
        rw [groupLines, if_pos header, linesInOrder, if_pos header,
          ih _ _ opened once.2 fun n mem => ?_, Groups.openGroup_fresh fresh.1]
        · simp
        · rw [Groups.openGroup_fresh fresh.1, List.map_append, List.mem_append]
          rintro (old | same)
          · exact fresh.2 n mem old
          · have named : n = String.ofList l.toList.dropLast.dropLast := by simpa using same
            exact once.1 (named ▸ mem)
      · simp only [groupsOpened, header, Bool.false_eq_true, if_false] at once fresh
        rw [groupLines, if_neg header, linesInOrder, if_neg header, ih _ _ ready once fresh]
    | some g =>
      by_cases closing : (l == "\x7d") = true
      · simp only [groupsOpened, closing, if_true] at once fresh
        rw [groupLines, if_pos closing, linesInOrder, if_pos closing,
          ih _ _ ready.closed once fresh]
      · simp only [groupsOpened, closing, Bool.false_eq_true, if_false] at once fresh
        obtain ⟨added, held⟩ := ready.addLine l
        have fresh' : ∀ n ∈ groupsOpened (some g) rest, n ∉ (gs.addLine g l).map (·.1) := by
          rw [Groups.addLine_names]
          exact fresh
        rw [groupLines, if_neg closing, linesInOrder, if_neg closing,
          ih _ _ added once fresh', held]
        simp

/-- When no group name opens twice, the content lines are the lines in text order. -/
theorem contentLines_textOrder {text : String} (once : (groupsOpened none (trimmedLines text)).Nodup) :
    contentLines text = linesInOrder none (trimmedLines text) := by
  rw [contentLines_eq_lines, groupLines_lines none [] _ ⟨List.nodup_nil, by simp⟩ once (by simp)]
  simp [Groups.lines]

/-- Reading save text in which no group name opens twice is the fold of its content lines in the
order they stand: from any save, each line is applied in turn until one stops the reading, with
the same save, notes and fault at the end. -/
theorem readSaveText_textOrder (words : WordAttrs) (save : Node) {text : String}
    (once : (groupsOpened none (trimmedLines text)).Nodup) :
    readSaveText words save text = applyLines words save (linesInOrder none (trimmedLines text)) := by
  rw [readSaveText, contentLines_textOrder once]

theorem readSaveText_textOrder_fresh :
    (groupsOpened none (trimmedLines "Save \x7b\n  id = u64(5)\n\x7d\nSaved_entries \x7b\n\x7d\n")).Nodup ∧
      readSaveText .empty freshSave "Save \x7b\n  id = u64(5)\n\x7d\nSaved_entries \x7b\n\x7d\n" =
        applyLines .empty freshSave (linesInOrder none
          (trimmedLines "Save \x7b\n  id = u64(5)\n\x7d\nSaved_entries \x7b\n\x7d\n")) :=
  ⟨by with_unfolding_all decide, readSaveText_textOrder .empty freshSave (by with_unfolding_all decide)⟩

/-- A group opened twice loses the lines of its first opening. In text order the line `x` of the
first `Save` group stops the reading, as it has no value; the reader empties that group when
`Save` opens again and ends without fault. -/
theorem readSaveText_reopened :
    (readSaveText .empty freshSave "Save \x7b\nx\n\x7d\nSave \x7b\n\x7d\n").fault = none ∧
      (applyLines .empty freshSave
        (linesInOrder none (trimmedLines "Save \x7b\nx\n\x7d\nSave \x7b\n\x7d\n"))).fault ≠ none := by
  have grouped : contentLines "Save \x7b\nx\n\x7d\nSave \x7b\n\x7d\n" = [] := by with_unfolding_all decide
  have inOrder : linesInOrder none (trimmedLines "Save \x7b\nx\n\x7d\nSave \x7b\n\x7d\n") =
      [⟨"Save", "x"⟩] := by with_unfolding_all decide
  have noValue : splitOnAtMost "x" " " 2 = ["x"] := by with_unfolding_all decide
  refine ⟨by simp [readSaveText, grouped, applyLines], ?_⟩
  simp [inOrder, applyLines, applyLine, noValue]

end GinSave.Save
