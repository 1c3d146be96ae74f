import Mathlib.Tactic.SplitIfs
import GinSave.Proofs.Store.Keeps

/-! What each operation of the store changes. A walk that succeeds ends where its names resolve
to, each name stepping down and each `..` stepping up (`Volume.walk_resolves`); so a file is
written, a directory made and a tree removed at the resolved path of what was asked for
(`Volume.writeFile_put`, `Volume.makeDir_put`, `Volume.target_resolves`). Making a directory with
its parents makes only missing directories, at the places its path passes
(`Volume.mkdir_madeOnly`), and a store that only made directories keeps every directory it had, so
every walk that succeeded still succeeds (`Volume.KeepsDirs`). Outside a directory, the steps of
the world that work below it change nothing but the directories they make on the way
(`Volume.MadeOutside`, `Inside`). -/

namespace GinSave.Store

/-! ### Resolved paths -/

/-- One step of resolving a path: a name steps down into it, `..` steps up. -/
def resolveStep (acc : List String) (n : String) : List String :=
  if n == ".." then acc.dropLast else acc ++ [n]

theorem FsPath.resolved_parts (cwd : List String) (p : FsPath) :
    (FsPath.resolved cwd p).parts = (absoluteParts cwd p).foldl resolveStep [] := rfl

/-- Resolving names without `..` only appends them. -/
theorem foldl_resolveStep_plain (acc : List String) {names : List String}
    (plain : ".." ∉ names) : names.foldl resolveStep acc = acc ++ names := by
  induction names generalizing acc with
  | nil => simp
  | cons n rest ih =>
    have notUp : n ≠ ".." := fun up => plain (up ▸ List.mem_cons_self)
    rw [List.foldl_cons, ih _ (fun mem => plain (List.mem_cons_of_mem _ mem))]
    simp [resolveStep, notUp]

/-- Resolving never produces `..`. -/
theorem dotdot_not_mem_foldl_resolveStep {acc : List String} (plain : ".." ∉ acc) :
    ∀ names : List String, ".." ∉ names.foldl resolveStep acc := by
  intro names
  induction names generalizing acc with
  | nil => exact plain
  | cons n rest ih =>
    apply ih
    unfold resolveStep
    split
    · exact fun mem => plain (List.dropLast_subset _ mem)
    · rename_i notUp
      simp only [List.mem_append, List.mem_singleton, not_or]
      exact ⟨plain, fun same => notUp (by simp [same])⟩

theorem FsPath.dotdot_not_mem_resolved (cwd : List String) (p : FsPath) :
    ".." ∉ (FsPath.resolved cwd p).parts :=
  dotdot_not_mem_foldl_resolveStep (List.not_mem_nil) _

/-- A path without `..` resolves to its absolute parts. -/
theorem FsPath.resolved_parts_plain {cwd : List String} {p : FsPath}
    (plain : ".." ∉ absoluteParts cwd p) : (FsPath.resolved cwd p).parts = absoluteParts cwd p := by
  rw [FsPath.resolved_parts, foldl_resolveStep_plain _ plain, List.nil_append]

/-- A resolved path stands alone: it has a root. -/
theorem absoluteParts_resolved (cwd cwd' : List String) (p : FsPath) :
    absoluteParts cwd' (FsPath.resolved cwd p) = (FsPath.resolved cwd p).parts := by
  simp [absoluteParts, FsPath.resolved]

/-- A resolved path is its own resolution. -/
theorem FsPath.resolved_resolved (cwd cwd' : List String) (p : FsPath) :
    FsPath.resolved cwd' (FsPath.resolved cwd p) = FsPath.resolved cwd p := by
  have parts := absoluteParts_resolved cwd cwd' p
  have plain := FsPath.dotdot_not_mem_resolved cwd p
  rw [← parts] at plain
  have same : (FsPath.resolved cwd' (FsPath.resolved cwd p)).parts =
      (FsPath.resolved cwd p).parts := by
    rw [FsPath.resolved_parts_plain plain, parts]
  exact congrArg (FsPath.mk "/") same

/-- A leading part of where names resolve is a leading part of where resolving began, or where a
leading part of the names resolves: resolving only pushes and pops, so a stack cut anywhere was
once that high. By induction on the names. -/
theorem prefix_foldl_resolveStep : ∀ (names : List String) {acc q : List String},
    q <+: names.foldl resolveStep acc →
      q <+: acc ∨ ∃ pre, pre <+: names ∧ q = pre.foldl resolveStep acc
  | [], _, _, lead => .inl lead
  | n :: rest, acc, q, lead => by
    rcases prefix_foldl_resolveStep rest lead with low | ⟨pre, within, here⟩
    · unfold resolveStep at low
      split at low
      · exact .inl (low.trans (List.dropLast_prefix acc))
      · rename_i notUp
        rcases List.prefix_concat_iff.mp low with whole | part
        · refine .inr ⟨[n], List.cons_prefix_cons.mpr ⟨rfl, List.nil_prefix⟩, ?_⟩
          simp [resolveStep, notUp, whole]
        · exact .inl part
    · exact .inr ⟨n :: pre, List.cons_prefix_cons.mpr ⟨rfl, within⟩, here⟩

/-! ### Where a walk ends -/

/-- A walk that succeeds ends at the resolution of its names from where it started. By induction
on the names. -/
theorem Volume.walk_resolves (s : Volume) (shown : String) :
    ∀ (names cur D : List String), s.walk shown cur names = .ok D →
      D = names.foldl resolveStep cur
  | [], _, _, walked => by cases walked; rfl
  | n :: rest, cur, D, walked => by
    unfold Volume.walk at walked
    split at walked
    · cases walked
    split at walked
    · rename_i up
      rw [List.foldl_cons, show resolveStep cur n = cur.dropLast by simp [resolveStep, up]]
      exact Volume.walk_resolves s shown rest _ D walked
    rename_i notUp
    split at walked
    · cases walked
    split at walked
    · cases walked
    · cases walked
    · rw [List.foldl_cons, show resolveStep cur n = cur ++ [n] by simp [resolveStep, notUp]]
      exact Volume.walk_resolves s shown rest _ D walked

/-- Locating a path ends at its resolution: the directory it names, or the name in the
directory that holds it. -/
theorem Volume.locate_resolves {s : Volume} {cwd : List String} {p : FsPath} {dir : List String}
    {last : Option String} (located : s.locate cwd p = .ok (dir, last)) :
    dir ++ last.toList = (FsPath.resolved cwd p).parts := by
  rw [FsPath.resolved_parts]
  unfold Volume.locate at located
  dsimp only at located
  rcases List.eq_nil_or_concat (absoluteParts cwd p) with empty | ⟨front, n, split⟩
  · simp only [empty, List.getLast?_nil, pure, Except.pure, Except.ok.injEq,
      Prod.mk.injEq] at located
    obtain ⟨rfl, rfl⟩ := located
    simp [empty]
  rw [List.concat_eq_append] at split
  rw [split, List.getLast?_concat, List.dropLast_concat] at located
  rw [split, List.foldl_append, List.foldl_cons, List.foldl_nil]
  cases walked : s.walk p.text [] front with
  | error f => simp [walked, bind, Except.bind] at located
  | ok D =>
    have reached := Volume.walk_resolves s p.text front [] D walked
    simp only [walked, bind, Except.bind] at located
    have last_step : dir ++ last.toList = resolveStep D n := by
      by_cases closed : s.searchable D = false
      · simp [closed, throw, throwThe, MonadExceptOf.throw] at located
      by_cases up : n = ".."
      · simp only [closed, up, beq_self_eq_true, if_true, pure, Except.pure] at located
        obtain ⟨rfl, rfl⟩ := located
        simp [resolveStep, up]
      by_cases long : 255 < n.utf8ByteSize
      · simp [closed, up, long, throw, throwThe, MonadExceptOf.throw] at located
      · simp only [closed, up, long, beq_iff_eq, if_false, pure, Except.pure] at located
        obtain ⟨rfl, rfl⟩ := located
        simp [resolveStep, up]
    rw [last_step, reached]

theorem Volume.locate_resolves_named {s : Volume} {cwd : List String} {p : FsPath}
    {dir : List String} {n : String} (located : s.locate cwd p = .ok (dir, some n)) :
    dir ++ [n] = (FsPath.resolved cwd p).parts :=
  Volume.locate_resolves located

/-- The path a path names in the store is its resolution. -/
theorem Volume.target_resolves {s : Volume} {cwd : List String} {p : FsPath} {t : List String}
    (found : s.target cwd p = some t) : t = (FsPath.resolved cwd p).parts := by
  unfold Volume.target at found
  split at found
  · rename_i dir located
    cases found
    simpa using Volume.locate_resolves located
  · rename_i dir n located
    cases found
    exact Volume.locate_resolves located
  · cases found

/-- Locating a path whose last name is no `..` ends at that name. -/
theorem Volume.locate_last {s : Volume} {cwd : List String} {p : FsPath} {n : String}
    (last : (absoluteParts cwd p).getLast? = some n) (notUp : n ≠ "..") {dir : List String}
    {found : Option String} (located : s.locate cwd p = .ok (dir, found)) : found = some n := by
  unfold Volume.locate at located
  dsimp only at located
  rw [last] at located
  cases walked : s.walk p.text [] (absoluteParts cwd p).dropLast with
  | error f => simp [walked, bind, Except.bind] at located
  | ok D =>
    by_cases closed : s.searchable D = false
    · simp [walked, closed, bind, Except.bind, throw, throwThe, MonadExceptOf.throw] at located
    by_cases long : 255 < n.utf8ByteSize
    · simp [walked, closed, notUp, long, bind, Except.bind, throw, throwThe,
        MonadExceptOf.throw] at located
    · simp only [walked, closed, notUp, long, bind, Except.bind, beq_iff_eq, if_false, pure,
        Except.pure] at located
      simp_all

/-- Locating a path whose last name is `..` ends at a directory, never at a name in it. -/
theorem Volume.locate_up {s : Volume} {cwd : List String} {p : FsPath}
    (last : (absoluteParts cwd p).getLast? = some "..") {dir : List String}
    {found : Option String} (located : s.locate cwd p = .ok (dir, found)) : found = none := by
  unfold Volume.locate at located
  dsimp only at located
  rw [last] at located
  cases walked : s.walk p.text [] (absoluteParts cwd p).dropLast with
  | error f => simp [walked, bind, Except.bind] at located
  | ok D =>
    by_cases closed : s.searchable D = false
    · simp [walked, closed, bind, Except.bind, throw, throwThe, MonadExceptOf.throw] at located
    · simp only [walked, closed, bind, Except.bind, beq_self_eq_true, if_true, pure,
        Except.pure] at located
      simp_all

/-! ### Stores that only gained directories -/

/-- Every path whose entry differs from `s` to `s'` satisfies `P`, held nothing in `s` and holds a
directory in `s'`: going from `s` to `s'` only made directories, where `P` allows. -/
def Volume.MadeOnly (P : List String → Prop) (s' s : Volume) : Prop :=
  ∀ q, s'.find? q ≠ s.find? q → P q ∧ s.find? q = none ∧ ∃ m, s'.find? q = some (.dir m)

section madeOnly

variable {P P' : List String → Prop} {s s₁ s₂ s₃ s' : Volume}

theorem Volume.MadeOnly.refl (P : List String → Prop) (s : Volume) : s.MadeOnly P s :=
  fun _ differs => absurd rfl differs

theorem Volume.MadeOnly.trans (later : s₃.MadeOnly P s₂) (earlier : s₂.MadeOnly P s₁) :
    s₃.MadeOnly P s₁ := by
  intro q differs
  by_cases first : s₂.find? q = s₁.find? q
  · obtain ⟨allowed, empty, made⟩ := later q (by rwa [first])
    exact ⟨allowed, first ▸ empty, made⟩
  obtain ⟨allowed, empty, m, made⟩ := earlier q first
  by_cases second : s₃.find? q = s₂.find? q
  · exact ⟨allowed, empty, m, second.trans made⟩
  · -- the later step made a directory only where the earlier one left nothing
    have nothing := (later q second).2.1
    rw [made] at nothing
    cases nothing

theorem Volume.MadeOnly.mono (weaker : ∀ q, P q → P' q) (made : s'.MadeOnly P s) :
    s'.MadeOnly P' s := by
  intro q differs
  obtain ⟨allowed, empty, dir⟩ := made q differs
  exact ⟨weaker q allowed, empty, dir⟩

/-- Setting a directory where there was nothing makes only that directory. -/
theorem Volume.put_madeOnly {L : List String} (empty : s.find? L = none) (m : Nat) :
    (s.put L (.dir m)).MadeOnly (· = L) s := by
  intro q differs
  rw [Volume.find?_put] at differs ⊢
  split at differs
  · rename_i here
    exact ⟨here.2, here.2 ▸ empty, m, by rw [if_pos here]⟩
  · exact absurd rfl differs

end madeOnly

/-- Making one directory sets its entry, at the resolved path, where there was none. -/
theorem Volume.makeDir_put {s s' : Volume} {cwd : List String} {p : FsPath} {mode : Nat}
    (made : s.makeDir cwd p mode = .ok s') :
    ∃ dir n, s.locate cwd p = .ok (dir, some n) ∧ s.find? (dir ++ [n]) = none ∧
      s' = s.put (dir ++ [n]) (.dir (dirMode mode)) := by
  unfold Volume.makeDir at made
  cases located : s.locate cwd p with
  | error f => simp [located, bind, Except.bind] at made
  | ok r =>
    obtain ⟨dir, last⟩ := r
    cases last with
    | none => simp [located, bind, Except.bind, throw, throwThe, MonadExceptOf.throw] at made
    | some n =>
      simp only [located, bind, Except.bind] at made
      split_ifs at made with taken
      simp only [pure, Except.pure, Except.ok.injEq] at made
      exact ⟨dir, n, rfl, by simpa using taken, made.symm⟩

theorem Volume.makeDir_madeOnly {s s' : Volume} {cwd : List String} {p : FsPath} {mode : Nat}
    (made : s.makeDir cwd p mode = .ok s') :
    s'.MadeOnly (· = (FsPath.resolved cwd p).parts) s := by
  obtain ⟨dir, n, located, empty, rfl⟩ := Volume.makeDir_put made
  rw [← Volume.locate_resolves_named located]
  exact Volume.put_madeOnly empty _

/-- A directory cannot be made at a path that ends in `..`: that names a directory already. -/
theorem Volume.makeDir_up {s : Volume} {cwd : List String} {p : FsPath}
    (last : (absoluteParts cwd p).getLast? = some "..") (mode : Nat) (s' : Volume) :
    s.makeDir cwd p mode ≠ .ok s' := by
  intro made
  obtain ⟨dir, n, located, -⟩ := Volume.makeDir_put made
  cases Volume.locate_up last located

theorem Volume.mkdir_up {s : Volume} {cwd : List String} {p : FsPath}
    (last : (absoluteParts cwd p).getLast? = some "..") (mode : Nat) (fuel : Nat) (s' : Volume) :
    s.mkdir cwd p mode false false fuel ≠ .ok s' := by
  intro made
  cases fuel with
  | zero => exact Volume.makeDir_up last mode s' made
  | succ fuel =>
    unfold Volume.mkdir at made
    split at made
    · rename_i once
      exact Volume.makeDir_up last mode _ once
    · simp at made

/-- Making a directory without its parents makes at most the directory itself. -/
theorem Volume.mkdir_single_madeOnly {s s' : Volume} {cwd : List String} {p : FsPath}
    {mode : Nat} {existOk : Bool} {fuel : Nat} (made : s.mkdir cwd p mode false existOk fuel = .ok s') :
    s'.MadeOnly (· = (FsPath.resolved cwd p).parts) s := by
  cases fuel with
  | zero => exact Volume.makeDir_madeOnly made
  | succ fuel =>
    unfold Volume.mkdir at made
    split at made
    · rename_i once
      cases made
      exact Volume.makeDir_madeOnly once
    · simp only [Bool.false_and, Bool.false_eq_true, if_false] at made
      split at made
      · cases made
        exact Volume.MadeOnly.refl _ _
      · cases made

/-- The absolute parts of a path's parent lead to those of the path. -/
theorem absoluteParts_parent_prefix (cwd : List String) (p : FsPath) :
    absoluteParts cwd p.parent <+: absoluteParts cwd p := by
  unfold absoluteParts FsPath.parent
  split
  · exact List.prefix_append_right_inj _ |>.mpr (List.dropLast_prefix _)
  · exact List.dropLast_prefix _

/-- The places a path leads through: where each leading part of its absolute parts resolves. -/
def FsPath.Passes (cwd : List String) (p : FsPath) (q : List String) : Prop :=
  ∃ pre, pre <+: absoluteParts cwd p ∧ q = pre.foldl resolveStep []

theorem FsPath.passes_self (cwd : List String) (p : FsPath) :
    FsPath.Passes cwd p (FsPath.resolved cwd p).parts :=
  ⟨absoluteParts cwd p, List.prefix_refl _, rfl⟩

/-- Along a path without `..`, the places passed are the leading parts themselves. -/
theorem FsPath.Passes.prefix_of_plain {cwd : List String} {p : FsPath} {q : List String}
    (plain : ".." ∉ absoluteParts cwd p) (passes : FsPath.Passes cwd p q) :
    q <+: absoluteParts cwd p := by
  obtain ⟨pre, lead, rfl⟩ := passes
  rw [foldl_resolveStep_plain [] fun mem => plain (lead.subset mem), List.nil_append]
  exact lead

/-- Every directory above the place a path resolves to is a place the path passes. -/
theorem FsPath.passes_of_prefix (cwd : List String) (p : FsPath) {q : List String}
    (above : q <+: (FsPath.resolved cwd p).parts) : FsPath.Passes cwd p q := by
  rw [FsPath.resolved_parts] at above
  rcases prefix_foldl_resolveStep _ above with root | passes
  · exact ⟨[], List.nil_prefix, List.prefix_nil.mp root⟩
  · exact passes

/-- Making a directory, with or without its parents, makes only missing directories at the places
its path passes. By induction on the fuel that bounds the parents made. -/
theorem Volume.mkdir_madeOnly {cwd : List String} :
    ∀ (fuel : Nat) {s s' : Volume} {p : FsPath} {mode : Nat} {parents existOk : Bool},
      s.mkdir cwd p mode parents existOk fuel = .ok s' → s'.MadeOnly (FsPath.Passes cwd p) s := by
  -- the one directory a single step makes is where the whole path resolves
  have single : ∀ {s s' : Volume} {p : FsPath} {mode : Nat},
      s.makeDir cwd p mode = .ok s' → s'.MadeOnly (FsPath.Passes cwd p) s := by
    intro s s' p mode made
    refine (Volume.makeDir_madeOnly made).mono fun q here => ?_
    rw [here]
    exact FsPath.passes_self cwd p
  intro fuel
  induction fuel with
  | zero => exact fun made => single made
  | succ fuel ih =>
    intro s s' p mode parents existOk made
    unfold Volume.mkdir at made
    split at made
    · rename_i once
      cases made
      exact single once
    · split at made
      · split at made
        · cases made
        · rename_i s₁ parentMade
          have upward := absoluteParts_parent_prefix cwd p
          refine (ih made).trans ((ih parentMade).mono fun q passes => ?_)
          obtain ⟨pre, lead, here⟩ := passes
          exact ⟨pre, lead.trans upward, here⟩
      · split at made
        · cases made
          exact Volume.MadeOnly.refl _ _
        · cases made

/-! ### Stores that keep their directories -/

/-- Every directory of `s` is a directory of `s'`, with its mode. -/
def Volume.KeepsDirs (s' s : Volume) : Prop :=
  ∀ q m, s.find? q = some (.dir m) → s'.find? q = some (.dir m)

section keepsDirs

variable {s s' : Volume}

theorem Volume.MadeOnly.keepsDirs {P : List String → Prop} (made : s'.MadeOnly P s) :
    s'.KeepsDirs s := by
  intro q m found
  by_cases same : s'.find? q = s.find? q
  · rw [same, found]
  · have empty := (made q same).2.1
    rw [found] at empty
    cases empty

theorem Volume.writeFile_keepsDirs {cwd : List String} {p : FsPath} {bytes : ByteArray}
    (written : s.writeFile cwd p bytes = .ok s') : s'.KeepsDirs s := by
  obtain ⟨parent, n, -, notDir, rfl⟩ := Volume.writeFile_ok written
  exact fun q m found => Volume.find?_put_dir notDir found

theorem Volume.KeepsDirs.searchable (kept : s'.KeepsDirs s) {q : List String}
    (open_ : s.searchable q = true) : s'.searchable q = true := by
  cases found : s.find? q with
  | none => simp [Volume.searchable, Volume.modeAt, found] at open_
  | some entry =>
    cases entry with
    | file b => simp [Volume.searchable, Volume.modeAt, found] at open_
    | dir m => simpa [Volume.searchable, Volume.modeAt, found, kept q m found] using open_

/-- A walk that succeeds still succeeds, to the same directory, in a store that keeps the
directories. By induction on the names walked. -/
theorem Volume.KeepsDirs.walk (kept : s'.KeepsDirs s) (shown : String) :
    ∀ (names cur D : List String), s.walk shown cur names = .ok D →
      s'.walk shown cur names = .ok D
  | [], _, _, walked => walked
  | n :: rest, cur, D, walked => by
    unfold Volume.walk at walked ⊢
    split at walked
    · cases walked
    rename_i open_
    rw [if_neg (by simpa using kept.searchable (by simpa using open_))]
    split at walked
    · rename_i up
      rw [if_pos up]
      exact kept.walk shown rest _ D walked
    rw [if_neg ‹_›]
    split at walked
    · cases walked
    rw [if_neg ‹_›]
    split at walked
    · cases walked
    · cases walked
    · rename_i m found
      rw [kept _ m found]
      exact kept.walk shown rest _ D walked

theorem Volume.KeepsDirs.locate (kept : s'.KeepsDirs s) {cwd : List String} {p : FsPath}
    {r : List String × Option String} (located : s.locate cwd p = .ok r) :
    s'.locate cwd p = .ok r := by
  unfold Volume.locate at located ⊢
  dsimp only at located ⊢
  split at located
  · exact located
  cases walked : s.walk p.text [] (absoluteParts cwd p).dropLast with
  | error f => simp [walked, bind, Except.bind] at located
  | ok dir =>
    simp only [walked, bind, Except.bind, kept.walk _ _ _ _ walked] at located ⊢
    split at located
    · cases located
    rename_i open_
    rw [if_neg (by simpa using kept.searchable (by simpa using open_))]
    exact located

end keepsDirs

/-- The path names a directory: it is located at a name whose entry is a directory. -/
def Volume.DirAt (s : Volume) (cwd : List String) (p : FsPath) : Prop :=
  ∃ dir n m, s.locate cwd p = .ok (dir, some n) ∧ s.find? (dir ++ [n]) = some (.dir m)

theorem Volume.KeepsDirs.dirAt {s s' : Volume} (kept : s'.KeepsDirs s) {cwd : List String}
    {p : FsPath} (there : s.DirAt cwd p) : s'.DirAt cwd p := by
  obtain ⟨dir, n, m, located, found⟩ := there
  exact ⟨dir, n, m, kept.locate located, kept _ m found⟩

/-- A directory made, or found there, along a path whose last name is no `..` is where the path
leads. By induction on the fuel that bounds the parents made. -/
theorem Volume.mkdir_dirAt {cwd : List String} {p : FsPath} {n : String}
    (last : (absoluteParts cwd p).getLast? = some n) (notUp : n ≠ "..") :
    ∀ (fuel : Nat) {s s' : Volume} {mode : Nat} {parents existOk : Bool},
      s.mkdir cwd p mode parents existOk fuel = .ok s' → s'.DirAt cwd p := by
  have single : ∀ {s s' : Volume} {mode : Nat}, s.makeDir cwd p mode = .ok s' → s'.DirAt cwd p := by
    intro s s' mode made
    obtain ⟨dir, n, located, empty, rfl⟩ := Volume.makeDir_put made
    have kept := (Volume.put_madeOnly empty (dirMode mode)).keepsDirs
    exact ⟨dir, n, _, kept.locate located, Volume.find?_put_self _ _ (by simp)⟩
  intro fuel
  induction fuel with
  | zero => exact fun made => single made
  | succ fuel ih =>
    intro s s' mode parents existOk made
    unfold Volume.mkdir at made
    split at made
    · rename_i once
      cases made
      exact single once
    · split at made
      · split at made
        · cases made
        · exact ih made
      · split at made
        · rename_i isDir
          cases made
          unfold Volume.isDir at isDir
          split at isDir
          · rename_i dir located
            cases Volume.locate_last last notUp located
          · rename_i dir n' located
            cases Volume.locate_last last notUp located
            unfold Volume.isDirAt at isDir
            split at isDir
            · rename_i m found
              exact ⟨dir, n, m, located, found⟩
            · simp at isDir
          · simp at isDir
        · cases made

/-! ### Removing a tree -/

theorem Volume.find?_removeTree_of_not_prefix (s : Volume) {L q : List String}
    (outside : ¬ L <+: q) : (s.removeTree L).find? q = s.find? q := by
  have kept : (s.removeTree L).entries = s.entries.filter fun a => !L.isPrefixOf a.1 := rfl
  unfold Volume.find?
  rw [kept]
  split
  · rfl
  rw [List.find?_filter]
  have same : (fun a : List String × Entry =>
      decide ((!L.isPrefixOf a.1) = true ∧ (a.1 == q) = true)) = fun a => a.1 == q := by
    funext a
    have notCut : L.isPrefixOf q = false := by
      cases cut : L.isPrefixOf q
      · rfl
      · exact absurd (List.isPrefixOf_iff_prefix.mp cut) outside
    by_cases here : a.1 = q
    · simp [here, notCut]
    · simp [here]
  rw [same]

/-- Nothing is left at or below a removed tree, the root apart. -/
theorem Volume.find?_removeTree_below (s : Volume) {L q : List String} (below : L <+: q)
    (inner : q ≠ []) : (s.removeTree L).find? q = none := by
  have kept : (s.removeTree L).entries = s.entries.filter fun a => !L.isPrefixOf a.1 := rfl
  unfold Volume.find?
  rw [kept, if_neg (by simpa using inner), List.find?_filter, Option.map_eq_none_iff,
    List.find?_eq_none]
  intro a _ both
  by_cases here : a.1 = q
  · rw [here] at both
    simp [List.isPrefixOf_iff_prefix.mpr below] at both
  · simp [here] at both

/-! ### Stores that changed only below a directory -/

/-- The store `s'` holds what `s` holds at every path outside the tree at `D`. -/
def Volume.SameOutside (D : List String) (s' s : Volume) : Prop :=
  ∀ q, ¬ D <+: q → s'.find? q = s.find? q

/-- Outside the tree at `D`, every entry that differs from `s` to `s'` is a directory made where
`s` held nothing, at a place that `A` allows. -/
def Volume.MadeOutside (D : List String) (A : List String → Prop) (s' s : Volume) : Prop :=
  ∀ q, ¬ D <+: q → s'.find? q ≠ s.find? q →
    A q ∧ s.find? q = none ∧ ∃ m, s'.find? q = some (.dir m)

/-- No file lies strictly below `D`. -/
def Volume.NoFileBelow (s : Volume) (D : List String) : Prop :=
  ∀ q bytes, D <+: q → q ≠ D → s.find? q ≠ some (.file bytes)

section sameOutside

variable {D : List String} {A : List String → Prop} {s s₀ s' : Volume}

theorem Volume.MadeOutside.refl (D : List String) (A : List String → Prop) (s : Volume) :
    s.MadeOutside D A s :=
  fun _ _ differs => absurd rfl differs

/-- A change below `D` keeps what was made outside it. -/
theorem Volume.SameOutside.madeOutside (later : s'.SameOutside D s)
    (earlier : s.MadeOutside D A s₀) : s'.MadeOutside D A s₀ := by
  intro q outside differs
  rw [later q outside] at differs ⊢
  exact earlier q outside differs

/-- Making directories only where `A` allows, outside `D`, keeps what was made outside `D`. -/
theorem Volume.MadeOnly.madeOutside {P : List String → Prop} (later : s'.MadeOnly P s)
    (allowed : ∀ q, P q → ¬ D <+: q → A q) (earlier : s.MadeOutside D A s₀) :
    s'.MadeOutside D A s₀ := by
  intro q outside differs
  by_cases first : s.find? q = s₀.find? q
  · obtain ⟨place, empty, made⟩ := later q (by rwa [first])
    exact ⟨allowed q place outside, first ▸ empty, made⟩
  obtain ⟨place, empty, m, made⟩ := earlier q outside first
  by_cases second : s'.find? q = s.find? q
  · exact ⟨place, empty, m, second.trans made⟩
  · -- the later step made a directory only where the earlier one left nothing
    have nothing := (later q second).2.1
    rw [made] at nothing
    cases nothing

theorem Volume.MadeOnly.sameOutside_at {L : List String} (made : s'.MadeOnly (· = L) s)
    (below : D <+: L) : s'.SameOutside D s := by
  intro q outside
  by_cases same : s'.find? q = s.find? q
  · exact same
  exact absurd ((made q same).1 ▸ below) outside

theorem Volume.put_sameOutside {L : List String} (below : D <+: L) (e : Entry) :
    (s.put L e).SameOutside D s := by
  intro q outside
  rw [Volume.find?_put, if_neg]
  exact fun here => outside (here.2 ▸ below)

theorem Volume.removeTree_sameOutside (s : Volume) {L : List String} (below : D <+: L) :
    (s.removeTree L).SameOutside D s :=
  fun _ outside => s.find?_removeTree_of_not_prefix fun cut => outside (below.trans cut)

theorem Volume.removeTree_noFileBelow (s : Volume) (D : List String) :
    (s.removeTree D).NoFileBelow D := by
  intro q bytes below proper
  have inner : q ≠ [] := by
    rintro rfl
    exact proper (List.prefix_nil.mp below).symm
  rw [s.find?_removeTree_below below inner]
  simp

/-- Making directories adds no file anywhere. -/
theorem Volume.MadeOnly.noFileBelow {P : List String → Prop} (made : s'.MadeOnly P s)
    (bare : s.NoFileBelow D) : s'.NoFileBelow D := by
  intro q bytes below proper
  by_cases same : s'.find? q = s.find? q
  · rw [same]
    exact bare q bytes below proper
  · obtain ⟨-, -, m, dir⟩ := made q same
    rw [dir]
    simp

end sameOutside

/-! ### Steps of the world that stay in a directory -/

section combinators

variable {ε σ α β : Type} {P : σ → Prop}

/-- A step followed by what depends on its value: the rest need only keep `P` for the values the
step returns from states where `P` holds. -/
theorem Keeps.bind_of_returns {x : EStateM ε σ α} {f : α → EStateM ε σ β} {R : α → Prop}
    (first : Keeps P x) (returns : ∀ s s' a, P s → x.run s = .ok a s' → R a)
    (next : ∀ a, R a → Keeps P (f a)) : Keeps P (x >>= f) := by
  intro s kept
  have afterFirst := first s kept
  rw [EStateM.run_bind]
  cases ran : x.run s with
  | ok a s' =>
    rw [ran] at afterFirst
    exact next a (returns s s' a kept ran) s' afterFirst
  | error e s' =>
    rw [ran] at afterFirst
    exact afterFirst

/-- A step taken only when `c` holds, then `k`: both ways keep `P` when the step and what
follows do. -/
theorem Keeps.ite_then {c : Prop} [Decidable c] {x : EStateM ε σ Unit} {k : Unit → EStateM ε σ β}
    (step : Keeps P x) (next : ∀ u, Keeps P (k u)) : Keeps P (if c then x >>= k else k ()) :=
  Keeps.ite (Keeps.bind step next) (next ())

/-- What reads the state need only keep `P` from states where `P` holds. -/
theorem Keeps.get_bind {f : σ → EStateM ε σ β} (next : ∀ s, P s → Keeps P (f s)) :
    Keeps P (MonadState.get >>= f) := by
  intro s kept
  exact next s kept s kept

end combinators

/-- The world keeps the working directory `cwd`, and outside the tree at `D` its store differs
from `s₀` only by directories made where `A` allows. -/
def Inside (D : List String) (A : List String → Prop) (s₀ : Volume) (cwd : List String)
    (s : Volume) (c : List String) : Prop :=
  c = cwd ∧ s.MadeOutside D A s₀

section inside

variable {D : List String} {A : List String → Prop} {s₀ : Volume} {cwd : List String}

theorem keeps_inside_writeFile {p : FsPath} (below : D <+: (FsPath.resolved cwd p).parts)
    (bytes : ByteArray) : Keeps (OnFiles (Inside D A s₀ cwd)) (writeFile p bytes) := by
  intro w ⟨atCwd, made⟩
  rw [← atCwd] at below
  rw [writeFile_run]
  split
  · rename_i s' written
    obtain ⟨parent, n, located, -, rfl⟩ := Volume.writeFile_ok written
    rw [← Volume.locate_resolves_named located] at below
    exact ⟨atCwd, (Volume.put_sameOutside below _).madeOutside made⟩
  · exact ⟨atCwd, made⟩

/-- Making a directory with its parents stays in the tree at `D`, but for the places its path
passes outside `D`, which `A` must allow. -/
theorem keeps_inside_mkdir {p : FsPath} (allowed : ∀ q, FsPath.Passes cwd p q → ¬ D <+: q → A q)
    (mode : Nat) (parents existOk : Bool) :
    Keeps (OnFiles (Inside D A s₀ cwd)) (mkdir p mode parents existOk) := by
  intro w ⟨atCwd, made⟩
  rw [mkdir_run]
  split
  · rename_i s' madeDirs
    rw [atCwd] at madeDirs
    exact ⟨atCwd, (Volume.mkdir_madeOnly _ madeDirs).madeOutside allowed made⟩
  · exact ⟨atCwd, made⟩

theorem keeps_inside_mkdir_single {p : FsPath} (below : D <+: (FsPath.resolved cwd p).parts)
    (mode : Nat) (existOk : Bool) :
    Keeps (OnFiles (Inside D A s₀ cwd)) (mkdir p mode false existOk) := by
  intro w ⟨atCwd, made⟩
  rw [mkdir_run]
  split
  · rename_i s' madeDir
    rw [atCwd] at madeDir
    exact ⟨atCwd, ((Volume.mkdir_single_madeOnly madeDir).sameOutside_at below).madeOutside made⟩
  · exact ⟨atCwd, made⟩

theorem keeps_inside_removeTree {p : FsPath} (below : D <+: (FsPath.resolved cwd p).parts) :
    Keeps (OnFiles (Inside D A s₀ cwd)) (removeTree p) := by
  intro w ⟨atCwd, made⟩
  rw [← atCwd] at below
  simp only [removeTree, EStateM.run_bind, EStateM.run_get]
  split
  · rename_i t found
    rw [← Volume.target_resolves found] at below
    split
    · exact ⟨atCwd, made⟩
    · exact ⟨atCwd, (w.store.removeTree_sameOutside below).madeOutside made⟩
  · exact ⟨atCwd, made⟩

end inside

end GinSave.Store
