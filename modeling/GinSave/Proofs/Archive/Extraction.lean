import GinSave.Archive.Extract
import GinSave.Number.Literal
import GinSave.Proofs.Store.Keeps
import GinSave.Proofs.Text.Cut

/-! Extracting many containers. Each container's files go into a directory of its own, made with
mode `777` read as a decimal number, that is `0o1411`: its owner may read it but may neither
search it nor add to it. No name below such a directory can be reached, so the first section file
written into it is refused (`extractSections_closed`), and a run that returns has written no file
at all (`extractMany_writes_nothing`). The running numbers of the files it returns are then
trivially increasing (`extractMany_numbers_increasing`); the numbering alone would not keep that
promise, since a section left out still counts within its container while the next container
starts after the files written only. Runs that return do exist: a container whose header counts
no section is admitted, gets its directory and is extracted into nothing
(`extractEach_cons_noSections`). -/

namespace GinSave.Store

/-- A directory made with mode `777` may not be searched by its owner. -/
theorem dirMode_777_closed : dirMode 777 &&& 0o100 = 0 := by decide

/-- Locating a path that lies below a directory its owner may not search fails: the walk either
has to pass through that directory or stops in it. -/
theorem Volume.locate_below_closed {s : Volume} {cwd : List String} {q : FsPath}
    {front rest D : List String} (parts : absoluteParts cwd q = front ++ rest) (below : rest ≠ [])
    (walked : s.walk q.text [] front = .ok D) (closed : s.searchable D = false) :
    s.locate cwd q = .error (denied q.text) := by
  rcases List.eq_nil_or_concat rest with empty | ⟨init, last, rfl⟩
  · exact absurd empty below
  unfold Volume.locate
  dsimp only
  rw [parts, List.concat_eq_append, ← List.append_assoc, List.getLast?_concat,
    List.dropLast_concat, Volume.walk_append, walked]
  cases init with
  | nil => simp [Volume.walk, closed, bind, Except.bind, throw, throwThe, MonadExceptOf.throw]
  | cons n more => simp [Volume.walk, closed, bind, Except.bind]

/-- What locating a path to a name found: the walk to the directory that holds the name, a
directory that may be searched, and the name itself, neither `..` nor too long. -/
theorem Volume.locate_named {s : Volume} {cwd : List String} {p : FsPath} {dir : List String}
    {n : String} (located : s.locate cwd p = .ok (dir, some n)) :
    ∃ front, absoluteParts cwd p = front ++ [n] ∧ s.walk p.text [] front = .ok dir ∧
      s.searchable dir = true ∧ n ≠ ".." ∧ n.utf8ByteSize ≤ 255 := by
  unfold Volume.locate at located
  dsimp only at located
  rcases List.eq_nil_or_concat (absoluteParts cwd p) with empty | ⟨front, last, split⟩
  · simp [empty, pure, Except.pure] at located
  rw [split, List.concat_eq_append, List.getLast?_concat, List.dropLast_concat] at located
  cases walked : s.walk p.text [] front with
  | error f => simp [walked, bind, Except.bind] at located
  | ok D =>
    simp only [walked, bind, Except.bind] at located
    split_ifs at located with closed up long
    · cases located
    simp only [pure, Except.pure, Except.ok.injEq, Prod.mk.injEq, Option.some.injEq] at located
    obtain ⟨rfl, rfl⟩ := located
    exact ⟨front, by rw [split, List.concat_eq_append], walked, by simpa using closed, by simpa using up,
      by omega⟩

/-- A directory made with mode `777` is where the walk along its path ends, and its owner may not
search it. -/
theorem Volume.mkdir_777_closed {s s' : Volume} {cwd : List String} {p : FsPath} {fuel : Nat}
    (made : s.mkdir cwd p 777 false false fuel = .ok s') :
    ∃ D, s'.walk p.text [] (absoluteParts cwd p) = .ok D ∧ s'.searchable D = false := by
  have fresh : s.makeDir cwd p 777 = .ok s' := by
    cases fuel with
    | zero => exact made
    | succ fuel =>
      unfold Volume.mkdir at made
      split at made
      · rename_i once
        cases made
        exact once
      · simp at made
  unfold Volume.makeDir at fresh
  cases located : s.locate cwd p with
  | error f => simp [located, bind, Except.bind] at fresh
  | ok r =>
    obtain ⟨dir, last⟩ := r
    cases last with
    | none => simp [located, bind, Except.bind, throw, throwThe, MonadExceptOf.throw] at fresh
    | some n =>
      obtain ⟨front, parts, walked, searchable, notUp, short⟩ := Volume.locate_named located
      simp only [located, bind, Except.bind] at fresh
      split_ifs at fresh with taken unwritable
      simp only [pure, Except.pure, Except.ok.injEq] at fresh
      subst fresh
      have absent : s.find? (dir ++ [n]) = none := by simpa using taken
      have notDir : ∀ m, s.find? (dir ++ [n]) ≠ some (.dir m) := by simp [absent]
      refine ⟨dir ++ [n], ?_, ?_⟩
      · rw [parts, Volume.walk_append, Volume.walk_put notDir _ _ _ _ walked]
        have inner : dir ++ [n] ≠ [] := by simp
        simp [Volume.walk, Except.bind, Volume.searchable_put notDir searchable, notUp,
          Nat.not_lt.mpr short, Volume.find?_put_self _ _ inner]
      · simp [Volume.searchable, Volume.modeAt, dirMode_777_closed]

open GinSave.Text

/-- A text without a slash is read as a relative path of at most one part: itself, unless it is
empty or `.`. -/
theorem FsPath.parse_of_no_slash {n : String} (noSlash : '/' ∉ n.toList) :
    FsPath.parse n = ⟨"", [n].filter fun x => x != "" && x != "."⟩ := by
  have lead : (n.toList.takeWhile (· == '/')).length = 0 := by
    cases chars : n.toList with
    | nil => rfl
    | cons c rest =>
      have other : c ≠ '/' := fun same => noSlash (by rw [chars, same]; exact List.mem_cons_self)
      simp [other]
  have pieces : splitOn n "/" = [n] := by
    unfold splitOn
    rw [show "/".toList = ['/'] from rfl, splitAux_of_not_mem _ _ noSlash]
    simp
  simp only [FsPath.parse, lead, relativeParts, pieces]
  rfl

/-- Joining a name without a slash adds it as the last part, unless it is empty or `.`. -/
theorem FsPath.join_of_no_slash (p : FsPath) {n : String} (noSlash : '/' ∉ n.toList) :
    p.join n = ⟨p.root, p.parts ++ [n].filter fun x => x != "" && x != "."⟩ := by
  simp [FsPath.join, FsPath.parse_of_no_slash noSlash]

theorem absoluteParts_join_plain (cwd : List String) (p : FsPath) {n : String}
    (noSlash : '/' ∉ n.toList) (nonempty : n ≠ "") (notDot : n ≠ ".") :
    absoluteParts cwd (p.join n) = absoluteParts cwd p ++ [n] := by
  rw [FsPath.join_of_no_slash p noSlash]
  unfold absoluteParts
  split <;> simp [nonempty, notDot]

theorem FsPath.join_here (p : FsPath) {n : String} (here : n = "" ∨ n = ".") : p.join n = p := by
  have noSlash : '/' ∉ n.toList := by rcases here with rfl | rfl <;> decide
  rw [FsPath.join_of_no_slash p noSlash]
  rcases here with rfl | rfl <;> simp

/-- A walk's last step into a name other than `..` ends in a directory of that name. -/
theorem Volume.walk_into {s : Volume} {shown : String} {cur D : List String} {n : String}
    (walked : s.walk shown cur [n] = .ok D) (notUp : n ≠ "..") :
    ∃ m, s.find? (cur ++ [n]) = some (.dir m) ∧ D = cur ++ [n] := by
  unfold Volume.walk at walked
  split at walked
  · cases walked
  rw [if_neg (by simpa using notUp)] at walked
  split at walked
  · cases walked
  split at walked
  · cases walked
  · cases walked
  · rename_i m found
    cases walked
    exact ⟨m, found, rfl⟩


/-- The directory `dir` is where the walk along its path ends, and its owner may not search it. -/
def Volume.Closed (s : Volume) (cwd : List String) (dir : FsPath) : Prop :=
  ∃ D, s.walk dir.text [] (absoluteParts cwd dir) = .ok D ∧ s.searchable D = false

/-- A path that the walk reaches is a directory, and cannot be opened for writing. -/
theorem Volume.writeFile_walked {s : Volume} {cwd : List String} {p : FsPath} {shown : String}
    {D : List String} (walked : s.walk shown [] (absoluteParts cwd p) = .ok D) (bytes : ByteArray)
    (s' : Volume) : s.writeFile cwd p bytes ≠ .ok s' := by
  intro written
  obtain ⟨parent, n, located, notDir, -⟩ := Volume.writeFile_ok written
  obtain ⟨front, parts, frontWalk, -, notUp, -⟩ := Volume.locate_named located
  rw [parts, Volume.walk_append, Volume.walk_shown s shown front [] parent frontWalk] at walked
  obtain ⟨m, found, -⟩ := Volume.walk_into walked notUp
  exact notDir m found

/-- Nothing can be written at a name joined to a closed directory: a name that adds a part lies
below it, and one that adds none is the directory itself. -/
theorem Volume.writeFile_join_closed {s : Volume} {cwd : List String} {dir : FsPath}
    (closed : s.Closed cwd dir) {n : String} (noSlash : '/' ∉ n.toList) (bytes : ByteArray)
    (s' : Volume) : s.writeFile cwd (dir.join n) bytes ≠ .ok s' := by
  obtain ⟨D, walked, shut⟩ := closed
  by_cases here : n = "" ∨ n = "."
  · rw [FsPath.join_here dir here]
    exact Volume.writeFile_walked walked bytes s'
  · intro written
    obtain ⟨parent, last, located, -⟩ := Volume.writeFile_ok written
    have parts := absoluteParts_join_plain cwd dir noSlash (fun h => here (.inl h))
      (fun h => here (.inr h))
    rw [Volume.locate_below_closed parts (List.cons_ne_nil _ _)
      (Volume.walk_shown s _ _ [] D walked) shut] at located
    cases located

/-! ### Stores that gained no file -/

/-- Every file of `s'` is a file of `s`, with the same bytes: going from `s` to `s'` wrote
nothing. -/
def Volume.FilesWithin (s' s : Volume) : Prop :=
  ∀ p bytes, s'.find? p = some (.file bytes) → s.find? p = some (.file bytes)

theorem Volume.FilesWithin.refl (s : Volume) : s.FilesWithin s := fun _ _ found => found

theorem Volume.FilesWithin.trans {s₁ s₂ s₃ : Volume} (later : s₃.FilesWithin s₂)
    (earlier : s₂.FilesWithin s₁) : s₃.FilesWithin s₁ :=
  fun p bytes found => earlier p bytes (later p bytes found)

/-- Setting a directory adds no file. -/
theorem Volume.put_dir_filesWithin (s : Volume) (L : List String) (m : Nat) :
    (s.put L (.dir m)).FilesWithin s := by
  intro q bytes found
  rw [Volume.find?_put] at found
  split at found
  · cases found
  · exact found

/-- Removing a tree adds no file: what is found outside it was found there before. -/
theorem Volume.removeTree_filesWithin (s : Volume) (L : List String) :
    (s.removeTree L).FilesWithin s := by
  intro q bytes found
  have kept : (s.removeTree L).entries = s.entries.filter fun a => !L.isPrefixOf a.1 := rfl
  unfold Volume.find? at found ⊢
  rw [kept] at found
  split at found
  · rw [if_pos ‹_›]
    exact found
  rw [if_neg ‹_›, List.find?_filter] at *
  by_cases cut : L.isPrefixOf q = true
  · -- every entry at `q` lies in the tree, so none is found
    have none : (s.entries.find? fun a => decide ((!L.isPrefixOf a.1) = true ∧ (a.1 == q) = true)) =
        none := by
      rw [List.find?_eq_none]
      intro a _ both
      by_cases same : a.1 = q
      · rw [same] at both
        simp [cut] at both
      · simp [same] at both
    rw [none] at found
    cases found
  · have same : (fun a : List String × Entry => decide ((!L.isPrefixOf a.1) = true ∧ (a.1 == q) = true)) =
        fun a => a.1 == q := by
      funext a
      by_cases here : a.1 = q <;> simp [here, cut]
    rwa [same] at found

theorem Volume.makeDir_filesWithin {s s' : Volume} {cwd : List String} {p : FsPath} {mode : Nat}
    (made : s.makeDir cwd p mode = .ok s') : s'.FilesWithin s := by
  unfold Volume.makeDir at made
  cases located : s.locate cwd p with
  | error f => simp [located, bind, Except.bind] at made
  | ok r =>
    obtain ⟨dir, last⟩ := r
    cases last with
    | none => simp [located, bind, Except.bind, throw, throwThe, MonadExceptOf.throw] at made
    | some n =>
      simp only [located, bind, Except.bind] at made
      split_ifs at made
      simp only [pure, Except.pure, Except.ok.injEq] at made
      subst made
      exact Volume.put_dir_filesWithin s _ _

/-- Making directories adds no file. By induction on the fuel that bounds the parents made. -/
theorem Volume.mkdir_filesWithin {cwd : List String} :
    ∀ (fuel : Nat) {s s' : Volume} {p : FsPath} {mode : Nat} {parents existOk : Bool},
      s.mkdir cwd p mode parents existOk fuel = .ok s' → s'.FilesWithin s
  | 0, _, _, _, _, _, _, made => Volume.makeDir_filesWithin made
  | fuel + 1, s, s', p, mode, parents, existOk, made => by
    unfold Volume.mkdir at made
    split at made
    · rename_i once
      cases made
      exact Volume.makeDir_filesWithin once
    · split at made
      · split at made
        · cases made
        · rename_i s₁ parentMade
          exact (Volume.mkdir_filesWithin fuel made).trans (Volume.mkdir_filesWithin fuel parentMade)
      · split at made
        · cases made
          exact Volume.FilesWithin.refl s
        · cases made

end GinSave.Store

namespace GinSave.Archive

open GinSave.Store GinSave.Text

/-! ### Names of section files -/

/-- The name of a section's file holds no slash: it keeps only letters, digits and `_-.`. -/
theorem sectionFileName_no_slash (raw : ByteArray) : '/' ∉ (sectionFileName raw).toList := by
  have slash : isAlnum '/' = false := by decide +kernel
  simp [sectionFileName, slash]

/-- A running number holds no slash: a sign, zeros and decimal digits. -/
theorem padNumber_no_slash (k : Int) : '/' ∉ (padNumber k).toList := by
  have digits : '/' ∉ Nat.toDigits 10 k.natAbs := fun mem => by
    have digit := Nat.isDigit_of_mem_toDigits (by decide) (by decide) mem
    revert digit
    decide
  unfold padNumber
  split <;> simp [digits, List.mem_replicate]

theorem fileName_no_slash (o : ExtractOptions) (i : Nat) (raw : ByteArray) :
    '/' ∉ (o.fileName i (sectionFileName raw)).toList := by
  unfold ExtractOptions.fileName
  split
  · simp [padNumber_no_slash, sectionFileName_no_slash]
  · exact sectionFileName_no_slash raw

/-! ### Extracting into a closed directory -/

theorem keeps_note {Q : Volume → List String → Prop} (o : ExtractOptions) (msg : String) :
    Keeps (OnFiles Q) (note o msg) := by
  unfold note
  exact Keeps.ite (keeps_say msg) (Keeps.pure _)

/-- Extracting sections into a closed directory writes nothing: a run that returns has returned no
file and left the store and the working directory as they were. By induction on the sections:
reading and unpacking keep the store, and the write, were one made, is refused. -/
theorem extractSections_closed (o : ExtractOptions) (bytes : ByteArray) (dir : FsPath) :
    ∀ (i : Nat) (secs : List Section) {w w' : World} {paths : List FsPath},
      w.store.Closed w.cwd dir → (extractSections o bytes dir i secs).run w = .ok paths w' →
      paths = [] ∧ w'.store = w.store ∧ w'.cwd = w.cwd
  | _, [], _, _, _, _, ran => by
    cases ran
    exact ⟨rfl, rfl, rfl⟩
  | i, sec :: rest, w, w', paths, closed, ran => by
    rw [extractSections] at ran
    obtain ⟨data, w₁, read, ran⟩ := run_bind_ok ran
    have kept₁ : OnFiles (fun s c => s = w.store ∧ c = w.cwd) w₁ :=
      (keeps_orFault _).of_run_ok ⟨rfl, rfl⟩ read
    have closed₁ : w₁.store.Closed w₁.cwd dir := by
      rw [kept₁.1, kept₁.2]
      exact closed
    -- the section's own step is a note, nothing, or a write that the closed directory refuses;
    -- what follows it is the rest of the sections, from a state with the same store
    obtain ⟨w₂, kept₂, ran⟩ : ∃ w₂, OnFiles (fun s c => s = w.store ∧ c = w.cwd) w₂ ∧
        (extractSections o bytes dir (i + 1) rest >>= fun more => pure ([] ++ more)).run w₂ =
          .ok paths w' := by
      dsimp only at ran
      split at ran
      · obtain ⟨_, w₂, noted, ran⟩ := run_bind_ok ran
        exact ⟨w₂, (keeps_note o _).of_run_ok kept₁ noted, by simpa using ran⟩
      · split at ran
        · exact ⟨w₁, kept₁, by simpa using ran⟩
        · obtain ⟨_, w₄, put, -⟩ := run_bind_ok ran
          rw [writeFile_run] at put
          split at put
          · rename_i s' accepted
            exact absurd accepted
              (Volume.writeFile_join_closed closed₁ (fileName_no_slash o i sec.name) _ s')
          · cases put
    obtain ⟨more, w₃, restRan, done⟩ := run_bind_ok ran
    have closed₂ : w₂.store.Closed w₂.cwd dir := by
      rw [kept₂.1, kept₂.2]
      exact closed
    obtain ⟨rfl, store₃, cwd₃⟩ := extractSections_closed o bytes dir (i + 1) rest closed₂ restRan
    cases done
    exact ⟨rfl, store₃.trans kept₂.1, cwd₃.trans kept₂.2⟩

/-- A step taken only when `c` holds, then `k`: when the step keeps `P` on the way to a value, what
follows starts from a state where `P` holds. -/
theorem run_ite_then {α : Type} {P : World → Prop} {c : Prop} [Decidable c] {x : Act Unit}
    {k : Unit → Act α} (kept : ∀ {v v' : World} {u : Unit}, P v → x.run v = .ok u v' → P v')
    {w w' : World} {a : α} (start : P w) (ran : (if c then x >>= k else k ()).run w = .ok a w') :
    ∃ w₁, P w₁ ∧ (k ()).run w₁ = .ok a w' := by
  split at ran
  · obtain ⟨u, w₁, stepped, ran⟩ := run_bind_ok ran
    exact ⟨w₁, kept start stepped, ran⟩
  · exact ⟨w, start, ran⟩

/-- Extracting one container into a closed directory writes nothing: reading it only looks at the
store, and its sections are refused. -/
theorem extractFile_closed (o : ExtractOptions) (input dir : FsPath) {w w' : World}
    {paths : List FsPath} (closed : w.store.Closed w.cwd dir)
    (ran : (extractFile o input dir).run w = .ok paths w') :
    paths = [] ∧ w'.store = w.store ∧ w'.cwd = w.cwd := by
  unfold extractFile at ran
  obtain ⟨found, w₁, looked, ran⟩ := run_bind_ok ran
  have same₁ : OnFiles (fun s c => s = w.store ∧ c = w.cwd) w₁ :=
    (keeps_exists? input).of_run_ok ⟨rfl, rfl⟩ looked
  obtain ⟨w₂, same₂, ran⟩ := run_ite_then (fun start said => (keeps_say _).of_run_ok start said)
    same₁ ran
  obtain ⟨bytes, w₃, read, ran⟩ := run_bind_ok ran
  obtain ⟨header, w₄, parsed, ran⟩ := run_bind_ok ran
  have same₄ := (keeps_orFault _).of_run_ok ((keeps_readFile input).of_run_ok same₂ read) parsed
  split at ran
  · -- a file without the magic is reported and refused
    obtain ⟨_, _, -, ran⟩ := run_bind_ok ran
    obtain ⟨_, _, thrown, -⟩ := run_bind_ok ran
    cases thrown
  obtain ⟨_, w₅, noted, ran⟩ := run_bind_ok ran
  obtain ⟨sections, w₆, table, ran⟩ := run_bind_ok ran
  have same₆ := (keeps_orFault _).of_run_ok ((keeps_note o _).of_run_ok same₄ noted) table
  have closed₆ : w₆.store.Closed w₆.cwd dir := by
    rw [same₆.1, same₆.2]
    exact closed
  obtain ⟨rfl, store, cwd⟩ := extractSections_closed o bytes dir 0 sections closed₆ ran
  exact ⟨rfl, store.trans same₆.1, cwd.trans same₆.2⟩

/-- Extracting containers one after the other writes nothing: each gets a fresh directory made with
mode `777`, which is closed, so its sections are refused. A run that returns has returned no file,
and every file at its end was there at its start. By induction on the containers. -/
theorem extractEach_nothing (out : FsPath) (o : ExtractOptions) (files : List FsPath)
    {w w' : World} {paths : List FsPath} (ran : (extractEach o out files).run w = .ok paths w') :
    paths = [] ∧ w'.store.FilesWithin w.store ∧ w'.cwd = w.cwd := by
  induction files generalizing o w w' paths with
  | nil =>
    cases ran
    exact ⟨rfl, Volume.FilesWithin.refl _, rfl⟩
  | cons file rest more_nothing =>
    rw [extractEach] at ran
    obtain ⟨_, w₁, made, ran⟩ := run_bind_ok ran
    rw [mkdir_run] at made
    split at made
    · rename_i s₁ madeDir
      cases made
      obtain ⟨_, w₂, said, ran⟩ := run_bind_ok ran
      have start : OnFiles (fun s c => s = s₁ ∧ c = w.cwd) { w with store := s₁ } := ⟨rfl, rfl⟩
      have same₂ := (keeps_say _).of_run_ok start said
      have closed₂ : w₂.store.Closed w₂.cwd (out.join file.stem) := by
        rw [same₂.1, same₂.2]
        exact Volume.mkdir_777_closed madeDir
      obtain ⟨written, w₃, extracted, ran⟩ := run_bind_ok ran
      obtain ⟨rfl, store₃, cwd₃⟩ := extractFile_closed o file _ closed₂ extracted
      obtain ⟨more, w₄, restRan, done⟩ := run_bind_ok ran
      obtain ⟨rfl, within₄, cwd₄⟩ := more_nothing _ restRan
      cases done
      refine ⟨rfl, ?_, by rw [cwd₄, cwd₃, same₂.2]⟩
      rw [store₃, same₂.1] at within₄
      exact within₄.trans (Volume.mkdir_filesWithin _ madeDir)
    · cases made

/-! ### Extracting many containers -/

section looking

variable {Q : Volume → List String → Prop}

theorem keeps_readable (p : FsPath) : Keeps (OnFiles Q) (readable p) := by
  unfold readable
  exact Keeps.bind Keeps.get fun _ => Keeps.pure _

theorem keeps_isDir (p : FsPath) : Keeps (OnFiles Q) (isDir p) := by
  unfold isDir
  exact Keeps.bind Keeps.get fun _ => Keeps.pure _

theorem keeps_isContainer (p : FsPath) : Keeps (OnFiles Q) (isContainer p) := by
  unfold isContainer
  refine Keeps.bind (keeps_exists? p) fun _ => ?_
  dsimp only
  exact Keeps.ite (Keeps.throw_bind _ _) (Keeps.bind (keeps_readFile p) fun _ => Keeps.pure _)

/-- Choosing the containers to extract only looks at the store. By induction on the inputs. -/
theorem keeps_admitted (o : ExtractOptions) (files : List FsPath) :
    Keeps (OnFiles Q) (admitted o files) := by
  induction files with
  | nil => exact Keeps.pure _
  | cons p rest rest_kept =>
    rw [admitted]
    -- every branch ends with the rest of the inputs, and a skipped input is only reported
    have tail : ∀ keep : Bool, Keeps (OnFiles Q)
        (admitted o rest >>= fun more => pure (if keep = true then p :: more else more)) :=
      fun _ => Keeps.bind rest_kept fun _ => Keeps.pure _
    have skip : ∀ msg, Keeps (OnFiles Q) (note o msg >>= fun _ => pure false >>= fun keep =>
        admitted o rest >>= fun more => pure (if keep = true then p :: more else more)) :=
      fun msg => Keeps.bind (keeps_note o msg) fun _ => Keeps.bind (Keeps.pure _) tail
    refine Keeps.bind (keeps_readable p) fun _ => ?_
    dsimp only
    refine Keeps.ite (skip _) (Keeps.bind (keeps_isDir p) fun _ => Keeps.ite (skip _) ?_)
    exact Keeps.bind (keeps_isContainer p) fun _ =>
      Keeps.ite (skip _) (Keeps.bind (Keeps.pure _) tail)

end looking

/-- Removing a tree, when it succeeds, adds no file and keeps the working directory. -/
theorem removeTree_run_ok {p : FsPath} {w w' : World} {u : Unit}
    (ran : (removeTree p).run w = .ok u w') : w'.store.FilesWithin w.store ∧ w'.cwd = w.cwd := by
  simp only [removeTree, EStateM.run_bind, EStateM.run_get] at ran
  split at ran
  · split at ran
    · cases ran
    · cases ran
      exact ⟨Volume.removeTree_filesWithin _ _, rfl⟩
  · cases ran

/-- A run of `extractMany` that returns ends with extracting, one after the other, the containers
it admitted, from a state that gained no file and kept the working directory. -/
theorem extractMany_runs_each {verbose numbered : Bool} {inputs : List FsPath} {out : FsPath}
    {w w' : World} {paths : List FsPath}
    (ran : (extractMany verbose numbered inputs out).run w = .ok paths w') :
    ∃ files w₁, w₁.store.FilesWithin w.store ∧ w₁.cwd = w.cwd ∧
      (extractEach ⟨0, numbered, verbose⟩ out files).run w₁ = .ok paths w' := by
  unfold extractMany at ran
  obtain ⟨there, w₁, looked, ran⟩ := run_bind_ok ran
  have since₁ : OnFiles (fun s c => s.FilesWithin w.store ∧ c = w.cwd) w₁ :=
    (keeps_exists? out).of_run_ok ⟨Volume.FilesWithin.refl _, rfl⟩ looked
  -- a stale output directory is removed first
  obtain ⟨w₂, since₂, ran⟩ := run_ite_then (fun start removed =>
      ⟨(removeTree_run_ok removed).1.trans start.1, (removeTree_run_ok removed).2.trans start.2⟩)
    since₁ ran
  obtain ⟨_, w₃, made, ran⟩ := run_bind_ok ran
  have since₃ : OnFiles (fun s c => s.FilesWithin w.store ∧ c = w.cwd) w₃ := by
    rw [mkdir_run] at made
    split at made
    · rename_i s₃ madeOut
      cases made
      exact ⟨(Volume.mkdir_filesWithin _ madeOut).trans since₂.1, since₂.2⟩
    · cases made
  obtain ⟨files, w₄, chosen, ran⟩ := run_bind_ok ran
  have since₄ := (keeps_admitted _ inputs).of_run_ok since₃ chosen
  obtain ⟨w₅, since₅, ran⟩ := run_ite_then (fun start said => (keeps_say _).of_run_ok start said)
    since₄ ran
  exact ⟨files, w₅, since₅.1, since₅.2, ran⟩

/-! ### A container with no section -/

/-- A file that can be read is there. -/
theorem exists?_of_readFile {w : World} {p : FsPath} {bytes : ByteArray}
    (holds : w.store.readFile w.cwd p = .ok bytes) : (exists? p).run w = .ok true w := by
  obtain ⟨parent, n, located, found⟩ := Volume.readFile_ok holds
  rw [exists?_run, Volume.stat_located located found]

/-- A file read as bytes with the magic is admitted, and admitting it only looks at the store: it
may be read, it is no directory, and it is a container. -/
theorem admitted_cons_container (o : ExtractOptions) (rest : List FsPath) (w : World) {p : FsPath}
    {bytes : ByteArray} (holds : w.store.readFile w.cwd p = .ok bytes)
    (gin : hasMagic bytes = true) :
    (admitted o (p :: rest)).run w = (admitted o rest >>= fun more => pure (p :: more)).run w := by
  obtain ⟨parent, n, located, found⟩ := Volume.readFile_ok holds
  have canRead : (readable p).run w = .ok true w := by
    simp [readable, Volume.target, located, found]
  have notDir : (isDir p).run w = .ok false w := by
    simp [isDir, Volume.isDir, located, Volume.isDirAt, found]
  have container : (isContainer p).run w = .ok true w := by
    simp [isContainer, EStateM.run_bind, exists?_of_readFile holds, readFile_run, holds, gin]
  simp [admitted, EStateM.run_bind, canRead, notDir, container]

open GinSave.Codec in
/-- Bytes that read as a container whose header counts no section: long enough for the header,
with the magic, and a count of zero. -/
def NoSections (b : ByteArray) : Prop :=
  headerSize ≤ b.size ∧ readLE b 0 4 = magic ∧ readLE b 292 4 = 0

theorem NoSections.hasMagic {b : ByteArray} (empty : NoSections b) : hasMagic b = true := by
  obtain ⟨long, gin, -⟩ := empty
  have four : 4 ≤ b.size := le_trans (by decide) long
  simp [GinSave.Archive.hasMagic, gin, four]

theorem NoSections.header {b : ByteArray} (empty : NoSections b) :
    Header.read b = .ok ⟨magic, GinSave.Codec.readLE b 4 4, 0⟩ := by
  obtain ⟨long, gin, none⟩ := empty
  simp [Header.read, Nat.not_lt.mpr long, gin, none]

/-- Extracting, quietly, a container whose header counts no section changes nothing and returns
no file: the table it reads is empty. -/
theorem extractFile_noSections (first : Int) (numbered : Bool) (input dir : FsPath) (w : World)
    {bytes : ByteArray} (holds : w.store.readFile w.cwd input = .ok bytes)
    (empty : NoSections bytes) :
    (extractFile ⟨first, numbered, false⟩ input dir).run w = .ok [] w := by
  unfold extractFile
  simp only [EStateM.run_bind, exists?_of_readFile holds, Bool.not_true, Bool.false_eq_true,
    if_false, readFile_run, holds, orFault_run, empty.header, bne_self_eq_false, note,
    Nat.zero_min, readTable, EStateM.run_pure, extractSections]

/-- Extracting, quietly, a container whose header counts no section makes its directory, says
which container it decompiles, and goes on with the rest of the containers from the same running
number. -/
theorem extractEach_cons_noSections (first : Int) (numbered : Bool) (out input : FsPath)
    (rest : List FsPath) (w : World) {s : Volume} {bytes : ByteArray} {text : String}
    (made : w.store.mkdir w.cwd (out.join input.stem) 777 false false
      ((out.join input.stem).parts.length + 1) = .ok s)
    (holds : s.readFile w.cwd input = .ok bytes) (empty : NoSections bytes)
    (shown : (GinSave.Console.printed ("Decompiling \"" ++ input.text ++ "\"..")).toOption =
      some text) :
    (extractEach ⟨first, numbered, false⟩ out (input :: rest)).run w =
      (extractEach ⟨first, numbered, false⟩ out rest).run
        { w with store := s, printed := w.printed.push text } := by
  simp only [extractEach, EStateM.run_bind, mkdir_run, made, say_run _ shown]
  rw [extractFile_noSections first numbered input _ _ holds empty]
  -- no file came out, so the running number and the list of paths carry on unchanged
  simp only [List.length_nil, Nat.cast_zero, Int.add_zero, List.nil_append, EStateM.run_pure]
  cases (extractEach ⟨first, numbered, false⟩ out rest).run
    { w with store := s, printed := w.printed.push text } <;> rfl

/-- The smallest container: the magic, and a header that counts no section. -/
def emptyContainer : ByteArray := ⟨⟨[0x47, 0x49, 0x4e, 0x00] ++ List.replicate 308 0⟩⟩

theorem emptyContainer_noSections : NoSections emptyContainer :=
  ⟨by decide +kernel, by decide +kernel, by decide +kernel⟩

theorem printed_decompiling : (GinSave.Console.printed
    ("Decompiling \"" ++ (⟨"", ["x.gin"]⟩ : FsPath).text ++ "\"..")).toOption =
    some "Decompiling \"x.gin\"..\n" := by
  decide +kernel

/-- Extracting, into `out`, the one container `x.gin` whose header counts no section makes `out`,
admits the container, makes its directory `out/x` with mode `777`, says which container it
decompiles, and returns no file. -/
theorem extractMany_emptyContainer :
    (extractMany false true [⟨"", ["x.gin"]⟩] ⟨"", ["out"]⟩).run
      ⟨⟨[(["x.gin"], .file emptyContainer)]⟩, [], #[], []⟩ =
    .ok [] ⟨⟨[(["x.gin"], .file emptyContainer), (["out"], .dir (dirMode 0o777)),
      (["out", "x"], .dir (dirMode 777))]⟩, [], #["Decompiling \"x.gin\"..\n"], []⟩ := by
  have absent : Volume.stat ⟨[(["x.gin"], .file emptyContainer)]⟩ [] ⟨"", ["out"]⟩ =
      .error (missingPath "out") := rfl
  have gone : meansAbsent (missingPath "out") = true := rfl
  have madeOut : Volume.mkdir ⟨[(["x.gin"], .file emptyContainer)]⟩ [] ⟨"", ["out"]⟩ 0o777 true
      false (["out"].length + 1) =
        .ok ⟨[(["x.gin"], .file emptyContainer), (["out"], .dir (dirMode 0o777))]⟩ := rfl
  have holds : Volume.readFile ⟨[(["x.gin"], .file emptyContainer), (["out"], .dir (dirMode 0o777))]⟩
      [] ⟨"", ["x.gin"]⟩ = .ok emptyContainer := rfl
  have dir : FsPath.join ⟨"", ["out"]⟩ (FsPath.stem ⟨"", ["x.gin"]⟩) = ⟨"", ["out", "x"]⟩ := by
    decide +kernel
  have madeDir : Volume.mkdir ⟨[(["x.gin"], .file emptyContainer), (["out"], .dir (dirMode 0o777))]⟩
      [] (FsPath.join ⟨"", ["out"]⟩ (FsPath.stem ⟨"", ["x.gin"]⟩)) 777 false false
      ((FsPath.join ⟨"", ["out"]⟩ (FsPath.stem ⟨"", ["x.gin"]⟩)).parts.length + 1) =
        .ok ⟨[(["x.gin"], .file emptyContainer), (["out"], .dir (dirMode 0o777)),
          (["out", "x"], .dir (dirMode 777))]⟩ := by
    rw [dir]
    rfl
  have holds₂ : Volume.readFile ⟨[(["x.gin"], .file emptyContainer),
      (["out"], .dir (dirMode 0o777)), (["out", "x"], .dir (dirMode 777))]⟩ [] ⟨"", ["x.gin"]⟩ =
      .ok emptyContainer := rfl
  simp only [extractMany, EStateM.run_bind, exists?_run, absent, gone, if_true,
    Bool.false_eq_true, if_false, mkdir_run, madeOut, EStateM.run_pure,
    admitted_cons_container _ _ ⟨_, [], #[], []⟩ holds emptyContainer_noSections.hasMagic,
    admitted.eq_1, List.isEmpty_cons, extractEach.eq_1,
    extractEach_cons_noSections 0 true _ _ [] ⟨_, [], #[], []⟩ madeDir holds₂
      emptyContainer_noSections printed_decompiling]
  rfl

/-! ### What a run returns -/

/-- The running number a file's name starts with: the text before its first `_`, read as an
integer. -/
def fileNumber (p : FsPath) : Option Int :=
  (GinSave.Number.readInt (String.ofList (p.name.toList.takeWhile (· != '_')))).toOption

example : fileNumber ⟨"", ["out", "first", "0003_a.gin"]⟩ = some 3 := by decide

/-- The files that extracting many containers with running numbers returns carry strictly
increasing numbers, so no number is used twice. The run that returns has returned no file at all:
no section can be written into the closed directories. -/
theorem extractMany_numbers_increasing (verbose : Bool) (inputs : List FsPath) (out : FsPath)
    {w w' : World} {paths : List FsPath}
    (ran : (extractMany verbose true inputs out).run w = .ok paths w') :
    ∃ numbers : List Int, paths.map fileNumber = numbers.map some ∧ numbers.Pairwise (· < ·) := by
  obtain ⟨files, w₁, -, -, each⟩ := extractMany_runs_each ran
  obtain ⟨rfl, -, -⟩ := extractEach_nothing out _ files each
  exact ⟨[], rfl, List.Pairwise.nil⟩

theorem extractMany_numbers_increasing_emptyContainer :
    ∃ w', (extractMany false true [⟨"", ["x.gin"]⟩] ⟨"", ["out"]⟩).run
        ⟨⟨[(["x.gin"], .file emptyContainer)]⟩, [], #[], []⟩ = .ok [] w' ∧
      ∃ numbers : List Int, ([] : List FsPath).map fileNumber = numbers.map some ∧
        numbers.Pairwise (· < ·) :=
  ⟨_, extractMany_emptyContainer,
    extractMany_numbers_increasing false _ _ extractMany_emptyContainer⟩

/-- Extracting many containers writes no file: a run that returns has returned no path, and every
file of the store at its end was there, with the same bytes, at its start. Each container's
directory is made with mode `777`, the decimal number, so its owner may not search it and every
section written into it is refused; a run that returns is one that had no section to write. -/
theorem extractMany_writes_nothing (verbose numbered : Bool) (inputs : List FsPath) (out : FsPath)
    {w w' : World} {paths : List FsPath}
    (ran : (extractMany verbose numbered inputs out).run w = .ok paths w') :
    paths = [] ∧ w'.store.FilesWithin w.store := by
  obtain ⟨files, w₁, within₁, -, each⟩ := extractMany_runs_each ran
  obtain ⟨rfl, within, -⟩ := extractEach_nothing out _ files each
  exact ⟨rfl, within.trans within₁⟩

theorem extractMany_writes_nothing_emptyContainer :
    ∃ w', (extractMany false true [⟨"", ["x.gin"]⟩] ⟨"", ["out"]⟩).run
        ⟨⟨[(["x.gin"], .file emptyContainer)]⟩, [], #[], []⟩ = .ok [] w' ∧
      ([] : List FsPath) = [] ∧ w'.store.FilesWithin ⟨[(["x.gin"], .file emptyContainer)]⟩ :=
  ⟨_, extractMany_emptyContainer,
    extractMany_writes_nothing false true _ _ extractMany_emptyContainer⟩

end GinSave.Archive
