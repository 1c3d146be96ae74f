import GinSave.Store.World

/-! What a write leaves alone. Setting the entry at one path changes what the store finds there
and nowhere else (`Volume.find?_put`). A walk only looks at directories, so a walk that
succeeds still succeeds, to the same directory, once an entry that is no directory is set
(`Volume.walk_put`); the same holds of locating a path. Writing a file over a file, or a new file
into a writable directory, is setting one entry (`Volume.writeFile_located`), and asking for a
directory that the walk to a file has passed changes nothing (`Volume.mkdir_walked`). -/

namespace GinSave.Store

/-! ### Setting one entry -/

theorem Volume.find?_put (s : Volume) (L q : List String) (e : Entry) :
    (s.put L e).find? q = if q ≠ [] ∧ q = L then some e else s.find? q := by
  by_cases root : q = []
  · simp [Volume.find?, root]
  simp only [Volume.find?, Volume.put, List.isEmpty_iff, root, if_false, ne_eq, not_false_eq_true,
    true_and]
  split
  · -- the entry at `L` is replaced in place; the keys stay as they were
    rename_i present
    rw [List.find?_map]
    have keys : ((fun x : List String × Entry => x.1 == q) ∘
        fun x : List String × Entry => if x.1 == L then (x.1, e) else (x.1, x.2)) =
        fun x => x.1 == q := by
      funext x
      by_cases same : x.1 = L <;> simp [same]
    rw [keys, Option.map_map]
    by_cases here : q = L
    · subst here
      obtain ⟨x, found⟩ : ∃ x, s.entries.find? (·.1 == q) = some x :=
        Option.isSome_iff_exists.mp (List.find?_isSome.mpr (List.any_eq_true.mp present))
      have key : x.1 = q := by simpa using List.find?_some found
      simp [found, key]
    · rw [if_neg here]
      cases found : s.entries.find? (·.1 == q) with
      | none => rfl
      | some x =>
        have key : x.1 = q := by simpa using List.find?_some found
        simp [key, here]
  · rename_i absent
    rw [List.find?_append]
    by_cases here : q = L
    · subst here
      have none : s.entries.find? (·.1 == q) = none := by
        rw [List.find?_eq_none]
        intro x mem same
        exact absent (List.any_eq_true.mpr ⟨x, mem, same⟩)
      simp [none]
    · cases s.entries.find? (·.1 == q) <;> simp [here, Ne.symm here]

@[simp] theorem Volume.find?_put_self (s : Volume) {L : List String} (e : Entry) (inner : L ≠ []) :
    (s.put L e).find? L = some e := by
  simp [Volume.find?_put, inner]

theorem Volume.find?_put_of_ne (s : Volume) {L q : List String} (e : Entry) (other : q ≠ L) :
    (s.put L e).find? q = s.find? q := by
  simp [Volume.find?_put, other]

section walk

variable {s : Volume} {L : List String} {e : Entry}

/-- A directory of the store keeps its entry when an entry that is no directory is set. -/
theorem Volume.find?_put_dir {q : List String} {m : Nat} (notDir : ∀ m, s.find? L ≠ some (.dir m))
    (dir : s.find? q = some (.dir m)) : (s.put L e).find? q = some (.dir m) := by
  rw [Volume.find?_put]
  split
  · rename_i here
    exact absurd (here.2 ▸ dir) (notDir m)
  · exact dir

theorem Volume.searchable_put {q : List String} (notDir : ∀ m, s.find? L ≠ some (.dir m))
    (searchable : s.searchable q = true) : (s.put L e).searchable q = true := by
  cases found : s.find? q with
  | none => simp [Volume.searchable, Volume.modeAt, found] at searchable
  | some entry =>
    cases entry with
    | file b => simp [Volume.searchable, Volume.modeAt, found] at searchable
    | dir m =>
      simpa [Volume.searchable, Volume.modeAt, Volume.find?_put_dir notDir found, found]
        using searchable

/-- A walk that succeeds passes only directories, so it still succeeds, to the same directory,
once an entry that is no directory is set. By induction on the names walked. -/
theorem Volume.walk_put (notDir : ∀ m, s.find? L ≠ some (.dir m)) (shown : String) :
    ∀ (names cur D : List String), s.walk shown cur names = .ok D →
      (s.put L e).walk shown cur names = .ok D
  | [], cur, D, walked => walked
  | n :: rest, cur, D, walked => by
    unfold Volume.walk at walked ⊢
    split at walked
    · cases walked
    rename_i searchable
    rw [if_neg (by simpa using Volume.searchable_put notDir (by simpa using searchable))]
    split at walked
    · rename_i up
      rw [if_pos up]
      exact Volume.walk_put notDir shown rest _ D walked
    rw [if_neg ‹_›]
    split at walked
    · cases walked
    rw [if_neg ‹_›]
    split at walked
    · cases walked
    · cases walked
    · rename_i m found
      rw [Volume.find?_put_dir notDir found]
      exact Volume.walk_put notDir shown rest _ D walked

theorem Volume.locate_put (notDir : ∀ m, s.find? L ≠ some (.dir m)) {cwd : List String}
    {p : FsPath} {r : List String × Option String} (located : s.locate cwd p = .ok r) :
    (s.put L e).locate cwd p = .ok r := by
  unfold Volume.locate at located ⊢
  dsimp only at located ⊢
  split at located
  · exact located
  rename_i last _
  cases walked : s.walk p.text [] (absoluteParts cwd p).dropLast with
  | error f => simp [walked, bind, Except.bind] at located
  | ok dir =>
    simp only [walked, bind, Except.bind, Volume.walk_put notDir _ _ _ _ walked] at located ⊢
    split at located
    · cases located
    rename_i searchable
    rw [if_neg (by simpa using Volume.searchable_put notDir (by simpa using searchable))]
    exact located

end walk

/-! ### Walks -/

/-- Whether a walk succeeds, and where it ends, does not depend on how the path is shown. -/
theorem Volume.walk_shown (s : Volume) {shown : String} (other : String) :
    ∀ (names cur D : List String), s.walk shown cur names = .ok D → s.walk other cur names = .ok D
  | [], _, _, walked => walked
  | n :: rest, cur, D, walked => by
    unfold Volume.walk at walked ⊢
    split at walked
    · cases walked
    rw [if_neg ‹_›]
    split at walked
    · rw [if_pos ‹_›]
      exact Volume.walk_shown s other rest _ D walked
    rw [if_neg ‹_›]
    split at walked
    · cases walked
    rw [if_neg ‹_›]
    split at walked
    · cases walked
    · cases walked
    · exact Volume.walk_shown s other rest _ D walked

/-- Walking names one after the other is walking the first, then the rest from where it ends. -/
theorem Volume.walk_append (s : Volume) (shown : String) :
    ∀ (first rest cur : List String),
      s.walk shown cur (first ++ rest) = (s.walk shown cur first).bind fun D => s.walk shown D rest
  | [], _, _ => rfl
  | n :: first, rest, cur => by
    simp only [List.cons_append, Volume.walk]
    split
    · rfl
    split
    · exact Volume.walk_append s shown first rest _
    split
    · rfl
    split
    · rfl
    · rfl
    · exact Volume.walk_append s shown first rest _

theorem Volume.isDirAt_of_searchable {s : Volume} {D : List String}
    (searchable : s.searchable D = true) : s.isDirAt D = true := by
  unfold Volume.searchable Volume.modeAt at searchable
  unfold Volume.isDirAt
  split at searchable
  · rename_i m found
    split at found
    · simp
    · cases found
  · cases searchable

/-- Where locating a path ends when the walk to the whole path reaches the directory `D`: at `D`
itself, or at the name that `D` has in its parent. -/
theorem Volume.locate_walked {s : Volume} {cwd : List String} {p : FsPath} {shown : String}
    {D : List String} (walked : s.walk shown [] (absoluteParts cwd p) = .ok D)
    (searchable : s.searchable D = true) :
    s.locate cwd p = .ok (D, none) ∨ ∃ parent n, s.locate cwd p = .ok (parent, some n) ∧ parent ++ [n] = D := by
  unfold Volume.locate
  dsimp only
  rcases List.eq_nil_or_concat (absoluteParts cwd p) with empty | ⟨front, last, split⟩
  · rw [empty] at walked ⊢
    cases walked
    exact .inl rfl
  rw [List.concat_eq_append] at split
  rw [split, List.getLast?_concat, List.dropLast_concat]
  rw [split, Volume.walk_append] at walked
  cases front_walk : s.walk shown [] front with
  | error f => simp [front_walk, Except.bind] at walked
  | ok parent =>
    simp only [front_walk, Except.bind] at walked
    simp only [Volume.walk_shown s p.text front [] parent front_walk, bind, Except.bind]
    unfold Volume.walk at walked
    split at walked
    · cases walked
    rename_i parentSearchable
    rw [if_neg parentSearchable]
    split at walked
    · rename_i up
      rw [if_pos up]
      unfold Volume.walk at walked
      cases walked
      exact .inl rfl
    rename_i notUp
    rw [if_neg notUp]
    split at walked
    · cases walked
    rename_i short
    rw [if_neg short]
    split at walked
    · cases walked
    · cases walked
    · unfold Volume.walk at walked
      cases walked
      exact .inr ⟨parent, last, rfl, rfl⟩

/-- Asking for a directory, when it may be there already, changes nothing once the walk to it has
reached a directory that may be searched. -/
theorem Volume.mkdir_walked {s : Volume} {cwd : List String} {p : FsPath} {shown : String}
    {D : List String} (walked : s.walk shown [] (absoluteParts cwd p) = .ok D)
    (searchable : s.searchable D = true) (mode : Nat) (parents : Bool) (fuel : Nat) :
    s.mkdir cwd p mode parents true (fuel + 1) = .ok s := by
  have isDir : s.isDirAt D = true := Volume.isDirAt_of_searchable searchable
  have there : (s.find? D).isSome = true := by
    unfold Volume.isDirAt at isDir
    split at isDir <;> simp_all
  -- making it again fails because something is there, and it is a directory
  have made : s.makeDir cwd p mode = .error (alreadyThere p.text) ∧ s.isDir cwd p = true := by
    rcases Volume.locate_walked walked searchable with located | ⟨parent, n, located, rfl⟩
    · simp [Volume.makeDir, Volume.isDir, located, isDir, bind, Except.bind, throw, throwThe,
        MonadExceptOf.throw]
    · simp [Volume.makeDir, Volume.isDir, located, isDir, there, bind, Except.bind, throw, throwThe,
        MonadExceptOf.throw]
  simp [Volume.mkdir, made, alreadyThere, Fault.category]

/-! ### Files at a located path -/

section located

variable {s : Volume} {cwd : List String} {p : FsPath} {parent : List String} {n : String}

theorem Volume.stat_located (located : s.locate cwd p = .ok (parent, some n)) {entry : Entry}
    (found : s.find? (parent ++ [n]) = some entry) : s.stat cwd p = .ok entry := by
  simp [Volume.stat, located, found, bind, Except.bind, pure, Except.pure]

theorem Volume.stat_located_missing (located : s.locate cwd p = .ok (parent, some n))
    (missing : s.find? (parent ++ [n]) = none) : s.stat cwd p = .error (missingPath p.text) := by
  simp [Volume.stat, located, missing, bind, Except.bind, throw, throwThe, MonadExceptOf.throw]

theorem Volume.readFile_located (located : s.locate cwd p = .ok (parent, some n)) {bytes : ByteArray}
    (found : s.find? (parent ++ [n]) = some (.file bytes)) : s.readFile cwd p = .ok bytes := by
  simp [Volume.readFile, located, found, bind, Except.bind, pure, Except.pure]

/-- Writing a file over a file, or a new file into a directory that may be written, sets the one
entry of the path. -/
theorem Volume.writeFile_located (located : s.locate cwd p = .ok (parent, some n))
    (notDir : ∀ m, s.find? (parent ++ [n]) ≠ some (.dir m))
    (room : s.find? (parent ++ [n]) = none → s.writable parent = true) (bytes : ByteArray) :
    s.writeFile cwd p bytes = .ok (s.put (parent ++ [n]) (.file bytes)) := by
  cases found : s.find? (parent ++ [n]) with
  | none =>
    simp [Volume.writeFile, located, found, room found, bind, Except.bind, pure, Except.pure]
  | some entry =>
    cases entry with
    | dir m => exact absurd found (notDir m)
    | file old => simp [Volume.writeFile, located, found, bind, Except.bind, pure, Except.pure]

/-- A file read has been located and found. -/
theorem Volume.readFile_ok {bytes : ByteArray} (read : s.readFile cwd p = .ok bytes) :
    ∃ parent n, s.locate cwd p = .ok (parent, some n) ∧ s.find? (parent ++ [n]) = some (.file bytes) := by
  cases located : s.locate cwd p with
  | error f => simp [Volume.readFile, located, bind, Except.bind] at read
  | ok r =>
    obtain ⟨parent, last⟩ := r
    cases last with
    | none => simp [Volume.readFile, located, bind, Except.bind, throw, throwThe,
        MonadExceptOf.throw] at read
    | some n =>
      refine ⟨parent, n, rfl, ?_⟩
      simp only [Volume.readFile, located, bind, Except.bind] at read
      split at read <;> simp_all [pure, Except.pure, throw, throwThe, MonadExceptOf.throw]

/-- A file written has been located, was no directory, and is the one entry set. -/
theorem Volume.writeFile_ok {bytes : ByteArray} {s' : Volume} (written : s.writeFile cwd p bytes = .ok s') :
    ∃ parent n, s.locate cwd p = .ok (parent, some n) ∧ (∀ m, s.find? (parent ++ [n]) ≠ some (.dir m)) ∧
      s' = s.put (parent ++ [n]) (.file bytes) := by
  cases located : s.locate cwd p with
  | error f => simp [Volume.writeFile, located, bind, Except.bind] at written
  | ok r =>
    obtain ⟨parent, last⟩ := r
    cases last with
    | none => simp [Volume.writeFile, located, bind, Except.bind, throw, throwThe,
        MonadExceptOf.throw] at written
    | some n =>
      refine ⟨parent, n, rfl, ?_⟩
      simp only [Volume.writeFile, located, bind, Except.bind] at written
      split at written
      · simp [throw, throwThe, MonadExceptOf.throw] at written
      · rename_i found
        simp only [pure, Except.pure, Except.ok.injEq] at written
        exact ⟨by simp [found], written.symm⟩
      · rename_i found
        split at written
        · simp [throw, throwThe, MonadExceptOf.throw] at written
        · simp only [pure, Except.pure, Except.ok.injEq] at written
          exact ⟨by simp [found], written.symm⟩

end located

/-! ### Steps of the world, through the store -/

section steps

variable (w : World)

theorem writeFile_run (p : FsPath) (bytes : ByteArray) :
    (writeFile p bytes).run w = match w.store.writeFile w.cwd p bytes with
      | .ok s => .ok () { w with store := s }
      | .error f => .error f w := by
  cases written : w.store.writeFile w.cwd p bytes <;>
    simp only [writeFile, onStore, EStateM.run_bind, EStateM.run_get, written] <;> rfl

theorem readFile_run (p : FsPath) :
    (readFile p).run w = match w.store.readFile w.cwd p with
      | .ok bytes => .ok bytes w
      | .error f => .error f w := by
  cases read : w.store.readFile w.cwd p <;>
    simp only [readFile, orFault, EStateM.run_bind, EStateM.run_get, read] <;> rfl

theorem mkdir_run (p : FsPath) (mode : Nat) (parents existOk : Bool) :
    (mkdir p mode parents existOk).run w =
      match w.store.mkdir w.cwd p mode parents existOk (p.parts.length + 1) with
      | .ok s => .ok () { w with store := s }
      | .error f => .error f w := by
  cases made : w.store.mkdir w.cwd p mode parents existOk (p.parts.length + 1) <;>
    simp only [mkdir, onStore, EStateM.run_bind, EStateM.run_get, made] <;> rfl

theorem exists?_run (p : FsPath) :
    (exists? p).run w = match w.store.stat w.cwd p with
      | .ok _ => .ok true w
      | .error f => if meansAbsent f then .ok false w else .error f w := by
  cases found : w.store.stat w.cwd p with
  | ok e => simp only [exists?, stat?, EStateM.run_bind, EStateM.run_get, found]; rfl
  | error f =>
    by_cases absent : meansAbsent f = true <;>
      simp only [exists?, stat?, EStateM.run_bind, EStateM.run_get, found, absent] <;> rfl

theorem orFault_run {α : Type} (r : Except Fault α) :
    (orFault r).run w = match r with
      | .ok a => .ok a w
      | .error f => .error f w := by
  cases r <;> rfl

/-- Printing a message whose markup reads as `text` adds that text to the terminal. -/
theorem say_run {msg text : String} (shown : (GinSave.Console.printed msg).toOption = some text) :
    (say msg).run w = .ok () { w with printed := w.printed.push text } := by
  unfold say
  split <;> rename_i printedAs <;> rw [printedAs] at shown <;> cases shown
  rfl

end steps

end GinSave.Store
