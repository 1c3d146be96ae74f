import GinSave.Archive.Layout
import GinSave.Proofs.Store.Changes
import GinSave.Proofs.Store.Suffixes
import GinSave.Proofs.Archive.Extraction

/-! Laying the extracted files out. The output directory is made afresh with `decompiled` and `ship`
in it, the containers are extracted into `decompiled`, and the files listed there are copied
under `ship`. Each container's own directory is made with mode `777`, the decimal number, which
its owner may not search, so no section file is ever written below `decompiled`
(`extractMany_noFileBelow`). A run that gets as far as listing the extracted files therefore lists
none: the order a file system would list them in cannot matter (`layOutListing_unlisted`), and the
mappings it writes are those of no copy at all.

Outside the output directory a run, finished or failed, changes nothing but the missing
directories on the output directory's own path, which it makes as `mkdir -p` does
(`layOut_changes_within`): every step works below the output directory, whatever the names of
the inputs and of their sections. -/

namespace GinSave.Store

/-! ### Names joined to resolved paths -/

/-- One step of resolution never goes above the directory the path was in. -/
theorem dropLast_prefix_resolveStep (acc : List String) (n : String) :
    acc.dropLast <+: resolveStep acc n := by
  unfold resolveStep
  split
  · exact List.prefix_refl _
  · exact (List.dropLast_prefix acc).trans (List.prefix_append acc [n])

/-- Joining a name without a slash, other than the empty name and `.`, takes one step of
resolution. -/
theorem FsPath.resolved_join (cwd : List String) (p : FsPath) {n : String}
    (noSlash : '/' ∉ n.toList) (nonempty : n ≠ "") (notDot : n ≠ ".") :
    (FsPath.resolved cwd (p.join n)).parts = resolveStep (FsPath.resolved cwd p).parts n := by
  rw [FsPath.resolved_parts, FsPath.resolved_parts,
    absoluteParts_join_plain cwd p noSlash nonempty notDot, List.foldl_append]
  rfl

/-- A plain name joined to a path resolves into the directory the path resolves to. -/
theorem FsPath.resolved_join_name (cwd : List String) (p : FsPath) {n : String}
    (noSlash : '/' ∉ n.toList) (nonempty : n ≠ "") (notDot : n ≠ ".") (notUp : n ≠ "..") :
    (FsPath.resolved cwd (p.join n)).parts = (FsPath.resolved cwd p).parts ++ [n] := by
  rw [FsPath.resolved_join cwd p noSlash nonempty notDot]
  simp [resolveStep, notUp]

section joined

variable {D cwd : List String} {p : FsPath} {n : String}

/-- A name joined to a path below `D`, with a directory of its own, stays below `D`. -/
theorem prefix_resolved_join (below : D <+: (FsPath.resolved cwd p).parts.dropLast)
    (noSlash : '/' ∉ n.toList) : D <+: (FsPath.resolved cwd (p.join n)).parts := by
  by_cases here : n = "" ∨ n = "."
  · rw [FsPath.join_here p here]
    exact below.trans (List.dropLast_prefix _)
  · rw [not_or] at here
    rw [FsPath.resolved_join cwd p noSlash here.1 here.2]
    exact below.trans (dropLast_prefix_resolveStep _ n)

/-- A name other than `..` joined to such a path leaves it a directory of its own below `D`. -/
theorem prefix_dropLast_resolved_join (below : D <+: (FsPath.resolved cwd p).parts.dropLast)
    (noSlash : '/' ∉ n.toList) (notUp : n ≠ "..") :
    D <+: (FsPath.resolved cwd (p.join n)).parts.dropLast := by
  by_cases here : n = "" ∨ n = "."
  · rw [FsPath.join_here p here]
    exact below
  · rw [not_or] at here
    rw [FsPath.resolved_join cwd p noSlash here.1 here.2]
    simpa [resolveStep, notUp] using below.trans (List.dropLast_prefix _)

end joined

/-- A name without a slash has a stem without one. -/
theorem FsPath.stem_no_slash {p : FsPath} (noSlash : '/' ∉ p.name.toList) :
    '/' ∉ p.stem.toList := by
  intro mem
  apply noSlash
  rw [← nameStem_append_nameSuffix p.name, String.toList_append]
  exact List.mem_append_left _ mem

/-! ### Steps that succeed -/

theorem mkdir_run_ok {p : FsPath} {mode : Nat} {parents existOk : Bool} {w w' : World} {u : Unit}
    (ran : (mkdir p mode parents existOk).run w = .ok u w') :
    w.store.mkdir w.cwd p mode parents existOk (p.parts.length + 1) = .ok w'.store ∧
      w'.cwd = w.cwd := by
  rw [mkdir_run] at ran
  split at ran
  · cases ran
    exact ⟨‹_›, rfl⟩
  · cases ran

theorem writeFile_run_ok {p : FsPath} {bytes : ByteArray} {w w' : World} {u : Unit}
    (ran : (writeFile p bytes).run w = .ok u w') :
    w.store.writeFile w.cwd p bytes = .ok w'.store ∧ w'.cwd = w.cwd := by
  rw [writeFile_run] at ran
  split at ran
  · cases ran
    exact ⟨‹_›, rfl⟩
  · cases ran

/-- Removing a tree, when it succeeds, removes it where the path resolves. -/
theorem removeTree_run_removes {p : FsPath} {w w' : World} {u : Unit}
    (ran : (removeTree p).run w = .ok u w') :
    w'.store = w.store.removeTree (FsPath.resolved w.cwd p).parts ∧ w'.cwd = w.cwd := by
  simp only [removeTree, EStateM.run_bind, EStateM.run_get] at ran
  split at ran
  · rename_i t found
    split at ran
    · cases ran
    · cases ran
      exact ⟨by rw [← Volume.target_resolves found], rfl⟩
  · cases ran

/-- A directory that is there makes `exists?` answer yes, and looking changes nothing. -/
theorem exists?_dirAt {p : FsPath} {w : World} (there : w.store.DirAt w.cwd p) :
    (exists? p).run w = .ok true w := by
  obtain ⟨dir, n, m, located, found⟩ := there
  rw [exists?_run, Volume.stat_located located found]

/-- A path that resolves to a name joined to `D` passes only `D`, the places above it, and the
name itself. -/
theorem FsPath.Passes.above_of_resolved {cwd cwd' D q : List String} {p : FsPath} {n : String}
    (parts : (FsPath.resolved cwd' p).parts = D ++ [n])
    (passes : FsPath.Passes cwd (FsPath.resolved cwd' p) q) (outside : ¬ D <+: q) : q <+: D := by
  have plain := FsPath.dotdot_not_mem_resolved cwd' p
  rw [← absoluteParts_resolved cwd' cwd p] at plain
  have lead := passes.prefix_of_plain plain
  rw [absoluteParts_resolved, parts] at lead
  rcases List.prefix_concat_iff.mp lead with whole | part
  · exact absurd (whole ▸ List.prefix_append D [n]) outside
  · exact part

/-- A directory cannot be made, without its parents, at a name `..` joined to a path. -/
theorem mkdir_join_up {out : FsPath} {n : String} (noSlash : '/' ∉ n.toList) {mode : Nat}
    {w w' : World} {u : Unit} (ran : (mkdir (out.join n) mode false false).run w = .ok u w') :
    n ≠ ".." := by
  rintro rfl
  have last : (absoluteParts w.cwd (out.join "..")).getLast? = some ".." := by
    rw [absoluteParts_join_plain w.cwd out noSlash (by decide) (by decide)]
    simp
  exact Volume.mkdir_up last mode _ _ (mkdir_run_ok ran).1

theorem Volume.FilesWithin.noFileBelow {s s' : Volume} {D : List String} (within : s'.FilesWithin s)
    (bare : s.NoFileBelow D) : s'.NoFileBelow D :=
  fun q bytes below proper found => bare q bytes below proper (within q bytes found)

end GinSave.Store

namespace GinSave.Archive

open GinSave.Store

/-! ### Listing a directory with no file below it -/

/-- A directory with no file below it lists no file, however deep the walk goes. By induction on
the depth. -/
theorem walkFiles_none (s : Volume) :
    ∀ (fuel : Nat) (dir : List String), s.NoFileBelow dir → walkFiles s fuel dir = []
  | 0, _, _ => rfl
  | fuel + 1, dir, bare => by
    -- every entry listed lies strictly below `dir`
    have below : ∀ k ∈ (s.children dir).map (dir ++ [·]), dir <+: k ∧ dir.length < k.length := by
      intro k listed
      obtain ⟨c, -, rfl⟩ := List.mem_map.mp listed
      exact ⟨List.prefix_append _ _, by simp⟩
    rw [walkFiles, List.append_eq_nil_iff, List.filter_eq_nil_iff, List.flatMap_eq_nil_iff]
    constructor
    · intro k listed file
      obtain ⟨lower, longer⟩ := below k listed
      unfold Volume.isFileAt at file
      split at file
      · exact bare k _ lower (by rintro rfl; omega) ‹_›
      · cases file
    · intro k listed
      obtain ⟨lower, longer⟩ := below k (List.mem_filter.mp listed).1
      refine walkFiles_none s fuel k fun q bytes deeper proper => ?_
      refine bare q bytes (lower.trans deeper) ?_
      rintro rfl
      have := deeper.length_le
      omega

/-! ### Making the output directory and extracting into it -/

/-- What a run of `prepareOutput` that succeeds returns: the working directory, which it keeps,
and `decompiled`, `ship` and `mappings.json` in the output directory, resolved; and
`decompiled` is then a directory. -/
theorem prepareOutput_ok {out : FsPath} {w w' : World} {r : List String × FsPath × FsPath × FsPath}
    (ran : (prepareOutput out).run w = .ok r w') :
    r = (w.cwd, FsPath.resolved w.cwd (out.join "decompiled"),
      FsPath.resolved w.cwd (out.join "ship"), FsPath.resolved w.cwd (out.join "mappings.json")) ∧
      w'.cwd = w.cwd ∧ w'.store.DirAt w.cwd (FsPath.resolved w.cwd (out.join "decompiled")) := by
  unfold prepareOutput at ran
  obtain ⟨there, w₁, looked, ran⟩ := run_bind_ok ran
  have cwd₁ : OnFiles (fun _ c => c = w.cwd) w₁ := (keeps_exists? out).of_run_ok rfl looked
  obtain ⟨w₂, cwd₂, ran⟩ := run_ite_then (P := fun v => v.cwd = w.cwd)
    (fun start removed => (removeTree_run_removes removed).2.trans start) cwd₁ ran
  obtain ⟨_, w₃, madeOut, ran⟩ := run_bind_ok ran
  have cwd₃ := (mkdir_run_ok madeOut).2.trans cwd₂
  obtain ⟨v, w₄, got, ran⟩ := run_bind_ok ran
  cases got
  obtain ⟨_, w₅, madeTemp, ran⟩ := run_bind_ok ran
  obtain ⟨_, w₆, madeShip, ran⟩ := run_bind_ok ran
  obtain ⟨_, w₇, written, ran⟩ := run_bind_ok ran
  cases ran
  obtain ⟨temp, cwd₅⟩ := mkdir_run_ok madeTemp
  obtain ⟨ship, cwd₆⟩ := mkdir_run_ok madeShip
  obtain ⟨mappings, cwd₇⟩ := writeFile_run_ok written
  rw [cwd₃] at temp ship mappings ⊢
  rw [cwd₅, cwd₃] at ship
  rw [cwd₆, cwd₅, cwd₃] at mappings
  refine ⟨rfl, by rw [cwd₇, cwd₆, cwd₅, cwd₃], ?_⟩
  -- `decompiled` is made, and making `ship` and writing `mappings.json` keep every directory
  have last : (absoluteParts w.cwd (FsPath.resolved w.cwd (out.join "decompiled"))).getLast? =
      some "decompiled" := by
    rw [absoluteParts_resolved, FsPath.resolved_join_name _ _ (by decide) (by decide) (by decide)
      (by decide)]
    simp
  have made := Volume.mkdir_dirAt last (by decide) _ temp
  exact (Volume.writeFile_keepsDirs mappings).dirAt
    ((Volume.mkdir_madeOnly _ ship).keepsDirs.dirAt made)

/-- Extracting into a directory that is there leaves no file below it: the directory is removed
first, made again, and every container's directory in it is closed. -/
theorem extractMany_noFileBelow {verbose numbered : Bool} {inputs : List FsPath} {out : FsPath}
    {w w' : World} {paths : List FsPath} (there : w.store.DirAt w.cwd out)
    (ran : (extractMany verbose numbered inputs out).run w = .ok paths w') :
    w'.store.NoFileBelow (FsPath.resolved w.cwd out).parts ∧ w'.cwd = w.cwd := by
  unfold extractMany at ran
  obtain ⟨found, w₁, looked, ran⟩ := run_bind_ok ran
  rw [exists?_dirAt there] at looked
  cases looked
  rw [if_pos rfl] at ran
  obtain ⟨_, w₂, removed, ran⟩ := run_bind_ok ran
  obtain ⟨store₂, cwd₂⟩ := removeTree_run_removes removed
  have bare₂ : OnFiles (fun s c => s.NoFileBelow (FsPath.resolved w.cwd out).parts ∧ c = w.cwd) w₂ :=
    ⟨store₂ ▸ Volume.removeTree_noFileBelow _ _, cwd₂⟩
  obtain ⟨_, w₃, madeOut, ran⟩ := run_bind_ok ran
  obtain ⟨made, cwd₃⟩ := mkdir_run_ok madeOut
  have bare₃ : OnFiles (fun s c => s.NoFileBelow (FsPath.resolved w.cwd out).parts ∧ c = w.cwd) w₃ :=
    ⟨(Volume.mkdir_madeOnly _ made).noFileBelow bare₂.1, cwd₃.trans bare₂.2⟩
  obtain ⟨files, w₄, chosen, ran⟩ := run_bind_ok ran
  have bare₄ := (keeps_admitted _ inputs).of_run_ok bare₃ chosen
  obtain ⟨w₅, bare₅, ran⟩ := run_ite_then (fun start said => (keeps_say _).of_run_ok start said)
    bare₄ ran
  obtain ⟨-, within, cwd'⟩ := extractEach_nothing out _ files ran
  exact ⟨within.noFileBelow bare₅.1, cwd'.trans bare₅.2⟩

/-- The inputs admitted for extraction are among those given. By induction on the inputs. -/
theorem admitted_subset (o : ExtractOptions) :
    ∀ (files : List FsPath) {w w' : World} {kept : List FsPath},
      (admitted o files).run w = .ok kept w' → ∀ p ∈ kept, p ∈ files
  | [], _, _, _, ran => by
    cases ran
    simp
  | p :: rest, w, w', kept, ran => by
    rw [admitted] at ran
    -- whatever is decided for `p`, the rest of the list is admitted after it
    have tail : ∀ (keep : Bool) {v : World},
        (admitted o rest >>= fun more => pure (if keep = true then p :: more else more)).run v =
          .ok kept w' → ∀ q ∈ kept, q ∈ p :: rest := by
      intro keep v ran q member
      obtain ⟨more, v', restRan, done⟩ := run_bind_ok ran
      cases done
      have within := admitted_subset o rest restRan
      split at member
      · rcases List.mem_cons.mp member with rfl | later
        · exact List.mem_cons_self
        · exact List.mem_cons_of_mem _ (within q later)
      · exact List.mem_cons_of_mem _ (within q member)
    -- a skipped input is reported first; the checks run in turn until one fails
    have skip : ∀ (msg : String) {v : World}, (note o msg >>= fun _ => pure false >>= fun keep =>
        admitted o rest >>= fun more => pure (if keep = true then p :: more else more)).run v =
          .ok kept w' → ∀ q ∈ kept, q ∈ p :: rest := by
      intro msg v ran
      obtain ⟨_, v₁, -, ran⟩ := run_bind_ok ran
      exact tail false ran
    obtain ⟨canRead, w₁, -, ran⟩ := run_bind_ok ran
    dsimp only at ran
    split at ran
    · exact skip _ ran
    obtain ⟨isDirectory, w₂, -, ran⟩ := run_bind_ok ran
    split at ran
    · exact skip _ ran
    obtain ⟨gin, w₃, -, ran⟩ := run_bind_ok ran
    split at ran
    · exact skip _ ran
    · exact tail true ran

/-! ### The listing -/

/-- The order the extracted files are listed in is never used: a run that gets as far as listing
them lists none, so any arrangement that arranges no file into none gives the run with an empty
listing. -/
theorem layOutListing_unlisted (arrange : List FsPath → List FsPath) (empty : arrange [] = [])
    (verbose : Bool) (inputs : List FsPath) (out : FsPath) :
    layOutListing arrange verbose inputs out = layOutListing (fun _ => []) verbose inputs out := by
  funext w
  show (layOutListing arrange verbose inputs out).run w =
    (layOutListing (fun _ => []) verbose inputs out).run w
  unfold layOutListing
  rw [EStateM.run_bind, EStateM.run_bind]
  cases prepared : (prepareOutput out).run w with
  | error e w₁ => rfl
  | ok r w₁ =>
    obtain ⟨rfl, cwd₁, there⟩ := prepareOutput_ok prepared
    have there₁ : w₁.store.DirAt w₁.cwd (FsPath.resolved w.cwd (out.join "decompiled")) := by
      rw [cwd₁]
      exact there
    dsimp only
    rw [EStateM.run_bind, EStateM.run_bind]
    cases extracted : (extractMany verbose false inputs
        (FsPath.resolved w.cwd (out.join "decompiled"))).run w₁ with
    | error e w₂ => rfl
    | ok paths w₂ =>
      have bare := (extractMany_noFileBelow there₁ extracted).1
      rw [FsPath.resolved_resolved] at bare
      have walked : walkFiles w₂.store
          ((FsPath.resolved w.cwd (out.join "decompiled")).parts.length + 64)
          (FsPath.resolved w.cwd (out.join "decompiled")).parts = [] :=
        walkFiles_none _ _ _ bare
      dsimp only
      rw [EStateM.run_bind, EStateM.run_bind, EStateM.run_get]
      dsimp only
      rw [walked, List.map_nil, empty]

/-! ### Every step stays in the output directory -/

section inside

variable {D : List String} {A : List String → Prop} {s₀ : Volume} {cwd : List String}

theorem keeps_inside_extractSections (o : ExtractOptions) (bytes : ByteArray) {dir : FsPath}
    (below : D <+: (FsPath.resolved cwd dir).parts.dropLast) :
    ∀ (i : Nat) (secs : List Section),
      Keeps (OnFiles (Inside D A s₀ cwd)) (extractSections o bytes dir i secs)
  | _, [] => Keeps.pure _
  | i, sec :: rest => by
    rw [extractSections]
    have more : ∀ written : List FsPath, Keeps (OnFiles (Inside D A s₀ cwd))
        (extractSections o bytes dir (i + 1) rest >>= fun more => pure (written ++ more)) :=
      fun _ => Keeps.bind (keeps_inside_extractSections o bytes below (i + 1) rest) fun _ =>
        Keeps.pure _
    refine Keeps.bind (keeps_orFault _) fun data => ?_
    dsimp only
    -- the section is reported, skipped, or written below `dir`
    split
    · exact Keeps.bind (keeps_note o _) fun _ => Keeps.bind (Keeps.pure _) more
    · split
      · exact Keeps.bind (Keeps.pure _) more
      · exact Keeps.bind (keeps_inside_writeFile
          (prefix_resolved_join below (fileName_no_slash o i sec.name)) _) fun _ =>
          Keeps.bind (keeps_note o _) fun _ => Keeps.bind (Keeps.pure _) more

theorem keeps_inside_extractFile (o : ExtractOptions) (input : FsPath) {dir : FsPath}
    (below : D <+: (FsPath.resolved cwd dir).parts.dropLast) :
    Keeps (OnFiles (Inside D A s₀ cwd)) (extractFile o input dir) := by
  unfold extractFile
  refine Keeps.bind (keeps_exists? input) fun _ => Keeps.ite_then (keeps_say _) fun _ => ?_
  refine Keeps.bind (keeps_readFile input) fun bytes => Keeps.bind (keeps_orFault _) fun _ => ?_
  refine Keeps.ite (Keeps.bind (keeps_say _) fun _ => Keeps.throw_bind _ _) ?_
  exact Keeps.bind (keeps_note o _) fun _ => Keeps.bind (keeps_orFault _) fun sections =>
    keeps_inside_extractSections o bytes below 0 sections

/-- Extracting containers one after the other into `out` stays below it: each gets the
directory named by its stem, which a stem `..` cannot name. By induction on the containers. -/
theorem keeps_inside_extractEach {out : FsPath} (below : D <+: (FsPath.resolved cwd out).parts.dropLast)
    (files : List FsPath) (plainNames : ∀ p ∈ files, '/' ∉ p.name.toList) (o : ExtractOptions) :
    Keeps (OnFiles (Inside D A s₀ cwd)) (extractEach o out files) := by
  induction files generalizing o with
  | nil => exact Keeps.pure _
  | cons file rest rest_kept =>
    rw [extractEach]
    have noSlash := FsPath.stem_no_slash (plainNames file List.mem_cons_self)
    have restPlain := fun p member => plainNames p (List.mem_cons_of_mem file member)
    refine Keeps.bind_of_returns (R := fun _ => file.stem ≠ "..")
      (keeps_inside_mkdir_single (prefix_resolved_join below noSlash) _ _)
      (fun _ _ _ _ ran => mkdir_join_up noSlash ran) fun _ notUp => ?_
    refine Keeps.bind (keeps_say _) fun _ => Keeps.bind ?_ fun _ =>
      Keeps.bind (rest_kept restPlain _) fun _ => Keeps.pure _
    exact keeps_inside_extractFile o file (prefix_dropLast_resolved_join below noSlash notUp)

/-- Extracting many containers into `out` stays below it, but for the missing directories on
its path, which `A` must allow. -/
theorem keeps_inside_extractMany (verbose numbered : Bool) (inputs : List FsPath) {out : FsPath}
    (plainNames : ∀ p ∈ inputs, '/' ∉ p.name.toList)
    (below : D <+: (FsPath.resolved cwd out).parts.dropLast)
    (allowed : ∀ q, FsPath.Passes cwd out q → ¬ D <+: q → A q) :
    Keeps (OnFiles (Inside D A s₀ cwd)) (extractMany verbose numbered inputs out) := by
  unfold extractMany
  refine Keeps.bind (keeps_exists? out) fun _ => Keeps.ite_then
    (keeps_inside_removeTree (below.trans (List.dropLast_prefix _))) fun _ => ?_
  refine Keeps.bind (keeps_inside_mkdir allowed _ _ _) fun _ => ?_
  refine Keeps.bind_of_returns (R := fun files => ∀ p ∈ files, p ∈ inputs) (keeps_admitted _ _)
    (fun _ _ _ _ ran => admitted_subset _ inputs ran) fun files within => ?_
  exact Keeps.ite_then (keeps_say _) fun _ =>
    keeps_inside_extractEach below files (fun p member => plainNames p (within p member)) _

end inside

/-- Making the output directory afresh changes nothing outside it but the missing directories on
its path. -/
theorem keeps_inside_prepareOutput (s₀ : Volume) (cwd : List String) (out : FsPath) :
    Keeps (OnFiles (Inside (FsPath.resolved cwd out).parts (FsPath.Passes cwd out) s₀ cwd))
      (prepareOutput out) := by
  -- `decompiled` and `ship` pass nothing outside the output directory that it does not pass
  have inner : ∀ n : String, '/' ∉ n.toList → n ≠ "" → n ≠ "." → n ≠ ".." →
      ∀ q, FsPath.Passes cwd (FsPath.resolved cwd (out.join n)) q →
        ¬ (FsPath.resolved cwd out).parts <+: q → FsPath.Passes cwd out q :=
    fun n noSlash nonempty notDot notUp q passes outside => FsPath.passes_of_prefix cwd out
      (passes.above_of_resolved (FsPath.resolved_join_name cwd out noSlash nonempty notDot notUp)
        outside)
  unfold prepareOutput
  refine Keeps.bind (keeps_exists? out) fun _ =>
    Keeps.ite_then (keeps_inside_removeTree (List.prefix_refl _)) fun _ => ?_
  refine Keeps.bind (keeps_inside_mkdir (fun q passes _ => passes) _ _ _) fun _ => ?_
  refine Keeps.get_bind fun v inside => ?_
  rw [inside.1]
  refine Keeps.bind (keeps_inside_mkdir (inner "decompiled" (by decide) (by decide) (by decide)
    (by decide)) _ _ _) fun _ => ?_
  refine Keeps.bind (keeps_inside_mkdir (inner "ship" (by decide) (by decide) (by decide)
    (by decide)) _ _ _) fun _ => ?_
  refine Keeps.bind (keeps_inside_writeFile ?_ _) fun _ => Keeps.pure _
  rw [FsPath.resolved_resolved, FsPath.resolved_join_name _ _ (by decide) (by decide) (by decide)
    (by decide)]
  exact List.prefix_append _ _

/-- Laying out an empty listing only reports and writes the mappings of no copy. -/
theorem structureFiles_nil (cwd : List String) (ship mappingsFile : FsPath) :
    structureFiles cwd ship mappingsFile [] = (do
      say "Structuring files.."
      writeFile mappingsFile (mappingsText []).toUTF8
      pure []) := rfl

/-- A run of the layout with an empty listing changes nothing outside the output directory but
the missing directories on its path. -/
theorem keeps_inside_layOutUnlisted (s₀ : Volume) (cwd : List String) (verbose : Bool)
    (inputs : List FsPath) (out : FsPath) (plainNames : ∀ p ∈ inputs, '/' ∉ p.name.toList) :
    Keeps (OnFiles (Inside (FsPath.resolved cwd out).parts (FsPath.Passes cwd out) s₀ cwd))
      (layOutListing (fun _ => []) verbose inputs out) := by
  have named : ∀ n : String, '/' ∉ n.toList → n ≠ "" → n ≠ "." → n ≠ ".." →
      (FsPath.resolved cwd (FsPath.resolved cwd (out.join n))).parts =
        (FsPath.resolved cwd out).parts ++ [n] :=
    fun n noSlash nonempty notDot notUp => by
      rw [FsPath.resolved_resolved, FsPath.resolved_join_name cwd out noSlash nonempty notDot notUp]
  unfold layOutListing
  refine Keeps.bind_of_returns (keeps_inside_prepareOutput s₀ cwd out)
    (R := fun r => r = (cwd, FsPath.resolved cwd (out.join "decompiled"),
      FsPath.resolved cwd (out.join "ship"), FsPath.resolved cwd (out.join "mappings.json")))
    (fun v _ r inside ran => inside.1 ▸ (prepareOutput_ok ran).1) ?_
  rintro r rfl
  dsimp only
  have temp := named "decompiled" (by decide) (by decide) (by decide) (by decide)
  refine Keeps.bind (keeps_inside_extractMany verbose false inputs plainNames ?_ ?_) fun _ => ?_
  · rw [temp, List.dropLast_concat]
  · intro q passes outside
    exact FsPath.passes_of_prefix cwd out (passes.above_of_resolved
      (FsPath.resolved_join_name cwd out (by decide) (by decide) (by decide) (by decide)) outside)
  refine Keeps.get_bind fun _ _ => ?_
  rw [structureFiles_nil]
  refine Keeps.bind (keeps_say _) fun _ => Keeps.bind (keeps_inside_writeFile ?_ _) fun _ =>
    Keeps.pure _
  rw [named "mappings.json" (by decide) (by decide) (by decide) (by decide)]
  exact List.prefix_append _ _

/-! ### What a run leaves behind -/

/-- A run of the layout that returns has made no copy: it returns no mapping, leaves no file below
`decompiled`, and leaves `mappings.json` holding the mappings of no copy. -/
theorem layOut_returns_nothing {verbose : Bool} {inputs : List FsPath} {out : FsPath}
    {w w' : World} {m : Mappings} (ran : (layOut verbose inputs out).run w = .ok m w') :
    m = [] ∧ w'.store.NoFileBelow (FsPath.resolved w.cwd (out.join "decompiled")).parts ∧
      w'.store.find? (FsPath.resolved w.cwd (out.join "mappings.json")).parts =
        some (.file (mappingsText []).toUTF8) := by
  rw [layOut, layOutListing_unlisted id rfl] at ran
  unfold layOutListing at ran
  obtain ⟨r, w₁, prepared, ran⟩ := run_bind_ok ran
  obtain ⟨rfl, cwd₁, there⟩ := prepareOutput_ok prepared
  have there₁ : w₁.store.DirAt w₁.cwd (FsPath.resolved w.cwd (out.join "decompiled")) := by
    rw [cwd₁]
    exact there
  dsimp only at ran
  obtain ⟨paths, w₂, extracted, ran⟩ := run_bind_ok ran
  obtain ⟨bare, cwd₂⟩ := extractMany_noFileBelow there₁ extracted
  rw [FsPath.resolved_resolved] at bare
  obtain ⟨v, w₃, got, ran⟩ := run_bind_ok ran
  cases got
  rw [structureFiles_nil] at ran
  obtain ⟨_, w₄, said, ran⟩ := run_bind_ok ran
  have same₄ : OnFiles (fun s c => s = w₂.store ∧ c = w₂.cwd) w₄ :=
    (keeps_say _).of_run_ok ⟨rfl, rfl⟩ said
  obtain ⟨_, w₅, written, ran⟩ := run_bind_ok ran
  cases ran
  obtain ⟨stored, -⟩ := writeFile_run_ok written
  rw [same₄.1, same₄.2, cwd₂, cwd₁] at stored
  obtain ⟨parent, n, located, -, put⟩ := Volume.writeFile_ok stored
  -- the mappings are written at `mappings.json`, beside `decompiled` and not below it
  have decompiledAt : (FsPath.resolved w.cwd (out.join "decompiled")).parts =
      (FsPath.resolved w.cwd out).parts ++ ["decompiled"] :=
    FsPath.resolved_join_name _ _ (by decide) (by decide) (by decide) (by decide)
  have mappingsAt : (FsPath.resolved w.cwd (out.join "mappings.json")).parts =
      (FsPath.resolved w.cwd out).parts ++ ["mappings.json"] :=
    FsPath.resolved_join_name _ _ (by decide) (by decide) (by decide) (by decide)
  have atFile := Volume.locate_resolves_named located
  rw [FsPath.resolved_resolved, mappingsAt] at atFile
  rw [decompiledAt] at bare ⊢
  rw [mappingsAt, put, atFile]
  refine ⟨rfl, fun q bytes below proper => ?_, ?_⟩
  swap
  · apply Volume.find?_put_self
    simp
  have apart : q ≠ (FsPath.resolved w.cwd out).parts ++ ["mappings.json"] := by
    rintro rfl
    simp at below
  rw [Volume.find?_put_of_ne _ _ apart]
  exact bare q bytes below proper

/-- The run from `w` to `w'` printed the line that reports the file `f` as matched by no copy. -/
def reportedUnmatched (w w' : World) (f : FsPath) : Prop :=
  ∃ text ∈ w'.printed.toList.drop w.printed.size,
    GinSave.Console.printed ("NO MATCH FOUND. " ++ f.text) = .ok text

/-- The mappings `m` that a run of the layout into `out`, from `w` to `w'`, returns tell the
truth: `mappings.json` holds them, every copy's target holds the bytes of its source, and every
file extracted below `decompiled` is either a source of a copy or reported as matched by none,
never both. -/
def MappingsFaithful (out : FsPath) (w w' : World) (m : Mappings) : Prop :=
  w'.store.find? (FsPath.resolved w.cwd (out.join "mappings.json")).parts =
      some (.file (mappingsText m).toUTF8) ∧
    (∀ src dst, (src, dst) ∈ m → ∃ bytes,
      w'.store.find? (FsPath.resolved w'.cwd src).parts = some (.file bytes) ∧
        w'.store.find? (FsPath.resolved w'.cwd dst).parts = some (.file bytes)) ∧
    (∀ q bytes, (FsPath.resolved w.cwd (out.join "decompiled")).parts <+: q →
      q ≠ (FsPath.resolved w.cwd (out.join "decompiled")).parts →
      w'.store.find? q = some (.file bytes) →
        ((⟨"/", q⟩ : FsPath) ∈ m.map Prod.fst ↔ ¬ reportedUnmatched w w' ⟨"/", q⟩))

/-- The mappings a run of the layout returns are faithful. -/
theorem layOut_mappings_faithful (verbose : Bool) (inputs : List FsPath) (out : FsPath)
    {w w' : World} {m : Mappings} (ran : (layOut verbose inputs out).run w = .ok m w') :
    MappingsFaithful out w w' m := by
  obtain ⟨rfl, bare, mappings⟩ := layOut_returns_nothing ran
  refine ⟨mappings, fun src dst copied => absurd copied List.not_mem_nil, ?_⟩
  intro q bytes below proper found
  exact absurd found (bare q bytes below proper)

/-- Printing a message whose text is known writes that text. -/
theorem say_of_shown {msg text : String}
    (shown : (GinSave.Console.printed msg).toOption = some text) : say msg = echo text := by
  unfold say
  split <;> rename_i printedAs <;> rw [printedAs] at shown <;> cases shown
  rfl

theorem printed_structuring : (GinSave.Console.printed "Structuring files..").toOption =
    some "Structuring files..\n" := by
  decide +kernel

theorem printed_noContainers : (GinSave.Console.printed
    "No .gin files found. Please select at least one .gin file.").toOption =
    some "No .gin files found. Please select at least one .gin file.\n" := by
  decide +kernel

/-- Laying out the one container `x.gin` whose header counts no section into `out` makes `out`
with `ship`, an empty `mappings.json` and `decompiled` in it; the extraction then makes
`decompiled` afresh with the container's directory `decompiled/x` in it, says which container it
decompiles, and returns no file, so no mapping is made. -/
theorem layOut_emptyContainer :
    (layOut false [⟨"", ["x.gin"]⟩] ⟨"", ["out"]⟩).run
      ⟨⟨[(["x.gin"], .file emptyContainer)]⟩, [], #[], []⟩ =
    .ok [] ⟨⟨[(["x.gin"], .file emptyContainer), (["out"], .dir (dirMode 0o777)),
      (["out", "ship"], .dir (dirMode 0o777)),
      (["out", "mappings.json"], .file (mappingsText []).toUTF8),
      (["out", "decompiled"], .dir (dirMode 0o777)),
      (["out", "decompiled", "x"], .dir (dirMode 777))]⟩, [],
      #["Decompiling \"x.gin\"..\n", "Structuring files..\n"], []⟩ := by
  have decompiled : FsPath.join ⟨"", ["out"]⟩ "decompiled" = ⟨"", ["out", "decompiled"]⟩ :=
    FsPath.join_of_no_slash _ (by decide)
  have ship : FsPath.join ⟨"", ["out"]⟩ "ship" = ⟨"", ["out", "ship"]⟩ :=
    FsPath.join_of_no_slash _ (by decide)
  have mappings : FsPath.join ⟨"", ["out"]⟩ "mappings.json" = ⟨"", ["out", "mappings.json"]⟩ :=
    FsPath.join_of_no_slash _ (by decide)
  have prepared : (prepareOutput ⟨"", ["out"]⟩).run
      ⟨⟨[(["x.gin"], .file emptyContainer)]⟩, [], #[], []⟩ =
      .ok ([], ⟨"/", ["out", "decompiled"]⟩, ⟨"/", ["out", "ship"]⟩, ⟨"/", ["out", "mappings.json"]⟩)
        ⟨⟨[(["x.gin"], .file emptyContainer), (["out"], .dir (dirMode 0o777)),
          (["out", "decompiled"], .dir (dirMode 0o777)), (["out", "ship"], .dir (dirMode 0o777)),
          (["out", "mappings.json"], .file ByteArray.empty)]⟩, [], #[], []⟩ := by
    simp only [prepareOutput, decompiled, ship, mappings]
    rfl
  -- the extraction finds `decompiled` there, removes it and makes it again
  have found : Volume.stat ⟨[(["x.gin"], .file emptyContainer), (["out"], .dir (dirMode 0o777)),
      (["out", "decompiled"], .dir (dirMode 0o777)), (["out", "ship"], .dir (dirMode 0o777)),
      (["out", "mappings.json"], .file ByteArray.empty)]⟩ [] ⟨"/", ["out", "decompiled"]⟩ =
      .ok (.dir (dirMode 0o777)) := rfl
  have cleared : (removeTree ⟨"/", ["out", "decompiled"]⟩).run
      ⟨⟨[(["x.gin"], .file emptyContainer), (["out"], .dir (dirMode 0o777)),
        (["out", "decompiled"], .dir (dirMode 0o777)), (["out", "ship"], .dir (dirMode 0o777)),
        (["out", "mappings.json"], .file ByteArray.empty)]⟩, [], #[], []⟩ =
      .ok () ⟨⟨[(["x.gin"], .file emptyContainer), (["out"], .dir (dirMode 0o777)),
        (["out", "ship"], .dir (dirMode 0o777)), (["out", "mappings.json"], .file ByteArray.empty)]⟩,
        [], #[], []⟩ := rfl
  have remade : Volume.mkdir ⟨[(["x.gin"], .file emptyContainer), (["out"], .dir (dirMode 0o777)),
      (["out", "ship"], .dir (dirMode 0o777)), (["out", "mappings.json"], .file ByteArray.empty)]⟩ []
      ⟨"/", ["out", "decompiled"]⟩ 0o777 true false (["out", "decompiled"].length + 1) =
      .ok ⟨[(["x.gin"], .file emptyContainer), (["out"], .dir (dirMode 0o777)),
        (["out", "ship"], .dir (dirMode 0o777)), (["out", "mappings.json"], .file ByteArray.empty),
        (["out", "decompiled"], .dir (dirMode 0o777))]⟩ := rfl
  have holds : Volume.readFile ⟨[(["x.gin"], .file emptyContainer), (["out"], .dir (dirMode 0o777)),
      (["out", "ship"], .dir (dirMode 0o777)), (["out", "mappings.json"], .file ByteArray.empty),
      (["out", "decompiled"], .dir (dirMode 0o777))]⟩ [] ⟨"", ["x.gin"]⟩ = .ok emptyContainer := rfl
  have dir : FsPath.join ⟨"/", ["out", "decompiled"]⟩ (FsPath.stem ⟨"", ["x.gin"]⟩) =
      ⟨"/", ["out", "decompiled", "x"]⟩ := by
    decide +kernel
  have madeDir : Volume.mkdir ⟨[(["x.gin"], .file emptyContainer), (["out"], .dir (dirMode 0o777)),
      (["out", "ship"], .dir (dirMode 0o777)), (["out", "mappings.json"], .file ByteArray.empty),
      (["out", "decompiled"], .dir (dirMode 0o777))]⟩ []
      (FsPath.join ⟨"/", ["out", "decompiled"]⟩ (FsPath.stem ⟨"", ["x.gin"]⟩)) 777 false false
      ((FsPath.join ⟨"/", ["out", "decompiled"]⟩ (FsPath.stem ⟨"", ["x.gin"]⟩)).parts.length + 1) =
        .ok ⟨[(["x.gin"], .file emptyContainer), (["out"], .dir (dirMode 0o777)),
          (["out", "ship"], .dir (dirMode 0o777)), (["out", "mappings.json"], .file ByteArray.empty),
          (["out", "decompiled"], .dir (dirMode 0o777)),
          (["out", "decompiled", "x"], .dir (dirMode 777))]⟩ := by
    rw [dir]
    rfl
  have holds₂ : Volume.readFile ⟨[(["x.gin"], .file emptyContainer), (["out"], .dir (dirMode 0o777)),
      (["out", "ship"], .dir (dirMode 0o777)), (["out", "mappings.json"], .file ByteArray.empty),
      (["out", "decompiled"], .dir (dirMode 0o777)),
      (["out", "decompiled", "x"], .dir (dirMode 777))]⟩ [] ⟨"", ["x.gin"]⟩ = .ok emptyContainer :=
    rfl
  simp only [layOut, layOutListing, EStateM.run_bind, prepared, extractMany, exists?_run, found,
    if_true, cleared, mkdir_run, remade, EStateM.run_pure,
    admitted_cons_container _ _ ⟨_, [], #[], []⟩ holds emptyContainer_noSections.hasMagic,
    admitted.eq_1, List.isEmpty_cons, Bool.false_eq_true, if_false, extractEach.eq_1,
    extractEach_cons_noSections 0 false _ _ [] ⟨_, [], #[], []⟩ madeDir holds₂
      emptyContainer_noSections printed_decompiling, EStateM.run_get, structureFiles,
    say_of_shown printed_structuring]
  rfl

theorem layOut_mappings_faithful_emptyContainer :
    ∃ w', (layOut false [⟨"", ["x.gin"]⟩] ⟨"", ["out"]⟩).run
        ⟨⟨[(["x.gin"], .file emptyContainer)]⟩, [], #[], []⟩ = .ok [] w' ∧
      MappingsFaithful ⟨"", ["out"]⟩ ⟨⟨[(["x.gin"], .file emptyContainer)]⟩, [], #[], []⟩ w' [] :=
  ⟨_, layOut_emptyContainer, layOut_mappings_faithful false _ _ layOut_emptyContainer⟩

/-- The layout does not depend on the order the extracted files are listed in: any two
arrangements of the listing give the same run, with the same files, the same mappings and the
same output. -/
theorem layOut_listing_order_free (first second : List FsPath → List FsPath)
    (firstPerm : ∀ l, (first l).Perm l) (secondPerm : ∀ l, (second l).Perm l) (verbose : Bool)
    (inputs : List FsPath) (out : FsPath) :
    layOutListing first verbose inputs out = layOutListing second verbose inputs out := by
  rw [layOutListing_unlisted first (firstPerm []).eq_nil,
    layOutListing_unlisted second (secondPerm []).eq_nil]

theorem layOut_listing_order_free_reversed :
    (∀ l : List FsPath, (id l).Perm l) ∧ (∀ l : List FsPath, l.reverse.Perm l) ∧
      layOutListing id false [⟨"", ["in", "a.gin"]⟩] ⟨"", ["out"]⟩ =
        layOutListing List.reverse false [⟨"", ["in", "a.gin"]⟩] ⟨"", ["out"]⟩ :=
  ⟨fun l => List.Perm.refl l, List.reverse_perm,
    layOut_listing_order_free id List.reverse (fun l => List.Perm.refl l) List.reverse_perm false
      [⟨"", ["in", "a.gin"]⟩] ⟨"", ["out"]⟩⟩

/-- Outside the output directory a run of the layout, finished or failed, changes nothing but
the missing directories on the output directory's own path: each path outside it holds what it
held, or a directory made where nothing was, at a place the output directory's path passes. -/
theorem layOut_changes_within (verbose : Bool) (inputs : List FsPath) (out : FsPath) (w : World)
    (plainNames : ∀ p ∈ inputs, '/' ∉ p.name.toList) :
    (endState ((layOut verbose inputs out).run w)).store.MadeOutside
      (FsPath.resolved w.cwd out).parts (FsPath.Passes w.cwd out) w.store := by
  rw [layOut, layOutListing_unlisted id rfl]
  exact (keeps_inside_layOutUnlisted w.store w.cwd verbose inputs out plainNames w
    ⟨rfl, Volume.MadeOutside.refl _ _ _⟩).2

theorem layOut_changes_within_container :
    (∀ p ∈ [(⟨"", ["in", "a.gin"]⟩ : FsPath)], '/' ∉ p.name.toList) ∧
      (endState ((layOut false [⟨"", ["in", "a.gin"]⟩] ⟨"", ["out"]⟩).run
        ⟨⟨[]⟩, [], #[], []⟩)).store.MadeOutside (FsPath.resolved [] ⟨"", ["out"]⟩).parts
          (FsPath.Passes [] ⟨"", ["out"]⟩) ⟨[]⟩ := by
  have plain : ∀ p ∈ [(⟨"", ["in", "a.gin"]⟩ : FsPath)], '/' ∉ p.name.toList := by
    simp only [List.mem_singleton, forall_eq]
    decide
  exact ⟨plain, layOut_changes_within false _ _ ⟨⟨[]⟩, [], #[], []⟩ plain⟩

/-- The run makes the missing parents of its output directory: laying out no input into `a/out`
in an empty store makes the directory `a`, which was not there before and does not lie below
`a/out`. -/
theorem layOut_makes_missing_parent :
    (layOut false [] ⟨"", ["a", "out"]⟩).run ⟨⟨[]⟩, [], #[], []⟩ =
      .ok [] ⟨⟨[(["a"], .dir (dirMode 0o777)), (["a", "out"], .dir (dirMode 0o777)),
        (["a", "out", "ship"], .dir (dirMode 0o777)),
        (["a", "out", "mappings.json"], .file (mappingsText []).toUTF8),
        (["a", "out", "decompiled"], .dir (dirMode 0o777))]⟩, [],
        #["No .gin files found. Please select at least one .gin file.\n", "Structuring files..\n"],
        []⟩ ∧
      Volume.find? ⟨[]⟩ ["a"] = none ∧ ¬ ["a", "out"] <+: ["a"] := by
  have decompiled : FsPath.join ⟨"", ["a", "out"]⟩ "decompiled" =
      ⟨"", ["a", "out", "decompiled"]⟩ := FsPath.join_of_no_slash _ (by decide)
  have ship : FsPath.join ⟨"", ["a", "out"]⟩ "ship" = ⟨"", ["a", "out", "ship"]⟩ :=
    FsPath.join_of_no_slash _ (by decide)
  have mappings : FsPath.join ⟨"", ["a", "out"]⟩ "mappings.json" =
      ⟨"", ["a", "out", "mappings.json"]⟩ := FsPath.join_of_no_slash _ (by decide)
  refine ⟨?_, rfl, fun below => by simpa using below.length_le⟩
  simp only [layOut, layOutListing, prepareOutput, extractMany, structureFiles, decompiled, ship,
    mappings, say_of_shown printed_structuring, say_of_shown printed_noContainers]
  rfl

end GinSave.Archive
