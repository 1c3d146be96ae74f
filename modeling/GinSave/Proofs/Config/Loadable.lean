import GinSave.Proofs.Json.Quoted
import GinSave.Proofs.Store.Keeps
import GinSave.Proofs.Archive.Readers
import GinSave.Config.Settings

/-! Settings files that load. -/

namespace GinSave.Text

/-! ### ASCII text as bytes -/

theorem utf8Size_of_lt {c : Char} (small : c.toNat < 0x80) : c.utf8Size = 1 := by
  rw [Char.utf8Size_eq_one_iff, UInt32.le_iff_toNat_le]
  exact Nat.le_of_lt_succ small

theorem toUInt8_toNat_of_lt {c : Char} (small : c.toNat < 0x80) : c.toUInt8.toNat = c.toNat := by
  rw [← Char.toUInt8_val, UInt32.toNat_toUInt8, Char.toNat_val]
  exact Nat.mod_eq_of_lt (by omega)

/-- ASCII text is one byte a character. -/
theorem toUTF8_data_ascii (t : String) (ascii : ∀ ch ∈ t.toList, ch.toNat < 0x80) :
    t.toUTF8.data.toList = t.toList.map Char.toUInt8 := by
  rw [String.toUTF8_eq_toByteArray, ← String.utf8Encode_toList, List.utf8Encode,
    List.toList_data_toByteArray, List.flatMap_congr fun c mem =>
      String.utf8EncodeChar_eq_singleton (utf8Size_of_lt (ascii c mem)), List.map_eq_flatMap]
  rfl

/-- The bytes of ASCII text decode back to it. -/
theorem decodeUtf8_toUTF8_ascii (t : String) (ascii : ∀ ch ∈ t.toList, ch.toNat < 0x80) :
    decodeUtf8 t.toUTF8 = .ok t := by
  have bytes := toUTF8_data_ascii t ascii
  have back : ∀ c ∈ t.toList, ((fun b : UInt8 => Char.ofNat b.toNat) ∘ Char.toUInt8) c = c :=
    fun c mem => by rw [Function.comp_apply, toUInt8_toNat_of_lt (ascii c mem), Char.ofNat_toNat]
  rw [GinSave.Archive.decodeUtf8_ascii _ (fun i inside => ?_), GinSave.Archive.asciiText, bytes,
    List.map_map]
  · rw [List.map_congr_left back]
    simp
  · have bound : i < (t.toList.map Char.toUInt8).length := by simpa [← bytes] using inside
    have entry : t.toUTF8[i] = (t.toList.map Char.toUInt8)[i] := by
      simp only [← bytes, ByteArray.getElem_eq_getElem_data, Array.getElem_toList]
    rw [entry, List.getElem_map, toUInt8_toNat_of_lt (ascii _ (List.getElem_mem _))]
    exact ascii _ (List.getElem_mem _)

theorem normalizeNewlines_of_no_return : ∀ cs : List Char, '\r' ∉ cs → normalizeNewlines cs = cs := by
  intro cs noReturn
  fun_induction normalizeNewlines cs with
  | case1 => rfl
  | case2 rest ih => simp at noReturn
  | case3 rest _ ih => simp at noReturn
  | case4 c rest notReturn _ ih =>
    rw [ih (fun mem => noReturn (List.mem_cons_of_mem c mem))]

end GinSave.Text

namespace GinSave.Config

open GinSave.Json GinSave.Store GinSave.Save GinSave.Text

/-! ### Where the settings file stands -/

theorem parse_configName : FsPath.parse "config.json" = ⟨"", ["config.json"]⟩ := by with_unfolding_all decide

theorem absoluteParts_settingsFile (cwd : List String) (dir : FsPath) :
    absoluteParts cwd (settingsFile dir) = absoluteParts cwd dir ++ ["config.json"] := by
  simp only [settingsFile, FsPath.join, parse_configName]
  by_cases relative : dir.root = "" <;> simp [absoluteParts, relative]

/-! ### The text of the settings -/

/-- The settings a file's bytes hold, read as a text file and checked. -/
def ReadsAs (bytes : ByteArray) (st : Settings) : Prop :=
  ∃ text, decodeUtf8 bytes = .ok text ∧ Settings.read (String.ofList (normalizeNewlines text.toList)) = .ok st

/-- Settings whose directory is a text are written as text that reads back, the directory as a
path. -/
theorem Settings.read_text_str (g : String) :
    Settings.read (Settings.text ⟨.str g⟩) = .ok ⟨.str (FsPath.parse g).text⟩ := by
  simp [Settings.read, documentArguments, Settings.text, Settings.pairs, parse_render_textMember,
    recordArguments, checkGameDir, bind, Except.bind, pure, Except.pure]

/-- The file written for settings whose directory is a text loads, with the directory read as a
path. -/
theorem readsAs_text_str (g : String) :
    ReadsAs (Settings.text ⟨.str g⟩).toUTF8 ⟨.str (FsPath.parse g).text⟩ := by
  have written : ∀ ch ∈ (Settings.text ⟨.str g⟩).toList, IsWritten ch :=
    render_textMember_written 4 "game_dir" g
  have ascii : ∀ ch ∈ (Settings.text ⟨.str g⟩).toList, ch.toNat < 0x80 := fun ch mem => by
    rcases written ch mem with rfl | ⟨-, small⟩
    · decide
    · omega
  have noReturn : '\r' ∉ (Settings.text ⟨.str g⟩).toList := fun mem => by
    have := written _ mem
    revert this
    decide
  refine ⟨_, decodeUtf8_toUTF8_ascii _ ascii, ?_⟩
  rw [normalizeNewlines_of_no_return _ noReturn, String.ofList_toList, Settings.read_text_str]

/-! ### Files that load -/

theorem parent_settingsFile (dir : FsPath) : (settingsFile dir).parent = dir := by
  simp [settingsFile, FsPath.join, FsPath.parent, parse_configName]

/-- The settings file of `dir` as the store holds it: in the directory `place`, a file with
`bytes`. -/
structure SettingsFile (dir : FsPath) (s : Volume) (cwd : List String) (place : List String)
    (bytes : ByteArray) : Prop where
  located : s.locate cwd (settingsFile dir) = .ok (place, some "config.json")
  stored : s.find? (place ++ ["config.json"]) = some (.file bytes)

/-- The settings file of `dir` loads: it is there, a file, and its text reads as settings. -/
def Loadable (dir : FsPath) (s : Volume) (cwd : List String) : Prop :=
  ∃ place bytes st, SettingsFile dir s cwd place bytes ∧ ReadsAs bytes st

/-- Locating the settings file walks to its directory and finds there a directory that may be
searched. -/
theorem locate_settingsFile {dir : FsPath} {s : Volume} {cwd place : List String} {n : String}
    (located : s.locate cwd (settingsFile dir) = .ok (place, some n)) :
    n = "config.json" ∧ s.walk (settingsFile dir).text [] (absoluteParts cwd dir) = .ok place ∧
      s.searchable place = true := by
  unfold Volume.locate at located
  simp only [absoluteParts_settingsFile, List.getLast?_concat, List.dropLast_concat] at located
  cases walked : s.walk (settingsFile dir).text [] (absoluteParts cwd dir) with
  | error f => simp [walked, bind, Except.bind] at located
  | ok reached =>
    simp only [walked, bind, Except.bind] at located
    split at located
    · cases located
    rename_i searchable
    simp only [show ("config.json" == "..") = false by decide, Bool.false_eq_true, if_false,
      show ¬255 < "config.json".utf8ByteSize by decide, pure, Except.pure,
      Except.ok.injEq, Prod.mk.injEq, Option.some.injEq] at located
    obtain ⟨rfl, rfl⟩ := located
    exact ⟨rfl, rfl, by simpa using searchable⟩

/-- Writing the settings file over itself keeps it where it is. -/
theorem SettingsFile.put {dir : FsPath} {s : Volume} {cwd place : List String} {bytes : ByteArray}
    (file : SettingsFile dir s cwd place bytes) (written : ByteArray) :
    SettingsFile dir (s.put (place ++ ["config.json"]) (.file written)) cwd place written := by
  have notDir : ∀ m, s.find? (place ++ ["config.json"]) ≠ some (.dir m) := by
    simp [file.stored]
  exact ⟨Volume.locate_put notDir file.located, Volume.find?_put_self _ _ (by simp)⟩

section file

variable {dir : FsPath} {w : World} {place : List String} {bytes : ByteArray}

/-- Touching a settings file that is there changes nothing. -/
theorem touch_settingsFile (file : SettingsFile dir w.store w.cwd place bytes) :
    (touch (settingsFile dir)).run w = .ok () w := by
  obtain ⟨-, walked, searchable⟩ := locate_settingsFile file.located
  have made := Volume.mkdir_walked walked searchable 0o777 true (settingsFile dir).parent.parts.length
  rw [parent_settingsFile] at made
  simp only [touch, EStateM.run_bind, mkdir_run, parent_settingsFile, made, exists?_run,
    Volume.stat_located file.located file.stored]
  rfl

/-- Saving settings over a settings file that is there writes their text over it. -/
theorem save_settingsFile (file : SettingsFile dir w.store w.cwd place bytes) {m : Manager}
    (at_ : m.file = settingsFile dir) :
    m.save.run w = .ok ()
      { w with store := (w.store.put (place ++ ["config.json"]) (.file m.settings.text.toUTF8)) } := by
  have notDir : ∀ k, w.store.find? (place ++ ["config.json"]) ≠ some (.dir k) := by
    simp [file.stored]
  simp only [Manager.save, at_, EStateM.run_bind, touch_settingsFile file, writeFile_run,
    Volume.writeFile_located file.located notDir (by simp [file.stored])]

/-- Opening the settings of a directory whose file is there and loads reads it and changes
nothing. -/
theorem openIn_settingsFile (file : SettingsFile dir w.store w.cwd place bytes) {st : Settings}
    (reads : ReadsAs bytes st) : (Manager.openIn dir).run w = .ok ⟨settingsFile dir, st⟩ w := by
  obtain ⟨text, decoded, read⟩ := reads
  simp only [Manager.openIn, Manager.load, EStateM.run_bind, exists?_run,
    Volume.stat_located file.located file.stored, touch_settingsFile file, readFile_run,
    Volume.readFile_located file.located file.stored, orFault_run, decoded, read, if_true]
  rfl

/-- Opening the settings of a directory whose file is there but does not read as settings stops
with the reading's fault and changes nothing. -/
theorem openIn_refused (file : SettingsFile dir w.store w.cwd place bytes) {text : String} {f : Fault}
    (decoded : decodeUtf8 bytes = .ok text)
    (refused : Settings.read (String.ofList (normalizeNewlines text.toList)) = .error f) :
    (Manager.openIn dir).run w = .error f w := by
  simp only [Manager.openIn, Manager.load, EStateM.run_bind, exists?_run,
    Volume.stat_located file.located file.stored, touch_settingsFile file, readFile_run,
    Volume.readFile_located file.located file.stored, orFault_run, decoded, refused, if_true]

/-- Opening the settings of a directory that has no settings file, but room for one, writes the
initial settings there. -/
theorem openIn_missing (located : w.store.locate w.cwd (settingsFile dir) = .ok (place, some "config.json"))
    (missing : w.store.find? (place ++ ["config.json"]) = none) (room : w.store.writable place = true) :
    (Manager.openIn dir).run w = .ok ⟨settingsFile dir, .initial⟩
      { w with store := ((w.store.put (place ++ ["config.json"]) (.file .empty)).put
          (place ++ ["config.json"]) (.file Settings.initial.text.toUTF8)) } := by
  obtain ⟨-, walked, searchable⟩ := locate_settingsFile located
  have made := Volume.mkdir_walked walked searchable 0o777 true (settingsFile dir).parent.parts.length
  rw [parent_settingsFile] at made
  have notDir : ∀ m, w.store.find? (place ++ ["config.json"]) ≠ some (.dir m) := by simp [missing]
  have emptyWritten := Volume.writeFile_located located notDir (fun _ => room) .empty
  have emptyFile : SettingsFile dir (w.store.put (place ++ ["config.json"]) (.file .empty)) w.cwd place
      .empty := ⟨Volume.locate_put notDir located, Volume.find?_put_self _ _ (by simp)⟩
  have textNotDir : ∀ m, (w.store.put (place ++ ["config.json"]) (.file .empty)).find?
      (place ++ ["config.json"]) ≠ some (.dir m) := by simp [emptyFile.stored]
  have absent : meansAbsent (missingPath (settingsFile dir).text) = true := rfl
  simp only [Manager.openIn, Manager.save, touch, EStateM.run_bind, exists?_run,
    Volume.stat_located_missing located missing, absent, mkdir_run, parent_settingsFile, made,
    writeFile_run, emptyWritten, Volume.writeFile_located emptyFile.located textNotDir
      (by simp [emptyFile.stored]), if_true, Bool.false_eq_true, if_false, Bool.not_false]
  rfl

end file

/-! ### Opening keeps the working directory and leaves a file that loads -/

theorem keeps_cwd_touch (c : List String) (file : FsPath) :
    Keeps (OnFiles fun _ cwd => cwd = c) (touch file) := by
  unfold touch
  refine Keeps.bind (keeps_cwd_mkdir c _ _ _ _) fun _ => Keeps.bind (keeps_exists? _) fun _ => ?_
  exact Keeps.ite (keeps_cwd_writeFile c _ _) (Keeps.pure _)

theorem keeps_cwd_save (c : List String) (m : Manager) :
    Keeps (OnFiles fun _ cwd => cwd = c) m.save :=
  Keeps.bind (keeps_cwd_touch c _) fun _ => keeps_cwd_writeFile c _ _

theorem keeps_cwd_openIn (c : List String) (dir : FsPath) :
    Keeps (OnFiles fun _ cwd => cwd = c) (Manager.openIn dir) := by
  unfold Manager.openIn Manager.load
  refine Keeps.bind (keeps_exists? _) fun _ => Keeps.ite ?_ ?_
  · refine Keeps.bind (keeps_cwd_touch c _) fun _ => Keeps.bind (keeps_readFile _) fun _ => ?_
    exact Keeps.bind (keeps_orFault _) fun _ => Keeps.bind (keeps_orFault _) fun _ => Keeps.pure _
  · exact Keeps.bind (keeps_cwd_save c _) fun _ => Keeps.pure _

/-- Settings whose directory is a text, once saved, stand in a file that loads. -/
theorem save_loadable {m : Manager} {dir : FsPath} {g : String} {w w' : World}
    (at_ : m.file = settingsFile dir) (text : m.settings = ⟨.str g⟩) (saved : m.save.run w = .ok () w') :
    Loadable dir w'.store w'.cwd := by
  obtain ⟨_, w₁, -, written⟩ := run_bind_ok saved
  rw [writeFile_run] at written
  split at written
  · rename_i s' ok
    cases written
    obtain ⟨place, n, located, notDir, rfl⟩ := Volume.writeFile_ok ok
    rw [at_] at located
    obtain ⟨rfl, -, -⟩ := locate_settingsFile located
    refine ⟨place, _, ⟨.str (FsPath.parse g).text⟩,
      ⟨Volume.locate_put notDir located, Volume.find?_put_self _ _ (by simp)⟩, ?_⟩
    rw [text]
    exact readsAs_text_str g
  · cases written

/-- Opening the settings, when it succeeds, leaves their file loadable, whether it was read or
written anew, and the working directory as it was. -/
theorem openIn_loadable {dir : FsPath} {w w' : World} {m : Manager}
    (opened : (Manager.openIn dir).run w = .ok m w') :
    Loadable dir w'.store w'.cwd ∧ w'.cwd = w.cwd ∧ m.file = settingsFile dir := by
  have sameCwd : w'.cwd = w.cwd := by
    have := keeps_cwd_openIn w.cwd dir w rfl
    rwa [opened] at this
  obtain ⟨there, w₁, -, branch⟩ := run_bind_ok opened
  cases there with
  | true =>
    -- the file was there: it was read, and what was read loads
    obtain ⟨_, w₂, -, rest⟩ := run_bind_ok branch
    obtain ⟨bytes, w₃, read, rest⟩ := run_bind_ok rest
    obtain ⟨text, w₄, decoded, rest⟩ := run_bind_ok rest
    obtain ⟨st, w₅, checked, rest⟩ := run_bind_ok rest
    rw [readFile_run] at read
    split at read
    · rename_i readOk
      cases read
      rw [orFault_run] at decoded checked
      split at decoded
      · rename_i decodes
        cases decoded
        split at checked
        · rename_i reads
          cases checked
          cases rest
          obtain ⟨place, n, located, found⟩ := Volume.readFile_ok readOk
          obtain ⟨rfl, -, -⟩ := locate_settingsFile located
          exact ⟨⟨place, bytes, st, ⟨located, found⟩, ⟨text, decodes, reads⟩⟩, sameCwd, rfl⟩
        · cases checked
      · cases decoded
    · cases read
  | false =>
    -- the file was not there: the initial settings were written
    obtain ⟨_, w₂, saved, rest⟩ := run_bind_ok branch
    cases rest
    exact ⟨save_loadable rfl rfl saved, sameCwd, rfl⟩

end GinSave.Config
