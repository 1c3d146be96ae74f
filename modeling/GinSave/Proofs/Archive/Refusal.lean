import GinSave.Proofs.Archive.Extraction

/-! Containers refused before their sections. Extracting a container first reads its header and
its section table, and only the sections write files; what happens before them only looks at the
store and prints. So a file too short for its header, without the magic, or too short for the
table its header announces is refused with the fault of its broken part, and the store is left
exactly as it was (`extractFile_brokenHead_untouched`). -/

namespace GinSave.Archive

open GinSave.Store GinSave.Codec GinSave.Console

/-! ### Messages that print without fault -/

/-- A message without an opening bracket holds no markup, so printing it never fails. -/
theorem printed_plain {msg : String} (plain : '[' ∉ msg.toList) :
    ∃ text, printed msg = .ok text := by
  simp [printed, printedText, plain, bind, Except.bind, pure, Except.pure]

/-- Saying a message without markup only adds to what the terminal shows. -/
theorem say_plain {msg : String} (plain : '[' ∉ msg.toList) (w : World) :
    ∃ text, (say msg).run w = .ok () { w with printed := w.printed.push text } := by
  obtain ⟨text, shown⟩ := printed_plain plain
  exact ⟨text, say_run w (by rw [shown]; rfl)⟩

theorem note_plain (o : ExtractOptions) {msg : String} (plain : '[' ∉ msg.toList) (w : World) :
    ∃ w', (note o msg).run w = .ok () w' ∧ w'.store = w.store ∧ w'.cwd = w.cwd := by
  unfold note
  split
  · obtain ⟨text, said⟩ := say_plain plain w
    exact ⟨_, said, rfl, rfl⟩
  · exact ⟨w, rfl, rfl, rfl⟩

theorem toString_plain (n : Nat) : '[' ∉ (toString n).toList := by
  have digits : '[' ∉ Nat.toDigits 10 n := fun mem => by
    have digit := Nat.isDigit_of_mem_toDigits (by decide) (by decide) mem
    revert digit
    decide
  simpa using digits

theorem foundMessage_plain (n : Nat) :
    '[' ∉ ("Found " ++ toString n ++ " sections. Starting extraction...\n").toList := by
  have digits := toString_plain n
  simp only [String.toList_append, List.mem_append, not_or]
  exact ⟨⟨by decide, digits⟩, by decide⟩

/-! ### The header and the table -/

/-- Reading `n` entries from `pos`, when the bytes end before the last of them, stops with the
short read of an entry. By induction on the entries. -/
theorem readTable_short (b : ByteArray) :
    ∀ (n pos : Nat), pos ≤ b.size → b.size < pos + entrySize * n →
      readTable b n pos = .error (.shortBuffer entrySize)
  | 0, pos, inside, short => by omega
  | n + 1, pos, inside, short => by
    by_cases cut : b.size < pos + entrySize
    · simp [readTable, Section.read, cut, bind, Except.bind]
    · have more := readTable_short b n (pos + entrySize) (by omega)
        (by rw [Nat.mul_succ] at short; omega)
      simp [readTable, Section.read, cut, more, bind, Except.bind]

/-- A container broken before its sections: shorter than its header, without the magic, or
shorter than a table of as many entries as its header counts. -/
def BrokenHead (b : ByteArray) : Prop :=
  b.size < headerSize ∨ readLE b 0 4 ≠ magic ∨ b.size < headerSize + entrySize * readLE b 292 4

/-- The faults a broken head stops with: the short read of the header or of an entry, or the
refusal of a file without the magic. -/
def HeadFault (e : Fault) : Prop :=
  e = .shortBuffer headerSize ∨ e = .aborted ∨ e = .shortBuffer entrySize

/-- Extracting a container whose head is broken stops with the fault of the broken part before
any section is read, leaving the store and the working directory as they were: no file, in the
output directory or elsewhere, is made or changed. -/
theorem extractFile_brokenHead_untouched (o : ExtractOptions) (input dir : FsPath) (w : World)
    {bytes : ByteArray} (holds : w.store.readFile w.cwd input = .ok bytes)
    (broken : BrokenHead bytes) :
    ∃ e w', (extractFile o input dir).run w = .error e w' ∧ HeadFault e ∧
      w'.store = w.store ∧ w'.cwd = w.cwd := by
  unfold extractFile
  simp only [EStateM.run_bind, exists?_of_readFile holds, Bool.not_true, Bool.false_eq_true,
    if_false, readFile_run, holds, orFault_run]
  by_cases short : bytes.size < headerSize
  · -- the header itself is cut short
    simp only [Header.read, if_pos short]
    exact ⟨_, _, rfl, .inl rfl, rfl, rfl⟩
  have header : Header.read bytes = .ok ⟨readLE bytes 0 4, readLE bytes 4 4, readLE bytes 292 4⟩ := by
    simp [Header.read, short]
  simp only [header]
  by_cases magicRight : readLE bytes 0 4 = magic
  · -- with the magic in place, the table is what comes up short; the model reads at most one
    -- entry past those that fit, and that one is cut
    have tableShort : bytes.size < headerSize + entrySize * readLE bytes 292 4 := by
      rcases broken with tooShort | noMagic | tooFew
      · exact absurd tooShort short
      · exact absurd magicRight noMagic
      · exact tooFew
    have table : readTable bytes (min (readLE bytes 292 4) ((bytes.size - headerSize) / entrySize + 1))
        headerSize = .error (.shortBuffer entrySize) := by
      refine readTable_short bytes _ _ (by omega) ?_
      simp only [headerSize, entrySize] at short tableShort ⊢
      omega
    obtain ⟨w₁, noted, store₁, cwd₁⟩ := note_plain o (foundMessage_plain (readLE bytes 292 4)) w
    simp only [magicRight, bne_self_eq_false, Bool.false_eq_true, if_false, EStateM.run_bind, noted,
      table, orFault_run]
    exact ⟨_, _, rfl, .inr (.inr rfl), store₁, cwd₁⟩
  · -- a file without the magic is reported and refused
    obtain ⟨text, said⟩ :=
      say_plain (show '[' ∉ "The selected file is not a .gin file!".toList by decide) w
    have differs : (readLE bytes 0 4 != magic) = true := by simpa using magicRight
    simp only [differs, if_true, EStateM.run_bind, said]
    exact ⟨_, _, rfl, .inr (.inl rfl), rfl, rfl⟩

/-- A one-byte file is refused for its short header, and the store keeps it alone. -/
theorem extractFile_brokenHead_untouched_oneByte :
    let w : World := ⟨⟨[(["in.gin"], .file ⟨#[71]⟩)]⟩, [], #[], []⟩
    w.store.readFile w.cwd ⟨"", ["in.gin"]⟩ = .ok ⟨#[71]⟩ ∧ BrokenHead ⟨#[71]⟩ ∧
      ∃ e w', (extractFile ⟨0, true, false⟩ ⟨"", ["in.gin"]⟩ ⟨"", ["out"]⟩).run w = .error e w' ∧
        HeadFault e ∧ w'.store = w.store ∧ w'.cwd = w.cwd :=
  ⟨rfl, .inl (by decide),
    extractFile_brokenHead_untouched ⟨0, true, false⟩ ⟨"", ["in.gin"]⟩ ⟨"", ["out"]⟩ _ rfl
      (.inl (by decide))⟩

end GinSave.Archive
