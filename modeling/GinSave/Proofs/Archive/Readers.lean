import Mathlib
import GinSave.Archive.Layout

/-! When the embedded-text readers stop. Both read one byte at a time and stop only on what they
read; at the end of the file a read gives nothing and changes nothing, so a reader that has not
stopped by then never does. The plain reader stops exactly when a NUL byte lies at or after its
start (`untilZero_endless_iff`). The path reader also stops once the bytes read so far end with
`.gin`, and it decodes those bytes before each read, so it faults on the first byte outside ASCII:
a lead byte read alone is cut off. It therefore never stops exactly when the rest of the file is
ASCII without NUL and no part of it read from the start ends with `.gin` (`readGinPath_endless_iff`).

The layout of extracted files reads the path of every file that is neither under `assets` nor a
font from byte 20 on, so its first pass never finishes such a file exactly then
(`firstTarget_endless_iff`); the store and the decoder fail in other ways, which it tells apart. -/

namespace GinSave

/-- A fault of the file system: its class, error number, reason and the path it names. -/
def Fault.IsOs (e : Fault) : Prop := ∃ c n r q, e = .os c n r q

end GinSave

namespace GinSave.Store


/-- A walk through the store's directories fails only with a fault of the file system. By
induction on the names walked. -/
theorem Volume.walk_error_os (s : Volume) (shown : String) :
    ∀ (names cur : List String) (e : Fault), s.walk shown cur names = .error e → e.IsOs
  | [], cur, e, h => by simp [Volume.walk] at h
  | n :: rest, cur, e, h => by
    unfold Volume.walk at h
    split_ifs at h
    · cases h; exact ⟨_, _, _, _, rfl⟩
    · exact Volume.walk_error_os s shown rest _ e h
    · cases h; exact ⟨_, _, _, _, rfl⟩
    · split at h
      · cases h; exact ⟨_, _, _, _, rfl⟩
      · cases h; exact ⟨_, _, _, _, rfl⟩
      · exact Volume.walk_error_os s shown rest _ e h

theorem Volume.locate_error_os {s : Volume} {cwd : List String} {p : FsPath} {e : Fault}
    (h : s.locate cwd p = .error e) : e.IsOs := by
  unfold Volume.locate at h
  dsimp only at h
  split at h
  · cases h
  · cases walked : s.walk p.text [] (absoluteParts cwd p).dropLast with
    | error e' =>
      rw [walked] at h
      cases h
      exact Volume.walk_error_os s _ _ _ _ walked
    | ok dir =>
      simp only [walked, bind, Except.bind] at h
      split_ifs at h <;> first | cases h; exact ⟨_, _, _, _, rfl⟩ | cases h

theorem Volume.readFile_error_os {s : Volume} {cwd : List String} {p : FsPath} {e : Fault}
    (h : s.readFile cwd p = .error e) : e.IsOs := by
  unfold Volume.readFile at h
  cases located : s.locate cwd p with
  | error e' =>
    rw [located] at h
    cases h
    exact Volume.locate_error_os located
  | ok found =>
    obtain ⟨dir, last⟩ := found
    simp only [located, bind, Except.bind] at h
    split at h
    · cases h; exact ⟨_, _, _, _, rfl⟩
    · split at h <;> first | cases h; exact ⟨_, _, _, _, rfl⟩ | cases h

end GinSave.Store

namespace GinSave.Archive

open GinSave.Text GinSave.Codec GinSave.Store

/-! ### UTF-8 over ASCII bytes -/

/-- The text of bytes read one character per byte. -/
def asciiText (bs : ByteArray) : String :=
  String.ofList (bs.data.toList.map fun x => Char.ofNat x.toNat)

theorem byteAt_of_lt {b : ByteArray} {i : Nat} (h : i < b.size) : byteAt b i = b[i].toNat := by
  simp [byteAt, h]

/-- ASCII bytes decode one character each, from any position on. By induction on what is left
to read. -/
theorem decodeFrom_ascii (bs : ByteArray) (ascii : ∀ i (h : i < bs.size), bs[i].toNat < 0x80) :
    ∀ n i (acc : List Char), bs.size - i = n →
      decodeFrom bs i acc =
        .ok (String.ofList (acc.reverse ++ (bs.data.toList.drop i).map fun x => Char.ofNat x.toNat))
  | 0, i, acc, left => by
    rw [decodeFrom, if_neg (by omega), List.drop_eq_nil_of_le (by simp; omega)]
    simp
  | n + 1, i, acc, left => by
    have inside : i < bs.size := by omega
    have step : utf8Step bs i = .char (Char.ofNat bs[i].toNat) (i + 1) := by
      simp [utf8Step, getElem?_pos bs i inside, ascii i inside]
    have rest : bs.data.toList.drop i = bs[i] :: bs.data.toList.drop (i + 1) := by
      rw [List.drop_eq_getElem_cons (by simpa using inside)]
      simp [ByteArray.getElem_eq_getElem_data]
    rw [decodeFrom, if_pos inside, step]
    simp only [Nat.lt_add_one, if_true]
    rw [decodeFrom_ascii bs ascii n (i + 1) _ (by omega), rest]
    simp

theorem decodeUtf8_ascii (bs : ByteArray) (ascii : ∀ i (h : i < bs.size), bs[i].toNat < 0x80) :
    decodeUtf8 bs = .ok (asciiText bs) := by
  simpa [decodeUtf8, asciiText] using decodeFrom_ascii bs ascii _ 0 [] rfl

/-- Every lead byte announces at least one continuation byte. -/
theorem leadShape_count {b n lo hi : Nat} (shape : leadShape b = some (n, lo, hi)) : 1 ≤ n := by
  unfold leadShape at shape
  split_ifs at shape <;> simp only [Option.some.injEq, Prod.mk.injEq] at shape <;>
    omega

/-- A byte outside ASCII that ends the data is a bad range: it begins nothing, or it begins a
sequence that the end cuts off. -/
theorem utf8Step_last_high {bs : ByteArray} {p : Nat} (last : p + 1 = bs.size)
    (high : 0x80 ≤ bs[p].toNat) : ∃ stop reason, utf8Step bs p = .bad stop reason := by
  have at_p : bs[p]? = some bs[p] := getElem?_pos bs p (by omega)
  have past : bs[p + 1]? = none := getElem?_neg bs (p + 1) (by omega)
  simp only [utf8Step, at_p, show ¬ bs[p].toNat < 0x80 by omega, if_false]
  cases shape : leadShape bs[p].toNat with
  | none => exact ⟨_, _, rfl⟩
  | some s =>
    obtain ⟨n, lo, hi⟩ := s
    obtain ⟨m, rfl⟩ : ∃ m, n = m + 1 := ⟨n - 1, by have := leadShape_count shape; omega⟩
    refine ⟨p + 1, "unexpected end of data", ?_⟩
    simp [continuation, past]

/-- Bytes that are ASCII up to a last byte outside it fail to decode, from any position up to
that byte. By induction on the distance to it. -/
theorem decodeFrom_high_last {bs : ByteArray} {p : Nat} (last : p + 1 = bs.size)
    (ascii : ∀ i (h : i < p), bs[i].toNat < 0x80) (high : 0x80 ≤ bs[p].toNat) :
    ∀ n i (acc : List Char), i ≤ p → p - i = n → ∃ e, decodeFrom bs i acc = .error e
  | 0, i, acc, before, gap => by
    obtain rfl : i = p := by omega
    obtain ⟨stop, reason, bad⟩ := utf8Step_last_high last high
    rw [decodeFrom, if_pos (by omega), bad]
    exact ⟨_, rfl⟩
  | n + 1, i, acc, before, gap => by
    have inside : i < bs.size := by omega
    have step : utf8Step bs i = .char (Char.ofNat bs[i].toNat) (i + 1) := by
      simp [utf8Step, getElem?_pos bs i inside, ascii i (by omega)]
    rw [decodeFrom, if_pos inside, step]
    simp only [Nat.lt_add_one, if_true]
    exact decodeFrom_high_last last ascii high n (i + 1) _ (by omega) (by omega)

/-- Decoding fails only with a fault of the encoding. By induction on what is left to read. -/
theorem decodeFrom_error_category (bs : ByteArray) :
    ∀ n i (acc : List Char) (e : Fault), bs.size - i ≤ n → decodeFrom bs i acc = .error e →
      e.category = .badEncoding
  | 0, i, acc, e, left, h => by
    rw [decodeFrom, if_neg (by omega)] at h
    cases h
  | n + 1, i, acc, e, left, h => by
    rw [decodeFrom] at h
    split_ifs at h with inside
    · split at h
      · rename_i c next _
        split_ifs at h with ahead
        exact decodeFrom_error_category bs n next _ e (by omega) h
      · cases h
        rfl

theorem decodeUtf8_error_category {bs : ByteArray} {e : Fault} (h : decodeUtf8 bs = .error e) :
    e.category = .badEncoding :=
  decodeFrom_error_category bs bs.size 0 [] e (by omega) h

/-! ### Slices of a file -/

theorem slice_size (b : ByteArray) (start stop : Nat) :
    (slice b start stop).size = min stop b.size - start := ByteArray.size_extract

theorem byteAt_slice {b : ByteArray} {start stop i : Nat} (h : i < (slice b start stop).size) :
    byteAt (slice b start stop) i = byteAt b (start + i) := by
  have inFile : start + i < b.size := by rw [slice_size] at h; omega
  rw [byteAt_of_lt h, byteAt_of_lt inFile]
  exact congrArg UInt8.toNat (ByteArray.getElem_extract h)

/-- A slice of ASCII bytes decodes one character each. -/
theorem decodeUtf8_slice_ascii {b : ByteArray} {start stop : Nat}
    (ascii : ∀ i, start ≤ i → i < b.size → byteAt b i < 0x80) :
    decodeUtf8 (slice b start stop) = .ok (asciiText (slice b start stop)) := by
  apply decodeUtf8_ascii
  intro i h
  have inFile : start + i < b.size := by rw [slice_size] at h; omega
  rw [← byteAt_of_lt h, byteAt_slice h]
  exact ascii _ (by omega) inFile

/-- The bytes from `start` up to and with the first byte outside ASCII fail to decode. -/
theorem decodeUtf8_slice_high {b : ByteArray} {start p : Nat} (from_ : start ≤ p)
    (inFile : p < b.size) (ascii : ∀ i, start ≤ i → i < p → byteAt b i < 0x80)
    (high : 0x80 ≤ byteAt b p) : ∃ e, decodeUtf8 (slice b start (p + 1)) = .error e := by
  have size : (slice b start (p + 1)).size = p - start + 1 := by rw [slice_size]; omega
  refine decodeFrom_high_last (p := p - start) (by omega) (fun i h => ?_) ?_ _ 0 [] (by omega) rfl
  · rw [← byteAt_of_lt (by omega), byteAt_slice (by omega)]
    exact ascii _ (by omega) (by omega)
  · rw [← byteAt_of_lt (by omega), byteAt_slice (by omega)]
    simpa [show start + (p - start) = p by omega] using high

/-! ### The plain reader -/

/-- The plain reader, given fuel to reach the end of the file, never stops exactly when no NUL
byte lies at or after its start. By induction on the fuel. -/
theorem untilZero_endless_iff (b : ByteArray) :
    ∀ fuel start, b.size < start + fuel →
      (untilZero b start fuel = .endless ↔ ∀ i, start ≤ i → i < b.size → byteAt b i ≠ 0)
  | 0, start, enough => by
    simp only [untilZero, true_iff]
    intro i _ _
    omega
  | fuel + 1, start, enough => by
    by_cases atEnd : b.size ≤ start
    · simp only [untilZero, atEnd, if_true, true_iff]
      intro i _ _
      omega
    by_cases nul : byteAt b start = 0
    · simp only [untilZero, atEnd, nul, beq_self_eq_true, if_true, if_false,
        reduceCtorEq, false_iff, not_forall]
      exact ⟨start, le_refl _, by omega, fun h => h nul⟩
    · have later := untilZero_endless_iff b fuel (start + 1) (by omega)
      have rest : untilZero b start (fuel + 1) = .endless ↔ untilZero b (start + 1) fuel = .endless := by
        simp only [untilZero, atEnd, if_false, beq_iff_eq, nul]
        split <;> simp_all
      rw [rest, later]
      constructor
      · intro after i from_ inFile
        rcases Nat.eq_or_lt_of_le from_ with rfl | past
        · exact nul
        · exact after i past inFile
      · exact fun all i from_ inFile => all i (by omega) inFile

/-- The offsets a file can be moved to before a read. -/
theorem readAt_ok_iff (b : ByteArray) (offset : Int) (count : Nat) :
    (∃ r, readAt b offset count = .ok r) ↔ 0 ≤ offset ∧ offset ≤ seekLimit := by
  have small : (seekLimit : Int) < 2 ^ 63 := by decide
  unfold readAt
  constructor
  · rintro ⟨r, h⟩
    split_ifs at h with far near
    simp only [Bool.or_eq_true, decide_eq_true_eq, not_or, not_lt] at far near
    exact ⟨near.1, near.2⟩
  · rintro ⟨nonneg, within⟩
    rw [if_neg (by simp; omega), if_neg (by simp; omega)]
    exact ⟨_, rfl⟩

theorem readUntilZero_endless_iff (b : ByteArray) (offset : Int) :
    readUntilZero b offset = .ok .endless ↔
      (0 ≤ offset ∧ offset ≤ seekLimit) ∧ ∀ i, offset.toNat ≤ i → i < b.size → byteAt b i ≠ 0 := by
  rw [← readAt_ok_iff b offset 0, ← untilZero_endless_iff b (b.size + 1) offset.toNat (by omega)]
  unfold readUntilZero
  cases h : readAt b offset 0 with
  | error e => simp [bind, Except.bind]
  | ok r => simp [bind, Except.bind, pure, Except.pure]

/-! ### The path reader -/

/-- What the path reader checks before it reads the byte at `j`: the byte, if there is one, is
no NUL, and the bytes read so far decode to a text that does not end with `.gin`. -/
def ReadsOn (b : ByteArray) (start j : Nat) : Prop :=
  (j < b.size → byteAt b j ≠ 0) ∧
    ∃ t, decodeUtf8 (slice b start j) = .ok t ∧ t.endsWith ".gin" = false

/-- The path reader, from position `k` on and given fuel to reach the end of the file, never
stops exactly when each of its checks lets it go on, up to the end of the file. By induction on
the fuel. -/
theorem ginPathFrom_endless_iff (b : ByteArray) (start : Nat) :
    ∀ fuel k, max k b.size < k + fuel →
      (ginPathFrom b start fuel k = .ok .endless ↔ ∀ j, k ≤ j → j ≤ max k b.size → ReadsOn b start j)
  | 0, k, enough => by omega
  | fuel + 1, k, enough => by
    have here : ∀ (P : Prop), (∀ j, k ≤ j → j ≤ max k b.size → P ∧ ReadsOn b start j) →
        ReadsOn b start k := fun _ all => (all k (le_refl _) (le_max_left _ _)).2
    by_cases nul : k < b.size ∧ byteAt b k = 0
    · simp only [ginPathFrom, nul, decide_true, beq_self_eq_true, Bool.and_self, if_true,
        Except.ok.injEq, reduceCtorEq, false_iff, not_forall]
      exact ⟨k, le_refl _, le_max_left _ _, fun reads => reads.1 nul.1 nul.2⟩
    have go : (k < b.size && byteAt b k == 0) = false := by
      simpa using fun inFile => by simpa using fun zero => nul ⟨inFile, zero⟩
    cases decoded : decodeUtf8 (slice b start k) with
    | error e =>
      simp only [ginPathFrom, go, Bool.false_eq_true, if_false, decoded, reduceCtorEq, false_iff,
        not_forall]
      exact ⟨k, le_refl _, le_max_left _ _, fun reads => by
        obtain ⟨t, ok, _⟩ := reads.2
        rw [decoded] at ok
        cases ok⟩
    | ok text =>
      by_cases gin : text.endsWith ".gin" = true
      · simp only [ginPathFrom, go, Bool.false_eq_true, if_false, decoded, gin, if_true,
          Except.ok.injEq, reduceCtorEq, false_iff, not_forall]
        exact ⟨k, le_refl _, le_max_left _ _, fun reads => by
          obtain ⟨t, ok, ends⟩ := reads.2
          rw [decoded] at ok
          cases ok
          simp_all⟩
      have readsHere : ReadsOn b start k :=
        ⟨fun inFile zero => nul ⟨inFile, zero⟩, text, decoded, by simpa using gin⟩
      by_cases atEnd : b.size ≤ k
      · simp only [ginPathFrom, go, Bool.false_eq_true, if_false, decoded, gin, atEnd,
          if_true, true_iff]
        intro j from_ upTo
        obtain rfl : j = k := by omega
        exact readsHere
      · -- before the end the reader goes on, and the rest of its checks decide
        have later := ginPathFrom_endless_iff b start fuel (k + 1) (by omega)
        simp only [ginPathFrom, go, Bool.false_eq_true, if_false, decoded, gin, atEnd]
        rw [later]
        constructor
        · intro after j from_ upTo
          rcases Nat.eq_or_lt_of_le from_ with rfl | past
          · exact readsHere
          · exact after j past (by omega)
        · exact fun all j from_ upTo => all j (by omega) (by omega)

/-- Every check of the path reader lets it go on exactly when the rest of the file is ASCII
without NUL and no part of it read from the start ends with `.gin`. -/
theorem readsOn_iff_ascii (b : ByteArray) (start : Nat) :
    (∀ j, start ≤ j → j ≤ max start b.size → ReadsOn b start j) ↔
      (∀ i, start ≤ i → i < b.size → byteAt b i ≠ 0 ∧ byteAt b i < 0x80) ∧
        ∀ j, start ≤ j → j ≤ b.size → (asciiText (slice b start j)).endsWith ".gin" = false := by
  constructor
  · intro reads
    have ascii : ∀ i, start ≤ i → i < b.size → byteAt b i < 0x80 := by
      -- the first byte outside ASCII would cut the text read up to it
      by_contra outside
      push Not at outside
      have exists_high : ∃ p, start ≤ p ∧ p < b.size ∧ 0x80 ≤ byteAt b p := outside
      classical
      let p := Nat.find exists_high
      obtain ⟨from_, inFile, high⟩ : start ≤ p ∧ p < b.size ∧ 0x80 ≤ byteAt b p :=
        Nat.find_spec exists_high
      have before : ∀ i, start ≤ i → i < p → byteAt b i < 0x80 := fun i s lt => by
        have := Nat.find_min exists_high lt
        push Not at this
        exact this s (by omega)
      obtain ⟨e, bad⟩ := decodeUtf8_slice_high from_ inFile before high
      obtain ⟨t, ok, _⟩ := (reads (p + 1) (by omega) (by omega)).2
      rw [bad] at ok
      cases ok
    refine ⟨fun i from_ inFile => ⟨(reads i from_ (by omega)).1 inFile, ascii i from_ inFile⟩, ?_⟩
    intro j from_ upTo
    obtain ⟨t, ok, ends⟩ := (reads j from_ (by omega)).2
    rw [decodeUtf8_slice_ascii ascii] at ok
    cases ok
    exact ends
  · rintro ⟨plain, noGin⟩ j from_ upTo
    refine ⟨fun inFile => (plain j from_ inFile).1, _,
      decodeUtf8_slice_ascii fun i s lt => (plain i s lt).2, ?_⟩
    by_cases inFile : j ≤ b.size
    · exact noGin j from_ inFile
    · -- past the end only the start is checked, and nothing has been read there
      have empty : slice b start j = ByteArray.empty :=
        ByteArray.extract_eq_empty_iff.mpr (by omega)
      rw [empty]
      decide

/-- The path reader fails only where the bytes read so far do not decode. By induction on the
fuel. -/
theorem ginPathFrom_error_category (b : ByteArray) (start : Nat) :
    ∀ fuel k (e : Fault), ginPathFrom b start fuel k = .error e → e.category = .badEncoding
  | 0, k, e, h => by cases h
  | fuel + 1, k, e, h => by
    unfold ginPathFrom at h
    dsimp only at h
    cases decoded : decodeUtf8 (slice b start k) with
    | error e' =>
      simp only [decoded] at h
      split_ifs at h
      cases h
      exact decodeUtf8_error_category decoded
    | ok text =>
      simp only [decoded] at h
      split_ifs at h
      exact ginPathFrom_error_category b start fuel (k + 1) e h

/-- The path reader never stops exactly when its start can be reached, the rest of the file is
ASCII without NUL, and no part of it read from the start ends with `.gin`. -/
theorem readGinPath_endless_iff (b : ByteArray) (offset : Int) :
    readGinPath b offset = .ok .endless ↔
      (0 ≤ offset ∧ offset ≤ seekLimit) ∧
        (∀ i, offset.toNat ≤ i → i < b.size → byteAt b i ≠ 0 ∧ byteAt b i < 0x80) ∧
          ∀ j, offset.toNat ≤ j → j ≤ b.size →
            (asciiText (slice b offset.toNat j)).endsWith ".gin" = false := by
  rw [← readAt_ok_iff b offset 0, ← readsOn_iff_ascii,
    ← ginPathFrom_endless_iff b offset.toNat (b.size + 1) offset.toNat (by omega)]
  unfold readGinPath
  cases h : readAt b offset 0 with
  | error e => simp [bind, Except.bind]
  | ok r => simp [bind, Except.bind]

/-! ### The first pass of the layout -/

/-- The fault the layout stops with where the program would read for ever. -/
def endlessPathFault : Fault := .outOfRange "the embedded path never ends"

/-- Where the first pass puts a file, as a run on the world: files under `assets` and fonts go to
their folders; any other file is read, and goes to the path it embeds from byte 20 on, or to its
own name when that path is not UTF-8. -/
theorem firstTarget_run (cwd : List String) (ship path : FsPath) (w : World) :
    (firstTarget cwd ship path).run w =
      if path.parent.name = "assets" then
        .ok (FsPath.resolved cwd ((ship.join "decomp_assets").join path.name)) w
      else if bareSuffix path ∈ ["csv", "otf", "ttf"] then
        .ok (FsPath.resolved cwd ((ship.join "fonts").join path.name)) w
      else match w.store.readFile w.cwd path with
        | .error e => .error e w
        | .ok bytes =>
          match readGinPath bytes 20 with
          | .ok (.found b) =>
            match decodeUtf8 b with
            | .ok text => .ok (FsPath.resolved cwd (ship.join text)) w
            | .error _ => .ok (FsPath.resolved cwd (ship.join path.name)) w
          | .ok .endless => .error endlessPathFault w
          | .error e =>
            if e.category = .badEncoding then .ok (FsPath.resolved cwd (ship.join path.name)) w
            else .error e w := by
  unfold firstTarget
  simp only [EStateM.run, beq_iff_eq, List.contains_iff_mem]
  split_ifs
  · rfl
  · rfl
  · -- any other file is read, and its embedded path read from byte 20
    simp only [readFile, orFault, bind, EStateM.bind, get, getThe, MonadStateOf.get, EStateM.get,
      pure, throw, throwThe, MonadExceptOf.throw, endlessPathFault]
    cases w.store.readFile w.cwd path with
    | error e => simp [EStateM.throw]
    | ok bytes =>
      cases path? : readGinPath bytes 20 with
      | error e =>
        by_cases encoding : e.category = .badEncoding <;>
          simp [path?, encoding, EStateM.pure, EStateM.throw]
      | ok outcome =>
        cases outcome with
        | found b =>
          simp only [path?, EStateM.pure]
          cases decodeUtf8 b <;> rfl
        | endless => simp [path?, EStateM.pure, EStateM.throw]

/-- The path reader at byte 20 fails only where the bytes read so far do not decode. -/
theorem readGinPath_twenty_error {bytes : ByteArray} {e : Fault}
    (h : readGinPath bytes 20 = .error e) : e.category = .badEncoding := by
  unfold readGinPath at h
  simp only [show readAt bytes 20 0 = .ok (slice bytes 20 20) by rfl, bind, Except.bind] at h
  exact ginPathFrom_error_category bytes _ _ _ e h

/-- The first pass never finishes a file exactly when the file lies outside `assets`, is no font,
can be read, and its path read from byte 20 never ends. Reading the file fails only with a fault
of the store, and the path reader only with a fault of the encoding, which sends the file to its
own name. -/
theorem firstTarget_endless_iff (cwd : List String) (ship path : FsPath) (w : World) :
    (∃ w', (firstTarget cwd ship path).run w = .error endlessPathFault w') ↔
      path.parent.name ≠ "assets" ∧ bareSuffix path ∉ ["csv", "otf", "ttf"] ∧
        ∃ bytes, w.store.readFile w.cwd path = .ok bytes ∧ readGinPath bytes 20 = .ok .endless := by
  rw [firstTarget_run]
  by_cases assets : path.parent.name = "assets"
  · simp [assets]
  by_cases font : bareSuffix path ∈ ["csv", "otf", "ttf"]
  · simp [assets, font]
  simp only [ne_eq, assets, font, not_false_eq_true, true_and, if_false]
  cases read : w.store.readFile w.cwd path with
  | error e =>
    obtain ⟨c, n, r, q, rfl⟩ := Volume.readFile_error_os read
    simp [endlessPathFault]
  | ok bytes =>
    cases path? : readGinPath bytes 20 with
    | error e => simp [path?, readGinPath_twenty_error path?]
    | ok outcome =>
      cases outcome with
      | found b => cases decoded : decodeUtf8 b <;> simp [path?, decoded]
      | endless => simp [path?]

/-- The byte loops stop exactly on what they read. The plain reader never stops exactly when no
NUL byte lies at or after its start; the path reader exactly when the rest of the file is ASCII
without NUL and no part of it read from the start ends with `.gin`; and the layout's first pass
never finishes a file exactly when the file is neither under `assets` nor a font and its bytes
from 20 on are such. -/
theorem embeddedReads_endless_iff (b : ByteArray) (offset : Int) (cwd : List String)
    (ship path : FsPath) (w : World) :
    (readUntilZero b offset = .ok .endless ↔
      (0 ≤ offset ∧ offset ≤ seekLimit) ∧ ∀ i, offset.toNat ≤ i → i < b.size → byteAt b i ≠ 0) ∧
    (readGinPath b offset = .ok .endless ↔
      (0 ≤ offset ∧ offset ≤ seekLimit) ∧
        (∀ i, offset.toNat ≤ i → i < b.size → byteAt b i ≠ 0 ∧ byteAt b i < 0x80) ∧
          ∀ j, offset.toNat ≤ j → j ≤ b.size →
            (asciiText (slice b offset.toNat j)).endsWith ".gin" = false) ∧
    ((∃ w', (firstTarget cwd ship path).run w = .error endlessPathFault w') ↔
      path.parent.name ≠ "assets" ∧ bareSuffix path ∉ ["csv", "otf", "ttf"] ∧
        ∃ bytes, w.store.readFile w.cwd path = .ok bytes ∧
          (∀ i, 20 ≤ i → i < bytes.size → byteAt bytes i ≠ 0 ∧ byteAt bytes i < 0x80) ∧
            ∀ j, 20 ≤ j → j ≤ bytes.size → (asciiText (slice bytes 20 j)).endsWith ".gin" = false) := by
  refine ⟨readUntilZero_endless_iff b offset, readGinPath_endless_iff b offset, ?_⟩
  rw [firstTarget_endless_iff]
  -- at byte 20 the start can always be reached
  have twenty : ∀ bytes : ByteArray, readGinPath bytes 20 = .ok .endless ↔
      (∀ i, 20 ≤ i → i < bytes.size → byteAt bytes i ≠ 0 ∧ byteAt bytes i < 0x80) ∧
        ∀ j, 20 ≤ j → j ≤ bytes.size → (asciiText (slice bytes 20 j)).endsWith ".gin" = false := by
    intro bytes
    rw [readGinPath_endless_iff]
    simp [show (20 : Int) ≤ seekLimit by decide]
  simp only [twenty]

/-- A file of one byte that is no NUL: both readers read nothing at its end for ever. -/
theorem embeddedReads_endless_one_byte :
    readUntilZero ⟨#[0x41]⟩ 0 = .ok .endless ∧ readGinPath ⟨#[0x41]⟩ 0 = .ok .endless := by
  have one : (⟨#[0x41]⟩ : ByteArray).size = 1 := rfl
  refine ⟨rfl, (readGinPath_endless_iff _ _).mpr ⟨by decide, fun i _ inFile => ?_, fun j _ upTo => ?_⟩⟩
  · obtain rfl : i = 0 := by omega
    decide
  · have short : j ≤ 1 := by omega
    interval_cases j <;> decide

end GinSave.Archive
