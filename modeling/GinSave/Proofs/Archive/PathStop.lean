import GinSave.Proofs.Archive.Readers

/-! Where the path reader stops, when it stops. It stops before the first byte that is a NUL or
that follows bytes ending with `.gin` (`FirstStop`), and a NUL from the start offset on makes sure
there is one. Up to that stop it reads on, decoding the bytes read so far before every read. Bytes
that are ASCII decode one character each, so the reader gives the bytes before its first stop
(`ginPathFrom_ascii_stop`). The first byte outside ASCII before the stop is the lead of a
character, or a byte that begins none, and the bytes read up to and with it do not decode: the
reader faults there, one read later (`ginPathFrom_high_faults`). That holds even when every
character up to the NUL is whole UTF-8, so a text of valid UTF-8 is read exactly when it is ASCII
up to the stop (`readGinPath_first_stop`). -/

namespace GinSave.Archive

open GinSave.Text GinSave.Codec

/-- The path reader from `start` stops before the byte at `j`: that byte is a NUL, or the bytes
read so far, one character per byte, end with `.gin`. -/
def GinStop (b : ByteArray) (start j : Nat) : Prop :=
  (j < b.size ∧ byteAt b j = 0) ∨ (asciiText (slice b start j)).endsWith ".gin" = true

instance (b : ByteArray) (start j : Nat) : Decidable (GinStop b start j) :=
  inferInstanceAs (Decidable (_ ∨ _))

/-- The first NUL byte from `start` on lies `n` bytes after it. -/
structure FirstNul (b : ByteArray) (start n : Nat) : Prop where
  inFile : start + n < b.size
  nul : byteAt b (start + n) = 0
  before : ∀ i < n, byteAt b (start + i) ≠ 0

/-- The first stop of the path reader from `start` lies `k` bytes after it. -/
structure FirstStop (b : ByteArray) (start k : Nat) : Prop where
  stops : GinStop b start (start + k)
  before : ∀ j < k, ¬ GinStop b start (start + j)

/-- The first NUL is a stop, so the first stop comes no later. -/
theorem FirstStop.le_nul {b : ByteArray} {start n k : Nat} (first : FirstStop b start k)
    (nul : FirstNul b start n) : k ≤ n :=
  Nat.le_of_not_lt fun after => first.before n after (Or.inl ⟨nul.inFile, nul.nul⟩)

/-! ### Steps of the path reader -/

section Steps

variable {b : ByteArray} {start k fuel : Nat}

theorem ginPathFrom_nul (nul : k < b.size ∧ byteAt b k = 0) :
    ginPathFrom b start (fuel + 1) k = .ok (.found (slice b start k)) := by
  simp [ginPathFrom, nul.1, nul.2]

theorem ginPathFrom_undecodable {e : Fault} (clear : ¬ (k < b.size ∧ byteAt b k = 0))
    (bad : decodeUtf8 (slice b start k) = .error e) : ginPathFrom b start (fuel + 1) k = .error e := by
  have go : (decide (k < b.size) && byteAt b k == 0) = false := by simpa using clear
  simp only [ginPathFrom, go, Bool.false_eq_true, if_false, bad]

theorem ginPathFrom_gin {text : String} (clear : ¬ (k < b.size ∧ byteAt b k = 0))
    (ok : decodeUtf8 (slice b start k) = .ok text) (gin : text.endsWith ".gin" = true) :
    ginPathFrom b start (fuel + 1) k = .ok (.found (slice b start k)) := by
  have go : (decide (k < b.size) && byteAt b k == 0) = false := by simpa using clear
  simp only [ginPathFrom, go, Bool.false_eq_true, if_false, ok, gin, if_true]

/-- Where its checks let it go on inside the file, the reader reads the next byte. -/
theorem ginPathFrom_next (reads : ReadsOn b start k) (inFile : k < b.size) :
    ginPathFrom b start (fuel + 1) k = ginPathFrom b start fuel (k + 1) := by
  obtain ⟨notNul, text, ok, notGin⟩ := reads
  have go : (decide (k < b.size) && byteAt b k == 0) = false := by simpa using notNul
  simp only [ginPathFrom, go, Bool.false_eq_true, if_false, ok, notGin,
    show ¬ b.size ≤ k by omega]

/-- Through a stretch of the file where its checks let it go on, the reader spends one round a
byte. By induction on the stretch. -/
theorem ginPathFrom_skip :
    ∀ (m fuel k : Nat), k + m ≤ b.size → (∀ j, k ≤ j → j < k + m → ReadsOn b start j) →
      ginPathFrom b start (fuel + m) k = ginPathFrom b start fuel (k + m)
  | 0, fuel, k, _, _ => rfl
  | m + 1, fuel, k, inFile, reads => by
    rw [show fuel + (m + 1) = (fuel + m) + 1 by omega,
      ginPathFrom_next (reads k (Nat.le_refl _) (by omega)) (by omega),
      ginPathFrom_skip m fuel (k + 1) (by omega) fun j from_ upTo => reads j (by omega) (by omega)]
    rw [show k + 1 + m = k + (m + 1) by omega]

end Steps

/-- Bytes that are ASCII up to `j` decode, from `start`, one character each. -/
theorem decodeUtf8_slice_ascii_below {b : ByteArray} {start j : Nat}
    (ascii : ∀ i, start ≤ i → i < j → byteAt b i < 0x80) :
    decodeUtf8 (slice b start j) = .ok (asciiText (slice b start j)) := by
  apply decodeUtf8_ascii
  intro i h
  have inside : start + i < j ∧ start + i < b.size := by rw [slice_size] at h; omega
  rw [← byteAt_of_lt h, byteAt_slice h]
  exact ascii _ (by omega) inside.1

/-- Before its first stop, over bytes that are ASCII up to where it is, the reader goes on. -/
theorem readsOn_before_stop {b : ByteArray} {start k j : Nat} (first : FirstStop b start k)
    (from_ : start ≤ j) (upTo : j < start + k) (ascii : ∀ i, start ≤ i → i < j → byteAt b i < 0x80) :
    ReadsOn b start j := by
  have clear := first.before (j - start) (by omega)
  rw [show start + (j - start) = j by omega] at clear
  refine ⟨fun inFile nul => clear (Or.inl ⟨inFile, nul⟩), _, decodeUtf8_slice_ascii_below ascii, ?_⟩
  simpa using fun gin => clear (Or.inr gin)

/-! ### The two outcomes -/

variable {b : ByteArray} {start n k : Nat}

/-- Over ASCII bytes the reader gives what lies before its first stop. -/
theorem ginPathFrom_ascii_stop (nul : FirstNul b start n) (first : FirstStop b start k)
    (ascii : ∀ i < k, byteAt b (start + i) < 0x80) :
    ginPathFrom b start (b.size + 1) start = .ok (.found (slice b start (start + k))) := by
  have inFile : start + k < b.size := by have := first.le_nul nul; have := nul.inFile; omega
  have asciiUpTo : ∀ i, start ≤ i → i < start + k → byteAt b i < 0x80 := fun i from_ upTo => by
    simpa [show start + (i - start) = i by omega] using ascii (i - start) (by omega)
  rw [show b.size + 1 = (b.size - k) + 1 + k by omega, ginPathFrom_skip k _ start (by omega)
    fun j from_ upTo => readsOn_before_stop first from_ upTo fun i s lt => asciiUpTo i s (by omega)]
  -- at the stop: a NUL, or a text ending with `.gin` that decodes as it is ASCII
  by_cases atNul : start + k < b.size ∧ byteAt b (start + k) = 0
  · exact ginPathFrom_nul atNul
  · have gin : (asciiText (slice b start (start + k))).endsWith ".gin" = true :=
      first.stops.resolve_left atNul
    exact ginPathFrom_gin atNul (decodeUtf8_slice_ascii_below asciiUpTo) gin

/-- A byte outside ASCII before the first stop makes the reader fault, with a fault of the
encoding, as long as the bytes up to the first NUL are valid UTF-8. -/
theorem ginPathFrom_high_faults (nul : FirstNul b start n)
    (valid : ∃ t, decodeUtf8 (slice b start (start + n)) = .ok t) (first : FirstStop b start k)
    (high : ∃ i < k, 0x80 ≤ byteAt b (start + i)) :
    ∃ e, ginPathFrom b start (b.size + 1) start = .error e ∧ e.category = .badEncoding := by
  classical
  -- the first byte outside ASCII, `p` bytes after the start
  let p := Nat.find high
  obtain ⟨below, highAt⟩ : p < k ∧ 0x80 ≤ byteAt b (start + p) := Nat.find_spec high
  have asciiBefore : ∀ i, start ≤ i → i < start + p → byteAt b i < 0x80 := fun i from_ upTo => by
    have lower := Nat.find_min high (show i - start < p by omega)
    rw [show start + (i - start) = i by omega] at lower
    simpa using fun lt => lower ⟨by omega, lt⟩
  have kn := first.le_nul nul
  have inFile := nul.inFile
  obtain ⟨e, bad⟩ := decodeUtf8_slice_high (Nat.le_add_right start p) (by omega) asciiBefore highAt
  -- the byte after it is no NUL: before the stop none is, and a NUL at the stop would end a text
  -- that is not valid UTF-8
  have clear : ¬ (start + p + 1 < b.size ∧ byteAt b (start + p + 1) = 0) := by
    rintro ⟨_, zero⟩
    by_cases last : p + 1 < k
    · exact first.before (p + 1) last (Or.inl ⟨by omega, zero⟩)
    · have atNul : n = p + 1 :=
        Nat.le_antisymm (Nat.le_of_not_lt fun short => nul.before (p + 1) short zero) (by omega)
      obtain ⟨t, ok⟩ := valid
      rw [atNul, ← Nat.add_assoc, bad] at ok
      cases ok
  rw [show b.size + 1 = (b.size - (p + 1)) + 1 + (p + 1) by omega,
    ginPathFrom_skip (p + 1) _ start (by omega) fun j from_ upTo =>
      readsOn_before_stop first from_ (by omega) fun i s lt => asciiBefore i s (by omega),
    ← Nat.add_assoc, ginPathFrom_undecodable clear bad]
  exact ⟨e, rfl, decodeUtf8_error_category bad⟩

/-- The reader starts where the offset puts it, when a seek accepts the offset. -/
theorem readGinPath_seekable {offset : Int} (seekable : 0 ≤ offset ∧ offset ≤ seekLimit) :
    readGinPath b offset = ginPathFrom b offset.toNat (b.size + 1) offset.toNat := by
  obtain ⟨r, read⟩ := (readAt_ok_iff b offset 0).mpr seekable
  simp [readGinPath, read, bind, Except.bind]

/-- The path reader on a file whose bytes from the offset hold a NUL, and are valid UTF-8 up to
the first one: with `k` the first stop (a NUL, or bytes ending with `.gin`), it gives the `k`
bytes before the stop when they are ASCII, and otherwise fails to decode what it has read. -/
theorem readGinPath_first_stop (b : ByteArray) (offset : Int) (n k : Nat)
    (seekable : 0 ≤ offset ∧ offset ≤ seekLimit) (nul : FirstNul b offset.toNat n)
    (valid : ∃ t, decodeUtf8 (slice b offset.toNat (offset.toNat + n)) = .ok t)
    (first : FirstStop b offset.toNat k) :
    ((∀ i < k, byteAt b (offset.toNat + i) < 0x80) →
        readGinPath b offset = .ok (.found (slice b offset.toNat (offset.toNat + k)))) ∧
      ((∃ i < k, 0x80 ≤ byteAt b (offset.toNat + i)) →
        ∃ e, readGinPath b offset = .error e ∧ e.category = .badEncoding) := by
  rw [readGinPath_seekable seekable]
  exact ⟨ginPathFrom_ascii_stop nul first, ginPathFrom_high_faults nul valid first⟩

/-- A path that ends with `.gin` before its NUL is read up to the `.gin`. -/
theorem readGinPath_stops_after_gin :
    FirstNul ⟨#[0x61, 0x2E, 0x67, 0x69, 0x6E, 0x78, 0x00]⟩ 0 6 ∧
      FirstStop ⟨#[0x61, 0x2E, 0x67, 0x69, 0x6E, 0x78, 0x00]⟩ 0 5 ∧
      readGinPath ⟨#[0x61, 0x2E, 0x67, 0x69, 0x6E, 0x78, 0x00]⟩ 0 =
        .ok (.found (slice ⟨#[0x61, 0x2E, 0x67, 0x69, 0x6E, 0x78, 0x00]⟩ 0 5)) := by
  have nul : FirstNul ⟨#[0x61, 0x2E, 0x67, 0x69, 0x6E, 0x78, 0x00]⟩ 0 6 :=
    ⟨by decide, by decide, by decide⟩
  have first : FirstStop ⟨#[0x61, 0x2E, 0x67, 0x69, 0x6E, 0x78, 0x00]⟩ 0 5 :=
    ⟨by with_unfolding_all decide, by with_unfolding_all decide⟩
  exact ⟨nul, first, (readGinPath_first_stop _ 0 6 5 (by decide) nul
    ⟨_, decodeUtf8_ascii _ (by decide)⟩ first).1 (by decide)⟩

/-- The text `é` is valid UTF-8 up to the NUL after it, yet the reader, which decodes what it has
read before every read, fails on its lead byte read alone. -/
theorem readGinPath_cuts_two_byte_char :
    decodeUtf8 ⟨#[0xC3, 0xA9]⟩ = .ok "é" ∧
      ∃ e, readGinPath ⟨#[0xC3, 0xA9, 0x00]⟩ 0 = .error e ∧ e.category = .badEncoding := by
  -- one character of two bytes, and then the end
  have whole : decodeUtf8 ⟨#[0xC3, 0xA9]⟩ = .ok "é" := by
    have step : utf8Step ⟨#[0xC3, 0xA9]⟩ 0 = .char 'é' 2 := rfl
    rw [decodeUtf8, decodeFrom, if_pos (by decide), step]
    simp only [Nat.ofNat_pos, if_true]
    rw [decodeFrom, if_neg (by decide)]
    rfl
  refine ⟨whole, ?_⟩
  rw [readGinPath_seekable (by decide)]
  exact ginPathFrom_high_faults (n := 2) (k := 2) ⟨by decide, by decide, by decide⟩ ⟨_, whole⟩
    ⟨Or.inl ⟨by decide, by decide⟩, by decide⟩ ⟨0, by decide, by decide⟩

end GinSave.Archive
