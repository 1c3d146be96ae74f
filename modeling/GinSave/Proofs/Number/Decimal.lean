import Mathlib
import GinSave.Number.Literal
import GinSave.Number.Fixed

/-! Decimal texts of numbers. The digits of a natural number are as many as `decimalLength`
counts, and a signed text of at most `maxIntDigits` digits reads back as its integer. A fixed-point
text holds only digits, a sign, a point, and the letters of `nan` and `inf`. -/

namespace GinSave.Number

theorem length_toDigits_ten (n : Nat) : (Nat.toDigits 10 n).length = decimalLength n := by
  rw [Nat.toDigits_eq_if (by decide), decimalLength]
  split
  · rfl
  · rw [List.length_append, length_toDigits_ten (n / 10)]
    rfl
termination_by n
decreasing_by omega

theorem decimalLength_le_of_lt_pow {n k : Nat} (small : n < 10 ^ k) (pos : 0 < k) :
    decimalLength n ≤ k := by
  rw [← length_toDigits_ten]
  exact (Nat.length_toDigits_le_iff (by decide) pos).mpr small

theorem decimalLength_pow_ten : ∀ k, decimalLength (10 ^ k) = k + 1
  | 0 => by rw [decimalLength, if_pos (by decide)]
  | k + 1 => by
    have big : ¬10 ^ (k + 1) < 10 := by
      have := Nat.one_le_pow k 10 (by decide)
      rw [Nat.pow_succ]
      omega
    rw [decimalLength, if_neg big, Nat.pow_succ, Nat.mul_div_cancel _ (by decide),
      decimalLength_pow_ten k]

theorem isAsciiDigit_eq_isDigit (c : Char) : isAsciiDigit c = c.isDigit := by
  simp [isAsciiDigit, Char.isDigit, Char.le_def, UInt32.le_iff_toNat_le]

/-- Grouped-digit scanning of plain digits folds all of them and leaves nothing. -/
theorem scanGroupedDigits_digits :
    ∀ (ds : List Char) (v n : Nat), (∀ c ∈ ds, c.isDigit) →
      scanGroupedDigits ds v n false = .ok (Nat.ofDigitChars 10 ds v, n + ds.length, [])
  | [], v, n, _ => by simp [scanGroupedDigits]
  | c :: ds, v, n, digits => by
    have digit : c.isDigit := digits c List.mem_cons_self
    have notUnderscore : (c == '_') = false := by
      rw [beq_eq_false_iff_ne]
      rintro rfl
      exact absurd digit (by decide)
    rw [scanGroupedDigits, if_neg (by simp [notUnderscore]), if_pos (by simpa [isAsciiDigit_eq_isDigit]),
      scanGroupedDigits_digits ds _ _ (fun x mem => digits x (List.mem_cons_of_mem c mem))]
    simp only [Nat.ofDigitChars_cons, List.length_cons, Except.ok.injEq, Prod.mk.injEq, and_true]
    constructor
    · rfl
    · omega

/-- A text of ASCII characters is its own ASCII form. -/
theorem asciiForm_of_ascii {s : String} (ascii : ∀ c ∈ s.toList, c.toNat < 0x7F) :
    asciiForm s = s.toList := by
  unfold asciiForm
  refine (List.map_congr_left fun c mem => ?_).trans (List.map_id _)
  simp [ascii c mem]

theorem digit_toNat_lt {c : Char} (digit : c.isDigit) : c.toNat < 0x7F := by
  simp only [Char.isDigit, Bool.and_eq_true, decide_eq_true_eq, UInt32.le_iff_toNat_le] at digit
  change c.val.toNat < 0x7F
  have : ('9' : Char).val.toNat = 57 := rfl
  omega

/-- The decimal text of a natural number, with a minus sign when `neg`, reads back as the
signed number when it has no more digits than are read. -/
theorem readInt_decimal (neg : Bool) (k : Nat) (short : decimalLength k ≤ maxIntDigits) :
    readInt ((if neg then "-" else "") ++ String.ofList (Nat.toDigits 10 k)) =
      .ok (if neg then -(k : Int) else k) := by
  have digits : ∀ c ∈ Nat.toDigits 10 k, c.isDigit := fun c mem =>
    Nat.isDigit_of_mem_toDigits (by decide) (by decide) mem
  obtain ⟨d, ds, split⟩ : ∃ d ds, Nat.toDigits 10 k = d :: ds := by
    cases h : Nat.toDigits 10 k with
    | nil => exact absurd h Nat.toDigits_ne_nil
    | cons d ds => exact ⟨d, ds, rfl⟩
  -- the first digit is neither a blank, a sign nor an underscore, so the scan starts at it
  have lead : d.isDigit := digits d (by simp [split])
  simp only [Char.isDigit, Bool.and_eq_true, decide_eq_true_eq] at lead
  have notBlank : isAsciiBlank d = false := by
    simp only [isAsciiBlank, Bool.or_eq_false_iff, beq_eq_false_iff_ne]
    refine ⟨⟨⟨⟨⟨?_, ?_⟩, ?_⟩, ?_⟩, ?_⟩, ?_⟩ <;> rintro rfl <;> simp at lead
  have notSign : d ≠ '-' ∧ d ≠ '+' ∧ d ≠ '_' := by
    refine ⟨?_, ?_, ?_⟩ <;> rintro rfl <;> simp at lead
  have fits : ¬ maxIntDigits < decimalLength k := by omega
  have pos : decimalLength k ≠ 0 := by
    rw [← length_toDigits_ten]
    simp
  have ascii : ∀ c ∈ ((if neg then "-" else "") ++ String.ofList (Nat.toDigits 10 k)).toList,
      c.toNat < 0x7F := by
    intro c mem
    cases neg <;> simp at mem
    · exact digit_toNat_lt (digits c mem)
    · rcases mem with rfl | mem
      · decide
      · exact digit_toNat_lt (digits c mem)
  unfold readInt
  rw [asciiForm_of_ascii ascii]
  cases neg with
  | false =>
    simp [split, notBlank, notSign]
    rw [← split, scanGroupedDigits_digits _ 0 0 digits]
    simp [length_toDigits_ten, Nat.ofDigitChars_ten_toDigits, bind, Except.bind, fits, pos, pure,
      Except.pure]
  | true =>
    simp [split, notSign, isAsciiBlank]
    rw [← split, scanGroupedDigits_digits _ 0 0 digits]
    simp [length_toDigits_ten, Nat.ofDigitChars_ten_toDigits, bind, Except.bind, fits, pos, pure,
      Except.pure]

/-- The value of an ASCII digit. -/
theorem digitValue_lt {c : Char} (digit : isAsciiDigit c = true) : c.toNat - 48 < 10 := by
  rw [isAsciiDigit_eq_isDigit] at digit
  simp only [Char.isDigit, Bool.and_eq_true, decide_eq_true_eq, UInt32.le_iff_toNat_le] at digit
  change c.val.toNat - 48 < 10
  have : ('9' : Char).val.toNat = 57 := rfl
  omega

/-- Scanning digits keeps the value below ten to the number of digits read. -/
theorem scanGroupedDigits_lt :
    ∀ (cs : List Char) (v n : Nat) (last : Bool) {v' n' : Nat} {rest : List Char},
      v < 10 ^ n → scanGroupedDigits cs v n last = .ok (v', n', rest) → v' < 10 ^ n'
  | [], v, n, last, _, _, _, small, scanned => by
    unfold scanGroupedDigits at scanned
    split at scanned
    · cases scanned
    · cases scanned
      exact small
  | c :: cs, v, n, last, _, _, _, small, scanned => by
    unfold scanGroupedDigits at scanned
    split at scanned
    · split at scanned
      · cases scanned
      · exact scanGroupedDigits_lt cs v n true small scanned
    · split at scanned
      · rename_i digit
        have next : 10 * v + (c.toNat - 48) < 10 ^ (n + 1) := by
          have := digitValue_lt digit
          rw [Nat.pow_succ]
          omega
        exact scanGroupedDigits_lt cs _ _ false next scanned
      · split at scanned
        · cases scanned
        · cases scanned
          exact small

/-- Digits scanned from nothing, no more than `maxIntDigits` of them and at least one, give a
number of at most `maxIntDigits` digits. -/
theorem decimalLength_scanned {cs rest : List Char} {v k : Nat}
    (scanned : scanGroupedDigits cs 0 0 false = .ok (v, k, rest)) (within : ¬ k > maxIntDigits)
    (some_ : ¬ (k == 0) = true) : decimalLength v ≤ maxIntDigits := by
  have small := scanGroupedDigits_lt cs 0 0 false (by decide) scanned
  have bound := decimalLength_le_of_lt_pow small (Nat.pos_of_ne_zero (by simpa using some_))
  omega

/-- An integer read from a text has at most `maxIntDigits` digits. -/
theorem readInt_short {s : String} {n : Int} (read : readInt s = .ok n) :
    decimalLength n.natAbs ≤ maxIntDigits := by
  unfold readInt at read
  simp only [bind, Except.bind, pure, Except.pure, throw, throwThe, MonadExceptOf.throw] at read
  -- the three ways of reading the sign end in the same scan of the digits
  split at read <;>
  · split at read
    · cases read
    · split at read
      · cases read
      · rename_i scan scanned
        obtain ⟨v, k, rest⟩ := scan
        split at read
        · cases read
        rename_i within
        split at read
        · cases read
        rename_i some_
        split at read
        · cases read
        cases read
        have bound := decimalLength_scanned scanned within some_
        split <;> simpa using bound

/-- Every character of a fixed-point text is a digit, a minus sign, a point, or a letter of
`nan` and `inf`. -/
theorem fixedText_char {places : Nat} {x : Float} {c : Char}
    (mem : c ∈ (fixedText places x).toList) :
    c.isDigit ∨ c = '-' ∨ c = '.' ∨ c = 'n' ∨ c = 'a' ∨ c = 'i' ∨ c = 'f' := by
  have digit : ∀ n, c ∈ Nat.toDigits 10 n → c.isDigit := fun _ m =>
    Nat.isDigit_of_mem_toDigits (by decide) (by decide) m
  unfold fixedText at mem
  split at mem
  · simp at mem
    rcases mem with rfl | rfl | rfl <;> decide
  · split at mem <;> simp at mem <;> rcases mem with rfl | rfl | rfl | rfl <;> decide
  · simp only [String.toList_append] at mem
    rcases List.mem_append.mp mem with sign | body
    · split at sign <;> simp at sign
      exact .inr (.inl sign)
    · split at body
      · exact .inl (digit _ (by simpa using body))
      · simp only [String.toList_ofList, List.mem_append, List.mem_cons, List.mem_replicate] at body
        rcases body with whole | point | zero | frac
        · exact .inl (digit _ whole)
        · exact .inr (.inr (.inl point))
        · exact .inl (zero.2 ▸ rfl)
        · exact .inl (digit _ frac)

end GinSave.Number
