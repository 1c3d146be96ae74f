import GinSave.Proofs.Json.Quoted
import GinSave.Proofs.Json.Short

/-! Numbers as the writer writes them read back. An integer is written as its decimal digits and
reads back as itself; a double is written as `NaN`, an infinity, or a shortest decimal in
positional or scientific form, and reads back as some double. The reader stops right after the
number when what follows may follow a value. Main statements: `scanNumber_parts`,
`scanNumber_intText` and `realText_cases`. -/

namespace GinSave.Json

open GinSave.Number GinSave.Text

/-- A character that may stand right after a value: a blank, a comma or a closing bracket. -/
def IsFollower (c : Char) : Bool := isSpace c || c == ',' || c == ']' || c == '\x7d'

/-- What follows a value in a document starts with a follower, or is nothing. -/
def Follows (rest : List Char) : Prop := ∀ c ∈ rest.head?, IsFollower c = true

/-- A run of ASCII digits. -/
def Digits (cs : List Char) : Prop := ∀ c ∈ cs, isAsciiDigit c = true

section digits
variable {doc : Array Char}

theorem skipDigits_run {rest : List Char} (stop : ∀ c ∈ rest.head?, isAsciiDigit c = false) :
    ∀ (ds : List Char) (i : Nat), Digits ds → doc.toList.drop i = ds ++ rest →
      skipDigits doc i = i + ds.length
  | [], i, _, at_ => by
    rw [skipDigits]
    split
    · have : (charAt doc i).any (fun c => '0' ≤ c && c ≤ '9') = false := by
        rw [charAt_eq_head?, at_, List.nil_append]
        cases rest with
        | nil => rfl
        | cons c r => exact stop c rfl
      simp [this]
    · simp
  | d :: ds, i, digits, at_ => by
    rw [skipDigits, if_pos (lt_size_of_drop at_), charAt_of_drop at_]
    have digit : ('0' ≤ d && d ≤ '9') = true := digits d List.mem_cons_self
    simp only [Option.any_some]
    rw [if_pos digit, skipDigits_run stop ds (i + 1) (fun c mem => digits c (List.mem_cons_of_mem d mem))
      (drop_succ_of_drop at_)]
    simp only [List.length_cons]
    omega

theorem digitsValue_run {ds rest : List Char} {i : Nat} (at_ : doc.toList.drop i = ds ++ rest) :
    digitsValue doc i (i + ds.length) = Nat.ofDigitChars 10 ds 0 := by
  unfold digitsValue
  rw [← Array.foldl_toList, Array.toList_extract, List.extract_eq_take_drop, at_,
    Nat.add_sub_cancel_left, List.take_left]
  rfl

end digits

/-- An integer part as the reader takes it: `0`, or digits that do not start with `0`. -/
def WholePart (cs : List Char) : Prop :=
  cs = ['0'] ∨ ∃ d ds, cs = d :: ds ∧ ('1' ≤ d && d ≤ '9') = true ∧ Digits ds

/-- A fraction: nothing, or a point and at least one digit. -/
def FracPart (cs : List Char) : Prop :=
  cs = [] ∨ ∃ ds, cs = '.' :: ds ∧ ds ≠ [] ∧ Digits ds

/-- An exponent: nothing, or `e`, a sign and at least one digit. -/
def ExpPart (cs : List Char) : Prop :=
  cs = [] ∨ ∃ s ds, cs = 'e' :: s :: ds ∧ (s = '+' ∨ s = '-') ∧ ds ≠ [] ∧ Digits ds

theorem digit_ne_of_follows {rest : List Char} (follows : Follows rest) :
    ∀ c ∈ rest.head?, isAsciiDigit c = false ∧ c ≠ '.' ∧ c ≠ 'e' ∧ c ≠ 'E' := by
  intro c mem
  have f := follows c mem
  simp only [IsFollower, isSpace, Bool.or_eq_true, beq_iff_eq] at f
  rcases f with (((((rfl | rfl) | rfl) | rfl) | rfl) | rfl) | rfl <;> decide

/-- After a fraction comes the exponent or what follows the number. -/
theorem fraction_step {doc : Array Char} {p : Nat} {frac expo rest : List Char} (f : FracPart frac)
    (e : ExpPart expo) (follows : Follows rest) (at_ : doc.toList.drop p = frac ++ expo ++ rest) :
    (if (decide (p + 1 < doc.size) && charAt doc p == some '.' && digitAt doc (p + 1)) = true then
        (skipDigits doc (p + 2), true)
      else (p, false)) = (p + frac.length, !frac.isEmpty) := by
  rcases f with rfl | ⟨ds, rfl, nonempty, digits⟩
  · -- no fraction: the exponent's letter or a follower stands at `p`
    have notPoint : charAt doc p ≠ some '.' := by
      rw [charAt_eq_head?, at_]
      rcases e with rfl | ⟨s, xs, rfl, -⟩
      · cases rest with
        | nil => simp
        | cons c r => simpa using (digit_ne_of_follows follows c rfl).2.1
      · simp
    simp [notPoint]
  · obtain ⟨d, ds', rfl⟩ := List.exists_cons_of_ne_nil nonempty
    have pointAt : charAt doc p = some '.' := charAt_of_drop (by simpa using at_)
    have digitsAt : doc.toList.drop (p + 1) = d :: ds' ++ (expo ++ rest) := by
      simpa using drop_succ_of_drop (by simpa using at_)
    have inside := lt_size_of_drop digitsAt
    have firstDigit : digitAt doc (p + 1) = true := by
      simp only [digitAt, charAt_of_drop digitsAt, Option.any_some]
      exact digits d List.mem_cons_self
    have stop : ∀ c ∈ (expo ++ rest).head?, isAsciiDigit c = false := by
      intro c mem
      rcases e with rfl | ⟨s, xs, rfl, -⟩
      · exact (digit_ne_of_follows follows c (by simpa using mem)).1
      · simp only [List.cons_append, List.head?_cons, Option.mem_def, Option.some.injEq] at mem
        subst mem
        decide
    have skipped := skipDigits_run stop ds' (p + 2) (fun c mem => digits c (List.mem_cons_of_mem d mem))
      (by simpa using drop_succ_of_drop digitsAt)
    simp only [inside, decide_true, pointAt, beq_self_eq_true, firstDigit, Bool.and_self, if_true,
      skipped, List.length_cons, List.isEmpty_cons, Bool.not_false, Prod.mk.injEq, and_true]
    omega

/-- After the exponent comes what follows the number. -/
theorem exponent_step {doc : Array Char} {p : Nat} {expo rest : List Char} (e : ExpPart expo)
    (follows : Follows rest) (at_ : doc.toList.drop p = expo ++ rest) :
    ∃ start, (if (decide (p + 1 < doc.size) &&
        (charAt doc p == some 'e' || charAt doc p == some 'E')) = true then
          have k := p + 1
          have k := if (decide (k + 1 < doc.size) &&
            (charAt doc k == some '+' || charAt doc k == some '-')) = true then k + 1 else k
          have e := skipDigits doc k
          if e > k then (e, p + 1, true) else (p, p, false)
        else (p, p, false)) = (p + expo.length, start, !expo.isEmpty) := by
  rcases e with rfl | ⟨s, ds, rfl, sign, nonempty, digits⟩
  · have notE : charAt doc p ≠ some 'e' ∧ charAt doc p ≠ some 'E' := by
      rw [charAt_eq_head?, at_]
      cases rest with
      | nil => simp
      | cons c r =>
        have := digit_ne_of_follows follows c rfl
        simpa using ⟨this.2.2.1, this.2.2.2⟩
    exact ⟨p, by simp [notE]⟩
  · refine ⟨p + 1, ?_⟩
    have signAt : doc.toList.drop (p + 1) = s :: (ds ++ rest) := by
      simpa using drop_succ_of_drop (by simpa using at_)
    have digitsAt : doc.toList.drop (p + 1 + 1) = ds ++ rest := drop_succ_of_drop signAt
    obtain ⟨d, ds', rfl⟩ := List.exists_cons_of_ne_nil nonempty
    have inside := lt_size_of_drop digitsAt
    have stop : ∀ c ∈ rest.head?, isAsciiDigit c = false :=
      fun c mem => (digit_ne_of_follows follows c mem).1
    have skipped := skipDigits_run stop (d :: ds') (p + 1 + 1) digits digitsAt
    have signed : (charAt doc (p + 1) == some '+' || charAt doc (p + 1) == some '-') = true := by
      rw [charAt_of_drop signAt]
      rcases sign with rfl | rfl <;> rfl
    have eAt : doc.toList.drop p = 'e' :: s :: (d :: ds' ++ rest) := by simpa using at_
    have outer : p + 1 < doc.size := by omega
    have inner : p + 1 + 1 < doc.size := inside
    simp only [charAt_of_drop eAt, beq_self_eq_true, Bool.true_or, outer, inner, decide_true,
      Bool.true_and, signed, if_true]
    rw [skipped, if_pos (by simp)]
    simp only [List.length_cons, List.isEmpty_cons, Bool.not_false, Prod.mk.injEq, and_true]
    omega

/-- What stands after an integer part is no digit: a point, the exponent's letter or a follower. -/
theorem not_digit_after {frac expo rest : List Char} (f : FracPart frac) (e : ExpPart expo)
    (follows : Follows rest) : ∀ c ∈ (frac ++ expo ++ rest).head?, isAsciiDigit c = false := by
  intro c mem
  rcases f with rfl | ⟨ds, rfl, -⟩
  · rcases e with rfl | ⟨s, xs, rfl, -⟩
    · exact (digit_ne_of_follows follows c (by simpa using mem)).1
    · simp only [List.nil_append, List.cons_append, List.head?_cons, Option.mem_def,
        Option.some.injEq] at mem
      subst mem
      decide
  · simp only [List.cons_append, List.head?_cons, Option.mem_def, Option.some.injEq] at mem
    subst mem
    decide

/-- A number as the writer writes it reads back: an integer when it has neither fraction nor
exponent and not too many digits, a double otherwise. The reader stops right after it. -/
theorem scanNumber_parts {doc : Array Char} {i : Nat} {rest : List Char} (neg : Bool)
    {whole frac expo : List Char} (w : WholePart whole) (f : FracPart frac) (e : ExpPart expo)
    (at_ : doc.toList.drop i = (if neg then ['-'] else []) ++ whole ++ frac ++ expo ++ rest)
    (follows : Follows rest) :
    let stop := i + ((if neg then ['-'] else []) ++ whole ++ frac ++ expo).length
    (frac = [] → expo = [] → whole.length ≤ maxIntDigits →
      scanNumber doc i = .ok (.int (if neg then -(Nat.ofDigitChars 10 whole 0 : Int)
        else Nat.ofDigitChars 10 whole 0), stop)) ∧
    (frac ≠ [] ∨ expo ≠ [] → ∃ y, scanNumber doc i = .ok (.real y, stop)) := by
  intro stop
  obtain ⟨d, ds, rfl, lead, digits⟩ : ∃ d ds, whole = d :: ds ∧
      (d = '0' ∧ ds = [] ∨ ('1' ≤ d && d ≤ '9') = true) ∧ Digits ds := by
    rcases w with rfl | ⟨d, ds, rfl, nonzero, digits⟩
    · exact ⟨'0', [], rfl, .inl ⟨rfl, rfl⟩, by simp [Digits]⟩
    · exact ⟨d, ds, rfl, .inr nonzero, digits⟩
  -- the sign, then the integer part from `i₀`
  set i₀ := i + (if neg then 1 else 0) with i₀Def
  have wholeAt : doc.toList.drop i₀ = d :: (ds ++ frac ++ expo ++ rest) := by
    rw [i₀Def]
    cases neg
    · simpa using at_
    · simpa using drop_succ_of_drop (by simpa using at_)
  have signed : (charAt doc i == some '-') = neg := by
    cases neg
    · rw [charAt_of_drop (by simpa [i₀Def] using wholeAt :
        doc.toList.drop i = d :: (ds ++ frac ++ expo ++ rest))]
      rcases lead with ⟨rfl, -⟩ | nonzero
      · rfl
      · simp only [beq_eq_false_iff_ne, ne_eq, Option.some.injEq]
        rintro rfl
        revert nonzero
        decide
    · rw [charAt_of_drop (by simpa using at_ : doc.toList.drop i = '-' :: (d :: ds ++ frac ++ expo ++ rest))]
      rfl
  have atI₀ : charAt doc i₀ = some d := charAt_of_drop wholeAt
  have fracAt : doc.toList.drop (i₀ + (d :: ds).length) = frac ++ expo ++ rest :=
    drop_after (l := d :: ds) (by simpa using wholeAt)
  have expoAt : doc.toList.drop (i₀ + (d :: ds).length + frac.length) = expo ++ rest :=
    drop_after (by simpa using fracAt)
  -- the integer part ends where the fraction starts
  have intEnd : ∀ {α : Type} (k : Nat → Except ReadError α),
      (if (charAt doc i₀).any (fun c => '1' ≤ c && c ≤ '9') = true then k (skipDigits doc (i₀ + 1))
        else if (charAt doc i₀ == some '0') = true then k (i₀ + 1)
        else throw (ReadError.grammar "Expecting value" i) >>= k) = k (i₀ + (d :: ds).length) := by
    intro α k
    rcases lead with ⟨rfl, rfl⟩ | nonzero
    · simp [atI₀]
    · rw [atI₀, Option.any_some, if_pos nonzero, skipDigits_run (not_digit_after f e follows) ds
        (i₀ + 1) digits (drop_succ_of_drop (by simpa using wholeAt))]
      simp only [List.length_cons]
      congr 1
      omega
  obtain ⟨start, exponent⟩ := exponent_step e follows expoAt
  have fraction := fraction_step f e follows fracAt
  have value : digitsValue doc i₀ (i₀ + (d :: ds).length) = Nat.ofDigitChars 10 (d :: ds) 0 :=
    digitsValue_run (by simpa using wholeAt)
  unfold scanNumber
  extract_lets sgn j jp1 jp0
  have sgnEq : sgn = neg := signed
  have jEq : j = i₀ := by
    simp only [j, sgnEq, i₀Def]
    cases neg <;> simp
  have inside : ¬ j ≥ doc.size := by
    have := lt_size_of_drop wholeAt
    omega
  have jp0Eq : jp0 () = jp1 (i₀ + (d :: ds).length) := by
    simp only [jp0, jEq]
    exact intEnd jp1
  simp only [if_neg inside, jp0Eq]
  simp only [jp1]
  rw [fraction]
  dsimp only
  rw [exponent]
  dsimp only
  simp only [jEq, sgnEq, value, Nat.add_sub_cancel_left]
  have stopEq : i₀ + (d :: ds).length + frac.length + expo.length = stop := by
    simp only [stop, i₀Def, List.length_append]
    cases neg <;> simp <;> omega
  rw [stopEq]
  constructor
  · rintro rfl rfl short
    have fits : ¬ (d :: ds).length > maxIntDigits := by omega
    rw [if_pos (by simp), if_neg fits]
    simp [pure, Except.pure]
  · intro real
    have notInt : (!(!frac.isEmpty || !expo.isEmpty)) = false := by
      rcases real with nonempty | nonempty <;> simp [List.isEmpty_iff, nonempty]
    simp only [notInt, Bool.false_eq_true, if_false, pure, Except.pure]
    exact ⟨_, rfl⟩

/-! ### Integers -/

theorem digits_toDigits (k : Nat) : Digits (Nat.toDigits 10 k) := fun c mem => by
  rw [isAsciiDigit_eq_isDigit]
  exact Nat.isDigit_of_mem_toDigits (by decide) (by decide) mem

/-- The decimal digits of a positive number do not start with `0`. -/
theorem toDigits_lead {k : Nat} (pos : 0 < k) :
    ∃ d ds, Nat.toDigits 10 k = d :: ds ∧ ('1' ≤ d && d ≤ '9') = true := by
  induction k using Nat.strongRecOn with
  | ind k ih =>
    rw [Nat.toDigits_eq_if (by decide)]
    split
    · rename_i small
      refine ⟨_, [], rfl, ?_⟩
      interval_cases k <;> decide
    · rename_i big
      obtain ⟨d, ds, split, lead⟩ := ih (k / 10) (by omega) (by omega)
      exact ⟨d, ds ++ [Nat.digitChar (k % 10)], by rw [split, List.cons_append], lead⟩

theorem wholePart_toDigits (k : Nat) : WholePart (Nat.toDigits 10 k) := by
  rcases Nat.eq_zero_or_pos k with rfl | pos
  · exact .inl (by decide)
  · obtain ⟨d, ds, split, lead⟩ := toDigits_lead pos
    refine .inr ⟨d, ds, split, lead, fun c mem => digits_toDigits k c ?_⟩
    rw [split]
    exact List.mem_cons_of_mem d mem

theorem intText_toList (n : Int) :
    (intText n).toList = (if n < 0 then ['-'] else []) ++ Nat.toDigits 10 n.natAbs := by
  unfold intText
  split <;> simp

/-- An integer as the writer writes it reads back as itself, when it has no more digits than the
reader takes. -/
theorem scanNumber_intText {doc : Array Char} {i : Nat} {rest : List Char} (n : Int)
    (short : decimalLength n.natAbs ≤ maxIntDigits)
    (at_ : doc.toList.drop i = (intText n).toList ++ rest) (follows : Follows rest) :
    scanNumber doc i = .ok (.int n, i + (intText n).toList.length) := by
  have parts := scanNumber_parts (decide (n < 0)) (wholePart_toDigits n.natAbs) (.inl rfl)
    (.inl rfl) (by simpa [intText_toList] using at_) follows
  have sameText : ((if decide (n < 0) then ['-'] else []) ++ Nat.toDigits 10 n.natAbs ++ [] ++ []) =
      (intText n).toList := by simp [intText_toList]
  rw [sameText] at parts
  rw [parts.1 rfl rfl (by rwa [length_toDigits_ten]), Nat.ofDigitChars_ten_toDigits]
  by_cases negative : n < 0
  · rw [if_pos (decide_eq_true negative), Int.ofNat_natAbs_of_nonpos (by omega), Int.neg_neg]
  · rw [if_neg (by simpa using negative), Int.natAbs_of_nonneg (by omega)]

/-! ### Doubles -/

theorem normalize_digits_pos (d : Decimal) (pos : 0 < d.digits) : 0 < d.normalize.digits := by
  fun_induction Decimal.normalize d with
  | case1 d stripped ih => exact ih (show 0 < d.digits / 10 by omega)
  | case2 d kept => exact pos

/-- Zero is never within the rounding interval of a positive double. -/
theorem inRoundingInterval_zero {m : Nat} (pos : 0 < m) (e : Int) (halved : Bool) (k : Int) :
    inRoundingInterval m e halved 0 k = false := by
  have below : cmpScaled 0 k (if halved then 4 * m - 1 else 4 * m - 2) (e - 2) = .lt := by
    unfold cmpScaled
    rw [Nat.zero_mul, Nat.zero_mul, compare_lt_iff_lt]
    have : 0 < (if halved then 4 * m - 1 else 4 * m - 2) := by split <;> omega
    exact Nat.mul_pos (Nat.mul_pos this (Nat.pow_pos (by decide)))
      (Nat.pow_pos (by decide))
  simp [inRoundingInterval, below]

theorem shortestFrom_digits_pos {m : Nat} (pos : 0 < m) (e : Int) (halved : Bool) (top : Int) :
    ∀ fuel n, 0 < (shortestFrom m e halved top fuel n).digits
  | 0, _ => pos
  | fuel + 1, n => by
    unfold shortestFrom
    extract_lets k num den lo hi
    have numPos : 0 < num := Nat.mul_pos (Nat.mul_pos pos (Nat.pow_pos (by decide)))
      (Nat.pow_pos (by decide))
    have denPos : 0 < den := Nat.mul_pos (Nat.pow_pos (by decide))
      (Nat.pow_pos (by decide))
    have loPos (okLo : inRoundingInterval m e halved lo k = true) : 0 < lo := by
      rcases Nat.eq_zero_or_pos lo with zero | lopos
      · rw [zero, inRoundingInterval_zero pos] at okLo
        cases okLo
      · exact lopos
    split
    · rename_i exact
      refine normalize_digits_pos _ (Nat.div_pos ?_ denPos)
      exact Nat.le_of_dvd numPos (Nat.dvd_of_mod_eq_zero (by simpa using exact))
    · split
      · rename_i both
        simp only [Bool.and_eq_true] at both
        split
        · exact normalize_digits_pos _ (loPos both.1)
        · split
          · exact normalize_digits_pos _ (Nat.succ_pos lo)
          · split
            · exact normalize_digits_pos _ (loPos both.1)
            · exact normalize_digits_pos _ (Nat.succ_pos lo)
      · split
        · exact normalize_digits_pos _ (loPos ‹_›)
        · split
          · exact normalize_digits_pos _ (Nat.succ_pos lo)
          · exact shortestFrom_digits_pos pos e halved top fuel (n + 1)

theorem shortest_digits_pos {m : Nat} (pos : 0 < m) (e : Int) (halved : Bool) :
    0 < (shortest m e halved).digits :=
  shortestFrom_digits_pos pos e halved _ 18 1

theorem digits_replicate_zero (z : Nat) : Digits (List.replicate z '0') := fun c mem => by
  rw [List.eq_of_mem_replicate mem]
  rfl

/-- A positional text of digits that do not start with `0` has an integer part and a fraction. -/
theorem positional_parts {c : Char} {cs : List Char} (lead : ('1' ≤ c && c ≤ '9') = true)
    (digits : Digits cs) (point : Int) :
    ∃ whole frac, (positional (c :: cs) point).toList = whole ++ frac ∧ WholePart whole ∧
      FracPart frac ∧ frac ≠ [] := by
  have cDigit : isAsciiDigit c = true := by
    revert lead
    simp only [isAsciiDigit, Bool.and_eq_true, decide_eq_true_eq]
    intro lead
    exact ⟨le_trans (by decide) lead.1, lead.2⟩
  have all : Digits (c :: cs) := fun x mem => by
    rcases List.mem_cons.mp mem with rfl | later
    · exact cDigit
    · exact digits x later
  unfold positional
  split
  · -- a point before the digits, with zeros in between
    refine ⟨['0'], '.' :: (List.replicate (-point).toNat '0' ++ c :: cs), by simp, .inl rfl,
      .inr ⟨_, rfl, by simp, ?_⟩, by simp⟩
    intro x mem
    rcases List.mem_append.mp mem with zero | digit
    · exact digits_replicate_zero _ x zero
    · exact all x digit
  · split
    · rename_i positive within
      obtain ⟨p, hp⟩ : ∃ p, point.toNat = p + 1 := ⟨point.toNat - 1, by omega⟩
      refine ⟨c :: cs.take p, '.' :: (c :: cs).drop (p + 1), by simp [hp], .inr ⟨c, cs.take p, rfl,
        lead, fun x mem => digits x (List.mem_of_mem_take mem)⟩,
        .inr ⟨_, rfl, ?_, fun x mem => all x (List.mem_of_mem_drop mem)⟩, by simp⟩
      rw [hp] at within
      simpa using within
    · refine ⟨c :: (cs ++ List.replicate (point.toNat - (c :: cs).length) '0'), ['.', '0'],
        by simp, .inr ⟨c, _, rfl, lead, ?_⟩, .inr ⟨['0'], rfl, by simp, digits_replicate_zero 1⟩, by simp⟩
      intro x mem
      rcases List.mem_append.mp mem with digit | zero
      · exact digits x digit
      · exact digits_replicate_zero _ x zero

/-- A scientific text of digits that do not start with `0` has a one-digit integer part, maybe a
fraction, and an exponent. -/
theorem scientific_parts {c : Char} {cs : List Char}
    (digits : Digits cs) (point : Int) :
    ∃ frac expo, (scientific (c :: cs) point).toList = [c] ++ frac ++ expo ∧
      FracPart frac ∧ ExpPart expo ∧ expo ≠ [] := by
  -- the exponent: its letter, its sign and at least two digits
  have expo : ExpPart ('e' :: (if point - 1 < 0 then '-' else '+') ::
      (if (digitChars (point - 1).natAbs).length < 2 then '0' :: digitChars (point - 1).natAbs
        else digitChars (point - 1).natAbs)) := by
    refine .inr ⟨_, _, rfl, by split <;> simp, by split <;> simp [digitChars, Nat.toDigits_ne_nil], ?_⟩
    split
    · intro x mem
      rcases List.mem_cons.mp mem with rfl | digit
      · rfl
      · exact digits_toDigits _ x digit
    · exact digits_toDigits _
  have signText : (if point - 1 < 0 then "-" else "+").toList =
      [if point - 1 < 0 then '-' else '+'] := by split <;> rfl
  cases cs with
  | nil =>
    refine ⟨[], _, ?_, .inl rfl, expo, by simp⟩
    simp only [scientific, String.toList_append, signText]
    simp
  | cons c' cs' =>
    refine ⟨'.' :: c' :: cs', _, ?_, .inr ⟨c' :: cs', rfl, by simp, digits⟩, expo, by simp⟩
    simp only [scientific, String.toList_append, signText]
    simp

/-- The text of a double: `NaN`, an infinity, or a number with a fraction or an exponent, whose
integer part does not start with a needless `0`. -/
theorem realText_cases (x : Float) :
    realStyle.render x = "NaN" ∨ (∃ neg : Bool, realStyle.render x = (if neg then "-" else "") ++ "Infinity") ∨
    ∃ (neg : Bool) (whole frac expo : List Char),
      (realStyle.render x).toList = (if neg then ['-'] else []) ++ whole ++ frac ++ expo ∧
      WholePart whole ∧ FracPart frac ∧ ExpPart expo ∧ (frac ≠ [] ∨ expo ≠ []) := by
  unfold FloatStyle.render
  split
  · exact .inl rfl
  · rename_i neg _
    exact .inr (.inl ⟨neg, rfl⟩)
  · rename_i neg m e _
    refine .inr (.inr ⟨neg, ?_⟩)
    by_cases zero : m = 0
    · refine ⟨['0'], ['.', '0'], [], ?_, .inl rfl, .inr ⟨['0'], rfl, by simp, digits_replicate_zero 1⟩,
        .inl rfl, .inl (by simp)⟩
      cases neg <;> simp [zero]
    · obtain ⟨c, cs, split, lead⟩ := toDigits_lead (shortest_digits_pos (Nat.pos_of_ne_zero zero) e
        (Binary64.lowerGapHalved x))
      have digits : Digits cs := fun y mem =>
        digits_toDigits _ y (by rw [split]; exact List.mem_cons_of_mem c mem)
      simp only [beq_iff_eq, zero, if_false, digitChars, split]
      split
      · obtain ⟨whole, frac, text, w, f, some_⟩ := positional_parts lead digits
          ((shortest m e (Binary64.lowerGapHalved x)).exp + (c :: cs).length)
        exact ⟨whole, frac, [], by cases neg <;> simpa using text, w, f, .inl rfl, .inl some_⟩
      · obtain ⟨frac, expo, text, f, ex, some_⟩ := scientific_parts digits
          ((shortest m e (Binary64.lowerGapHalved x)).exp + (c :: cs).length)
        exact ⟨[c], frac, expo, by cases neg <;> simpa using text, .inr ⟨c, [], rfl, lead, by simp [Digits]⟩,
          f, ex, .inr some_⟩

end GinSave.Json
