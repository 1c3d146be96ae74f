import GinSave.Json.Reader
import GinSave.Proofs.Number.Decimal

/-! Every integer a document holds has at most `maxIntDigits` digits. The reader reads an integer
only from a run of ASCII digits that it has counted, and refuses a run longer than that; every
other value it builds holds only values it read before. Main statement: `parse_short`. -/

namespace GinSave.Json

open GinSave.Number

/-- Every integer of a document has at most `maxIntDigits` decimal digits. -/
inductive Value.Short : Value → Prop
  | null : Value.Short .null
  | bool (b : Bool) : Value.Short (.bool b)
  | int {n : Int} (short : decimalLength n.natAbs ≤ maxIntDigits) : Value.Short (.int n)
  | real (x : Float) : Value.Short (.real x)
  | str (s : String) : Value.Short (.str s)
  | arr {items : List Value} (each : ∀ v ∈ items, Value.Short v) : Value.Short (.arr items)
  | obj {members : List (String × Value)} (each : ∀ m ∈ members, Value.Short m.2) :
      Value.Short (.obj members)

/-! ### Runs of digits -/

/-- Every position that `skipDigits` passes over holds an ASCII digit. -/
theorem skipDigits_digit {doc : Array Char} {i k : Nat} (from_ : i ≤ k)
    (before : k < skipDigits doc i) : ∃ c, doc[k]? = some c ∧ isAsciiDigit c = true := by
  fun_induction skipDigits doc i with
  | case1 i inside digit ih =>
    rcases Nat.eq_or_lt_of_le from_ with rfl | later
    · obtain ⟨c, at_, isDigit⟩ := (Option.any_eq_true _ _).mp digit
      exact ⟨c, at_, isDigit⟩
    · exact ih later before
  | case2 => omega
  | case3 => omega

theorem foldl_digits_lt :
    ∀ (cs : List Char) (acc : Nat), (∀ c ∈ cs, isAsciiDigit c = true) →
      cs.foldl (fun acc c => 10 * acc + (c.toNat - 48)) acc < (acc + 1) * 10 ^ cs.length
  | [], acc, _ => by simp
  | c :: cs, acc, digits => by
    have digit := digitValue_lt (digits c List.mem_cons_self)
    have rest := foldl_digits_lt cs (10 * acc + (c.toNat - 48))
      (fun d mem => digits d (List.mem_cons_of_mem c mem))
    calc (c :: cs).foldl (fun acc c => 10 * acc + (c.toNat - 48)) acc
        < (10 * acc + (c.toNat - 48) + 1) * 10 ^ cs.length := rest
      _ ≤ (10 * (acc + 1)) * 10 ^ cs.length := Nat.mul_le_mul_right _ (by omega)
      _ = (acc + 1) * 10 ^ (c :: cs).length := by
        rw [List.length_cons, Nat.pow_succ]
        ac_rfl

/-- The value of a run of ASCII digits is below ten to its length. -/
theorem digitsValue_lt {doc : Array Char} {i j : Nat}
    (digits : ∀ k, i ≤ k → k < j → ∀ c, doc[k]? = some c → isAsciiDigit c = true) :
    digitsValue doc i j < 10 ^ (j - i) := by
  have each : ∀ c ∈ (doc.extract i j).toList, isAsciiDigit c = true := by
    intro c mem
    obtain ⟨k, within, at_⟩ := Array.mem_extract_iff_getElem.mp (Array.mem_toList_iff.mp mem)
    exact digits (i + k) (by omega) (by omega) c (by simp [← at_])
  have bound := foldl_digits_lt _ 0 each
  have size : (doc.extract i j).size ≤ j - i := Array.size_extract_le
  unfold digitsValue
  rw [← Array.foldl_toList]
  calc _ < (0 + 1) * 10 ^ (doc.extract i j).toList.length := bound
    _ ≤ 10 ^ (j - i) := by
      rw [Nat.zero_add, Nat.one_mul, Array.length_toList]
      exact Nat.pow_le_pow_right (by decide) size

/-- A number read as an integer has at most `maxIntDigits` digits. -/
theorem scanNumber_short {doc : Array Char} {start stop : Nat} {v : Value}
    (scanned : scanNumber doc start = .ok (v, stop)) : v.Short := by
  unfold scanNumber at scanned
  extract_lets neg i rest outer at scanned
  -- what follows the integer part yields an integer only from a counted run of digits
  have tail : ∀ intEnd, (∀ k, i ≤ k → k < intEnd → ∀ c, doc[k]? = some c → isAsciiDigit c = true) →
      rest intEnd = .ok (v, stop) → v.Short := by
    intro intEnd digits read
    unfold rest at read
    split at read
    split at read
    split at read
    · by_cases tooLong : maxIntDigits < intEnd - i
      · simp [tooLong, throw, throwThe, MonadExceptOf.throw, bind, Except.bind] at read
      · have small : digitsValue doc i intEnd < 10 ^ maxIntDigits :=
          Nat.lt_of_lt_of_le (digitsValue_lt digits) (Nat.pow_le_pow_right (by decide) (by omega))
        have bound := decimalLength_le_of_lt_pow small (by decide)
        simp only [gt_iff_lt, tooLong, if_false, pure, Except.pure, Except.ok.injEq, Prod.mk.injEq]
          at read
        rw [← read.1]
        exact .int (by split <;> simpa using bound)
    · simp only [pure, Except.pure, Except.ok.injEq, Prod.mk.injEq] at read
      rw [← read.1]
      exact .real _
  split at scanned
  · cases scanned
  simp only [outer] at scanned
  split at scanned
  · rename_i lead
    obtain ⟨c, at_, first⟩ := (Option.any_eq_true _ _).mp lead
    refine tail _ (fun k low high d atK => ?_) scanned
    rcases Nat.eq_or_lt_of_le low with rfl | later
    · have same : c = d := Option.some.inj (at_.symm.trans atK)
      subst same
      simp only [Bool.and_eq_true, decide_eq_true_eq, Char.le_def, UInt32.le_iff_toNat_le] at first
      simp only [isAsciiDigit, Bool.and_eq_true, decide_eq_true_eq, Char.le_def, UInt32.le_iff_toNat_le]
      have : ('1' : Char).val.toNat = 49 := rfl
      have : ('0' : Char).val.toNat = 48 := rfl
      omega
    · obtain ⟨d', atK', digit⟩ := skipDigits_digit later high
      rw [atK] at atK'
      cases atK'
      exact digit
  · split at scanned
    · rename_i zero
      refine tail _ (fun k low high d atK => ?_) scanned
      have same : k = i := by omega
      subst same
      have : d = '0' := by simpa [charAt, atK] using zero
      subst this
      decide
    · simp [throw, throwThe, MonadExceptOf.throw, bind, Except.bind] at scanned
/-! ### Documents -/

theorem addMember_short {members : List (String × Value)} {k : String} {v : Value}
    (each : ∀ m ∈ members, m.2.Short) (short : v.Short) : ∀ m ∈ addMember members k v, m.2.Short := by
  intro m mem
  unfold addMember at mem
  split at mem
  · obtain ⟨⟨k', v'⟩, inMembers, rfl⟩ := List.mem_map.mp mem
    by_cases same : (k' == k) = true
    · simpa [same] using short
    · simpa [same] using each _ inMembers
  · rcases List.mem_append.mp mem with inMembers | added
    · exact each m inMembers
    · rw [List.mem_singleton.mp added]
      exact short

/-- What each reading function yields holds short integers only. By induction on the nesting
fuel: a value reads its arrays and objects one level down, and their items and members read
their values one level down. -/
theorem scan_short (doc : Array Char) : ∀ fuel : Nat,
    (∀ i v j, scanValue doc fuel i = .ok (v, j) → v.Short) ∧
    (∀ i v j, scanArray doc fuel i = .ok (v, j) → v.Short) ∧
    (∀ i acc items j, (∀ v ∈ acc, v.Short) → scanItems doc fuel i acc = .ok (items, j) →
      ∀ v ∈ items, v.Short) ∧
    (∀ i v j, scanObject doc fuel i = .ok (v, j) → v.Short) ∧
    (∀ i acc members j, (∀ m ∈ acc, m.2.Short) → scanMembers doc fuel i acc = .ok (members, j) →
      ∀ m ∈ members, m.2.Short)
  | 0 => by
    refine ⟨?_, ?_, ?_, ?_, ?_⟩ <;> intros <;> simp_all [scanValue, scanArray, scanItems, scanObject, scanMembers]
  | fuel + 1 => by
    obtain ⟨value, array, items, object, members⟩ := scan_short doc fuel
    refine ⟨?_, ?_, ?_, ?_, ?_⟩
    · intro i v j read
      unfold scanValue at read
      split at read
      · cases read
      · cases text : scanText doc i (i + 1) [] with
        | error e => simp [text, Except.map] at read
        | ok r =>
          simp only [text, Except.map, Except.ok.injEq] at read
          cases read
          exact .str _
      · exact object _ _ _ read
      · exact array _ _ _ read
      · split at read
        · cases read; exact .null
        split at read
        · cases read; exact .bool _
        split at read
        · cases read; exact .bool _
        split at read
        · cases read; exact .real _
        split at read
        · cases read; exact .real _
        split at read
        · cases read; exact .real _
        exact scanNumber_short read
    · intro i v j read
      unfold scanArray at read
      split at read
      · cases read
        exact .arr (by simp)
      · cases scanned : scanItems doc fuel i [] with
        | error e => simp [scanned, Except.map] at read
        | ok r =>
          simp only [scanned, Except.map, Except.ok.injEq] at read
          cases read
          exact .arr (items i [] r.1 r.2 (by simp) scanned)
    · intro i acc found j before read
      unfold scanItems at read
      split at read
      · cases read
      · rename_i v next scanned
        have short := value i v next scanned
        have more : ∀ w ∈ v :: acc, w.Short := by
          intro w mem
          rcases List.mem_cons.mp mem with rfl | inAcc
          · exact short
          · exact before w inAcc
        extract_lets after at read
        split at read
        · cases read
          exact fun w mem => more w (List.mem_reverse.mp mem)
        split at read
        · exact items _ _ found j more read
        · cases read
    · intro i v j read
      unfold scanObject at read
      split at read
      · cases read
        exact .obj (by simp)
      · cases scanned : scanMembers doc fuel i [] with
        | error e => simp [scanned, Except.map] at read
        | ok r =>
          simp only [scanned, Except.map, Except.ok.injEq] at read
          cases read
          exact .obj (members i [] r.1 r.2 (by simp) scanned)
    · intro i acc found j before read
      unfold scanMembers at read
      split at read
      · cases read
      split at read
      · cases read
      extract_lets colon at read
      split at read
      · cases read
      split at read
      · cases read
      rename_i v next scanned
      extract_lets added after at read
      have more : ∀ m ∈ added, m.2.Short := addMember_short before (value _ v next scanned)
      split at read
      · simp only [Except.ok.injEq, Prod.mk.injEq] at read
        rw [← read.1]
        exact more
      split at read
      · exact members _ _ found j more read
      · cases read

/-- Every integer of a document read from a text has at most `maxIntDigits` digits. -/
theorem parse_short {s : String} {v : Value} (read : parse s = .ok v) : v.Short := by
  unfold parse at read
  extract_lets doc at read
  split at read
  · cases read
  · cases scanned : scanValue doc (4 * doc.size + 4) (skipSpace doc 0) with
    | error e => simp [scanned, bind, Except.bind] at read
    | ok r =>
      have short := (scan_short doc _).1 _ r.1 r.2 scanned
      simp only [scanned, bind, Except.bind] at read
      split at read
      · simp [throw, throwThe, MonadExceptOf.throw] at read
      · simp only [pure, Except.pure, Except.ok.injEq] at read
        rw [← read]
        exact short

end GinSave.Json
