import GinSave.Proofs.Json.ReadNumber

/-! Every document the writer writes reads back. The reader, given the text of a value whose
integers it accepts, with or without line breaks, reads a value of the same shape: the same
nulls, booleans, integers and texts in the same places, some double for each double, and the
members of each object in order, merged by name as the reader merges them. The proof follows
the value: one case for each kind of value, and for arrays and objects one induction over the
items or members, the reader's fuel staying above twice the length of the text still to read.
Main statement: `parse_render`. -/

namespace GinSave.Json

open GinSave.Number GinSave.Text

/-! ### Words -/

theorem spells_of_drop {doc : Array Char} {i : Nat} {word : String} {rest : List Char}
    (at_ : doc.toList.drop i = word.toList ++ rest) : spells doc i word = true := by
  unfold spells
  rw [Array.toList_extract, List.extract_eq_take_drop, at_, Nat.add_sub_cancel_left,
    ← String.length_toList, List.take_left]
  simp

/-- A word the reader knows, written at a position and followed by anything, leaves the position
inside the text up to its last letter. -/
theorem lt_size_of_word {doc : Array Char} {i : Nat} {word : List Char} {rest : List Char}
    (at_ : doc.toList.drop i = word ++ rest) (k : Nat) (within : k < word.length) : i + k < doc.size := by
  have := congrArg List.length at_
  simp only [List.length_drop, Array.length_toList, List.length_append] at this
  omega

/-- Reading a word at a position where a different text stands. -/
theorem spells_eq_false {doc : Array Char} {i : Nat} {word : String} {pre : List Char} {c d : Char}
    {rest : List Char} (at_ : doc.toList.drop i = pre ++ c :: rest)
    (differs : word.toList[pre.length]? = some d) (other : c ≠ d) : spells doc i word = false := by
  unfold spells
  rw [Array.toList_extract, List.extract_eq_take_drop, at_, Nat.add_sub_cancel_left]
  rw [beq_eq_false_iff_ne]
  intro same
  have within : pre.length < word.length := by
    rw [← String.length_toList]
    exact (List.getElem?_eq_some_iff.mp differs).1
  have atPre := congrArg (·[pre.length]?) same
  simp only [List.getElem?_take, within, if_true, List.getElem?_append_right (Nat.le_refl _),
    Nat.sub_self, List.getElem?_cons_zero, differs, Option.some.injEq] at atPre
  exact other atPre

/-! ### Single values -/

section single

variable {doc : Array Char} {i : Nat} {rest : List Char} (fuel : Nat)

theorem scanValue_null (at_ : doc.toList.drop i = "null".toList ++ rest) :
    scanValue doc (fuel + 1) i = .ok (.null, i + 4) := by
  have inside := lt_size_of_word at_ 3 (by decide)
  rw [scanValue, charAt_of_drop (by simpa using at_)]
  simp [spells_of_drop at_, inside]

theorem scanValue_true (at_ : doc.toList.drop i = "true".toList ++ rest) :
    scanValue doc (fuel + 1) i = .ok (.bool true, i + 4) := by
  have inside := lt_size_of_word at_ 3 (by decide)
  rw [scanValue, charAt_of_drop (by simpa using at_)]
  simp [spells_of_drop at_, inside]

theorem scanValue_false (at_ : doc.toList.drop i = "false".toList ++ rest) :
    scanValue doc (fuel + 1) i = .ok (.bool false, i + 5) := by
  have inside := lt_size_of_word at_ 4 (by decide)
  rw [scanValue, charAt_of_drop (by simpa using at_)]
  simp [spells_of_drop at_, inside]

theorem scanValue_nan (at_ : doc.toList.drop i = "NaN".toList ++ rest) :
    ∃ y, scanValue doc (fuel + 1) i = .ok (.real y, i + 3) := by
  have inside := lt_size_of_word at_ 2 (by decide)
  rw [scanValue, charAt_of_drop (by simpa using at_)]
  simp [spells_of_drop at_, inside]

theorem scanValue_infinity (at_ : doc.toList.drop i = "Infinity".toList ++ rest) :
    ∃ y, scanValue doc (fuel + 1) i = .ok (.real y, i + 8) := by
  have inside := lt_size_of_word at_ 7 (by decide)
  rw [scanValue, charAt_of_drop (by simpa using at_)]
  simp [spells_of_drop at_, inside]

theorem scanValue_negInfinity (at_ : doc.toList.drop i = "-Infinity".toList ++ rest) :
    ∃ y, scanValue doc (fuel + 1) i = .ok (.real y, i + 9) := by
  have inside := lt_size_of_word at_ 8 (by decide)
  rw [scanValue, charAt_of_drop (by simpa using at_)]
  simp [spells_of_drop at_, inside]

/-- A number starts with a digit, or with a minus and a digit: the reader takes it as a number. -/
theorem scanValue_number {c : Char} {cs : List Char} (at_ : doc.toList.drop i = c :: cs)
    (lead : isAsciiDigit c = true ∨ c = '-' ∧ ∃ d ds, cs = d :: ds ∧ isAsciiDigit d = true) :
    scanValue doc (fuel + 1) i = scanNumber doc i := by
  have other : c ≠ '"' ∧ c ≠ '\x7b' ∧ c ≠ '[' ∧ c ≠ 'n' ∧ c ≠ 't' ∧ c ≠ 'f' ∧ c ≠ 'N' ∧ c ≠ 'I' := by
    rcases lead with digit | ⟨rfl, -⟩
    · refine ⟨?_, ?_, ?_, ?_, ?_, ?_, ?_, ?_⟩ <;> (rintro rfl; revert digit; decide)
    · decide
  have notWord : c = '-' → spells doc i "-Infinity" = false := by
    rintro rfl
    obtain ⟨d, ds, rfl, digit⟩ := lead.resolve_left (by decide) |>.2
    refine spells_eq_false (c := d) (d := 'I')
      (show doc.toList.drop i = ['-'] ++ d :: ds by simpa using at_) rfl ?_
    rintro rfl
    revert digit
    decide
  rw [scanValue, charAt_of_drop at_]
  split
  · rename_i found
    cases found
  · rename_i found
    cases found
    exact absurd rfl other.1
  · rename_i found
    cases found
    exact absurd rfl other.2.1
  · rename_i found
    cases found
    exact absurd rfl other.2.2.1
  · rename_i c' _ _ _ found
    cases found
    by_cases minus : c = '-'
    · simp [other, notWord minus]
    · simp [other, minus]

theorem scanValue_str (s : String) (at_ : doc.toList.drop i = (quoteText s).toList ++ rest) :
    scanValue doc (fuel + 1) i = .ok (.str s, i + (quoteText s).toList.length) := by
  have quoted : charAt doc i = some '"' := charAt_of_drop (by simpa [quoteText_toList] using at_)
  rw [scanValue, quoted]
  simp [scanText_quoteText s at_, Except.map]

/-- The first character of a number: a digit, or a minus before a digit. -/
theorem number_lead (neg : Bool) {whole : List Char} (w : WholePart whole) (after : List Char) :
    ∃ c cs, (if neg then ['-'] else []) ++ whole ++ after = c :: cs ∧
      (isAsciiDigit c = true ∨ c = '-' ∧ ∃ d ds, cs = d :: ds ∧ isAsciiDigit d = true) := by
  obtain ⟨d, ds, rfl, digit⟩ : ∃ d ds, whole = d :: ds ∧ isAsciiDigit d = true := by
    rcases w with rfl | ⟨d, ds, rfl, nonzero, -⟩
    · exact ⟨'0', [], rfl, rfl⟩
    · refine ⟨d, ds, rfl, ?_⟩
      revert nonzero
      simp only [isAsciiDigit, Bool.and_eq_true, decide_eq_true_eq]
      exact fun lead => ⟨le_trans (by decide) lead.1, lead.2⟩
  cases neg
  · exact ⟨d, ds ++ after, rfl, .inl digit⟩
  · exact ⟨'-', d :: (ds ++ after), rfl, .inr ⟨rfl, d, ds ++ after, rfl, digit⟩⟩

theorem scanValue_int (n : Int) (short : decimalLength n.natAbs ≤ maxIntDigits)
    (at_ : doc.toList.drop i = (intText n).toList ++ rest) (follows : Follows rest) :
    scanValue doc (fuel + 1) i = .ok (.int n, i + (intText n).toList.length) := by
  obtain ⟨c, cs, split, lead⟩ := number_lead (decide (n < 0))
    (wholePart_toDigits n.natAbs) rest
  rw [scanValue_number _ (by rw [at_, intText_toList, ← split]; simp) lead]
  exact scanNumber_intText n short at_ follows

theorem scanValue_real (x : Float) (at_ : doc.toList.drop i = (realStyle.render x).toList ++ rest)
    (follows : Follows rest) :
    ∃ y, scanValue doc (fuel + 1) i = .ok (.real y, i + (realStyle.render x).toList.length) := by
  rcases realText_cases x with nan | ⟨neg, infinite⟩ | ⟨neg, whole, frac, expo, text, w, f, e, real⟩
  · rw [nan] at at_ ⊢
    exact scanValue_nan _ at_
  · rw [infinite] at at_ ⊢
    cases neg
    · exact scanValue_infinity _ (by simpa using at_)
    · exact scanValue_negInfinity _ (by simpa using at_)
  · obtain ⟨c, cs, split, lead⟩ := number_lead neg w (frac ++ expo ++ rest)
    have numberAt : doc.toList.drop i = (if neg then ['-'] else []) ++ whole ++ frac ++ expo ++ rest := by
      rw [at_, text]
    rw [scanValue_number _ (by rw [numberAt, ← split]; simp) lead, text]
    exact (scanNumber_parts neg w f e numberAt follows).2 real

end single

/-! ### Documents -/

/-- Members merged as the reader merges them: a repeated name keeps its first place and takes the
last value given for it. -/
def mergeMembers (members : List (String × Value)) : List (String × Value) :=
  members.foldl (fun acc m => addMember acc m.1 m.2) []

mutual
/-- `ReadBack v r`: the text of `v` reads back as `r`. A double reads back as some double, as the
reader rounds the digits it reads; the members of an object read back in order, those that share a
name merged as the reader merges them; every other value reads back as itself. -/
inductive ReadBack : Value → Value → Prop
  | null : ReadBack .null .null
  | bool (b : Bool) : ReadBack (.bool b) (.bool b)
  | int (n : Int) : ReadBack (.int n) (.int n)
  | real (x y : Float) : ReadBack (.real x) (.real y)
  | str (s : String) : ReadBack (.str s) (.str s)
  | arr {items read : List Value} : ItemsReadBack items read → ReadBack (.arr items) (.arr read)
  | obj {members read : List (String × Value)} : MembersReadBack members read →
      ReadBack (.obj members) (.obj (mergeMembers read))

/-- Items read back one by one. -/
inductive ItemsReadBack : List Value → List Value → Prop
  | nil : ItemsReadBack [] []
  | cons {v r : Value} {vs rs : List Value} : ReadBack v r → ItemsReadBack vs rs →
      ItemsReadBack (v :: vs) (r :: rs)

/-- Members read back one by one, each under its own name. -/
inductive MembersReadBack : List (String × Value) → List (String × Value) → Prop
  | nil : MembersReadBack [] []
  | cons (k : String) {v r : Value} {ms rs : List (String × Value)} : ReadBack v r →
      MembersReadBack ms rs → MembersReadBack ((k, v) :: ms) ((k, r) :: rs)
end

/-- The items of an array as written after the line break of the first. -/
def itemsText (indent : Option Nat) (depth : Nat) : List Value → String
  | [] => ""
  | [v] => v.render indent depth
  | v :: rest => v.render indent depth ++ "," ++ (if indent.isSome then "" else " ") ++
      Value.renderItems indent depth rest

/-- The members of an object as written after the line break of the first. -/
def membersText (indent : Option Nat) (depth : Nat) : List (String × Value) → String
  | [] => ""
  | [(k, v)] => quoteText k ++ ": " ++ v.render indent depth
  | (k, v) :: rest => quoteText k ++ ": " ++ v.render indent depth ++ "," ++
      (if indent.isSome then "" else " ") ++ Value.renderMembers indent depth rest

theorem renderItems_cons (indent : Option Nat) (depth : Nat) (v : Value) (rest : List Value) :
    Value.renderItems indent depth (v :: rest) =
      Value.opening indent depth ++ itemsText indent depth (v :: rest) := by
  cases rest <;> simp [Value.renderItems, itemsText, String.append_assoc]

theorem renderMembers_cons (indent : Option Nat) (depth : Nat) (m : String × Value)
    (rest : List (String × Value)) :
    Value.renderMembers indent depth (m :: rest) =
      Value.opening indent depth ++ membersText indent depth (m :: rest) := by
  obtain ⟨k, v⟩ := m
  cases rest <;> simp [Value.renderMembers, membersText, String.append_assoc]

theorem opening_blank (indent : Option Nat) (depth : Nat) :
    ∀ c ∈ (Value.opening indent depth).toList, isSpace c = true := by
  intro c mem
  cases indent with
  | none => simp [Value.opening] at mem
  | some w =>
    simp only [Value.opening, String.toList_append, String.toList_ofList, List.mem_append,
      List.mem_replicate] at mem
    rcases mem with newline | ⟨-, rfl⟩
    · simp at newline
      rw [newline]
      rfl
    · rfl

theorem separator_blank (indent : Option Nat) :
    ∀ c ∈ (if indent.isSome then "" else " ").toList, isSpace c = true := by
  intro c mem
  split at mem
  · simp at mem
  · have single : " ".toList = [' '] := rfl
    rw [single, List.mem_singleton] at mem
    rw [mem]
    rfl

/-- A digit or a minus is no blank, closes nothing and is no byte order mark. -/
theorem number_head {c : Char} (lead : isAsciiDigit c = true ∨ c = '-') :
    isSpace c = false ∧ c ≠ ']' ∧ c ≠ '\x7d' ∧ c ≠ '\uFEFF' := by
  rcases lead with digit | rfl
  · refine ⟨?_, ?_, ?_, ?_⟩
    · rw [Bool.eq_false_iff]
      intro blank
      simp only [isSpace, Bool.or_eq_true, beq_iff_eq] at blank
      rcases blank with ((rfl | rfl) | rfl) | rfl <;> revert digit <;> decide
    all_goals
      rintro rfl
      revert digit
      decide
  · decide

/-- A written value starts with a character that is no blank, closes nothing and is no byte order
mark. -/
theorem render_head (indent : Option Nat) (depth : Nat) (v : Value) :
    ∃ c cs, (v.render indent depth).toList = c :: cs ∧ isSpace c = false ∧ c ≠ ']' ∧ c ≠ '\x7d' ∧
      c ≠ '\uFEFF' := by
  cases v with
  | null => exact ⟨'n', ['u', 'l', 'l'], by simp [Value.render], by decide, by decide, by decide, by decide⟩
  | bool b =>
    cases b
    · exact ⟨'f', ['a', 'l', 's', 'e'], by simp [Value.render], by decide, by decide, by decide, by decide⟩
    · exact ⟨'t', ['r', 'u', 'e'], by simp [Value.render], by decide, by decide, by decide, by decide⟩
  | int n =>
    obtain ⟨c, cs, split, lead⟩ := number_lead (decide (n < 0)) (wholePart_toDigits n.natAbs) []
    refine ⟨c, cs, ?_, number_head (lead.imp id (·.1))⟩
    rw [Value.render, intText_toList, ← split]
    simp
  | real x =>
    rcases realText_cases x with nan | ⟨neg, infinite⟩ | ⟨neg, whole, frac, expo, text, w, -, -, -⟩
    · exact ⟨'N', ['a', 'N'], by simp [Value.render, nan], by decide, by decide, by decide, by decide⟩
    · cases neg
      · exact ⟨'I', "nfinity".toList, by simp [Value.render, infinite], by decide, by decide, by decide, by decide⟩
      · exact ⟨'-', "Infinity".toList, by simp [Value.render, infinite], by decide, by decide,
          by decide, by decide⟩
    · obtain ⟨c, cs, split, lead⟩ := number_lead neg w (frac ++ expo)
      refine ⟨c, cs, ?_, number_head (lead.imp id (·.1))⟩
      rw [Value.render, text, ← split]
      simp
  | str s => exact ⟨'"', _, by rw [Value.render, quoteText_toList, List.cons_append], by decide,
      by decide, by decide⟩
  | arr items =>
    cases items with
    | nil => exact ⟨'[', [']'], by simp [Value.render], by decide, by decide, by decide, by decide⟩
    | cons v rest =>
      exact ⟨'[', (Value.renderItems indent (depth + 1) (v :: rest)).toList ++
        (Value.closing indent depth "]").toList, by simp [Value.render], by decide, by decide, by decide, by decide⟩
  | obj members =>
    cases members with
    | nil => exact ⟨'\x7b', ['\x7d'], by simp [Value.render], by decide, by decide, by decide, by decide⟩
    | cons m rest =>
      exact ⟨'\x7b', (Value.renderMembers indent (depth + 1) (m :: rest)).toList ++
        (Value.closing indent depth "\x7d").toList, by simp [Value.render], by decide, by decide, by decide, by decide⟩

theorem follows_close {blanks more : List Char} (blank : ∀ b ∈ blanks, isSpace b = true)
    (close : Char) (closing : close = ']' ∨ close = '\x7d') : Follows (blanks ++ close :: more) := by
  intro c mem
  cases blanks with
  | nil =>
    simp only [List.nil_append, List.head?_cons, Option.mem_def, Option.some.injEq] at mem
    subst mem
    rcases closing with rfl | rfl <;> rfl
  | cons b bs =>
    simp only [List.cons_append, List.head?_cons, Option.mem_def, Option.some.injEq] at mem
    subst mem
    simp [IsFollower, blank _ List.mem_cons_self]

theorem itemsText_cons (indent : Option Nat) (depth : Nat) (w : Value) (ws : List Value) :
    ∃ tail, (itemsText indent depth (w :: ws)).toList = (w.render indent depth).toList ++ tail := by
  cases ws <;> simp [itemsText]

theorem membersText_cons_of_ne (indent : Option Nat) (depth : Nat) (k : String) (v : Value)
    {ms : List (String × Value)} (more : ms ≠ []) :
    membersText indent depth ((k, v) :: ms) = quoteText k ++ ": " ++ v.render indent depth ++ "," ++
      (if indent.isSome then "" else " ") ++ Value.opening indent depth ++ membersText indent depth ms := by
  obtain ⟨m, ms, rfl⟩ := List.exists_cons_of_ne_nil more
  simp [membersText, renderMembers_cons, String.append_assoc]

/-- Written members start with the quote of the first name. -/
theorem membersText_quote (indent : Option Nat) (depth : Nat) {ms : List (String × Value)}
    (nonempty : ms ≠ []) : ∃ tail, (membersText indent depth ms).toList = '"' :: tail := by
  obtain ⟨⟨k, v⟩, ms, rfl⟩ := List.exists_cons_of_ne_nil nonempty
  cases ms <;> simp [membersText, quoteText_toList]

/-- Blanks that all are blanks. -/
theorem blanks_append {xs ys : List Char} (left : ∀ c ∈ xs, isSpace c = true)
    (right : ∀ c ∈ ys, isSpace c = true) : ∀ c ∈ xs ++ ys, isSpace c = true := by
  intro c mem
  rcases List.mem_append.mp mem with inLeft | inRight
  · exact left c inLeft
  · exact right c inRight

theorem follows_comma (more : List Char) : Follows (',' :: more) := by
  intro c mem
  simp only [List.head?_cons, Option.mem_def, Option.some.injEq] at mem
  subst mem
  rfl

/-! ### Reading written documents -/

/-- A member written as the writer writes it, its name, a colon and a blank before its value, is
read up to its value; what follows depends on the character after the value. -/
theorem scanMembers_member {doc : Array Char} {p h j : Nat} {acc : List (String × Value)}
    {k : String} {r : Value} {c : Char} {cs : List Char} (notBlank : isSpace c = false)
    (at_ : doc.toList.drop p = (quoteText k).toList ++ ':' :: ' ' :: c :: cs)
    (scanned : scanValue doc h (p + (quoteText k).toList.length + 2) = .ok (r, j)) :
    scanMembers doc (h + 1) p acc =
      if charAt doc (skipSpace doc j) == some '\x7d' then .ok (addMember acc k r, skipSpace doc j + 1)
      else if charAt doc (skipSpace doc j) == some ',' then
        scanMembers doc h (skipSpace doc (skipSpace doc j + 1)) (addMember acc k r)
      else .error (.grammar "Expecting ',' delimiter" (skipSpace doc j)) := by
  have quoted : charAt doc p = some '"' := charAt_of_drop (by simpa [quoteText_toList] using at_)
  have colonAt := drop_after at_
  have skipKey : skipSpace doc (p + (quoteText k).toList.length) = p + (quoteText k).toList.length := by
    simpa using skipSpace_blanks (c := ':') (by decide) [] _ (by simp) colonAt
  have skipColon : skipSpace doc (p + (quoteText k).toList.length + 1) =
      p + (quoteText k).toList.length + 2 := by
    simpa using skipSpace_blanks notBlank [' '] _ (by simp [isSpace]) (drop_succ_of_drop colonAt)
  rw [scanMembers]
  simp [quoted, scanText_quoteText k at_, skipKey, charAt_of_drop colonAt, skipColon, scanned]

mutual
/-- A written value reads back, and the reader stops right after it, when what follows may follow
a value and the fuel is more than twice its length. By induction on the value. -/
theorem scanValue_render (indent : Option Nat) : ∀ (v : Value) (depth : Nat), v.Short →
    ∀ {doc : Array Char} {i fuel : Nat} {rest : List Char},
      doc.toList.drop i = (v.render indent depth).toList ++ rest → Follows rest →
      2 * (v.render indent depth).toList.length + 1 ≤ fuel →
      ∃ r, ReadBack v r ∧ scanValue doc fuel i = .ok (r, i + (v.render indent depth).toList.length)
  | .null, depth, _, doc, i, fuel, rest, at_, _, enough => by
    obtain ⟨f, rfl⟩ : ∃ f, fuel = f + 1 := ⟨fuel - 1, by omega⟩
    have read := scanValue_null f (by simpa [Value.render] using at_)
    exact ⟨_, .null, by simpa [Value.render] using read⟩
  | .bool b, depth, _, doc, i, fuel, rest, at_, _, enough => by
    obtain ⟨f, rfl⟩ : ∃ f, fuel = f + 1 := ⟨fuel - 1, by omega⟩
    cases b
    · have read := scanValue_false f (by simpa [Value.render] using at_)
      exact ⟨_, .bool false, by simpa [Value.render] using read⟩
    · have read := scanValue_true f (by simpa [Value.render] using at_)
      exact ⟨_, .bool true, by simpa [Value.render] using read⟩
  | .int n, depth, short, doc, i, fuel, rest, at_, follows, enough => by
    obtain ⟨f, rfl⟩ : ∃ f, fuel = f + 1 := ⟨fuel - 1, by omega⟩
    cases short with
    | int bound =>
      exact ⟨_, .int n, scanValue_int f n bound (by simpa [Value.render] using at_) follows⟩
  | .real x, depth, _, doc, i, fuel, rest, at_, follows, enough => by
    obtain ⟨f, rfl⟩ : ∃ f, fuel = f + 1 := ⟨fuel - 1, by omega⟩
    obtain ⟨y, read⟩ := scanValue_real f x (by simpa [Value.render] using at_) follows
    exact ⟨_, .real x y, by simpa [Value.render] using read⟩
  | .str s, depth, _, doc, i, fuel, rest, at_, follows, enough => by
    obtain ⟨f, rfl⟩ : ∃ f, fuel = f + 1 := ⟨fuel - 1, by omega⟩
    exact ⟨_, .str s, scanValue_str f s (by simpa [Value.render] using at_)⟩
  | .arr [], depth, _, doc, i, fuel, rest, at_, follows, enough => by
    have text : ((Value.arr []).render indent depth).toList = ['[', ']'] := by simp [Value.render]
    rw [text] at at_ enough ⊢
    obtain ⟨f, rfl⟩ : ∃ f, fuel = f + 1 + 1 := ⟨fuel - 2, by simp at enough; omega⟩
    have closeAt : doc.toList.drop (i + 1) = ']' :: rest := drop_succ_of_drop (by simpa using at_)
    have skip : skipSpace doc (i + 1) = i + 1 := skipSpace_blanks (by decide) [] _ (by simp) closeAt
    refine ⟨_, .arr .nil, ?_⟩
    rw [scanValue, charAt_of_drop (by simpa using at_)]
    simp [skip, scanArray, charAt_of_drop closeAt]
  | .arr (v :: vs), depth, short, doc, i, fuel, rest, at_, _, enough => by
    have each : ∀ x ∈ v :: vs, x.Short := by
      cases short with
      | arr each => exact each
    have text : ((Value.arr (v :: vs)).render indent depth).toList =
        '[' :: ((Value.opening indent (depth + 1)).toList ++ (itemsText indent (depth + 1) (v :: vs)).toList ++
          (Value.opening indent depth).toList ++ [']']) := by
      simp [Value.render, renderItems_cons, Value.closing]
    rw [text] at at_ enough ⊢
    obtain ⟨f, rfl⟩ : ∃ f, fuel = f + 1 + 1 := ⟨fuel - 2, by simp at enough; omega⟩
    -- the blanks after the bracket end where the first item starts
    obtain ⟨tail, itemsHead⟩ := itemsText_cons indent (depth + 1) v vs
    obtain ⟨c, cs, head, notBlank, notClose, -, -⟩ := render_head indent (depth + 1) v
    have bracketAt : doc.toList.drop i = '[' :: ((Value.opening indent (depth + 1)).toList ++
        (itemsText indent (depth + 1) (v :: vs)).toList ++ (Value.opening indent depth).toList ++
          ']' :: rest) := by
      rw [at_]
      simp
    have openAt : doc.toList.drop (i + 1) = (Value.opening indent (depth + 1)).toList ++
        c :: (cs ++ tail ++ (Value.opening indent depth).toList ++ ']' :: rest) := by
      rw [drop_succ_of_drop bracketAt, itemsHead, head]
      simp
    have skip := skipSpace_blanks notBlank _ _ (opening_blank indent (depth + 1)) openAt
    have itemsAt : doc.toList.drop (i + 1 + (Value.opening indent (depth + 1)).toList.length) =
        (itemsText indent (depth + 1) (v :: vs)).toList ++ (Value.opening indent depth).toList ++
          ']' :: rest := by
      rw [drop_after openAt, itemsHead, head]
      simp
    obtain ⟨rs, backs, scanned⟩ := scanItems_render indent (v :: vs) (depth + 1) (by simp) each []
      itemsAt (opening_blank indent depth)
      (show 2 * (itemsText indent (depth + 1) (v :: vs)).toList.length + 2 ≤ f by simp at enough; omega)
    refine ⟨_, .arr backs, ?_⟩
    rw [scanValue, charAt_of_drop bracketAt]
    simp only [skip, scanArray, charAt_of_drop (drop_after openAt), Option.some.injEq, beq_iff_eq,
      notClose, if_false, scanned, List.reverse_nil, List.nil_append, Except.map]
    simp only [List.length_cons, List.length_append, List.length_nil]
    congr 2
    omega
  | .obj [], depth, _, doc, i, fuel, rest, at_, _, enough => by
    have text : ((Value.obj []).render indent depth).toList = ['\x7b', '\x7d'] := by simp [Value.render]
    rw [text] at at_ enough ⊢
    obtain ⟨f, rfl⟩ : ∃ f, fuel = f + 1 + 1 := ⟨fuel - 2, by simp at enough; omega⟩
    have closeAt : doc.toList.drop (i + 1) = '\x7d' :: rest := drop_succ_of_drop (by simpa using at_)
    have skip : skipSpace doc (i + 1) = i + 1 := skipSpace_blanks (by decide) [] _ (by simp) closeAt
    refine ⟨_, .obj .nil, ?_⟩
    rw [scanValue, charAt_of_drop (by simpa using at_)]
    simp [skip, scanObject, charAt_of_drop closeAt, mergeMembers]
  | .obj ((k, v) :: ms), depth, short, doc, i, fuel, rest, at_, _, enough => by
    have each : ∀ m ∈ (k, v) :: ms, m.2.Short := by
      cases short with
      | obj each => exact each
    have text : ((Value.obj ((k, v) :: ms)).render indent depth).toList =
        '\x7b' :: ((Value.opening indent (depth + 1)).toList ++
          (membersText indent (depth + 1) ((k, v) :: ms)).toList ++
          (Value.opening indent depth).toList ++ ['\x7d']) := by
      simp [Value.render, renderMembers_cons, Value.closing]
    rw [text] at at_ enough ⊢
    obtain ⟨f, rfl⟩ : ∃ f, fuel = f + 1 + 1 := ⟨fuel - 2, by simp at enough; omega⟩
    -- the blanks after the brace end where the first name starts
    obtain ⟨tail, membersHead⟩ := membersText_quote indent (depth + 1) (List.cons_ne_nil (k, v) ms)
    have bracketAt : doc.toList.drop i = '\x7b' :: ((Value.opening indent (depth + 1)).toList ++
        (membersText indent (depth + 1) ((k, v) :: ms)).toList ++ (Value.opening indent depth).toList ++
          '\x7d' :: rest) := by
      rw [at_]
      simp
    have openAt : doc.toList.drop (i + 1) = (Value.opening indent (depth + 1)).toList ++
        '"' :: (tail ++ (Value.opening indent depth).toList ++ '\x7d' :: rest) := by
      rw [drop_succ_of_drop bracketAt, membersHead]
      simp
    have skip := skipSpace_blanks (by decide) _ _ (opening_blank indent (depth + 1)) openAt
    have membersAt : doc.toList.drop (i + 1 + (Value.opening indent (depth + 1)).toList.length) =
        (membersText indent (depth + 1) ((k, v) :: ms)).toList ++ (Value.opening indent depth).toList ++
          '\x7d' :: rest := by
      rw [drop_after openAt, membersHead]
      simp
    obtain ⟨rs, backs, scanned⟩ := scanMembers_render indent ((k, v) :: ms) (depth + 1) (by simp) each []
      membersAt (opening_blank indent depth)
      (show 2 * (membersText indent (depth + 1) ((k, v) :: ms)).toList.length + 2 ≤ f by
        simp at enough; omega)
    refine ⟨_, .obj backs, ?_⟩
    rw [scanValue, charAt_of_drop bracketAt]
    simp only [skip, scanObject, charAt_of_drop (drop_after openAt), Option.some.injEq, beq_iff_eq,
      scanned, Except.map, mergeMembers]
    simp only [List.length_cons, List.length_append, List.length_nil]
    rw [if_neg (by decide)]
    congr 2
    omega

theorem scanItems_render (indent : Option Nat) : ∀ (items : List Value) (depth : Nat), items ≠ [] →
    (∀ x ∈ items, x.Short) →
    ∀ (acc : List Value) {doc : Array Char} {p fuel : Nat} {blanks more : List Char},
      doc.toList.drop p = (itemsText indent depth items).toList ++ blanks ++ ']' :: more →
      (∀ b ∈ blanks, isSpace b = true) →
      2 * (itemsText indent depth items).toList.length + 2 ≤ fuel →
      ∃ rs, ItemsReadBack items rs ∧ scanItems doc fuel p acc =
        .ok (acc.reverse ++ rs, p + (itemsText indent depth items).toList.length + blanks.length + 1)
  | [], _, nonempty, _, _, _, _, _, _, _, _, _, _ => absurd rfl nonempty
  | [v], depth, _, short, acc, doc, p, fuel, blanks, more, at_, blank, enough => by
    have text : (itemsText indent depth [v]).toList = (v.render indent depth).toList := by
      simp [itemsText]
    rw [text] at at_ enough ⊢
    obtain ⟨h, rfl⟩ : ∃ h, fuel = h + 1 := ⟨fuel - 1, by omega⟩
    have vAt : doc.toList.drop p = (v.render indent depth).toList ++ (blanks ++ ']' :: more) := by
      simpa using at_
    obtain ⟨r, back, scanned⟩ := scanValue_render indent v depth (short v (by simp)) vAt
      (follows_close blank ']' (.inl rfl))
      (show 2 * (v.render indent depth).toList.length + 1 ≤ h by omega)
    have closeAt := drop_after vAt
    have skip := skipSpace_blanks (c := ']') (by decide) blanks _ blank closeAt
    have closed : charAt doc (p + (v.render indent depth).toList.length + blanks.length) = some ']' :=
      charAt_of_drop (drop_after closeAt)
    refine ⟨[r], .cons back .nil, ?_⟩
    rw [scanItems, scanned]
    simp [skip, closed]
  | v :: w :: ws, depth, _, short, acc, doc, p, fuel, blanks, more, at_, blank, enough => by
    have text : (itemsText indent depth (v :: w :: ws)).toList = (v.render indent depth).toList ++
        ',' :: ((if indent.isSome then "" else " ").toList ++ (Value.opening indent depth).toList ++
          (itemsText indent depth (w :: ws)).toList) := by
      simp [itemsText, renderItems_cons]
    rw [text] at at_ enough ⊢
    obtain ⟨h, rfl⟩ : ∃ h, fuel = h + 1 := ⟨fuel - 1, by omega⟩
    have vAt : doc.toList.drop p = (v.render indent depth).toList ++
        ',' :: ((if indent.isSome then "" else " ").toList ++ (Value.opening indent depth).toList ++
          (itemsText indent depth (w :: ws)).toList ++ blanks ++ ']' :: more) := by
      simpa using at_
    obtain ⟨r, back, scanned⟩ := scanValue_render indent v depth (short v (by simp)) vAt
      (follows_comma _) (show 2 * (v.render indent depth).toList.length + 1 ≤ h by
        simp only [List.length_append, List.length_cons] at enough; omega)
    have commaAt := drop_after vAt
    have skip : skipSpace doc (p + (v.render indent depth).toList.length) =
        p + (v.render indent depth).toList.length := by
      simpa using skipSpace_blanks (c := ',') (by decide) [] _ (by simp) commaAt
    have comma := charAt_of_drop commaAt
    -- the blanks after the comma end where the next item starts
    obtain ⟨tail, nextText⟩ := itemsText_cons indent depth w ws
    obtain ⟨c, cs, head, notBlank, -, -, -⟩ := render_head indent depth w
    have nextAt : doc.toList.drop (p + (v.render indent depth).toList.length + 1) =
        ((if indent.isSome then "" else " ").toList ++ (Value.opening indent depth).toList) ++
          c :: (cs ++ tail ++ blanks ++ ']' :: more) := by
      rw [drop_succ_of_drop commaAt, nextText, head]
      simp
    have skipNext := skipSpace_blanks notBlank _ _
      (blanks_append (separator_blank indent) (opening_blank indent depth)) nextAt
    have itemsAt : doc.toList.drop (p + (v.render indent depth).toList.length + 1 +
        ((if indent.isSome then "" else " ").toList ++ (Value.opening indent depth).toList).length) =
        (itemsText indent depth (w :: ws)).toList ++ blanks ++ ']' :: more := by
      rw [drop_after nextAt, nextText, head]
      simp
    obtain ⟨rs, backs, scannedRest⟩ := scanItems_render indent (w :: ws) depth (by simp)
      (fun x mem => short x (List.mem_cons_of_mem v mem)) (r :: acc) itemsAt blank
      (show 2 * (itemsText indent depth (w :: ws)).toList.length + 2 ≤ h by
        simp only [List.length_append, List.length_cons] at enough; omega)
    refine ⟨r :: rs, .cons back backs, ?_⟩
    rw [scanItems, scanned]
    simp only [skip, comma, skipNext, scannedRest, Option.some.injEq, beq_iff_eq]
    rw [if_neg (by decide), List.reverse_cons, List.append_assoc, List.singleton_append]
    simp only [if_true, List.length_append, List.length_cons]
    congr 2
    omega

/-- Written members read back, each under its name, and the reader stops after the closing brace.
By induction on the members. -/
theorem scanMembers_render (indent : Option Nat) : ∀ (members : List (String × Value)) (depth : Nat),
    members ≠ [] → (∀ m ∈ members, m.2.Short) →
    ∀ (acc : List (String × Value)) {doc : Array Char} {p fuel : Nat} {blanks more : List Char},
      doc.toList.drop p = (membersText indent depth members).toList ++ blanks ++ '\x7d' :: more →
      (∀ b ∈ blanks, isSpace b = true) →
      2 * (membersText indent depth members).toList.length + 2 ≤ fuel →
      ∃ rs, MembersReadBack members rs ∧ scanMembers doc fuel p acc =
        .ok (rs.foldl (fun a m => addMember a m.1 m.2) acc,
          p + (membersText indent depth members).toList.length + blanks.length + 1)
  | [], _, nonempty, _, _, _, _, _, _, _, _, _, _ => (nonempty rfl).elim
  | (k, v) :: ms, depth, _, short, acc, doc, p, fuel, blanks, more, at_, blank, enough => by
    obtain ⟨h, rfl⟩ : ∃ h, fuel = h + 1 := ⟨fuel - 1, by omega⟩
    obtain ⟨c, cs, head, notBlank, -, -, -⟩ := render_head indent depth v
    by_cases last : ms = []
    · subst last
      have text : (membersText indent depth [(k, v)]).toList =
          (quoteText k).toList ++ ':' :: ' ' :: (v.render indent depth).toList := by
        simp [membersText]
      rw [text] at at_ enough ⊢
      have valueAt : doc.toList.drop (p + (quoteText k).toList.length + 2) =
          (v.render indent depth).toList ++ (blanks ++ '\x7d' :: more) := by
        rw [show p + (quoteText k).toList.length + 2 = p + (quoteText k).toList.length + 1 + 1 by omega,
          drop_succ_of_drop (drop_succ_of_drop (drop_after (by simpa using at_)))]
      obtain ⟨r, back, scanned⟩ := scanValue_render indent v depth (short (k, v) (by simp)) valueAt
        (follows_close blank '\x7d' (.inr rfl))
        (show 2 * (v.render indent depth).toList.length + 1 ≤ h by simp at enough; omega)
      have closeAt := drop_after valueAt
      have skip := skipSpace_blanks (c := '\x7d') (by decide) blanks _ blank closeAt
      have closed := charAt_of_drop (drop_after closeAt)
      refine ⟨[(k, r)], .cons k back .nil, ?_⟩
      rw [scanMembers_member notBlank
        (show doc.toList.drop p = (quoteText k).toList ++ ':' :: ' ' :: c :: (cs ++ blanks ++ '\x7d' :: more) by
          rw [at_, head]; simp) scanned]
      simp only [skip, closed, beq_self_eq_true, if_true, List.foldl_cons, List.foldl_nil,
        List.length_append, List.length_cons]
      congr 2
      omega
    · have text : (membersText indent depth ((k, v) :: ms)).toList =
          (quoteText k).toList ++ ':' :: ' ' :: ((v.render indent depth).toList ++
            ',' :: ((if indent.isSome then "" else " ").toList ++ (Value.opening indent depth).toList ++
              (membersText indent depth ms).toList)) := by
        rw [membersText_cons_of_ne indent depth k v last]
        simp
      rw [text] at at_ enough ⊢
      have valueAt : doc.toList.drop (p + (quoteText k).toList.length + 2) =
          (v.render indent depth).toList ++
            ',' :: ((if indent.isSome then "" else " ").toList ++ (Value.opening indent depth).toList ++
              (membersText indent depth ms).toList ++ blanks ++ '\x7d' :: more) := by
        rw [show p + (quoteText k).toList.length + 2 = p + (quoteText k).toList.length + 1 + 1 by omega,
          drop_succ_of_drop (drop_succ_of_drop (drop_after (by simpa using at_)))]
        simp
      obtain ⟨r, back, scanned⟩ := scanValue_render indent v depth (short (k, v) (by simp)) valueAt
        (follows_comma _)
        (show 2 * (v.render indent depth).toList.length + 1 ≤ h by simp at enough; omega)
      have commaAt := drop_after valueAt
      have skip : skipSpace doc (p + (quoteText k).toList.length + 2 + (v.render indent depth).toList.length) =
          p + (quoteText k).toList.length + 2 + (v.render indent depth).toList.length := by
        simpa using skipSpace_blanks (c := ',') (by decide) [] _ (by simp) commaAt
      -- the blanks after the comma end where the next name starts
      obtain ⟨tail, namesHead⟩ := membersText_quote indent depth last
      have nextAt : doc.toList.drop
          (p + (quoteText k).toList.length + 2 + (v.render indent depth).toList.length + 1) =
          ((if indent.isSome then "" else " ").toList ++ (Value.opening indent depth).toList) ++
            '"' :: (tail ++ blanks ++ '\x7d' :: more) := by
        rw [drop_succ_of_drop commaAt, namesHead]
        simp
      have skipNext := skipSpace_blanks (by decide) _ _
        (blanks_append (separator_blank indent) (opening_blank indent depth)) nextAt
      have membersAt : doc.toList.drop
          (p + (quoteText k).toList.length + 2 + (v.render indent depth).toList.length + 1 +
            ((if indent.isSome then "" else " ").toList ++ (Value.opening indent depth).toList).length) =
          (membersText indent depth ms).toList ++ blanks ++ '\x7d' :: more := by
        rw [drop_after nextAt, namesHead]
        simp
      obtain ⟨rs, backs, scannedRest⟩ := scanMembers_render indent ms depth last
        (fun x mem => short x (List.mem_cons_of_mem _ mem)) (addMember acc k r) membersAt blank
        (show 2 * (membersText indent depth ms).toList.length + 2 ≤ h by simp at enough; omega)
      refine ⟨(k, r) :: rs, .cons k back backs, ?_⟩
      rw [scanMembers_member notBlank
        (show doc.toList.drop p = (quoteText k).toList ++ ':' :: ' ' :: c :: (cs ++ ',' ::
            ((if indent.isSome then "" else " ").toList ++ (Value.opening indent depth).toList ++
              (membersText indent depth ms).toList ++ blanks ++ '\x7d' :: more)) by
          rw [at_, head]; simp) scanned]
      simp only [skip, charAt_of_drop commaAt, skipNext, scannedRest, Option.some.injEq, beq_iff_eq]
      rw [if_neg (by decide)]
      simp only [if_true, List.foldl_cons, List.length_append, List.length_cons]
      congr 2
      omega
end

/-- A written document reads back: every value whose integers the reader accepts, written with or
without line breaks, is read as a value of the same shape. -/
theorem parse_render (indent : Option Nat) (v : Value) (short : v.Short) :
    ∃ r, ReadBack v r ∧ parse (v.render indent 0) = .ok r := by
  obtain ⟨c, cs, head, notBlank, -, -, notMark⟩ := render_head indent 0 v
  have whole : (v.render indent 0).toList.toArray.toList.drop 0 = (v.render indent 0).toList ++ [] := by
    simp
  have first : (v.render indent 0).toList.toArray.toList.drop 0 = [] ++ c :: cs := by
    rw [whole, head]
    simp
  have start : skipSpace (v.render indent 0).toList.toArray 0 = 0 :=
    skipSpace_blanks notBlank [] 0 (by simp) first
  have size : (v.render indent 0).toList.toArray.size = (v.render indent 0).toList.length := by simp
  obtain ⟨r, back, scanned⟩ := scanValue_render indent v 0 short whole (by simp [Follows])
    (show 2 * (v.render indent 0).toList.length + 1 ≤ 4 * (v.render indent 0).toList.toArray.size + 4 by
      omega)
  refine ⟨r, back, ?_⟩
  unfold parse
  simp only [charAt_of_drop first, Option.some.injEq,
    beq_iff_eq, notMark, if_false, start, scanned, Nat.zero_add]
  simp [bind, Except.bind, pure, Except.pure, skipSpace_at_end (Nat.le_of_eq size)]

/-! ### What the reader gives back -/

theorem ItemsReadBack.mem : ∀ {items read : List Value}, ItemsReadBack items read →
    ∀ r ∈ read, ∃ v ∈ items, ReadBack v r := by
  intro items read
  induction read generalizing items with
  | nil => simp
  | cons r rest ih =>
    intro back x mem
    cases back with
    | cons head tail =>
      rcases List.mem_cons.mp mem with rfl | later
      · exact ⟨_, List.mem_cons_self, head⟩
      · obtain ⟨v, inItems, found⟩ := ih tail x later
        exact ⟨v, List.mem_cons_of_mem _ inItems, found⟩

theorem MembersReadBack.names : ∀ {members read : List (String × Value)}, MembersReadBack members read →
    read.map Prod.fst = members.map Prod.fst := by
  intro members read
  induction read generalizing members with
  | nil =>
    intro back
    cases back
    rfl
  | cons r rest ih =>
    intro back
    cases back with
    | cons k head tail => simp [ih tail]

theorem MembersReadBack.mem : ∀ {members read : List (String × Value)}, MembersReadBack members read →
    ∀ e ∈ read, ∃ v, (e.1, v) ∈ members ∧ ReadBack v e.2 := by
  intro members read
  induction read generalizing members with
  | nil => simp
  | cons r rest ih =>
    intro back e mem
    cases back with
    | cons k head tail =>
      rcases List.mem_cons.mp mem with rfl | later
      · exact ⟨_, List.mem_cons_self, head⟩
      · obtain ⟨v, inMembers, found⟩ := ih tail e later
        exact ⟨v, List.mem_cons_of_mem _ inMembers, found⟩

/-- Members of distinct names are not merged: each is added at the end. -/
theorem foldl_addMember_fresh : ∀ (read acc : List (String × Value)),
    ((acc ++ read).map Prod.fst).Nodup → read.foldl (fun a m => addMember a m.1 m.2) acc = acc ++ read
  | [], acc, _ => by simp
  | (k, v) :: rest, acc, nodup => by
    have fresh : acc.any (·.1 == k) = false := by
      rw [List.map_append, List.map_cons, List.nodup_append] at nodup
      simp only [List.any_eq_false, beq_iff_eq]
      intro e mem same
      exact nodup.2.2 e.1 (List.mem_map_of_mem mem) k List.mem_cons_self same
    have added : addMember acc k v = acc ++ [(k, v)] := by simp [addMember, fresh]
    rw [List.foldl_cons, added, foldl_addMember_fresh rest (acc ++ [(k, v)]) (by simpa using nodup)]
    simp

theorem mergeMembers_of_nodup {read : List (String × Value)} (nodup : (read.map Prod.fst).Nodup) :
    mergeMembers read = read :=
  foldl_addMember_fresh read [] (by simpa using nodup)

end GinSave.Json
