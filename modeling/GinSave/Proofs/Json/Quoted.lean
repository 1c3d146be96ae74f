import Mathlib.Tactic.IntervalCases
import Mathlib.Tactic.SplitIfs
import GinSave.Json.Reader

/-! Written text reads back. A text in quotes, each character escaped as the writer escapes it,
reads back as the same text from any position, whatever follows the closing quote
(`scanText_quoteText`): the short escapes, the printable characters, one `\u` escape within the
basic plane and a pair of them beyond it each give back their character
(`scanText_escapeChar`). So an object of one text member, written with line breaks, reads back
as itself (`parse_render_textMember`), and it is written in printable ASCII and line feeds
(`render_textMember_written`). -/

namespace GinSave.Json

open GinSave.Text

theorem hexValue_digitChar {d : Nat} (small : d < 16) : hexValue (Nat.digitChar d) = some d := by
  interval_cases d <;> rfl

theorem hexDigits_four {n : Nat} (small : n < 0x10000) :
    (hexDigits 4 n).toList = [Nat.digitChar (n / 4096), Nat.digitChar (n / 256 % 16),
      Nat.digitChar (n / 16 % 16), Nat.digitChar (n % 16)] := by
  have base : 1 < 16 := by decide
  simp only [hexDigits, String.toList_ofList]
  rw [Nat.toDigits_eq_if base]
  split_ifs with h1
  · have : n / 4096 = 0 ∧ n / 256 % 16 = 0 ∧ n / 16 % 16 = 0 ∧ n % 16 = n := by omega
    simp [this, Nat.digitChar]
  · rw [Nat.toDigits_eq_if base]
    split_ifs with h2
    · have : n / 4096 = 0 ∧ n / 256 % 16 = 0 ∧ n / 16 % 16 = n / 16 := by omega
      simp [this, Nat.digitChar]
    · rw [Nat.toDigits_eq_if base]
      split_ifs with h3
      · have : n / 4096 = 0 ∧ n / 16 / 16 = n / 256 % 16 := by omega
        simp [this, Nat.digitChar]
      · rw [Nat.toDigits_eq_if base, if_pos (by omega)]
        have : n / 16 / 16 / 16 = n / 4096 ∧ n / 16 / 16 % 16 = n / 256 % 16 := by omega
        simp [this]

/-! ### Positions of a document -/

theorem charAt_eq_head? (doc : Array Char) (i : Nat) : charAt doc i = (doc.toList.drop i).head? := by
  simp [charAt, List.head?_drop]

theorem charAt_of_drop {doc : Array Char} {i : Nat} {c : Char} {rest : List Char}
    (at_ : doc.toList.drop i = c :: rest) : charAt doc i = some c := by
  rw [charAt_eq_head?, at_, List.head?_cons]

theorem drop_after {doc : Array Char} {i : Nat} {l rest : List Char}
    (at_ : doc.toList.drop i = l ++ rest) : doc.toList.drop (i + l.length) = rest := by
  rw [← List.drop_drop, at_, List.drop_left]

theorem drop_succ_of_drop {doc : Array Char} {i : Nat} {c : Char} {rest : List Char}
    (at_ : doc.toList.drop i = c :: rest) : doc.toList.drop (i + 1) = rest :=
  drop_after (l := [c]) at_

theorem lt_size_of_drop {doc : Array Char} {i : Nat} {c : Char} {rest : List Char}
    (at_ : doc.toList.drop i = c :: rest) : i < doc.size := by
  have : i < doc.toList.length := by
    by_contra far
    rw [List.drop_eq_nil_of_le (by omega)] at at_
    cases at_
  simpa using this

theorem getElem_of_drop {doc : Array Char} {i : Nat} {c : Char} {rest : List Char}
    (at_ : doc.toList.drop i = c :: rest) (inside : i < doc.size) : doc[i] = c := by
  have := charAt_of_drop at_
  simp only [charAt, getElem?_pos doc i inside, Option.some.injEq] at this
  exact this

/-- Four hexadecimal digits, as the writer pads them, read back as their number. -/
theorem hex4_hexDigits {doc : Array Char} {i n : Nat} {rest : List Char} (small : n < 0x10000)
    (at_ : doc.toList.drop i = (hexDigits 4 n).toList ++ rest) : hex4 doc i = some n := by
  rw [hexDigits_four small] at at_
  have d0 := charAt_of_drop at_
  have d1 := charAt_of_drop (drop_after (l := [Nat.digitChar (n / 4096)]) at_)
  have d2 := charAt_of_drop (drop_after (l := [Nat.digitChar (n / 4096), Nat.digitChar (n / 256 % 16)]) at_)
  have d3 := charAt_of_drop (drop_after (l := [Nat.digitChar (n / 4096), Nat.digitChar (n / 256 % 16),
    Nat.digitChar (n / 16 % 16)]) at_)
  simp only [List.length_cons, List.length_nil] at d1 d2 d3
  simp only [hex4, List.foldlM_cons, List.foldlM_nil, Nat.add_zero, d0, d1, d2, d3,
    Option.bind_eq_bind, Option.pure_def, Option.bind_some,
    hexValue_digitChar (show n / 4096 < 16 by omega), hexValue_digitChar (Nat.mod_lt _ (by decide))]
  congr 1
  omega

/-! ### One escape -/

theorem unicodeEscape_single {doc : Array Char} {u n : Nat} {d : Char} {rest : List Char}
    (small : n < 0x10000) (notHigh : ¬(0xD800 ≤ n ∧ n ≤ 0xDBFF))
    (at_ : doc.toList.drop (u + 1) = (hexDigits 4 n).toList ++ d :: rest) :
    unicodeEscape doc u = .ok (codeChar n, u + 5) := by
  have four : (hexDigits 4 n).toList.length = 4 := by simp [hexDigits_four small]
  have after := lt_size_of_drop (drop_after at_)
  rw [four] at after
  rw [unicodeEscape, if_neg (by omega), hex4_hexDigits small at_]
  dsimp only
  rw [if_neg (by simp; omega)]

theorem unicodeEscape_pair {doc : Array Char} {u hi lo : Nat} {d : Char} {rest : List Char}
    (high : 0xD800 ≤ hi ∧ hi ≤ 0xDBFF) (low : 0xDC00 ≤ lo ∧ lo ≤ 0xDFFF)
    (at_ : doc.toList.drop (u + 1) =
      (hexDigits 4 hi).toList ++ '\\' :: 'u' :: ((hexDigits 4 lo).toList ++ d :: rest)) :
    unicodeEscape doc u =
      .ok (Char.ofNat (0x10000 + (hi - 0xD800) * 0x400 + (lo - 0xDC00)), u + 11) := by
  have four : ∀ m, m < 0x10000 → (hexDigits 4 m).toList.length = 4 := fun m small => by
    simp [hexDigits_four small]
  have second : doc.toList.drop (u + 5) = '\\' :: 'u' :: ((hexDigits 4 lo).toList ++ d :: rest) := by
    have := drop_after at_
    rwa [four hi (by omega)] at this
  have loAt : doc.toList.drop (u + 5 + 2) = (hexDigits 4 lo).toList ++ d :: rest :=
    drop_after (l := ['\\', 'u']) second
  have after := lt_size_of_drop (drop_after loAt)
  rw [four lo (by omega)] at after
  have marks : charAt doc (u + 5) = some '\\' ∧ charAt doc (u + 5 + 1) = some 'u' :=
    ⟨charAt_of_drop second, charAt_of_drop (drop_after (l := ['\\']) second)⟩
  rw [unicodeEscape, if_neg (by omega), hex4_hexDigits (by omega) at_]
  dsimp only
  rw [if_pos (by simp [marks]; omega), hex4_hexDigits (by omega) loAt]
  dsimp only
  rw [if_pos (by simp; omega)]

theorem unicodeMark_toList : "\\u".toList = ['\\', 'u'] := by simp

theorem unicodeSingle_toList (n : Nat) :
    ("\\u" ++ hexDigits 4 n).toList = '\\' :: 'u' :: (hexDigits 4 n).toList := by
  simp only [String.toList_append, unicodeMark_toList, List.cons_append, List.nil_append]

theorem unicodePair_toList (a b : Nat) :
    ("\\u" ++ hexDigits 4 a ++ "\\u" ++ hexDigits 4 b).toList =
      '\\' :: 'u' :: ((hexDigits 4 a).toList ++ '\\' :: 'u' :: (hexDigits 4 b).toList) := by
  simp only [String.toList_append, unicodeMark_toList, List.cons_append, List.nil_append,
    List.append_assoc]

/-- No character is a surrogate, and every one is below `0x110000`. -/
theorem char_toNat_range (c : Char) :
    c.toNat < 0xD800 ∨ (0xDFFF < c.toNat ∧ c.toNat < 0x110000) :=
  c.valid

/-! ### Reading a text, character by character -/

section scan

variable {doc : Array Char} {begin i : Nat} {acc : List Char} {rest : List Char}

theorem scanText_quote (at_ : doc.toList.drop i = '"' :: rest) :
    scanText doc begin i acc = .ok (String.ofList acc.reverse, i + 1) := by
  rw [scanText, dif_pos (lt_size_of_drop at_)]
  simp [getElem_of_drop at_]

theorem scanText_plain {c : Char} (at_ : doc.toList.drop i = c :: rest) (notQuote : c ≠ '"')
    (notBackslash : c ≠ '\\') (visible : 0x1F < c.toNat) :
    scanText doc begin i acc = scanText doc begin (i + 1) (c :: acc) := by
  rw [scanText, dif_pos (lt_size_of_drop at_)]
  simp [getElem_of_drop at_, notQuote, notBackslash, Nat.not_le.mpr visible]

theorem scanText_short {e ch : Char} (at_ : doc.toList.drop i = '\\' :: e :: rest)
    (short : shortEscape e = some ch) (notU : e ≠ 'u') :
    scanText doc begin i acc = scanText doc begin (i + 2) (ch :: acc) := by
  rw [scanText, dif_pos (lt_size_of_drop at_)]
  simp only [getElem_of_drop at_, charAt_of_drop (drop_succ_of_drop at_)]
  split <;> simp_all

theorem scanText_unicode {ch : Char} {next : Nat} (at_ : doc.toList.drop i = '\\' :: 'u' :: rest)
    (escape : unicodeEscape doc (i + 1) = .ok (ch, next)) (order : i < next ∧ next ≤ doc.size) :
    scanText doc begin i acc = scanText doc begin next (ch :: acc) := by
  rw [scanText, dif_pos (lt_size_of_drop at_)]
  simp only [getElem_of_drop at_, charAt_of_drop (drop_succ_of_drop at_)]
  simp [escape, order]

theorem scanText_single {n : Nat} {d : Char} (small : n < 0x10000)
    (notHigh : ¬(0xD800 ≤ n ∧ n ≤ 0xDBFF))
    (at_ : doc.toList.drop i = ("\\u" ++ hexDigits 4 n).toList ++ d :: rest) :
    scanText doc begin i acc = scanText doc begin (i + 6) (codeChar n :: acc) := by
  rw [unicodeSingle_toList, List.cons_append, List.cons_append] at at_
  have digits := drop_succ_of_drop (drop_succ_of_drop at_)
  have after := lt_size_of_drop (drop_after digits)
  simp only [hexDigits_four small, List.length_cons, List.length_nil] at after
  rw [scanText_unicode at_ (unicodeEscape_single small notHigh digits) (by omega)]

theorem scanText_pair {hi lo : Nat} {d : Char} (high : 0xD800 ≤ hi ∧ hi ≤ 0xDBFF)
    (low : 0xDC00 ≤ lo ∧ lo ≤ 0xDFFF)
    (at_ : doc.toList.drop i = ("\\u" ++ hexDigits 4 hi ++ "\\u" ++ hexDigits 4 lo).toList ++ d :: rest) :
    scanText doc begin i acc =
      scanText doc begin (i + 12) (Char.ofNat (0x10000 + (hi - 0xD800) * 0x400 + (lo - 0xDC00)) :: acc) := by
  have after := lt_size_of_drop (drop_after at_)
  simp only [unicodePair_toList, List.length_cons, List.length_append,
    hexDigits_four (show hi < 0x10000 by omega), hexDigits_four (show lo < 0x10000 by omega),
    List.length_nil] at after
  rw [unicodePair_toList] at at_
  simp only [List.cons_append, List.append_assoc] at at_
  rw [scanText_unicode at_ (unicodeEscape_pair high low (drop_succ_of_drop (drop_succ_of_drop at_)))
    (by omega)]


/-- Reading the escape the writer gives a character, with some text after it, takes the
character and goes on after the escape. -/
theorem scanText_escapeChar {c d : Char} (at_ : doc.toList.drop i = (escapeChar c).toList ++ d :: rest) :
    scanText doc begin i acc = scanText doc begin (i + (escapeChar c).toList.length) (c :: acc) := by
  have range := char_toNat_range c
  -- the escape is cased on once, and the text and the position both follow it
  generalize written : escapeChar c = E at at_ ⊢
  dsimp only [escapeChar] at written
  split_ifs at written with quote backslash newline ret tab back feed printable single <;>
    subst written
  · obtain rfl : c = '"' := by simpa using quote
    exact scanText_short at_ rfl (by decide)
  · obtain rfl : c = '\\' := by simpa using backslash
    exact scanText_short at_ rfl (by decide)
  · obtain rfl : c = '\n' := by simpa using newline
    exact scanText_short at_ rfl (by decide)
  · obtain rfl : c = '\r' := by simpa using ret
    exact scanText_short at_ rfl (by decide)
  · obtain rfl : c = '\t' := by simpa using tab
    exact scanText_short at_ rfl (by decide)
  · obtain rfl : c = '\x08' := Char.toNat_inj.mp (by simpa using back)
    exact scanText_short at_ rfl (by decide)
  · obtain rfl : c = '\x0c' := Char.toNat_inj.mp (by simpa using feed)
    exact scanText_short at_ rfl (by decide)
  · have one : c.toString.toList = [c] := by simp
    rw [one] at at_ ⊢
    exact scanText_plain at_ (by simpa using quote) (by simpa using backslash)
      (by simp at printable; omega)
  · have same : codeChar c.toNat = c := by simp [codeChar]; omega
    rw [scanText_single single (by omega) at_, same]
    simp [hexDigits_four single]
  · -- beyond the basic plane: a high and a low surrogate, each escaped
    have astral : 0x10000 ≤ c.toNat ∧ c.toNat < 0x110000 := by omega
    have same : Char.ofNat (0x10000 + (0xD800 + (c.toNat - 0x10000) / 0x400 - 0xD800) * 0x400 +
        (0xDC00 + (c.toNat - 0x10000) % 0x400 - 0xDC00)) = c := by
      rw [show 0x10000 + (0xD800 + (c.toNat - 0x10000) / 0x400 - 0xD800) * 0x400 +
        (0xDC00 + (c.toNat - 0x10000) % 0x400 - 0xDC00) = c.toNat by omega, Char.ofNat_toNat]
    rw [scanText_pair (by omega) (by omega) at_, same]
    simp [hexDigits_four (show 0xD800 + (c.toNat - 0x10000) / 0x400 < 0x10000 by omega),
      hexDigits_four (show 0xDC00 + (c.toNat - 0x10000) % 0x400 < 0x10000 by omega)]
end scan

/-! ### Whole texts -/

/-- The characters of text as the writer escapes them. -/
theorem quoteText_toList (s : String) :
    (quoteText s).toList = '"' :: (s.toList.flatMap fun c => (escapeChar c).toList) ++ ['"'] := by
  simp [quoteText, String.toList_join, List.flatMap_map]

/-- Reading escaped characters up to a closing quote gives them back, from any position and with
anything read before them. By induction on the characters. -/
theorem scanText_escaped {doc : Array Char} {begin : Nat} {rest : List Char} :
    ∀ (cs : List Char) (i : Nat) (acc : List Char),
      doc.toList.drop i = (cs.flatMap fun c => (escapeChar c).toList) ++ '"' :: rest →
      scanText doc begin i acc = .ok (String.ofList (acc.reverse ++ cs),
        i + (cs.flatMap fun c => (escapeChar c).toList).length + 1)
  | [], i, acc, at_ => by
    have closed : scanText doc begin i acc = .ok (String.ofList acc.reverse, i + 1) :=
      scanText_quote (by simpa using at_)
    simpa using closed
  | c :: cs, i, acc, at_ => by
    -- the escapes of the other characters, or the closing quote, follow the first escape
    obtain ⟨d, more, after⟩ : ∃ d more,
        (cs.flatMap fun c => (escapeChar c).toList) ++ '"' :: rest = d :: more := by
      cases cs.flatMap fun c => (escapeChar c).toList with
      | nil => exact ⟨_, _, rfl⟩
      | cons x xs => exact ⟨_, _, rfl⟩
    have first : doc.toList.drop i = (escapeChar c).toList ++ d :: more := by
      rw [at_, List.flatMap_cons, List.append_assoc, after]
    rw [scanText_escapeChar first,
      scanText_escaped cs _ (c :: acc) (by rw [drop_after first, ← after])]
    simp only [List.reverse_cons, List.append_assoc, List.singleton_append, List.flatMap_cons,
      List.length_append]
    congr 2
    omega

/-- A text written in quotes reads back as itself, whatever follows it. -/
theorem scanText_quoteText {doc : Array Char} {i : Nat} {rest : List Char} (s : String)
    (at_ : doc.toList.drop i = (quoteText s).toList ++ rest) :
    scanText doc i (i + 1) [] = .ok (s, i + (quoteText s).toList.length) := by
  rw [quoteText_toList] at at_ ⊢
  have inner := drop_succ_of_drop (by simpa using at_)
  rw [scanText_escaped s.toList (i + 1) [] (by simpa using inner)]
  simp only [List.reverse_nil, List.nil_append, String.ofList_toList, List.length_cons,
    List.length_append, List.length_nil]
  congr 2
  omega

/-! ### Blanks -/

theorem skipSpace_blanks {doc : Array Char} {c : Char} {rest : List Char} (notBlank : isSpace c = false) :
    ∀ (blanks : List Char) (i : Nat), (∀ b ∈ blanks, isSpace b = true) →
      doc.toList.drop i = blanks ++ c :: rest → skipSpace doc i = i + blanks.length
  | [], i, _, at_ => by
    rw [skipSpace, if_pos (lt_size_of_drop at_), charAt_of_drop at_]
    simp [notBlank]
  | b :: blanks, i, allBlank, at_ => by
    rw [skipSpace, if_pos (lt_size_of_drop at_), charAt_of_drop at_]
    simp only [Option.any_some, allBlank b List.mem_cons_self, if_true]
    rw [skipSpace_blanks notBlank blanks (i + 1) (fun x mem => allBlank x (List.mem_cons_of_mem b mem))
      (drop_succ_of_drop at_)]
    simp only [List.length_cons]
    omega

theorem skipSpace_at_end {doc : Array Char} {i : Nat} (past : doc.size ≤ i) : skipSpace doc i = i := by
  rw [skipSpace, if_neg (by omega)]

/-! ### An object of one text member -/

theorem render_textMember_toList (w : Nat) (k v : String) :
    ((Value.obj [(k, .str v)]).render (some w) 0).toList =
      '\x7b' :: '\n' :: (List.replicate w ' ' ++ (quoteText k).toList ++ ':' :: ' ' ::
        ((quoteText v).toList ++ ['\n', '\x7d'])) := by
  simp [Value.render, Value.renderMembers, Value.closing, Value.opening]

/-- An object of one text member, written with line breaks, reads back as itself. -/
theorem parse_render_textMember (w : Nat) (k v : String) :
    parse ((Value.obj [(k, .str v)]).render (some w) 0) = .ok (.obj [(k, .str v)]) := by
  set doc := ((Value.obj [(k, .str v)]).render (some w) 0).toList.toArray with docDef
  have whole : doc.toList.drop 0 = ('\x7b' :: '\n' :: List.replicate w ' ') ++
      ((quoteText k).toList ++ ':' :: ' ' :: ((quoteText v).toList ++ ['\n', '\x7d'])) := by
    simp [docDef, render_textMember_toList]
  -- the positions of the name, the colon, the value and the closing brace
  have nameAt : doc.toList.drop (2 + w) = (quoteText k).toList ++
      ':' :: ' ' :: ((quoteText v).toList ++ ['\n', '\x7d']) := by
    rw [show 2 + w = 0 + ('\x7b' :: '\n' :: List.replicate w ' ').length by simp; omega]
    exact drop_after whole
  have colonAt : doc.toList.drop (2 + w + (quoteText k).toList.length) =
      ':' :: ' ' :: ((quoteText v).toList ++ ['\n', '\x7d']) := drop_after nameAt
  have valueAt : doc.toList.drop (2 + w + (quoteText k).toList.length + 2) =
      (quoteText v).toList ++ ['\n', '\x7d'] := drop_after (l := [':', ' ']) colonAt
  have closeAt : doc.toList.drop (2 + w + (quoteText k).toList.length + 2 +
      (quoteText v).toList.length) = ['\n', '\x7d'] := drop_after valueAt
  have opened : charAt doc 0 = some '\x7b' := charAt_of_drop whole
  have nameQuote : charAt doc (2 + w) = some '"' := by
    rw [quoteText_toList] at nameAt
    exact charAt_of_drop nameAt
  have valueQuote : charAt doc (2 + w + (quoteText k).toList.length + 2) = some '"' := by
    rw [quoteText_toList v] at valueAt
    exact charAt_of_drop valueAt
  have start : skipSpace doc 0 = 0 := skipSpace_blanks (by decide) [] 0 (by simp) whole
  have toName : skipSpace doc 1 = 2 + w := by
    have fromOne := drop_succ_of_drop whole
    rw [quoteText_toList k] at fromOne
    rw [skipSpace_blanks (c := '"') (by decide) ('\n' :: List.replicate w ' ') 1
      (by simp [isSpace]) fromOne]
    simp only [List.length_cons, List.length_replicate]
    omega
  have atColon : skipSpace doc (2 + w + (quoteText k).toList.length) =
      2 + w + (quoteText k).toList.length :=
    skipSpace_blanks (by decide) [] _ (by simp) colonAt
  have toValue : skipSpace doc (2 + w + (quoteText k).toList.length + 1) =
      2 + w + (quoteText k).toList.length + 2 := by
    have blank := drop_succ_of_drop colonAt
    rw [quoteText_toList v] at blank
    exact skipSpace_blanks (c := '"') (by decide) [' '] _ (by simp [isSpace]) blank
  have toClose : skipSpace doc (2 + w + (quoteText k).toList.length + 2 + (quoteText v).toList.length) =
      2 + w + (quoteText k).toList.length + 2 + (quoteText v).toList.length + 1 :=
    skipSpace_blanks (c := '\x7d') (by decide) ['\n'] _ (by simp [isSpace]) closeAt
  have closed : charAt doc (2 + w + (quoteText k).toList.length + 2 + (quoteText v).toList.length + 1) =
      some '\x7d' := charAt_of_drop (drop_succ_of_drop closeAt)
  have size : doc.size = 2 + w + (quoteText k).toList.length + 2 + (quoteText v).toList.length + 2 := by
    have := congrArg List.length whole
    simp only [List.drop_zero, Array.length_toList, List.length_append, List.length_cons,
      List.length_replicate, List.length_nil] at this
    omega
  have name := scanText_quoteText k nameAt
  have value := scanText_quoteText v valueAt
  unfold parse
  rw [← docDef]
  dsimp only
  rw [opened, start, show 4 * doc.size + 4 = 4 * doc.size + 1 + 1 + 1 + 1 by omega]
  simp only [scanValue, opened, toName, scanObject, nameQuote, scanMembers, name, atColon]
  have colon : charAt doc (2 + w + (quoteText k).toList.length) = some ':' := charAt_of_drop colonAt
  simp only [toValue, valueQuote, value, colon, toClose, closed, addMember, Except.map]
  simp [bind, Except.bind, pure, Except.pure, skipSpace_at_end (show doc.size ≤ 2 + w + (quoteText k).toList.length + 2 +
    (quoteText v).toList.length + 1 + 1 by omega), size]

/-! ### Written text is printable ASCII -/

/-- A character of written text: printable ASCII, or a line feed. -/
def IsWritten (ch : Char) : Prop :=
  ch = '\n' ∨ 0x20 ≤ ch.toNat ∧ ch.toNat < 0x7F

instance : DecidablePred IsWritten := fun _ => inferInstanceAs (Decidable (_ ∨ _))

theorem digitChar_written {d : Nat} (small : d < 16) : IsWritten (Nat.digitChar d) := by
  unfold IsWritten
  interval_cases d <;> decide

theorem hexDigits_written {n : Nat} (small : n < 0x10000) : ∀ ch ∈ (hexDigits 4 n).toList, IsWritten ch := by
  rw [hexDigits_four small]
  simp only [List.mem_cons, List.not_mem_nil, or_false]
  rintro _ (rfl | rfl | rfl | rfl) <;> exact digitChar_written (by omega)

theorem escapeChar_written (c : Char) : ∀ ch ∈ (escapeChar c).toList, IsWritten ch := by
  have range := char_toNat_range c
  dsimp only [escapeChar]
  split_ifs with quote backslash newline ret tab back feed printable single
  -- the seven short escapes: a backslash and a letter or a mark
  iterate 7 simp [IsWritten]
  · simp only [Char.toString, String.toList_singleton, List.mem_singleton, forall_eq]
    simp at printable
    exact .inr printable
  · rw [unicodeSingle_toList]
    simp only [List.mem_cons, forall_eq_or_imp]
    exact ⟨by decide, by decide, hexDigits_written single⟩
  · rw [unicodePair_toList]
    simp only [List.mem_cons, List.mem_append, forall_eq_or_imp]
    refine ⟨by decide, by decide, fun ch mem => ?_⟩
    rcases mem with high | rfl | rfl | low
    · exact hexDigits_written (by omega) ch high
    · decide
    · decide
    · exact hexDigits_written (by omega) ch low

theorem quoteText_written (s : String) : ∀ ch ∈ (quoteText s).toList, IsWritten ch := by
  rw [quoteText_toList]
  simp only [List.mem_cons, List.mem_append, List.mem_flatMap, List.not_mem_nil, or_false]
  rintro ch ((rfl | ⟨c, -, escaped⟩) | rfl)
  · decide
  · exact escapeChar_written c ch escaped
  · decide

/-- An object of one text member is written in printable ASCII and line feeds. -/
theorem render_textMember_written (w : Nat) (k v : String) :
    ∀ ch ∈ ((Value.obj [(k, .str v)]).render (some w) 0).toList, IsWritten ch := by
  rw [render_textMember_toList]
  simp only [List.mem_cons, List.mem_append, List.mem_replicate, List.not_mem_nil, or_false]
  rintro ch (rfl | rfl | (⟨-, rfl⟩ | name) | rfl | rfl | value | rfl | rfl)
  all_goals first | decide | exact quoteText_written _ ch ‹_›

end GinSave.Json
