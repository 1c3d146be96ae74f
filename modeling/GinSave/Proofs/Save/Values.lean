import GinSave.Save.Writer
import GinSave.Proofs.Save.Walk
import GinSave.Proofs.Text.Lines

/-! Single values of save text. A value is written as `tag(content)` and read by cutting at the
first opening parenthesis; quotes around the content are stripped. Every leaf of a save (an
integer, a real that survives six places, a text without line boundaries or quotes at its ends, a
truth value, a stage, a vector, a list of marks under a flags key) is written as one line whose
value reads back as the leaf. -/

namespace GinSave.Save

open GinSave.Text GinSave.Number

/-- A value text that can end a line of save text: it holds no line boundary and ends with its
closing parenthesis. -/
def CleanValue (V : String) : Prop :=
  (∀ c ∈ V.toList, isLineBoundary c = false) ∧ V.toList.getLast? = some ')'

-- the check runs over the value's characters, not over every character there is
instance (V : String) : Decidable (CleanValue V) :=
  @instDecidableAnd _ _ (List.decidableBAll _ _) inferInstance

/-- A leaf written under `key` as the single line `key = V`, whose value reads back as the leaf
and is not a list's header. -/
structure LeafLine (key : String) (n : Node) (V : String) : Prop where
  writes : writeNode key n = .ok [key ++ " = " ++ V]
  reads : readTagged V = .ok n
  clean : CleanValue V
  value : V.startsWith "Array" = false

/-! ### The frame of a value -/

/-- A value cut into tag and content: its last character is dropped, whatever it is, and the rest
is cut at its first opening parenthesis. -/
theorem splitTagged_frame {tag : String} (content : String) (last : Char)
    (open_ : '(' ∉ tag.toList) :
    splitTagged (tag ++ "(" ++ content ++ last.toString) = .ok (tag, content) := by
  have body : String.ofList (tag ++ "(" ++ content ++ last.toString).toList.dropLast =
      tag ++ "(" ++ content := by
    rw [String.toList_append, Char.toString, String.toList_singleton, List.dropLast_concat,
      String.ofList_toList]
  unfold splitTagged
  simp only [body, splitOnAtMost_once content (show "(".toList = ['('] from rfl) open_]

theorem splitTagged_wrap {tag : String} (content : String) (open_ : '(' ∉ tag.toList) :
    splitTagged (tag ++ "(" ++ content ++ ")") = .ok (tag, content) :=
  splitTagged_frame content ')' open_

theorem cleanValue_wrap {tag content : String}
    (plainTag : tag.toList.all (fun c => !isLineBoundary c) = true)
    (plainContent : ∀ c ∈ content.toList, isLineBoundary c = false) :
    CleanValue (tag ++ "(" ++ content ++ ")") := by
  have last : (tag ++ "(" ++ content ++ ")").toList.getLast? = some ')' := by
    rw [show (tag ++ "(" ++ content ++ ")").toList = (tag ++ "(" ++ content).toList ++ [')'] by simp,
      List.getLast?_concat]
  refine ⟨fun c mem => ?_, last⟩
  simp only [String.toList_append, List.mem_append] at mem
  rcases mem with ((inTag | paren) | inContent) | paren
  · simpa using List.all_eq_true.mp plainTag c inTag
  · simp at paren; subst paren; decide
  · exact plainContent c inContent
  · simp at paren; subst paren; decide

theorem startsWith_array_eq_false {V : String} (first : V.toList.head? ≠ some 'A') :
    V.startsWith "Array" = false := by
  rw [Bool.eq_false_iff]
  intro starts
  obtain ⟨t, eq⟩ := String.startsWith_string_iff.mp starts
  rw [← eq] at first
  exact first rfl

/-- Stripping quotes from a quoted text whose own ends are no quotes gives the text. -/
theorem stripQuotes_quote {s : String} (clear : EndsClear (· == '"') s) :
    stripQuotes ("\"" ++ s ++ "\"") = s := by
  have ends := @dropEnds_pad _ ['"'] ['"'] _ (by simp) (by simp) clear
  unfold stripQuotes
  rw [show ("\"" ++ s ++ "\"").toList = ['"'] ++ s.toList ++ ['"'] by simp, ends,
    String.ofList_toList]

theorem stripQuotes_of_clear {s : String} (clear : EndsClear (· == '"') s) : stripQuotes s = s := by
  have ends := @dropEnds_pad _ [] [] _ (by simp) (by simp) clear
  unfold stripQuotes
  rw [show s.toList = [] ++ s.toList ++ [] by simp, ends, String.ofList_toList]

/-- A text whose characters are never quotes is clear of quotes at its ends. -/
theorem endsClear_of_forall {p : Char → Bool} {s : String} (none_ : ∀ c ∈ s.toList, p c = false) :
    EndsClear p s :=
  ⟨fun c first => none_ c (List.mem_of_head? first), fun c last => none_ c (List.mem_of_getLast? last)⟩

/-! ### Scalars -/

theorem intText_char {n : Int} {c : Char} (mem : c ∈ (Node.intText n).toList) :
    c.isDigit ∨ c = '-' := by
  unfold Node.intText at mem
  simp only [String.toList_append, String.toList_ofList, List.mem_append] at mem
  rcases mem with sign | digit
  · split at sign <;> simp at sign
    exact .inr sign
  · exact .inl (Nat.isDigit_of_mem_toDigits (by decide) (by decide) digit)

/-- A digit, a sign, a point or a letter is neither a quote, a comma nor a line boundary. -/
theorem plain_of_number_char {c : Char}
    (number : c.isDigit ∨ c = '-' ∨ c = '.' ∨ c = 'n' ∨ c = 'a' ∨ c = 'i' ∨ c = 'f') :
    c ≠ '"' ∧ c ≠ ',' ∧ isLineBoundary c = false := by
  rcases number with digit | rfl | rfl | rfl | rfl | rfl | rfl
  · simp only [Char.isDigit, Bool.and_eq_true, decide_eq_true_eq, UInt32.le_iff_toNat_le] at digit
    have low : ('0' : Char).val.toNat = 48 := rfl
    refine ⟨?_, ?_, ?_⟩
    · rintro rfl; simp at digit
    · rintro rfl; simp at digit
    · simp only [isLineBoundary, Char.toNat]
      have : c.val.toNat ≤ 57 := by simpa using digit.2
      simp only [Bool.or_eq_false_iff, Bool.and_eq_false_iff, decide_eq_false_iff_not, beq_eq_false_iff_ne]
      omega
  all_goals decide

theorem intTag_cases (key : Option String) :
    intTag key = "i32" ∨ intTag key = "u32" ∨ intTag key = "u64" := by
  unfold intTag
  split
  · simp
  · dsimp only
    repeat' split
    all_goals simp

theorem intText_plain {n : Int} :
    ∀ c ∈ (Node.intText n).toList, c ≠ '"' ∧ c ≠ ',' ∧ isLineBoundary c = false :=
  fun _ mem => plain_of_number_char ((intText_char mem).imp_right .inl)

/-- An integer of at most `maxWrittenDigits` digits reads back under each of its tags. -/
theorem readTagged_int {tag : String} (tagged : tag = "i32" ∨ tag = "u32" ∨ tag = "u64") {n : Int}
    (short : decimalLength n.natAbs ≤ maxWrittenDigits) :
    readTagged (tag ++ "(" ++ Node.intText n ++ ")") = .ok (.int n) := by
  have unquoted : stripQuotes (Node.intText n) = Node.intText n :=
    stripQuotes_of_clear (endsClear_of_forall fun c mem => by simpa using (intText_plain c mem).1)
  rcases tagged with rfl | rfl | rfl <;> rw [readTagged, splitTagged_wrap _ (by decide)] <;>
    simp [unquoted, readIntContent_intText short]

theorem leafLine_int (key : String) {n : Int} (short : decimalLength n.natAbs ≤ maxWrittenDigits) :
    LeafLine key (.int n) (intTag (some key) ++ "(" ++ Node.intText n ++ ")") := by
  have tagged := intTag_cases (some key)
  refine ⟨?_, readTagged_int tagged short, cleanValue_wrap ?_ fun c mem => (intText_plain c mem).2.2,
    ?_⟩
  · rw [writeNode.eq_3 _ _ (by simp) (by simp)]
    simp [writeTagged, intDigitsText, Nat.not_lt.mpr short]
  · rcases tagged with tag | tag | tag <;> rw [tag] <;> decide
  · rcases tagged with tag | tag | tag <;> exact startsWith_array_eq_false (by simp [tag])

theorem fixedText_plain {x : Float} :
    ∀ c ∈ (fixedText 6 x).toList, c ≠ '"' ∧ c ≠ ',' ∧ isLineBoundary c = false :=
  fun _ mem => plain_of_number_char (fixedText_char mem)

/-- A real that survives six places reads back under both of its tags. -/
theorem readTagged_real {tag : String} (tagged : tag = "f32" ∨ tag = "f64") {x : Float}
    (exact : readFloat (fixedText 6 x) = some x) :
    readTagged (tag ++ "(" ++ fixedText 6 x ++ ")") = .ok (.real x) := by
  have unquoted : stripQuotes (fixedText 6 x) = fixedText 6 x :=
    stripQuotes_of_clear (endsClear_of_forall fun c mem => by simpa using (fixedText_plain c mem).1)
  rcases tagged with rfl | rfl <;> rw [readTagged, splitTagged_wrap _ (by decide)] <;>
    simp [unquoted, readFloatContent, exact]

theorem leafLine_real (key : String) {x : Float} (exact : readFloat (fixedText 6 x) = some x) :
    LeafLine key (.real x)
      ((if key = "last_save_time" then "f64" else "f32") ++ "(" ++ fixedText 6 x ++ ")") := by
  refine ⟨?_, readTagged_real (by split <;> simp) exact,
    cleanValue_wrap ?_ fun c mem => (fixedText_plain c mem).2.2, ?_⟩
  · rw [writeNode.eq_3 _ _ (by simp) (by simp)]
    by_cases saveTime : key = "last_save_time" <;> simp [writeTagged, saveTime]
  · split <;> decide
  · split <;> exact startsWith_array_eq_false (by simp)

theorem text_framed (s : String) :
    "String(\"" ++ s ++ "\")" = "String" ++ "(" ++ ("\"" ++ s ++ "\"") ++ ")" := by
  rw [show "String(\"" = "String" ++ "(" ++ "\"" from rfl, show "\")" = "\"" ++ ")" from rfl]
  simp only [String.append_assoc]

/-- A text whose ends are no quotes reads back from its quoted form, whatever it holds between. -/
theorem readTagged_text {s : String} (clear : EndsClear (· == '"') s) :
    readTagged ("String(\"" ++ s ++ "\")") = .ok (.text s) := by
  rw [text_framed, readTagged, splitTagged_wrap _ (by decide)]
  simp [stripQuotes_quote clear]

theorem leafLine_text (key : String) {s : String}
    (plain : ∀ c ∈ s.toList, isLineBoundary c = false) (clear : EndsClear (· == '"') s) :
    LeafLine key (.text s) ("String(\"" ++ s ++ "\")") := by
  refine ⟨?_, readTagged_text clear, ?_, startsWith_array_eq_false (by simp)⟩
  · rw [writeNode.eq_3 _ _ (by simp) (by simp)]
    simp [writeTagged]
  · rw [text_framed]
    refine cleanValue_wrap (by decide) fun c mem => ?_
    simp only [String.toList_append, List.mem_append] at mem
    rcases mem with (quote | inText) | quote
    · simp at quote; subst quote; decide
    · exact plain c inText
    · simp at quote; subst quote; decide

theorem leafLine_bool (key : String) (b : Bool) :
    LeafLine key (.bool b) ("bool(" ++ (if b then "true" else "false") ++ ")") := by
  refine ⟨?_, ?_, ?_, startsWith_array_eq_false (by simp)⟩
  · rw [writeNode.eq_3 _ _ (by simp) (by simp)]
    simp [writeTagged]
  · have bare : stripQuotes "true" = "true" ∧ stripQuotes "false" = "false" := by decide
    rw [show "bool(" = "bool" ++ "(" from rfl, readTagged, splitTagged_wrap _ (by decide)]
    cases b <;> simp [bare]
  · rw [show "bool(" = "bool" ++ "(" from rfl]
    cases b <;> decide

/-- Every stage is spelled without quotes and line boundaries. -/
theorem Stage.value_plain (s : Stage) :
    ∀ c ∈ s.value.toList, c ≠ '"' ∧ isLineBoundary c = false := by
  have plain : s.value.toList.all (fun c => c != '"' && !isLineBoundary c) = true := by
    cases s <;> decide
  simpa using plain

theorem Stage.ofValue?_value (s : Stage) : Stage.ofValue? s.value = some s := by
  cases s <;> decide

theorem leafLine_stage (key : String) (s : Stage) :
    LeafLine key (.stage s) ("Enum_single(\"" ++ s.value ++ "\")") := by
  have framed : "Enum_single(\"" ++ s.value ++ "\")" =
      "Enum_single" ++ "(" ++ ("\"" ++ s.value ++ "\"") ++ ")" := by
    rw [show "Enum_single(\"" = "Enum_single" ++ "(" ++ "\"" from rfl,
      show "\")" = "\"" ++ ")" from rfl]
    simp only [String.append_assoc]
  have clear : EndsClear (· == '"') s.value :=
    endsClear_of_forall fun c mem => by simpa using (Stage.value_plain s c mem).1
  refine ⟨?_, ?_, ?_, startsWith_array_eq_false (by simp)⟩
  · rw [writeNode.eq_3 _ _ (by simp) (by simp)]
    simp [writeTagged]
  · rw [framed, readTagged, splitTagged_wrap _ (by decide)]
    simp [stripQuotes_quote clear, Stage.ofValue?_value]
  · rw [framed]
    refine cleanValue_wrap (by decide) fun c mem => ?_
    simp only [String.toList_append, List.mem_append] at mem
    rcases mem with (quote | inValue) | quote
    · simp at quote; subst quote; decide
    · exact (Stage.value_plain s c inValue).2
    · simp at quote; subst quote; decide

/-! ### Vectors and marks -/

theorem Kind.vector_cases {k : Kind} (vector : k.isVector = true) : k = .vec2 ∨ k = .vec3 := by
  cases k <;> simp_all [Kind.isVector]

theorem readFloatContent_fixedText {xs : List Float}
    (exact : ∀ x ∈ xs, readFloat (fixedText 6 x) = some x) :
    (xs.map (fixedText 6)).mapM readFloatContent = .ok xs := by
  rw [List.mapM_map]
  simpa using mapM_ok_of_forall (g := id) fun x mem => by simp [readFloatContent, exact x mem]

/-- A vector is written as its components with six places, separated by commas. -/
theorem writeTagged_vector (key : Option String) {k : Kind} (vector : k.isVector = true)
    {xs : List Float} (sized : xs.length = k.components.length) :
    writeTagged (.record k (k.components.zip (xs.map .real))) key =
      .ok (k.name ++ "(" ++ ", ".intercalate (xs.map (fixedText 6)) ++ ")") := by
  simp [vector, writeTagged, List.zip_map_right, Function.comp_def]
  rw [show (fun x : String × Float => fixedText 6 x.snd) = fixedText 6 ∘ Prod.snd from rfl,
    ← List.map_map, List.map_snd_zip (by omega)]

theorem leafLine_vector (key : String) {k : Kind} (vector : k.isVector = true) {xs : List Float}
    (sized : xs.length = k.components.length)
    (exact : ∀ x ∈ xs, readFloat (fixedText 6 x) = some x) :
    LeafLine key (.record k (k.components.zip (xs.map .real)))
      (k.name ++ "(" ++ ", ".intercalate (xs.map (fixedText 6)) ++ ")") := by
  have kinds := Kind.vector_cases vector
  have some_ : xs.map (fixedText 6) ≠ [] := by
    rcases kinds with rfl | rfl <;> cases xs <;> simp_all [Kind.components]
  have plain : ∀ c ∈ (", ".intercalate (xs.map (fixedText 6))).toList,
      c ≠ '"' ∧ isLineBoundary c = false := by
    intro c mem
    rcases mem_toList_intercalate mem with inSep | ⟨t, inTexts, inT⟩
    · simp at inSep
      rcases inSep with rfl | rfl <;> decide
    · obtain ⟨x, -, rfl⟩ := List.mem_map.mp inTexts
      exact ⟨(fixedText_plain c inT).1, (fixedText_plain c inT).2.2⟩
  have unquoted : stripQuotes (", ".intercalate (xs.map (fixedText 6))) =
      ", ".intercalate (xs.map (fixedText 6)) :=
    stripQuotes_of_clear (endsClear_of_forall fun c mem => by simpa using (plain c mem).1)
  have pieces : splitOn (", ".intercalate (xs.map (fixedText 6))) ", " = xs.map (fixedText 6) :=
    splitOn_intercalate (show ", ".toList = [',', ' '] from rfl) some_ fun t inTexts => by
      obtain ⟨x, -, rfl⟩ := List.mem_map.mp inTexts
      exact fun mem => (fixedText_plain ',' mem).2.1 rfl
  have built : vectorOf k xs = .ok (.record k (k.components.zip (xs.map .real))) := by
    simp [vectorOf, sized]
  refine ⟨?_, ?_, ?_, ?_⟩
  · rw [writeNode.eq_1]
    simp [vector, writeTagged_vector _ vector sized]
  · rcases kinds with rfl | rfl <;> rw [readTagged, splitTagged_wrap _ (by decide)] <;>
      simp [Kind.name, unquoted, pieces, readFloatContent_fixedText exact, built]
  · refine cleanValue_wrap (by rcases kinds with rfl | rfl <;> decide) fun c mem => (plain c mem).2
  · rcases kinds with rfl | rfl <;> exact startsWith_array_eq_false (by simp [Kind.name])

theorem Mark.value_plain (m : Mark) :
    ∀ c ∈ m.value.toList, c ≠ '"' ∧ isLineBoundary c = false := by
  have plain : m.value.toList.all (fun c => c != '"' && !isLineBoundary c) = true := by
    cases m <;> decide
  simpa using plain

theorem Mark.ofValue?_value (m : Mark) : Mark.ofValue? m.value = some m := by
  cases m <;> decide

theorem flagWord_mark (m : Mark) : flagWord (.mark m) = .ok ("\"" ++ m.value ++ "\"") := by
  have same : capitalizeWord m.value = m.value := by cases m <;> decide
  simp [flagWord, Node.attr?, same]

/-- Quoted words written one after another are the words joined by two quotes, in quotes. -/
theorem join_quoted : ∀ {ws : List String}, ws ≠ [] →
    String.join (ws.map fun w => "\"" ++ w ++ "\"") = "\"" ++ "\"\"".intercalate ws ++ "\""
  | [], nonempty => absurd rfl nonempty
  | [w], _ => by simp [String.join_cons, String.join_nil]
  | w :: v :: rest, _ => by
    rw [List.map_cons, String.join_cons, join_quoted (List.cons_ne_nil v rest),
      String.intercalate_cons_cons, show "\"\"" = "\"" ++ "\"" from rfl]
    simp only [String.append_assoc]

/-- The marks of a list under a flags key are one `Flags` value: each mark quoted, with nothing
between them. -/
theorem leafLine_flags {key : String}
    (flagged : (key.endsWith "flags" || key.endsWith "datapad.status") = true)
    (notPairs : key ≠ "pairs") (ms : List Mark) :
    LeafLine key (.list (ms.map .mark))
      ("Flags(" ++ String.join (ms.map fun m => "\"" ++ m.value ++ "\"") ++ ")") := by
  have kept : keptItems key (ms.map .mark) = .ok (ms.map Node.mark).attach := by
    have allKept : (ms.map Node.mark).attach.filter (fun x => !isBlankItem x.val) =
        (ms.map Node.mark).attach := by
      rw [List.filter_eq_self]
      intro ⟨x, mem⟩ _
      obtain ⟨m, -, rfl⟩ := List.mem_map.mp mem
      rfl
    simp [keptItems, notPairs, allKept]
  have content : ∀ c ∈ (String.join (ms.map fun m => "\"" ++ m.value ++ "\"")).toList,
      isLineBoundary c = false := by
    intro c mem
    simp only [String.toList_join, List.mem_flatMap, List.mem_map] at mem
    obtain ⟨_, ⟨m, -, rfl⟩, inWord⟩ := mem
    simp only [String.toList_append, List.mem_append] at inWord
    rcases inWord with (quote | inValue) | quote
    · simp at quote; subst quote; decide
    · exact (Mark.value_plain m c inValue).2
    · simp at quote; subst quote; decide
  refine ⟨?_, ?_, ?_, startsWith_array_eq_false (by simp)⟩
  · have words : ((ms.map Node.mark).attach.mapM fun x => flagWord x.val) =
        .ok (ms.map fun m => "\"" ++ m.value ++ "\"") := by
      rw [List.mapM_subtype (g := flagWord) (fun _ _ => rfl), List.unattach_attach, List.mapM_map]
      exact mapM_ok_of_forall fun m _ => flagWord_mark m
    rw [writeNode.eq_2]
    simp only [kept, flagged, words, except_ok_bind, if_true]
    rw [show " = Flags(" = " = " ++ "Flags(" from rfl]
    simp only [String.append_assoc, except_pure]
  · rw [show "Flags(" = "Flags" ++ "(" from rfl, readTagged, splitTagged_wrap _ (by decide)]
    cases ms with
    | nil =>
      have bare : stripQuotes "" = "" := by decide
      simp [String.join_nil, bare, splitOn, splitAux]
    | cons m rest =>
      have nonempty : (m :: rest).map Mark.value ≠ [] := by simp
      have named : ∀ v ∈ (m :: rest).map Mark.value, v ≠ "" := by
        intro v mem
        obtain ⟨m', -, rfl⟩ := List.mem_map.mp mem
        cases m' <;> decide
      have unquoted : ∀ v ∈ (m :: rest).map Mark.value, '"' ∉ v.toList := by
        intro v mem inV
        obtain ⟨m', -, rfl⟩ := List.mem_map.mp mem
        exact (Mark.value_plain m' '"' inV).1 rfl
      have joined : String.join ((m :: rest).map fun m => "\"" ++ m.value ++ "\"") =
          "\"" ++ "\"\"".intercalate ((m :: rest).map Mark.value) ++ "\"" := by
        rw [← join_quoted nonempty, List.map_map]
        rfl
      have stripped := stripQuotes_quote (@endsClear_intercalate _ "\"\"" _ named
        fun v mem => endsClear_of_forall fun c inV => by
          simp only [beq_eq_false_iff_ne]
          rintro rfl
          exact unquoted v mem inV)
      have pieces : splitOn ("\"\"".intercalate ((m :: rest).map Mark.value)) "\"\"" =
          (m :: rest).map Mark.value :=
        splitOn_intercalate (show "\"\"".toList = ['"', '"'] from rfl) nonempty unquoted
      have words : ((m :: rest).map Mark.value).filter (· != "") = (m :: rest).map Mark.value :=
        List.filter_eq_self.mpr fun v mem => by simpa using named v mem
      have marks : ∀ read : String → Except Fault Node, (∀ m : Mark, read m.value = .ok (.mark m)) →
          ((m :: rest).map Mark.value).mapM read = .ok ((m :: rest).map Node.mark) := by
        intro read each
        rw [List.mapM_map]
        exact mapM_ok_of_forall fun m' _ => each m'
      simp only [joined, stripped, pieces, words, except_ok_bind]
      rw [marks _ fun m' => by simp [Mark.ofValue?_value]]
      rfl
  · rw [show "Flags(" = "Flags" ++ "(" from rfl]
    exact cleanValue_wrap (by decide) content

/-! ### Values of unknown tags -/

/-- The tags that name a way of reading a value. -/
def knownTags : List String :=
  ["i32", "u32", "u64", "String", "bool", "f32x3", "f32x2", "f32", "f64", "Enum_single", "Flags"]

/-- A value whose tag names no way of reading it reads as nothing, without a fault. -/
theorem readTagged_unknown {tag : String} (unknown : tag ∉ knownTags) (open_ : '(' ∉ tag.toList)
    (content : String) (last : Char) :
    readTagged (tag ++ "(" ++ content ++ last.toString) = .ok .none := by
  simp only [knownTags, List.mem_cons, List.not_mem_nil, or_false, not_or] at unknown
  obtain ⟨i32, u32, u64, str, bool, f32x3, f32x2, f32, f64, stage, flags⟩ := unknown
  unfold readTagged
  rw [splitTagged_frame content last open_]
  simp

/-- A content line whose value has a tag that names no way of reading it is not refused: it
assigns nothing at the path its key spells, in place of what the field held. -/
theorem applyLine_unknownTag (words : WordAttrs) (save : Node) (group : String) {key mid tag : String}
    (keySpaceless : ' ' ∉ key.toList) (midSpaceless : ' ' ∉ mid.toList)
    (unknown : tag ∉ knownTags) (open_ : '(' ∉ tag.toList) (content : String) (last : Char)
    (notHeader : (tag ++ "(" ++ content ++ last.toString).startsWith "Array" = false) :
    applyLine words save ⟨group, key ++ " " ++ mid ++ " " ++ (tag ++ "(" ++ content ++ last.toString)⟩ =
      assignPath (.ok .none) words save (splitOn (lowerText group ++ "." ++ key) ".") := by
  rw [applyLine.eq_1]
  simp only [splitOnAtMost_words _ keySpaceless midSpaceless, notHeader, Bool.false_eq_true,
    if_false, readTagged_unknown unknown open_]

theorem applyLine_unknownTag_version :
    ' ' ∉ "version".toList ∧ ' ' ∉ "=".toList ∧ "xyz" ∉ knownTags ∧ '(' ∉ "xyz".toList ∧
      ("xyz" ++ "(" ++ "5" ++ ')'.toString).startsWith "Array" = false ∧
      applyLine .empty freshSave
          ⟨"Save", "version" ++ " " ++ "=" ++ " " ++ ("xyz" ++ "(" ++ "5" ++ ')'.toString)⟩ =
        assignPath (.ok .none) .empty freshSave (splitOn (lowerText "Save" ++ "." ++ "version") ".") :=
  ⟨by decide, by decide, by decide, by decide, by with_unfolding_all decide,
    applyLine_unknownTag .empty freshSave "Save" (by decide) (by decide) (by decide) (by decide) "5" ')'
      (by with_unfolding_all decide)⟩

end GinSave.Save
