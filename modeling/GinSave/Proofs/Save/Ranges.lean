import GinSave.Proofs.Save.Tags

/-! The range of the integers the writer writes. The check bounds only the 64-bit words, to
`0 ≤ n ≤ 2 ^ 64 - 1`; a 32-bit word and any other integer are taken as given, of at most
`maxWrittenDigits` digits. The tag of an integer comes from the schema's shape at its key
(`written_int_at`), so every integer written `u64` lies in its range
(`written_words64_in_range`), while a `u32` or an `i32` may not
(`written_int_literals_unbounded`). -/

namespace GinSave.Save

open GinSave.Text GinSave.Number GinSave.Json

theorem Shape.intTag_eq_u64 {sh : Shape} : sh.intTag = "u64" ↔ sh = .word64 := by
  cases sh <;> simp [Shape.intTag]

theorem Conforms.word64_range {n : Int} (conf : Conforms .word64 (.int n)) :
    0 ≤ n ∧ n ≤ 2 ^ 64 - 1 := by
  cases conf with
  | int _ _ ranged => exact ranged rfl

/-- The arguments of a document that give one block an object of integer members: the block's
name and its members as integers, or `none` for arguments of any other form. A test that runs on
fixed documents, where the arguments themselves cannot be compared. -/
def blockIntegers? : Except Fault (List (String × Value)) → Option (String × List (String × Int))
  | .ok [(block, .obj members)] =>
    (members.mapM fun (m : String × Value) => match m.2 with
      | .int n => some (m.1, n)
      | _ => none).map fun ints => (block, ints)
  | _ => none

theorem mapM_intMembers : ∀ {members : List (String × Value)} {ints : List (String × Int)},
    (members.mapM fun (m : String × Value) => match m.2 with
      | .int n => some (m.1, n)
      | _ => none) = some ints → members = ints.map fun m => (m.1, Value.int m.2)
  | [], ints, mapped => by
    simp only [List.mapM_nil, pure, Option.some.injEq] at mapped
    simp [← mapped]
  | (k, v) :: rest, ints, mapped => by
    rw [List.mapM_cons] at mapped
    cases v
    case int n =>
      cases more : rest.mapM fun (m : String × Value) => match m.2 with
        | .int n => some (m.1, n)
        | _ => none with
      | none => simp [more] at mapped
      | some others =>
        simp only [more, Option.bind_some, bind, pure, Option.some.injEq] at mapped
        subst mapped
        simp [mapM_intMembers more]
    all_goals simp at mapped

theorem blockIntegers?_eq {r : Except Fault (List (String × Value))} {block : String}
    {ints : List (String × Int)} (found : blockIntegers? r = some (block, ints)) :
    r = .ok [(block, .obj (ints.map fun m => (m.1, Value.int m.2)))] := by
  unfold blockIntegers? at found
  split at found
  · obtain ⟨ints', mapped, same⟩ := Option.map_eq_some_iff.mp found
    simp only [Prod.mk.injEq] at same
    obtain ⟨rfl, rfl⟩ := same
    rw [mapM_intMembers mapped]
  · cases found

/-- Every integer the writer puts on a line of its own in a block of a checked save is written
with the tag of its key, and one written `u64` lies within `0` and `2 ^ 64 - 1`. -/
theorem written_words64_in_range {doc : String} {m : Node}
    (checked : checkSaveDocument doc = .ok m) {b : String} {kb : Kind}
    (block : Kind.root.shapeOf? b = some (.record kb)) {x : Node}
    (found : m.attr? b = .ok x) {K : String} {n : Int} (writes : x.Writes "" K (.int n)) :
    (∀ lines, writeNode "" x = .ok lines →
      K ++ " = " ++ intTag (some K) ++ "(" ++ Node.intText n ++ ")" ∈ lines) ∧
    (intTag (some K) = "u64" → 0 ≤ n ∧ n ≤ 2 ^ 64 - 1) := by
  refine ⟨fun lines written => writes.int_line written, fun wide => ?_⟩
  obtain ⟨p, sh, -, -, fits, tagged⟩ := written_int_at checked block found writes
  -- the key's tag is the shape's, and only a 64-bit word is tagged `u64`
  have word : sh = .word64 := Shape.intTag_eq_u64.mp (tagged ▸ wide)
  subst word
  rcases fits with conf | any
  · exact conf.word64_range
  · cases any

/-- The identity of a save given as `2 ^ 64 - 1`, the largest 64-bit word, is checked and written
`u64`. -/
theorem written_words64_in_range_maxId :
    ∃ m x, checkSaveDocument "\x7b\"save\":\x7b\"id\":18446744073709551615\x7d\x7d" = .ok m ∧
      Kind.root.shapeOf? "save" = some (.record .save) ∧ m.attr? "save" = .ok x ∧
      x.Writes "" "id" (.int 18446744073709551615) ∧
      (∀ lines, writeNode "" x = .ok lines →
        "id" ++ " = " ++ intTag (some "id") ++ "(" ++ Node.intText 18446744073709551615 ++ ")" ∈
          lines) ∧
      (intTag (some "id") = "u64" →
        0 ≤ (18446744073709551615 : Int) ∧ (18446744073709551615 : Int) ≤ 2 ^ 64 - 1) := by
  have args :
      documentArguments Kind.root.name "\x7b\"save\":\x7b\"id\":18446744073709551615\x7d\x7d" =
      .ok [("save", .obj [("id", .int 18446744073709551615)])] :=
    @blockIntegers?_eq _ "save" [("id", 18446744073709551615)] (by with_unfolding_all decide)
  obtain ⟨m, fs, checked, found, mem⟩ : ∃ m fs,
      checkSaveDocument "\x7b\"save\":\x7b\"id\":18446744073709551615\x7d\x7d" = .ok m ∧
        m.attr? "save" = .ok (.record .save fs) ∧ ("id", .int 18446744073709551615) ∈ fs := by
    simp [checkSaveDocument, args, schemaDepth, checkFields, Kind.fields, checkShape,
      checkRecordValue, recordArguments, checkArguments, Kind.isVector, Kind.components,
      checkScalar, coerceInt, Node.attr?]
  have block : Kind.root.shapeOf? "save" = some (.record .save) := rfl
  have writes : Node.Writes "" (.record .save fs) "id" (.int 18446744073709551615) :=
    .field rfl mem rfl (.self rfl (by simp))
  exact ⟨m, _, checked, block, found, writes,
    written_words64_in_range checked block found writes⟩

/-- The check bounds neither 32-bit words nor other integers: details that give the count of liquid
nacres, a 32-bit word, as `-1` and the count of solidified nacres as `2 ^ 31` are checked, and
written `u32(-1)` and `i32(2147483648)`. -/
theorem written_int_literals_unbounded :
    ∃ m x lines, checkSaveDocument
        "\x7b\"saved_not_important\":\x7b\"liquid_nacres_count\":-1,\"solidify_nacre_count\":2147483648\x7d\x7d"
        = .ok m ∧
      m.attr? "saved_not_important" = .ok x ∧ writeNode "" x = .ok lines ∧
      "liquid_nacres_count = u32(-1)" ∈ lines ∧
      "solidify_nacre_count = i32(2147483648)" ∈ lines := by
  have args : documentArguments Kind.root.name
      "\x7b\"saved_not_important\":\x7b\"liquid_nacres_count\":-1,\"solidify_nacre_count\":2147483648\x7d\x7d" =
      .ok [("saved_not_important",
        .obj [("liquid_nacres_count", .int (-1)), ("solidify_nacre_count", .int 2147483648)])] :=
    @blockIntegers?_eq _ "saved_not_important"
      [("liquid_nacres_count", -1), ("solidify_nacre_count", 2147483648)] (by with_unfolding_all decide)
  obtain ⟨m, checked, found⟩ : ∃ m, checkSaveDocument
      "\x7b\"saved_not_important\":\x7b\"liquid_nacres_count\":-1,\"solidify_nacre_count\":2147483648\x7d\x7d"
      = .ok m ∧
      m.attr? "saved_not_important" = .ok (.record .notImportant [("playtime", .real 0),
        ("last_save_time", .real 0), ("liquid_nacres_count", .int (-1)),
        ("solidify_nacre_count", .int 2147483648)]) := by
    simp [checkSaveDocument, args, schemaDepth, checkFields, Kind.fields, checkShape,
      checkRecordValue, recordArguments, checkArguments, Kind.isVector, Kind.components,
      checkScalar, coerceInt, seedNode, Node.attr?]
  have shortNeg : decimalLength (-1 : Int).natAbs ≤ maxWrittenDigits := by
    simp [decimalLength, maxWrittenDigits]
  have shortBig : decimalLength (2147483648 : Int).natAbs ≤ maxWrittenDigits :=
    (decimalLength_le_of_lt_pow (k := 10) (by decide) (by decide)).trans (by decide)
  have written := writeNode_record "" (k := .notImportant) rfl [("playtime", .real 0),
    ("last_save_time", .real 0), ("liquid_nacres_count", .int (-1)),
    ("solidify_nacre_count", .int 2147483648)]
  simp [fieldLines, Node.isNothing, joinKey, (leafLine_real _ readFloat_fixedText_zero).writes,
    (leafLine_int _ shortNeg).writes, (leafLine_int _ shortBig).writes] at written
  exact ⟨m, _, _, checked, found, written, (by with_unfolding_all decide : _ ∧ _)⟩

end GinSave.Save
