import GinSave.Proofs.Save.Values
import GinSave.Proofs.Number.Decimal

/-! The single-value codec: a value written under a key, and the text written read back. The key
only picks the tag, and every tag of a kind is read the same way, so a truth value, an integer of
at most `maxWrittenDigits` digits, a text whose ends are no quotes, a stage, and a real or a
vector whose components survive six places come back as themselves, of the same kind, under any
key or none (`readTagged_writeTagged`). Nothing else does: a text that starts or ends with a quote
comes back without it, since reading strips every quote at the ends of the content, and an
integer of more digits is refused when written (`tagged_roundTrip_limits`). -/

namespace GinSave.Save

open GinSave.Text GinSave.Number

/-- The values the codec carries back. -/
inductive Codable : Node → Prop
  | bool (b : Bool) : Codable (.bool b)
  | int {n : Int} (short : decimalLength n.natAbs ≤ maxWrittenDigits) : Codable (.int n)
  | text {s : String} (clear : EndsClear (· == '"') s) : Codable (.text s)
  | stage (s : Stage) : Codable (.stage s)
  | real {x : Float} (exact : readFloat (fixedText 6 x) = some x) : Codable (.real x)
  | vector {k : Kind} (vector : k.isVector = true) {xs : List Float}
      (sized : xs.length = k.components.length)
      (exact : ∀ x ∈ xs, readFloat (fixedText 6 x) = some x) :
      Codable (.record k (k.components.zip (xs.map .real)))

theorem writeTagged_int (key : Option String) {n : Int}
    (short : decimalLength n.natAbs ≤ maxWrittenDigits) :
    writeTagged (.int n) key = .ok (intTag key ++ "(" ++ Node.intText n ++ ")") := by
  simp [writeTagged, intDigitsText, Nat.not_lt.mpr short]

theorem writeTagged_long_int (key : Option String) {n : Int}
    (long : maxWrittenDigits < decimalLength n.natAbs) :
    writeTagged (.int n) key = .error .intTooLongToWrite := by
  simp [writeTagged, intDigitsText, long]

theorem writeTagged_real (key : Option String) (x : Float) :
    writeTagged (.real x) key =
      .ok ((if key = some "last_save_time" then "f64" else "f32") ++ "(" ++ fixedText 6 x ++ ")") := by
  by_cases saveTime : key = some "last_save_time" <;> simp [writeTagged, saveTime]

/-- A codable value written under any key, or none, reads back as itself. -/
theorem readTagged_writeTagged (key : Option String) {v : Node} (codable : Codable v) :
    ∃ V, writeTagged v key = .ok V ∧ readTagged V = .ok v := by
  cases codable with
  | bool b => exact ⟨_, rfl, (leafLine_bool "" b).reads⟩
  | int short => exact ⟨_, writeTagged_int key short, readTagged_int (intTag_cases key) short⟩
  | text clear => exact ⟨_, rfl, readTagged_text clear⟩
  | stage s => exact ⟨_, rfl, (leafLine_stage "" s).reads⟩
  | real exact => exact ⟨_, writeTagged_real key _, readTagged_real (by split <;> simp) exact⟩
  | vector vector sized exact =>
    exact ⟨_, writeTagged_vector key vector sized, (leafLine_vector "" vector sized exact).reads⟩

/-- The save's default checkpoint position, written under its key, reads back. -/
theorem readTagged_writeTagged_checkpoint :
    Codable (.record .vec3 (Kind.vec3.components.zip ([-1000, 4426, 0].map .real))) ∧
      ∃ V, writeTagged (.record .vec3 (Kind.vec3.components.zip ([-1000, 4426, 0].map .real)))
          (some "checkpoint_world_pos") = .ok V ∧
        readTagged V = .ok (.record .vec3 (Kind.vec3.components.zip ([-1000, 4426, 0].map .real))) :=
  have codable : Codable (.record .vec3 (Kind.vec3.components.zip ([-1000, 4426, 0].map .real))) :=
    .vector rfl rfl (by decide +kernel)
  ⟨codable, readTagged_writeTagged _ codable⟩

/-- A lone quote is written `String(""")` and reads back as the empty text, and `10^4300`, of
4301 digits, is refused when written. -/
theorem tagged_roundTrip_limits :
    writeTagged (.text "\"") none = .ok "String(\"\"\")" ∧
      readTagged "String(\"\"\")" = .ok (.text "") ∧
      writeTagged (.int (10 ^ maxWrittenDigits)) none = .error .intTooLongToWrite := by
  have stripped : stripQuotes "\"\"\"" = "" := by decide
  have read : readTagged "String(\"\"\")" = .ok (.text "") := by
    rw [show "String(\"\"\")" = "String" ++ "(" ++ "\"\"\"" ++ ")" by decide, readTagged,
      splitTagged_wrap _ (by decide)]
    simp [stripped]
  have long : maxWrittenDigits < decimalLength ((10 : Int) ^ maxWrittenDigits).natAbs := by
    rw [Int.natAbs_pow, show (10 : Int).natAbs = 10 from rfl, decimalLength_pow_ten]
    exact Nat.lt_succ_self _
  exact ⟨rfl, read, writeTagged_long_int none long⟩

end GinSave.Save
