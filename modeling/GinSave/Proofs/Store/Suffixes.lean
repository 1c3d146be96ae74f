import GinSave.Store.Path

/-! The suffix loops of a path. Each takes the suffix off the last name of a path for as long as
a condition holds: while there is a suffix at all (`stripAll`), or while there is one other than
`.gin` (`stripToGin`, whose suffixes taken off are `ginTail`). A run of such a loop is the
relation `TakesOff keep p taken q`: from `p`, taking suffixes off while `keep` holds, the loop
stops at `q` having taken `taken`, first taken first.

A suffix taken off is the end of the name, which the rest of the name and the suffix make again
(`name_dropSuffix_append`), and it is never empty, so every step shortens the name. The functions
run their loops for as many rounds as the name has characters, which is therefore always enough:
each of them stops where its loop stops, not where its rounds run out (`suffix_loops_split_name`). -/

namespace GinSave.Store

/-- The loop `while keep p: p := p.dropSuffix` started at `p` stops at `q`, having taken the
suffixes `taken` off, the first taken first. -/
inductive TakesOff (keep : FsPath → Bool) : FsPath → List String → FsPath → Prop
  | stop {p : FsPath} : keep p = false → TakesOff keep p [] p
  | drop {p q : FsPath} {taken : List String} : keep p = true →
      TakesOff keep p.dropSuffix taken q → TakesOff keep p (p.suffix :: taken) q

/-- Whether the last name has a suffix: the condition of the loop that takes all of them off. -/
def FsPath.hasSuffix (p : FsPath) : Bool :=
  p.suffix != ""

/-- Whether the last name has a suffix other than `.gin`: the condition of the loops that stop at
the `.gin` part of a name. -/
def FsPath.hasSuffixPastGin (p : FsPath) : Bool :=
  p.suffix != "" && p.suffix != ".gin"

/-! ### One suffix -/

/-- A name is its stem followed by its suffix. -/
theorem nameStem_append_nameSuffix (name : String) : nameStem name ++ nameSuffix name = name := by
  unfold nameStem nameSuffix
  cases suffixStart name with
  | none => simp
  | some i => rw [← String.ofList_append, List.take_append_drop, String.ofList_toList]

@[simp] theorem FsPath.name_withName (p : FsPath) (n : String) : (p.withName n).name = n := by
  simp [FsPath.withName, FsPath.name]

/-- Taking the suffix off leaves the name that the suffix completes. -/
theorem FsPath.name_dropSuffix_append (p : FsPath) : p.dropSuffix.name ++ p.suffix = p.name := by
  unfold FsPath.dropSuffix
  by_cases none : p.suffix = ""
  · simp [none]
  · rw [if_neg (by simpa using none), FsPath.name_withName]
    exact nameStem_append_nameSuffix p.name

/-- Taking a suffix off shortens the name. -/
theorem FsPath.name_length_dropSuffix {p : FsPath} (has : p.hasSuffix = true) :
    p.dropSuffix.name.length < p.name.length := by
  have whole := congrArg String.length p.name_dropSuffix_append
  have nonempty : p.suffix ≠ "" := by simpa [FsPath.hasSuffix] using has
  have positive : 0 < p.suffix.length :=
    Nat.pos_of_ne_zero fun zero => nonempty (String.length_eq_zero_iff.mp zero)
  rw [String.length_append] at whole
  omega

theorem FsPath.hasSuffix_of_pastGin {p : FsPath} (past : p.hasSuffixPastGin = true) :
    p.hasSuffix = true := by
  simp only [FsPath.hasSuffixPastGin, Bool.and_eq_true] at past
  exact past.1

/-! ### Runs of the loops -/

namespace TakesOff

variable {keep : FsPath → Bool} {p q : FsPath} {taken : List String}

/-- A loop stops only where its condition fails. -/
theorem stops (run : TakesOff keep p taken q) : keep q = false := by
  induction run with
  | stop fails => exact fails
  | drop _ _ ih => exact ih

/-- What a loop stops at, followed by the suffixes it took off in the order they stood, is the
name it started from. By induction on the run; each step is `name_dropSuffix_append`. -/
theorem name_append (run : TakesOff keep p taken q) : q.name ++ String.join taken.reverse = p.name := by
  induction run with
  | stop => simp
  | @drop p q taken _ _ ih =>
    rw [List.reverse_cons, String.join_append, ← String.append_assoc, ih]
    simpa using p.name_dropSuffix_append

end TakesOff

/-- Given as many rounds as the name has characters, the loop that takes all suffixes off runs
to its end. By induction on the rounds: every step shortens the name. -/
theorem withoutSuffixes_takesOff :
    ∀ (n : Nat) (p : FsPath), p.name.length ≤ n →
      ∃ taken, TakesOff FsPath.hasSuffix p taken (p.withoutSuffixes n)
  | 0, p, short => by
    -- an empty name has no suffix to take off
    have none : p.hasSuffix = false := by
      cases has : p.hasSuffix
      · rfl
      · have := FsPath.name_length_dropSuffix has
        omega
    exact ⟨[], .stop none⟩
  | n + 1, p, short => by
    cases has : p.hasSuffix
    · have bare : p.suffix = "" := by simpa [FsPath.hasSuffix] using has
      exact ⟨[], by simpa [FsPath.withoutSuffixes, bare] using TakesOff.stop has⟩
    · have shorter := FsPath.name_length_dropSuffix has
      obtain ⟨taken, rest⟩ := withoutSuffixes_takesOff n p.dropSuffix (by omega)
      have suffixed : (p.suffix == "") = false := by simpa [FsPath.hasSuffix] using has
      exact ⟨p.suffix :: taken, by simpa [FsPath.withoutSuffixes, suffixed] using rest.drop has⟩

/-- Given as many rounds as the name has characters, the loop that stops at `.gin` runs to its
end, and the suffixes collected on the way are those it took off, last taken first. By induction
on the rounds. -/
theorem untilGin_takesOff :
    ∀ (n : Nat) (p : FsPath), p.name.length ≤ n →
      TakesOff FsPath.hasSuffixPastGin p (p.suffixesAfterGin n).reverse (p.untilGin n)
  | 0, p, short => by
    have none : p.hasSuffixPastGin = false := by
      cases past : p.hasSuffixPastGin
      · rfl
      · have := FsPath.name_length_dropSuffix (FsPath.hasSuffix_of_pastGin past)
        omega
    exact .stop none
  | n + 1, p, short => by
    cases past : p.hasSuffixPastGin
    · have stopped : (p.suffix == "" || p.suffix == ".gin") = true := by
        simp only [FsPath.hasSuffixPastGin, Bool.and_eq_false_iff, bne_eq_false_iff_eq] at past
        simpa using past
      simpa [FsPath.untilGin, FsPath.suffixesAfterGin, stopped] using TakesOff.stop past
    · have shorter := FsPath.name_length_dropSuffix (FsPath.hasSuffix_of_pastGin past)
      have goesOn : (p.suffix == "" || p.suffix == ".gin") = false := by
        simpa [FsPath.hasSuffixPastGin] using past
      have rest := untilGin_takesOff n p.dropSuffix (by omega)
      simpa [FsPath.untilGin, FsPath.suffixesAfterGin, goesOn] using rest.drop past

/-- The suffix helpers run their loops to the end and split a name without loss. Taking every
suffix off stops, at a path without suffix whose name begins the original one; taking suffixes
off down to `.gin` stops, at a path whose suffix is `.gin` or none, and the suffixes it took off,
in the order they stood, complete the name of where it stopped to the original name. -/
theorem suffix_loops_split_name (p : FsPath) :
    (∃ taken, TakesOff FsPath.hasSuffix p taken p.stripAll) ∧
      TakesOff FsPath.hasSuffixPastGin p p.ginTail.reverse p.stripToGin ∧
      p.stripToGin.name ++ String.join p.ginTail = p.name ∧
      (p.stripToGin.suffix = "" ∨ p.stripToGin.suffix = ".gin") ∧
      p.stripAll.suffix = "" ∧ ∃ rest, p.stripAll.name ++ rest = p.name := by
  obtain ⟨taken, all⟩ : ∃ taken, TakesOff FsPath.hasSuffix p taken p.stripAll :=
    withoutSuffixes_takesOff p.name.length p (Nat.le_refl _)
  have toGin : TakesOff FsPath.hasSuffixPastGin p p.ginTail.reverse p.stripToGin :=
    untilGin_takesOff p.name.length p (Nat.le_refl _)
  refine ⟨⟨taken, all⟩, toGin, ?_, ?_, ?_, _, all.name_append⟩
  · simpa using toGin.name_append
  · have stopped := toGin.stops
    simp only [FsPath.hasSuffixPastGin, Bool.and_eq_false_iff, bne_eq_false_iff_eq] at stopped
    exact stopped
  · simpa [FsPath.hasSuffix] using all.stops

example : (FsPath.parse "data/a.b.gin.reloc.x").ginTail = [".reloc", ".x"] := by with_unfolding_all decide

end GinSave.Store
