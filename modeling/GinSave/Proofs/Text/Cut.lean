import Mathlib
import GinSave.Text.Split

/-! Cutting a text at a separator whose first character the pieces never hold: the cut falls
exactly between the pieces, so cutting a joined text gives the pieces back, and a bounded cut
keeps everything after its last cut whole. -/

namespace GinSave.Text

theorem splitAux_zero (sep s acc : List Char) : splitAux sep 0 s acc = [acc.reverse ++ s] := by
  induction s generalizing acc with
  | nil => simp [splitAux]
  | cons c rest ih =>
    rw [splitAux]
    simp [ih]

/-- A text without the separator's first character is never cut. -/
theorem splitAux_of_not_mem {d : Char} {ds s : List Char} (limit : Nat) (acc : List Char)
    (absent : d ∉ s) : splitAux (d :: ds) limit s acc = [acc.reverse ++ s] := by
  induction s generalizing acc with
  | nil => simp [splitAux]
  | cons c rest ih =>
    have other : (d == c) = false := by
      rw [beq_eq_false_iff_ne]
      rintro rfl
      exact absent List.mem_cons_self
    rw [splitAux]
    simp [List.isPrefixOf, other, ih (c :: acc) (fun h => absent (List.mem_cons_of_mem c h))]

/-- The first cut falls at the first separator, when the text before it does not hold the
separator's first character. -/
theorem splitAux_cut {d : Char} {ds a : List Char} (b : List Char) (limit : Nat)
    (acc : List Char) (absent : d ∉ a) :
    splitAux (d :: ds) (limit + 1) (a ++ (d :: ds) ++ b) acc =
      (acc.reverse ++ a) :: splitAux (d :: ds) limit b [] := by
  induction a generalizing acc with
  | nil =>
    rw [List.nil_append, List.cons_append, splitAux]
    have lead : (d :: ds).isPrefixOf (d :: (ds ++ b)) = true :=
      List.isPrefixOf_iff_prefix.mpr (List.prefix_append (d :: ds) b)
    simp [lead]
  | cons c rest ih =>
    have other : (d == c) = false := by
      rw [beq_eq_false_iff_ne]
      rintro rfl
      exact absent List.mem_cons_self
    rw [List.cons_append, List.cons_append, splitAux]
    simp only [List.isPrefixOf, other, Bool.false_and, Bool.and_false, Bool.false_eq_true,
      if_false]
    rw [ih (c :: acc) (fun h => absent (List.mem_cons_of_mem c h))]
    simp

theorem splitAux_intercalate {d : Char} {ds : List Char} :
    ∀ (parts : List (List Char)) (limit : Nat), parts ≠ [] → parts.length ≤ limit + 1 →
      (∀ p ∈ parts, d ∉ p) → splitAux (d :: ds) limit ((d :: ds).intercalate parts) [] = parts
  | [], _, nonempty, _, _ => absurd rfl nonempty
  | [p], limit, _, _, absent => by
    simp [splitAux_of_not_mem limit [] (absent p List.mem_cons_self)]
  | p :: q :: rest, limit, _, short, absent => by
    obtain ⟨limit, rfl⟩ : ∃ l, limit = l + 1 := ⟨limit - 1, by simp at short; omega⟩
    have tail := @splitAux_intercalate d ds (q :: rest) limit (List.cons_ne_nil q rest)
      (by simp at short ⊢; omega) (fun x mem => absent x (List.mem_cons_of_mem p mem))
    rw [List.intercalate_cons_cons, List.append_assoc,
      ← List.append_assoc p, splitAux_cut _ _ _ (absent p List.mem_cons_self), tail]
    simp

/-- Each separator adds a character, so a joined text is at least one shorter than its number
of pieces: enough cuts for `splitOn`, which cuts at most as often as the text is long. -/
theorem length_intercalate_cons {d : Char} {ds : List Char} :
    ∀ parts : List (List Char), parts.length ≤ ((d :: ds).intercalate parts).length + 1
  | [] => by simp
  | [_] => by simp
  | p :: q :: rest => by
    have tail := @length_intercalate_cons d ds (q :: rest)
    simp only [List.intercalate_cons_cons, List.length_append, List.length_cons] at tail ⊢
    omega

theorem splitOn_intercalate {sep : String} {d : Char} {ds : List Char}
    (lead : sep.toList = d :: ds) {parts : List String} (nonempty : parts ≠ [])
    (absent : ∀ p ∈ parts, d ∉ p.toList) : splitOn (sep.intercalate parts) sep = parts := by
  have pieces : (parts.map String.toList) ≠ [] := by simpa using nonempty
  have bound := @length_intercalate_cons d ds (parts.map String.toList)
  rw [List.length_map] at bound
  unfold splitOn
  rw [String.toList_intercalate, lead, ← String.length_toList, String.toList_intercalate, lead,
    splitAux_intercalate _ _ pieces (by simpa using bound) (by simpa using absent)]
  simp

/-- A line of three words cut at its first two blanks, with a first and a second word that hold
no blank: the third word keeps its own blanks. -/
theorem splitOnAtMost_words {key mid : String} (value : String) (keySpaceless : ' ' ∉ key.toList)
    (midSpaceless : ' ' ∉ mid.toList) :
    splitOnAtMost (key ++ " " ++ mid ++ " " ++ value) " " 2 = [key, mid, value] := by
  have pieces : (key ++ " " ++ mid ++ " " ++ value).toList =
      key.toList ++ [' '] ++ (mid.toList ++ [' '] ++ value.toList) := by
    simp [String.toList_append]
  unfold splitOnAtMost
  rw [pieces, show (" " : String).toList = [' '] from rfl, splitAux_cut _ 1 _ keySpaceless,
    splitAux_cut _ 0 _ midSpaceless, splitAux_zero]
  simp

/-- A line `key = value` cut at its first two blanks, with a key that holds no blank. -/
theorem splitOnAtMost_assignment (key value : String) (spaceless : ' ' ∉ key.toList) :
    splitOnAtMost (key ++ " = " ++ value) " " 2 = [key, "=", value] := by
  have spelled : key ++ " = " ++ value = key ++ " " ++ "=" ++ " " ++ value := by
    simp only [String.append_assoc]
    rfl
  rw [spelled, splitOnAtMost_words value spaceless (by decide)]

/-- A text cut once at a one-character separator that its head does not hold. -/
theorem splitOnAtMost_once {sep head : String} {d : Char} (tail : String)
    (lead : sep.toList = [d]) (absent : d ∉ head.toList) : splitOnAtMost (head ++ sep ++ tail) sep 1 = [head, tail] := by
  unfold splitOnAtMost
  rw [String.toList_append, String.toList_append, lead, splitAux_cut _ 0 _ absent, splitAux_zero]
  simp

/-- A character of a joined text is a character of the separator or of one of the pieces. -/
theorem mem_toList_intercalate {sep : String} {c : Char} :
    ∀ {parts : List String}, c ∈ (sep.intercalate parts).toList →
      c ∈ sep.toList ∨ ∃ p ∈ parts, c ∈ p.toList
  | [], mem => by simp at mem
  | [p], mem => .inr ⟨p, List.mem_singleton_self p, by simpa using mem⟩
  | p :: q :: rest, mem => by
    rw [String.intercalate_cons_cons] at mem
    simp only [String.toList_append, List.mem_append] at mem
    rcases mem with (inP | inSep) | inRest
    · exact .inr ⟨p, List.mem_cons_self, inP⟩
    · exact .inl inSep
    · rcases mem_toList_intercalate inRest with inSep | ⟨x, inParts, inX⟩
      · exact .inl inSep
      · exact .inr ⟨x, List.mem_cons_of_mem p inParts, inX⟩

end GinSave.Text
