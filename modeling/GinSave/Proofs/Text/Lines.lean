import Mathlib
import GinSave.Text.Blank

/-! Lines and their ends. A text whose lines hold no line boundary splits back into those lines,
and trimming a class of characters from both ends gives back a text that neither starts nor ends
with one, whatever padding of that class stands around it. -/

namespace GinSave.Text

/-- A text that neither starts nor ends with a character of the class `p`. -/
def EndsClear (p : Char → Bool) (s : String) : Prop :=
  (∀ c, s.toList.head? = some c → p c = false) ∧ ∀ c, s.toList.getLast? = some c → p c = false

theorem dropWhile_of_head {p : Char → Bool} {l : List Char}
    (first : ∀ c, l.head? = some c → p c = false) : l.dropWhile p = l := by
  cases l with
  | nil => rfl
  | cons c rest => simp [first c rfl]

/-- Padding of the class `p` on both sides of a text clear at its ends is all that dropping the
class from both ends removes. -/
theorem dropEnds_pad {p : Char → Bool} {pre post : List Char} {s : String}
    (front : ∀ c ∈ pre, p c = true) (back : ∀ c ∈ post, p c = true) (clear : EndsClear p s) :
    (((pre ++ s.toList ++ post).dropWhile p).reverse.dropWhile p).reverse = s.toList := by
  obtain ⟨first, last⟩ := clear
  cases h : s.toList with
  | nil =>
    have padding : ∀ c ∈ pre ++ post, p c = true := fun c mem => by
      rcases List.mem_append.mp mem with inPre | inPost
      · exact front c inPre
      · exact back c inPost
    rw [List.append_nil, ← List.append_nil (pre ++ post), List.dropWhile_append_of_pos padding]
    simp
  | cons c rest =>
    have lead : p c = false := first c (by simp [h])
    have tailEnd : ∀ z, (c :: rest).reverse.head? = some z → p z = false := by
      intro z hz
      apply last z
      rw [h, ← List.head?_reverse, hz]
    have fromFront : (pre ++ (c :: rest) ++ post).dropWhile p = c :: rest ++ post := by
      rw [List.append_assoc, List.dropWhile_append_of_pos front, List.cons_append,
        List.dropWhile_cons_of_neg (by simp [lead])]
    have fromBack : (c :: rest ++ post).reverse.dropWhile p = (c :: rest).reverse := by
      rw [List.reverse_append, List.dropWhile_append_of_pos
        (fun z mem => back z (List.mem_reverse.mp mem)), dropWhile_of_head tailEnd]
    rw [fromFront, fromBack, List.reverse_reverse]

/-- Pieces clear at their ends join into a text clear at its ends, whatever the separator. -/
theorem endsClear_intercalate {p : Char → Bool} {sep : String} :
    ∀ {parts : List String}, (∀ x ∈ parts, x ≠ "") → (∀ x ∈ parts, EndsClear p x) →
      EndsClear p (sep.intercalate parts)
  | [], _, _ => ⟨by simp, by simp⟩
  | [x], _, clear => by simpa using clear x List.mem_cons_self
  | x :: y :: rest, nonempty, clear => by
    have tail := @endsClear_intercalate p sep _ (fun z mem => nonempty z (List.mem_cons_of_mem x mem))
      (fun z mem => clear z (List.mem_cons_of_mem x mem))
    have first : x.toList ≠ [] := by simpa using nonempty x List.mem_cons_self
    have lastPart : (sep.intercalate (y :: rest)).toList ≠ [] := by
      have : y.toList ≠ [] := by simpa using nonempty y (by simp)
      rw [String.toList_intercalate]
      cases rest <;> simp_all
    obtain ⟨d, ds, headSplit⟩ := List.exists_cons_of_ne_nil first
    obtain ⟨e, es, lastSplit⟩ := List.exists_cons_of_ne_nil (List.reverse_ne_nil_iff.mpr lastPart)
    -- the joined text starts as its first piece and ends as the join of the others
    have starts : (sep.intercalate (x :: y :: rest)).toList.head? = x.toList.head? := by
      simp [String.intercalate_cons_cons, headSplit]
    have ends : (sep.intercalate (x :: y :: rest)).toList.getLast? =
        (sep.intercalate (y :: rest)).toList.getLast? := by
      rw [String.intercalate_cons_cons, String.toList_append, List.getLast?_append,
        ← List.head?_reverse, lastSplit]
      rfl
    exact ⟨fun c head => (clear x List.mem_cons_self).1 c (starts ▸ head),
      fun c last => tail.2 c (ends ▸ last)⟩

theorem trimBlanks_pad {pad : List Char} {s : String} (blanks : ∀ c ∈ pad, isBlank c = true)
    (clear : EndsClear isBlank s) : trimBlanks (String.ofList pad ++ s) = s := by
  have ends := @dropEnds_pad _ _ [] _ blanks (by simp) clear
  unfold trimBlanks
  rw [String.toList_append, String.toList_ofList, ← List.append_nil (pad ++ s.toList), ends,
    String.ofList_toList]

theorem splitLinesAux_line {l : List Char} (rest acc : List Char)
    (plain : ∀ c ∈ l, isLineBoundary c = false) :
    splitLinesAux (l ++ '\n' :: rest) acc =
      String.ofList (acc.reverse ++ l) :: splitLinesAux rest [] := by
  induction l generalizing acc with
  | nil => simp [splitLinesAux, isLineBoundary]
  | cons c l ih =>
    have inside : isLineBoundary c = false := plain c List.mem_cons_self
    have notReturn : c ≠ '\r' := by
      rintro rfl
      exact absurd inside (by decide)
    rw [List.cons_append, splitLinesAux.eq_3 _ _ _ (fun _ h => absurd h notReturn)]
    simp [inside, ih (c :: acc) (fun x mem => plain x (List.mem_cons_of_mem c mem))]

theorem splitLinesAux_lines :
    ∀ xs : List String, (∀ x ∈ xs, ∀ c ∈ x.toList, isLineBoundary c = false) →
      splitLinesAux (xs.flatMap fun x => x.toList ++ ['\n']) [] = xs
  | [], _ => by simp [splitLinesAux]
  | x :: xs, plain => by
    rw [List.flatMap_cons, List.append_assoc, List.singleton_append,
      splitLinesAux_line _ _ (plain x List.mem_cons_self),
      splitLinesAux_lines xs (fun y mem => plain y (List.mem_cons_of_mem x mem))]
    simp

theorem toList_intercalate_newline :
    ∀ xs : List String, xs ≠ [] →
      ("\n".intercalate xs ++ "\n").toList = xs.flatMap fun x => x.toList ++ ['\n']
  | [], nonempty => absurd rfl nonempty
  | [x], _ => by simp
  | x :: y :: rest, _ => by
    have tail := toList_intercalate_newline (y :: rest) (List.cons_ne_nil y rest)
    rw [String.intercalate_cons_cons, String.append_assoc, String.append_assoc,
      String.toList_append, String.toList_append, tail]
    simp

/-- Lines joined by line feeds, each ended by one, split back into themselves. -/
theorem splitLines_intercalate {xs : List String} (nonempty : xs ≠ [])
    (plain : ∀ x ∈ xs, ∀ c ∈ x.toList, isLineBoundary c = false) :
    splitLines ("\n".intercalate xs ++ "\n") = xs := by
  unfold splitLines
  rw [toList_intercalate_newline xs nonempty, splitLinesAux_lines xs plain]

end GinSave.Text
