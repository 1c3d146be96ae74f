/-!
Sorted tables of code point ranges, searched by halving. The character classes of this library
(decimal digits, letters and digits, printable characters, wide characters) are data of the
Unicode standard, written once as such tables.
-/

namespace GinSave.Text

/-- Disjoint inclusive ranges of code points, sorted ascending. -/
abbrev RangeTable := Array (Nat × Nat)

namespace RangeTable

/-- The range of the table that holds `n`, found by halving the window `[lo, hi)` of indices.
The window shrinks at every step, so the search ends. -/
def find? (t : RangeTable) (n : Nat) : Option (Nat × Nat) :=
  go 0 t.size
where
  go (lo hi : Nat) : Option (Nat × Nat) :=
    if lo < hi then
      let mid := (lo + hi) / 2
      match t[mid]? with
      | none => none
      | some (a, b) =>
        if n < a then go lo mid
        else if b < n then go (mid + 1) hi
        else some (a, b)
    else none
  termination_by hi - lo
  decreasing_by all_goals omega

/-- Whether some range of the table holds `n`. -/
def contains (t : RangeTable) (n : Nat) : Bool :=
  (t.find? n).isSome

end RangeTable

end GinSave.Text
