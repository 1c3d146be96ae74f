/-!
Suggesting the names close to a mistyped one. Two texts are compared by the characters they share
in order: the longest block common to both is found (the one that ends first, first in the
mistyped text among those), then the same is done on each side of it. The texts are close when
twice the shared count is at least three fifths of their joint length. At most the three closest
names are suggested.
-/

namespace GinSave.Cli

/-- The longest block common to `a[alo, ahi)` and `b[blo, bhi)`: its start in each and its
length. Among blocks of the greatest length, the one that ends first in `a` wins, then the one
that ends first in `b`. -/
def longestBlock (a b : Array Char) (alo ahi blo bhi : Nat) : Nat × Nat × Nat :=
  let rows := (List.range (ahi - alo)).map (· + alo)
  let cols := (List.range (bhi - blo)).map (· + blo)
  let step := fun (acc : (List (Nat × Nat)) × (Nat × Nat × Nat)) (i : Nat) =>
    let (prev, best) := acc
    let (row, best) := cols.foldl (fun (acc : List (Nat × Nat) × (Nat × Nat × Nat)) j =>
      let (row, best) := acc
      if a[i]? == b[j]? && a[i]?.isSome then
        let k := (match prev.find? (·.1 + 1 == j) with
          | some (_, n) => n
          | none => 0) + 1
        let best := if best.2.2 < k then (i + 1 - k, j + 1 - k, k) else best
        ((j, k) :: row, best)
      else (row, best)) ([], best)
    (row, best)
  (rows.foldl step ([], (alo, blo, 0))).2

/-- The characters `a` and `b` share in order, between the given bounds. -/
def sharedCount (a b : Array Char) : Nat → Nat → Nat → Nat → Nat → Nat
  | 0, _, _, _, _ => 0
  | fuel + 1, alo, ahi, blo, bhi =>
    let (i, j, k) := longestBlock a b alo ahi blo bhi
    if k == 0 then 0
    else
      let left := if alo < i && blo < j then sharedCount a b fuel alo i blo j else 0
      let right := if i + k < ahi && j + k < bhi then sharedCount a b fuel (i + k) ahi (j + k) bhi
        else 0
      k + left + right

/-- The characters a name and a typed word share in order. -/
def shared (name word : String) : Nat :=
  let a := name.toList.toArray
  let b := word.toList.toArray
  sharedCount a b (a.size + 1) 0 a.size 0 b.size

/-- Whether a name is close to a typed word. -/
def isClose (name word : String) : Bool :=
  3 * (name.length + word.length) ≤ 10 * shared name word

/-- Whether name `x` is at least as close to `word` as name `y`, by the share of common
characters and then by the name itself, the greater first. -/
def closerOrEqual (word : String) (x y : String) : Bool :=
  let sx := shared x word * (y.length + word.length)
  let sy := shared y word * (x.length + word.length)
  sy < sx || (sx == sy && y ≤ x)

/-- The names close to a typed word: at most three, the closest first. -/
def closeNames (word : String) (names : List String) : List String :=
  ((names.filter (isClose · word)).mergeSort (closerOrEqual word)).take 3

end GinSave.Cli
