import GinSave.Number.Binary64

/-!
The shortest decimal that reads back as a given double, and its text.

A double `v = m · 2^e` owns the interval of reals that round to it: halfway to each neighbour,
ends included when `m` is even (a tie on reading goes to the even significand). On the grid of
`n`-digit decimals around `v`, the two grid points next to `v` are the only candidates that can
lie in the interval, so trying `n = 1, 2, …` in turn finds the fewest digits; of two candidates
in the interval the nearer is taken, an exact tie going to the even one. Seventeen digits always
suffice for a double, which bounds the search.

The text is positional while the decimal point stands between `lowExp` and `highExp` places
from the first digit, and scientific otherwise; a `FloatStyle` record holds these choices and the
spellings of the non-finite values.
-/

namespace GinSave.Number

/-- Shortest digits of a positive double: `digits · 10^exp`, with no trailing zero in
`digits`. -/
structure Decimal where
  digits : Nat
  exp : Int
  deriving Repr, DecidableEq

/-- Removes the trailing zeros of a positive digit string, moving them into the exponent. -/
def Decimal.normalize (d : Decimal) : Decimal :=
  if d.digits ≠ 0 ∧ d.digits % 10 = 0 then
    Decimal.normalize ⟨d.digits / 10, d.exp + 1⟩
  else d
termination_by d.digits
decreasing_by omega

/-- Compares `c · 10^k` with `b · 2^s`: both sides are moved to whole numbers first. -/
def cmpScaled (c : Nat) (k : Int) (b : Nat) (s : Int) : Ordering :=
  compare (c * Nat.pow 10 k.toNat * Nat.pow 2 (-s).toNat) (b * Nat.pow 10 (-k).toNat * Nat.pow 2 s.toNat)

/-- The candidate `c · 10^k` for the double `m · 2^e`: whether it lies within the interval that
rounds to the double. In units of `2^(e-2)` the double is `4m`, its upper end `4m + 2` and its
lower end `4m - 2`, or `4m - 1` when the gap below is halved. -/
def inRoundingInterval (m : Nat) (e : Int) (halved : Bool) (c : Nat) (k : Int) : Bool :=
  let hi := 4 * m + 2
  let lo := if halved then 4 * m - 1 else 4 * m - 2
  let s := e - 2
  let even := m % 2 == 0
  let aboveLo := match cmpScaled c k lo s with
    | .gt => true
    | .eq => even
    | .lt => false
  let belowHi := match cmpScaled c k hi s with
    | .lt => true
    | .eq => even
    | .gt => false
  aboveLo && belowHi

/-- Tries grids of `n, n+1, …` digits; `fuel` bounds the number of grids tried. -/
def shortestFrom (m : Nat) (e : Int) (halved : Bool) (top : Int) : Nat → Nat → Decimal
  | 0, _ => ⟨m, 0⟩
  | fuel + 1, n =>
    let k := top - n + 1
    -- the double as `num / den`, and its position on the grid of spacing `10^k`
    let num := m * Nat.pow 2 e.toNat * Nat.pow 10 (-k).toNat
    let den := Nat.pow 2 (-e).toNat * Nat.pow 10 k.toNat
    let lo := num / den
    let hi := lo + 1
    if num % den == 0 then (Decimal.normalize ⟨lo, k⟩)
    else
      let okLo := inRoundingInterval m e halved lo k
      let okHi := inRoundingInterval m e halved hi k
      if okLo && okHi then
        let below := num - lo * den
        let above := hi * den - num
        if below < above then Decimal.normalize ⟨lo, k⟩
        else if above < below then Decimal.normalize ⟨hi, k⟩
        else if lo % 2 == 0 then Decimal.normalize ⟨lo, k⟩ else Decimal.normalize ⟨hi, k⟩
      else if okLo then Decimal.normalize ⟨lo, k⟩
      else if okHi then Decimal.normalize ⟨hi, k⟩
      else shortestFrom m e halved top fuel (n + 1)

/-- The shortest decimal of the positive double `m · 2^e`. -/
def shortest (m : Nat) (e : Int) (halved : Bool) : Decimal :=
  let top := floorLog10 (m * Nat.pow 2 e.toNat) (Nat.pow 2 (-e).toNat)
  shortestFrom m e halved top 18 1

/-- How a double is written as text. -/
structure FloatStyle where
  /-- Positional notation is used while `lowExp < point ≤ highExp`, where `point` is the
  position of the decimal point after the first digit's place. -/
  lowExp : Int
  highExp : Int
  nanText : String
  infText : String

/-- The decimal digits of a number, as characters. -/
def digitChars (n : Nat) : List Char :=
  Nat.toDigits 10 n

/-- Writes the digits `ds` with the decimal point `point` places after the first digit's place
(`0.ds × 10^point`), as a positional text with at least one digit after the point. -/
def positional (ds : List Char) (point : Int) : String :=
  if point ≤ 0 then
    "0." ++ String.ofList (List.replicate (-point).toNat '0' ++ ds)
  else if point.toNat < ds.length then
    String.ofList (ds.take point.toNat ++ '.' :: ds.drop point.toNat)
  else
    String.ofList (ds ++ List.replicate (point.toNat - ds.length) '0') ++ ".0"

/-- Writes `0.ds × 10^point` in scientific notation: one digit, the rest after a point, and an
exponent with its sign and at least two digits. -/
def scientific (ds : List Char) (point : Int) : String :=
  let x := point - 1
  let mant := match ds with
    | [] => "0"
    | [d] => d.toString
    | d :: rest => String.ofList (d :: '.' :: rest)
  let expDigits := digitChars x.natAbs
  let expDigits := if expDigits.length < 2 then '0' :: expDigits else expDigits
  mant ++ "e" ++ (if x < 0 then "-" else "+") ++ String.ofList expDigits

/-- The text of a double in a style: the shortest digits that read back. -/
def FloatStyle.render (st : FloatStyle) (x : Float) : String :=
  match Binary64.ofFloat x with
  | .nan => st.nanText
  | .infinity neg => (if neg then "-" else "") ++ st.infText
  | .finite neg m e =>
    let sign := if neg then "-" else ""
    if m == 0 then sign ++ "0.0"
    else
      let d := shortest m e (Binary64.lowerGapHalved x)
      let ds := digitChars d.digits
      let point := d.exp + ds.length
      if st.lowExp < point ∧ point ≤ st.highExp then sign ++ positional ds point
      else sign ++ scientific ds point

end GinSave.Number
