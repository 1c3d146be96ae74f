/-!
Doubles as exact numbers. A finite double is a sign and a value `m · 2^e` with an integer
significand `m`; its bit pattern decodes to that form, and the form encodes back to the bits.
The nearest double to a positive rational is found in exact integer arithmetic: the binary
exponent is fixed by the rational's size, the significand is the quotient rounded to nearest with
ties to even, and a value too large for any finite double becomes infinity.
-/

namespace GinSave.Number

/-- What a double is: not a number, an infinity, or a finite `(-1)^neg · m · 2^e`. -/
inductive Binary64 where
  | nan
  | infinity (neg : Bool)
  | finite (neg : Bool) (m : Nat) (e : Int)
  deriving Repr, DecidableEq

namespace Binary64

/-- The exact form of a double's bits. Subnormals have exponent `-1074`; normals carry the
hidden bit. -/
def ofFloat (x : Float) : Binary64 :=
  let b : Nat := x.toBits.toNat
  let neg : Bool := b / Nat.pow 2 63 % 2 == 1
  let field : Nat := b / Nat.pow 2 52 % Nat.pow 2 11
  let frac : Nat := b % Nat.pow 2 52
  if field == 2047 then
    if frac == 0 then .infinity neg else .nan
  else if field == 0 then .finite neg frac (-1074)
  else .finite neg (frac + Nat.pow 2 52) ((field : Int) - 1075)

/-- Whether a double is finite and its significand lies on the lower edge of its binade, so the
next smaller double is half as far as the next larger one. -/
def lowerGapHalved (x : Float) : Bool :=
  let b : Nat := x.toBits.toNat
  let field : Nat := b / Nat.pow 2 52 % Nat.pow 2 11
  b % Nat.pow 2 52 == 0 && 1 < field && field < 2047

end Binary64

/-- The number of decimal digits of a positive number (one for zero). -/
def decimalLength (n : Nat) : Nat :=
  if n < 10 then 1 else decimalLength (n / 10) + 1

/-- `⌊log₁₀ (num / den)⌋` for positive `num` and `den`. The quotient lies within a factor ten of
`10^(len num - len den)`, so one comparison decides between that exponent and the one below. -/
def floorLog10 (num den : Nat) : Int :=
  let t : Int := (decimalLength num : Int) - decimalLength den
  if num * Nat.pow 10 (-t).toNat ≥ den * Nat.pow 10 t.toNat then t else t - 1

/-- `⌊log₂ (num / den)⌋` for positive `num` and `den`, by the same comparison in base two. -/
def floorLog2 (num den : Nat) : Int :=
  let t : Int := (num.log2 : Int) - den.log2
  if num * Nat.pow 2 (-t).toNat ≥ den * Nat.pow 2 t.toNat then t else t - 1

/-- `num / den` rounded to the nearest integer, a tie going to the even one. -/
def roundHalfEven (num den : Nat) : Nat :=
  let q := num / den
  let r := num % den
  if 2 * r > den then q + 1
  else if 2 * r < den then q
  else if q % 2 == 0 then q else q + 1

/-- The bits of the finite double `(-1)^neg · m · 2^e`, given `m < 2^53` and `e ≥ -1074` with
`m ≥ 2^52` unless `e = -1074`. -/
def encodeFinite (neg : Bool) (m : Nat) (e : Int) : Float :=
  let sign := if neg then Nat.pow 2 63 else 0
  let body := if m < Nat.pow 2 52 then m else ((e + 1075).toNat * Nat.pow 2 52 + (m - Nat.pow 2 52))
  Float.ofBits (UInt64.ofNat (sign + body))

/-- The infinity of a sign. -/
def signedInfinity (neg : Bool) : Float :=
  Float.ofBits (UInt64.ofNat ((if neg then Nat.pow 2 63 else 0) + 2047 * Nat.pow 2 52))

/-- The double nearest to `num / den`, a tie going to the even significand; with the sign
`neg`. Zero gives a signed zero, and a value at or beyond `2^1024` after rounding an infinity. -/
def nearestOfRatio (neg : Bool) (num den : Nat) : Float :=
  if num == 0 || den == 0 then encodeFinite neg 0 (-1074)
  else
    let q : Int := max (floorLog2 num den - 52) (-1074)
    let m := roundHalfEven (num * Nat.pow 2 (-q).toNat) (den * Nat.pow 2 q.toNat)
    let (m, q) := if m == Nat.pow 2 53 then (Nat.pow 2 52, q + 1) else (m, q)
    if q + 52 > 1023 then signedInfinity neg else encodeFinite neg m q

/-- The double nearest to `digits · 10^exp`, with sign `neg`. Values far beyond the range of
doubles are decided by their number of digits alone, without forming the powers. -/
def nearestOfDecimal (neg : Bool) (digits : Nat) (exp : Int) : Float :=
  let size := (decimalLength digits : Int) + exp
  if digits == 0 then encodeFinite neg 0 (-1074)
  else if size > 310 then signedInfinity neg
  else if size < -330 then encodeFinite neg 0 (-1074)
  else nearestOfRatio neg (digits * Nat.pow 10 exp.toNat) (Nat.pow 10 (-exp).toNat)

end GinSave.Number
