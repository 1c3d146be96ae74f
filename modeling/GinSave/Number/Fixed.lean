import GinSave.Number.Binary64

/-!
A double with a fixed number of places after the point. The exact binary value is rounded to the
nearest multiple of `10^-places`, a tie going to the even multiple, and every digit of the integer
part is written. The sign follows the double, so a negative value that rounds to zero keeps its
minus sign, as does negative zero.
-/

namespace GinSave.Number

/-- The text of `x` with `places` digits after the point; `nan`, `inf` and `-inf` for the
values that are not finite. -/
def fixedText (places : Nat) (x : Float) : String :=
  match Binary64.ofFloat x with
  | .nan => "nan"
  | .infinity neg => if neg then "-inf" else "inf"
  | .finite neg m e =>
    let n := roundHalfEven (m * Nat.pow 2 e.toNat * Nat.pow 10 places) (Nat.pow 2 (-e).toNat)
    let whole := Nat.toDigits 10 (n / Nat.pow 10 places)
    let frac := Nat.toDigits 10 (n % Nat.pow 10 places)
    let frac := List.replicate (places - frac.length) '0' ++ frac
    let body := if places == 0 then String.ofList whole else String.ofList (whole ++ '.' :: frac)
    (if neg then "-" else "") ++ body

end GinSave.Number
