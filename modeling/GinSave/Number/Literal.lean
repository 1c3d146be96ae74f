import GinSave.Number.Binary64
import GinSave.Text.Blank
import GinSave.Text.Digit

/-!
Numbers as people type them. A number text may have blanks around it and a sign, its digits may
come from any script, and single underscores may group digits. Before reading, every decimal digit
of another script is replaced by its ASCII digit and every blank beyond ASCII by a space; any
other character beyond ASCII makes the text no number. Inside ASCII only space, tab, line feed,
vertical tab, form feed and carriage return count as blanks here.

An integer text is `blanks [sign] digits blanks`, where digits are grouped by single underscores
and no more than 4300 of them are read. A real text is a decimal with an optional point and
exponent, or `inf`, `infinity` or `nan` in any case; an underscore must stand between two digits.
The real is the double nearest to the decimal.
-/

namespace GinSave.Number

open GinSave.Text

/-- The ASCII form of a number text. -/
def asciiForm (s : String) : List Char :=
  s.toList.map fun c =>
    if c.toNat < 0x7F then c
    else if isBlank c then ' '
    else match decimalValue? c with
      | some d => Char.ofNat (48 + d)
      | none => '?'

/-- The blanks around a number, in its ASCII form. -/
def isAsciiBlank (c : Char) : Bool :=
  c == ' ' || c == '\t' || c == '\n' || c == '\x0b' || c == '\x0c' || c == '\r'

/-- Whether a character is an ASCII digit. -/
def isAsciiDigit (c : Char) : Bool :=
  '0' ≤ c && c ≤ '9'

/-- Why a text is no integer. -/
inductive IntTextError where
  /-- The text is not of the form of an integer. -/
  | malformed
  /-- The text has more digits than are read. -/
  | tooManyDigits (count : Nat)
  deriving Repr, DecidableEq

/-- The most digits an integer text may have. -/
def maxIntDigits : Nat := 4300

/-- Reads digits grouped by single underscores: the value so far, the number of digits, and
whether the last character read was an underscore. Stops at the first other character. -/
def scanGroupedDigits : List Char → Nat → Nat → Bool → Except IntTextError (Nat × Nat × List Char)
  | [], v, n, lastUnderscore =>
    if lastUnderscore then .error .malformed else .ok (v, n, [])
  | c :: rest, v, n, lastUnderscore =>
    if c == '_' then
      if lastUnderscore then .error .malformed else scanGroupedDigits rest v n true
    else if isAsciiDigit c then
      scanGroupedDigits rest (10 * v + (c.toNat - 48)) (n + 1) false
    else if lastUnderscore then .error .malformed
    else .ok (v, n, c :: rest)

/-- The integer a text stands for. -/
def readInt (s : String) : Except IntTextError Int := do
  let cs := (asciiForm s).dropWhile isAsciiBlank
  let (neg, cs) := match cs with
    | '+' :: rest => (false, rest)
    | '-' :: rest => (true, rest)
    | _ => (false, cs)
  if cs.head? == some '_' then throw .malformed
  let (v, n, rest) ← scanGroupedDigits cs 0 0 false
  if n > maxIntDigits then throw (.tooManyDigits n)
  if n == 0 then throw .malformed
  if !(rest.dropWhile isAsciiBlank).isEmpty then throw .malformed
  return if neg then -(v : Int) else v

/-- Whether every underscore of a text stands between two ASCII digits. -/
def underscoresBetweenDigits : List Char → Bool
  | a :: '_' :: b :: rest =>
    isAsciiDigit a && isAsciiDigit b && underscoresBetweenDigits (b :: rest)
  | '_' :: _ => false
  | [_, '_'] => false
  | _ :: rest => underscoresBetweenDigits rest
  | [] => true

/-- Reads ASCII digits: their value, their number, and the rest. -/
def scanDigits : List Char → Nat → Nat → Nat × Nat × List Char
  | c :: rest, v, n =>
    if isAsciiDigit c then scanDigits rest (10 * v + (c.toNat - 48)) (n + 1) else (v, n, c :: rest)
  | [], v, n => (v, n, [])

/-- Whether a text spells `word` in any case. -/
def spellsIgnoringCase (cs : List Char) (word : String) : Bool :=
  cs.map Char.toLower == word.toList

/-- Reads a decimal `digits [. digits] [e [sign] digits]` (one side of the point may be empty):
its digits as one number, the power of ten that scales them, and the rest. An exponent without
digits is left unread. -/
def scanDecimal (cs : List Char) : Option (Nat × Int × List Char) :=
  let (whole, nWhole, rest) := scanDigits cs 0 0
  let (frac, nFrac, rest) := match rest with
    | '.' :: more => scanDigits more whole 0
    | _ => (whole, 0, rest)
  if nWhole + nFrac == 0 then none
  else
    let expPart : Int × List Char := match rest with
      | e :: more =>
        if e == 'e' || e == 'E' then
          let (eneg, more') := match more with
            | '+' :: m => (false, m)
            | '-' :: m => (true, m)
            | _ => (false, more)
          let (ev, en, after) := scanDigits more' 0 0
          if en == 0 then (0, rest) else (if eneg then -(ev : Int) else ev, after)
        else (0, rest)
      | [] => (0, [])
    some (frac, expPart.1 - nFrac, expPart.2)

/-- The double a text stands for, or `none` when it is no real number. -/
def readFloat (s : String) : Option Float :=
  let cs := asciiForm s
  if !underscoresBetweenDigits cs then none
  else
    let cs := (cs.filter (· != '_')).dropWhile isAsciiBlank
    let cs := ((cs.reverse).dropWhile isAsciiBlank).reverse
    let (neg, body) := match cs with
      | '+' :: rest => (false, rest)
      | '-' :: rest => (true, rest)
      | _ => (false, cs)
    match scanDecimal body with
    | some (digits, exp, []) => some (nearestOfDecimal neg digits exp)
    | some _ => none
    | none =>
      if spellsIgnoringCase body "inf" || spellsIgnoringCase body "infinity" then
        some (signedInfinity neg)
      else if spellsIgnoringCase body "nan" then some (0.0 / 0.0)
      else none

end GinSave.Number
