import GinSave.Json.Value
import GinSave.Number.Binary64

/-!
Reading JSON text. The reader accepts the grammar of JSON with three more constants, `NaN`,
`Infinity` and `-Infinity`, and blanks that are space, tab, line feed and carriage return. Inside
a text, a control character is refused; `\u` escapes join a high and a low surrogate into one
character. A number with a point or an exponent is a double, read to the nearest; any other number
is an integer of any size, up to 4300 digits. Of two members with one name, the later value stands
at the earlier place.

A refusal names what was expected and where: the position counts characters from the start, and
the message adds the line and column of that position.
-/

namespace GinSave.Json

open GinSave.Number

/-- Why a text is no JSON document. -/
inductive ReadError where
  /-- The text breaks the grammar at a position. -/
  | grammar (msg : String) (pos : Nat)
  /-- An integer has more digits than are read. -/
  | tooManyDigits (count : Nat)
  deriving Repr, DecidableEq

/-- Whether a character is a blank between tokens. -/
def isSpace (c : Char) : Bool :=
  c == ' ' || c == '\t' || c == '\n' || c == '\r'

/-- The character at a position, if the position is inside the text. -/
def charAt (doc : Array Char) (i : Nat) : Option Char :=
  doc[i]?

/-- The first position at or after `i` that holds no blank. -/
def skipSpace (doc : Array Char) (i : Nat) : Nat :=
  if i < doc.size then
    if (charAt doc i).any isSpace then skipSpace doc (i + 1) else i
  else i
termination_by doc.size - i

/-- The first position at or after `i` that holds no ASCII digit. -/
def skipDigits (doc : Array Char) (i : Nat) : Nat :=
  if i < doc.size then
    if (charAt doc i).any fun c => '0' ≤ c && c ≤ '9' then skipDigits doc (i + 1) else i
  else i
termination_by doc.size - i

/-- The value of a hexadecimal digit. -/
def hexValue (c : Char) : Option Nat :=
  if '0' ≤ c && c ≤ '9' then some (c.toNat - 48)
  else if 'a' ≤ c && c ≤ 'f' then some (c.toNat - 87)
  else if 'A' ≤ c && c ≤ 'F' then some (c.toNat - 55)
  else none

/-- The number written by four hexadecimal digits from position `i`. -/
def hex4 (doc : Array Char) (i : Nat) : Option Nat :=
  [0, 1, 2, 3].foldlM (fun acc k => do
    let c ← charAt doc (i + k)
    let d ← hexValue c
    return 16 * acc + d) 0

/-- The character a code point stands for; a lone surrogate, which no character is, becomes the
replacement character. -/
def codeChar (n : Nat) : Char :=
  if 0xD800 ≤ n && n ≤ 0xDFFF then '\uFFFD' else Char.ofNat n

/-- Reads a `\u` escape whose `u` stands at `u`: the character and the position after it. Four
hexadecimal digits and one more character must follow. A high surrogate followed by an escaped
low surrogate is one character. -/
def unicodeEscape (doc : Array Char) (u : Nat) : Except ReadError (Char × Nat) :=
  let stop := u + 5
  if stop ≥ doc.size then .error (.grammar "Invalid \\uXXXX escape" u)
  else match hex4 doc (u + 1) with
    | none => .error (.grammar "Invalid \\uXXXX escape" u)
    | some c =>
      if 0xD800 ≤ c && c ≤ 0xDBFF && stop + 6 < doc.size &&
          charAt doc stop == some '\\' && charAt doc (stop + 1) == some 'u' then
        match hex4 doc (stop + 2) with
        | none => .error (.grammar "Invalid \\uXXXX escape" (stop + 1))
        | some c2 =>
          if 0xDC00 ≤ c2 && c2 ≤ 0xDFFF then
            .ok (Char.ofNat (0x10000 + (c - 0xD800) * 0x400 + (c2 - 0xDC00)), stop + 6)
          else .ok (codeChar c, stop)
      else .ok (codeChar c, stop)

/-- The character of a one-letter escape. -/
def shortEscape : Char → Option Char
  | '"' => some '"' | '\\' => some '\\' | '/' => some '/' | 'b' => some '\x08'
  | 'f' => some '\x0c' | 'n' => some '\n' | 'r' => some '\r' | 't' => some '\t'
  | _ => none

/-- Reads the rest of a text that opened at `begin`, from `i`, gathering its characters in
`acc` reversed: the text and the position after its closing quote. -/
def scanText (doc : Array Char) (begin i : Nat) (acc : List Char) :
    Except ReadError (String × Nat) :=
  if h : i < doc.size then
    let c := doc[i]
    if c == '"' then .ok (String.ofList acc.reverse, i + 1)
    else if c == '\\' then
      match charAt doc (i + 1) with
      | none => .error (.grammar "Unterminated string starting at" begin)
      | some 'u' =>
        match unicodeEscape doc (i + 1) with
        | .error e => .error e
        | .ok (ch, next) =>
          if i < next ∧ next ≤ doc.size then scanText doc begin next (ch :: acc)
          else .error (.grammar "Unterminated string starting at" begin)
      | some e =>
        match shortEscape e with
        | none => .error (.grammar "Invalid \\escape" i)
        | some ch => scanText doc begin (i + 2) (ch :: acc)
    else if c.toNat ≤ 0x1F then .error (.grammar "Invalid control character at" i)
    else scanText doc begin (i + 1) (c :: acc)
  else .error (.grammar "Unterminated string starting at" begin)
termination_by doc.size - i

/-- The most digits an integer may have. -/
def maxIntDigits : Nat := 4300

/-- The ASCII digits from `i` to `j` as a number. -/
def digitsValue (doc : Array Char) (i j : Nat) : Nat :=
  (doc.extract i j).foldl (fun acc c => 10 * acc + (c.toNat - 48)) 0

/-- Whether position `i` holds an ASCII digit. -/
def digitAt (doc : Array Char) (i : Nat) : Bool :=
  (charAt doc i).any fun c => '0' ≤ c && c ≤ '9'

/-- Reads a number from `start`: an optional minus, an integer part without leading zeros, an
optional fraction (a point and at least one digit) and an optional exponent (a letter `e`, a
sign and at least one digit; without a digit the exponent is left unread). -/
def scanNumber (doc : Array Char) (start : Nat) : Except ReadError (Value × Nat) := do
  let neg := charAt doc start == some '-'
  let i := if neg then start + 1 else start
  if i ≥ doc.size then throw (.grammar "Expecting value" start)
  let intEnd ←
    if (charAt doc i).any fun c => '1' ≤ c && c ≤ '9' then pure (skipDigits doc (i + 1))
    else if charAt doc i == some '0' then pure (i + 1)
    else throw (.grammar "Expecting value" start)
  let (fracEnd, isReal) :=
    if intEnd + 1 < doc.size && charAt doc intEnd == some '.' && digitAt doc (intEnd + 1) then
      (skipDigits doc (intEnd + 2), true)
    else (intEnd, false)
  let (stop, expStart, hasExp) :=
    if fracEnd + 1 < doc.size && (charAt doc fracEnd == some 'e' || charAt doc fracEnd == some 'E') then
      let k := fracEnd + 1
      let k := if k + 1 < doc.size && (charAt doc k == some '+' || charAt doc k == some '-') then k + 1 else k
      let e := skipDigits doc k
      if e > k then (e, fracEnd + 1, true) else (fracEnd, fracEnd, false)
    else (fracEnd, fracEnd, false)
  let whole := digitsValue doc i intEnd
  if !(isReal || hasExp) then
    let n := intEnd - i
    if n > maxIntDigits then throw (.tooManyDigits n)
    return (.int (if neg then -(whole : Int) else whole), stop)
  let fracDigits := if isReal then fracEnd - (intEnd + 1) else 0
  let mantissa := if isReal then digitsValue doc i intEnd * Nat.pow 10 fracDigits +
      digitsValue doc (intEnd + 1) fracEnd else whole
  let expValue : Int :=
    if hasExp then
      let expNeg := charAt doc expStart == some '-'
      let digitsFrom := if charAt doc expStart == some '+' || expNeg then expStart + 1 else expStart
      let v := digitsValue doc digitsFrom stop
      if expNeg then -(v : Int) else v
    else 0
  return (.real (nearestOfDecimal neg mantissa (expValue - fracDigits)), stop)

/-- Whether the text from `i` spells `word`. -/
def spells (doc : Array Char) (i : Nat) (word : String) : Bool :=
  (doc.extract i (i + word.length)).toList == word.toList

/-- Members of an object, a repeated name keeping its first place and taking the later value. -/
def addMember (members : List (String × Value)) (k : String) (v : Value) :
    List (String × Value) :=
  if members.any (·.1 == k) then members.map fun (k', v') => if k' == k then (k, v) else (k', v')
  else members ++ [(k, v)]

mutual
/-- Reads one value from `i`, with `fuel` bounding the depth of nested reading. -/
def scanValue (doc : Array Char) : Nat → Nat → Except ReadError (Value × Nat)
  | 0, i => .error (.grammar "Expecting value" i)
  | fuel + 1, i =>
    match charAt doc i with
    | none => .error (.grammar "Expecting value" i)
    | some '"' => (scanText doc i (i + 1) []).map fun (s, j) => (.str s, j)
    | some '{' => scanObject doc fuel (skipSpace doc (i + 1))
    | some '[' => scanArray doc fuel (skipSpace doc (i + 1))
    | some c =>
      if c == 'n' && i + 3 < doc.size && spells doc i "null" then .ok (.null, i + 4)
      else if c == 't' && i + 3 < doc.size && spells doc i "true" then .ok (.bool true, i + 4)
      else if c == 'f' && i + 4 < doc.size && spells doc i "false" then .ok (.bool false, i + 5)
      else if c == 'N' && i + 2 < doc.size && spells doc i "NaN" then .ok (.real (0.0 / 0.0), i + 3)
      else if c == 'I' && i + 7 < doc.size && spells doc i "Infinity" then
        .ok (.real (signedInfinity false), i + 8)
      else if c == '-' && i + 8 < doc.size && spells doc i "-Infinity" then
        .ok (.real (signedInfinity true), i + 9)
      else scanNumber doc i

/-- Reads an array from `i`, just after its opening bracket and the blanks after it. -/
def scanArray (doc : Array Char) : Nat → Nat → Except ReadError (Value × Nat)
  | 0, i => .error (.grammar "Expecting value" i)
  | fuel + 1, i =>
    if charAt doc i == some ']' then .ok (.arr [], i + 1)
    else (scanItems doc fuel i []).map fun (items, j) => (.arr items, j)

/-- Reads the items of an array from `i`, gathering them in `acc` reversed. -/
def scanItems (doc : Array Char) : Nat → Nat → List Value → Except ReadError (List Value × Nat)
  | 0, i, _ => .error (.grammar "Expecting value" i)
  | fuel + 1, i, acc =>
    match scanValue doc fuel i with
    | .error e => .error e
    | .ok (v, j) =>
      let j := skipSpace doc j
      if charAt doc j == some ']' then .ok ((v :: acc).reverse, j + 1)
      else if charAt doc j == some ',' then scanItems doc fuel (skipSpace doc (j + 1)) (v :: acc)
      else .error (.grammar "Expecting ',' delimiter" j)

/-- Reads an object from `i`, just after its opening brace and the blanks after it. -/
def scanObject (doc : Array Char) : Nat → Nat → Except ReadError (Value × Nat)
  | 0, i => .error (.grammar "Expecting value" i)
  | fuel + 1, i =>
    if charAt doc i == some '}' then .ok (.obj [], i + 1)
    else (scanMembers doc fuel i []).map fun (members, j) => (.obj members, j)

/-- Reads the members of an object from `i`. -/
def scanMembers (doc : Array Char) : Nat → Nat → List (String × Value) →
    Except ReadError (List (String × Value) × Nat)
  | 0, i, _ => .error (.grammar "Expecting value" i)
  | fuel + 1, i, acc =>
    if charAt doc i != some '"' then
      .error (.grammar "Expecting property name enclosed in double quotes" i)
    else match scanText doc i (i + 1) [] with
      | .error e => .error e
      | .ok (k, j) =>
        let j := skipSpace doc j
        if charAt doc j != some ':' then .error (.grammar "Expecting ':' delimiter" j)
        else match scanValue doc fuel (skipSpace doc (j + 1)) with
          | .error e => .error e
          | .ok (v, j) =>
            let acc := addMember acc k v
            let j := skipSpace doc j
            if charAt doc j == some '}' then .ok (acc, j + 1)
            else if charAt doc j == some ',' then scanMembers doc fuel (skipSpace doc (j + 1)) acc
            else .error (.grammar "Expecting ',' delimiter" j)
end

/-- Reads a whole document: one value between blanks. A text that starts with a byte order mark
is refused. -/
def parse (s : String) : Except ReadError Value :=
  let doc := s.toList.toArray
  if charAt doc 0 == some '\uFEFF' then
    .error (.grammar "Unexpected UTF-8 BOM (decode using utf-8-sig)" 0)
  else do
    let (v, j) ← scanValue doc (4 * doc.size + 4) (skipSpace doc 0)
    let j := skipSpace doc j
    if j != doc.size then throw (.grammar "Extra data" j)
    return v

/-- The line of a position: one more than the line feeds before it. -/
def lineOf (doc : List Char) (pos : Nat) : Nat :=
  ((doc.take pos).filter (· == '\n')).length + 1

/-- The column of a position: its distance from the last line feed before it, or from just
before the start. -/
def columnOf (doc : List Char) (pos : Nat) : Nat :=
  let before := doc.take pos
  match (before.reverse.findIdx? (· == '\n')) with
  | some k => k + 1
  | none => pos + 1

/-- The message of a grammar error in a document: what was expected, then line, column and
position. -/
def syntaxMessage (doc : String) (msg : String) (pos : Nat) : String :=
  let cs := doc.toList
  msg ++ ": line " ++ intText (lineOf cs pos) ++ " column " ++ intText (columnOf cs pos) ++
    " (char " ++ intText pos ++ ")"

end GinSave.Json
