import GinSave.Fault

/-!
UTF-8 decoding with the error ranges of the standard's "maximal subpart" practice. At each
position a lead byte announces how many continuation bytes follow and in which range the first
of them must lie (E0 needs A0–BF, ED needs 80–9F, F0 needs 90–BF, F4 needs 80–8F; all others
80–BF). A byte that can begin nothing is an invalid start byte; a byte that breaks a sequence ends
the bad range before it (an invalid continuation byte); a sequence cut off by the end of the data,
valid so far, reaches to the end (unexpected end of data).

Strict decoding stops at the first bad range; lossy decoding drops every bad range and goes on
after it.
-/

namespace GinSave.Text

/-- What stands at a position of the bytes. -/
inductive Utf8Step where
  /-- A character and the position after it. -/
  | char (c : Char) (next : Nat)
  /-- A bad range from the position to `stop`, and why it is bad. -/
  | bad (stop : Nat) (reason : String)

/-- The continuation bytes a lead byte announces, and the range of the first of them. -/
def leadShape (b : Nat) : Option (Nat × Nat × Nat) :=
  if 0xC2 ≤ b && b ≤ 0xDF then some (1, 0x80, 0xBF)
  else if b == 0xE0 then some (2, 0xA0, 0xBF)
  else if b == 0xED then some (2, 0x80, 0x9F)
  else if 0xE1 ≤ b && b ≤ 0xEF then some (2, 0x80, 0xBF)
  else if b == 0xF0 then some (3, 0x90, 0xBF)
  else if b == 0xF4 then some (3, 0x80, 0x8F)
  else if 0xF1 ≤ b && b ≤ 0xF3 then some (3, 0x80, 0xBF)
  else none

/-- The payload bits of a lead byte that announces `n` continuation bytes. -/
def leadBits (b n : Nat) : Nat :=
  if n == 1 then b % 0x20 else if n == 2 then b % 0x10 else b % 0x08

/-- Reads `n` continuation bytes from `j`, the first within `[lo, hi]`, accumulating the code
point in `acc`; `start` is where the sequence began. -/
def continuation (bs : ByteArray) (start : Nat) : Nat → Nat → Nat → Nat → Nat → Utf8Step
  | 0, j, _, _, acc => .char (Char.ofNat acc) j
  | n + 1, j, lo, hi, acc =>
    match bs[j]? with
    | none => .bad j "unexpected end of data"
    | some b =>
      let b := b.toNat
      if lo ≤ b && b ≤ hi then continuation bs start n (j + 1) 0x80 0xBF (acc * 64 + b % 64)
      else .bad j "invalid continuation byte"

/-- What stands at position `i`. -/
def utf8Step (bs : ByteArray) (i : Nat) : Utf8Step :=
  match bs[i]? with
  | none => .bad (i + 1) "unexpected end of data"
  | some b =>
    let b := b.toNat
    if b < 0x80 then .char (Char.ofNat b) (i + 1)
    else match leadShape b with
      | none => .bad (i + 1) "invalid start byte"
      | some (n, lo, hi) => continuation bs i n (i + 1) lo hi (leadBits b n)

/-- The characters from position `i` on, stopping at the first bad range. -/
def decodeFrom (bs : ByteArray) (i : Nat) (acc : List Char) : Except Fault String :=
  if i < bs.size then
    match utf8Step bs i with
    | .char c next =>
      if i < next then decodeFrom bs next (c :: acc) else .ok (String.ofList acc.reverse)
    | .bad stop reason =>
      .error (.badUtf8 (bs.toList.map (·.toNat)) i (max stop (i + 1)) reason)
  else .ok (String.ofList acc.reverse)
termination_by bs.size - i

/-- The text of UTF-8 bytes, or the fault at the first bad range. -/
def decodeUtf8 (bs : ByteArray) : Except Fault String :=
  decodeFrom bs 0 []

/-- The characters from position `i` on, dropping bad ranges. -/
def decodeLossyFrom (bs : ByteArray) (i : Nat) (acc : List Char) : String :=
  if i < bs.size then
    match utf8Step bs i with
    | .char c next => if i < next then decodeLossyFrom bs next (c :: acc) else String.ofList acc.reverse
    | .bad stop _ => if i < stop then decodeLossyFrom bs stop acc else String.ofList acc.reverse
  else String.ofList acc.reverse
termination_by bs.size - i

/-- The text of UTF-8 bytes with every bad range dropped. -/
def decodeUtf8Lossy (bs : ByteArray) : String :=
  decodeLossyFrom bs 0 []

end GinSave.Text
