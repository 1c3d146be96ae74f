import GinSave.Codec.Bytes

/-!
The 64-bit xxHash of a byte string, with seed zero: the checksum a ZSTD frame may carry of its
content (the frame keeps the low 32 bits). The arithmetic is on 64-bit words and wraps, as the
hash is defined.
-/

namespace GinSave.Codec.Xxh64

def prime1 : UInt64 := 11400714785074694791
def prime2 : UInt64 := 14029467366897019727
def prime3 : UInt64 := 1609587929392839161
def prime4 : UInt64 := 9650029242287828579
def prime5 : UInt64 := 2870177450012600261

/-- Rotation to the left by `r` bits. -/
def rotl (x : UInt64) (r : UInt64) : UInt64 :=
  (x <<< r) ||| (x >>> (64 - r))

/-- One lane step: mixes an eight-byte word into an accumulator. -/
def round (acc input : UInt64) : UInt64 :=
  rotl (acc + input * prime2) 31 * prime1

/-- Folds a lane into the hash when the four lanes are joined. -/
def mergeRound (acc val : UInt64) : UInt64 :=
  (acc ^^^ round 0 val) * prime1 + prime4

/-- The eight-byte little-endian word at `pos`. -/
def word64 (b : ByteArray) (pos : Nat) : UInt64 :=
  (readLE b pos 8).toUInt64

/-- The four-byte little-endian word at `pos`. -/
def word32 (b : ByteArray) (pos : Nat) : UInt64 :=
  (readLE b pos 4).toUInt64

/-- The four lanes after every whole 32-byte stripe from `pos` on. -/
def stripes (b : ByteArray) (pos : Nat) (v1 v2 v3 v4 : UInt64) : Nat → UInt64 × UInt64 × UInt64 × UInt64
  | 0 => (v1, v2, v3, v4)
  | n + 1 =>
    stripes b (pos + 32) (round v1 (word64 b pos)) (round v2 (word64 b (pos + 8)))
      (round v3 (word64 b (pos + 16))) (round v4 (word64 b (pos + 24))) n

/-- The tail of fewer than 32 bytes from `pos`: words of eight, then one of four, then bytes. -/
def tail (b : ByteArray) (pos : Nat) (h : UInt64) : Nat → UInt64
  | 0 => h
  | fuel + 1 =>
    let left := b.size - pos
    if 8 ≤ left then
      tail b (pos + 8) (rotl (h ^^^ round 0 (word64 b pos)) 27 * prime1 + prime4) fuel
    else if 4 ≤ left then
      tail b (pos + 4) (rotl (h ^^^ word32 b pos * prime1) 23 * prime2 + prime3) fuel
    else if 1 ≤ left then
      tail b (pos + 1) (rotl (h ^^^ (byteAt b pos).toUInt64 * prime5) 11 * prime1) fuel
    else h

/-- The final mixing of all bits. -/
def avalanche (h : UInt64) : UInt64 :=
  let h := (h ^^^ (h >>> 33)) * prime2
  let h := (h ^^^ (h >>> 29)) * prime3
  h ^^^ (h >>> 32)

/-- The hash of the whole array, seed zero. -/
def hash (b : ByteArray) : UInt64 :=
  let n := b.size
  let whole := n / 32
  let h :=
    if whole = 0 then prime5
    else
      let (v1, v2, v3, v4) := stripes b 0 (prime1 + prime2) prime2 0 (0 - prime1) whole
      let h := rotl v1 1 + rotl v2 7 + rotl v3 12 + rotl v4 18
      mergeRound (mergeRound (mergeRound (mergeRound h v1) v2) v3) v4
  avalanche (tail b (32 * whole) (h + n.toUInt64) 32)

end GinSave.Codec.Xxh64
