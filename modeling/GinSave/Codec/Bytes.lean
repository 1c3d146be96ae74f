/-!
Byte and bit fields of a byte array, as the compressed formats lay them out: numbers of several
bytes are little-endian, and bits are counted from the low end of each byte. Reads past the end
of the array see zero bytes, which is what every reader of the formats here assumes about the
space after its input.
-/

namespace GinSave.Codec

/-- The byte at `i`, or zero past the end. -/
def byteAt (b : ByteArray) (i : Nat) : Nat :=
  if h : i < b.size then b[i].toNat else 0

/-- The little-endian number held by the `width` bytes from `pos`. -/
def readLE (b : ByteArray) (pos width : Nat) : Nat :=
  (List.range width).foldr (fun k acc => acc * 256 + byteAt b (pos + k)) 0

/-- The `n` bits of `b` from bit `start` on, the lowest bit first, as a number below `2 ^ n`. -/
def bitField (b : ByteArray) (start n : Nat) : Nat :=
  (readLE b (start / 8) ((start % 8 + n + 7) / 8) >>> (start % 8)) % Nat.pow 2 n

/-- The bytes from `start` up to `stop`, cut to the array. -/
def slice (b : ByteArray) (start stop : Nat) : ByteArray :=
  b.extract start stop

/-- `n` copies of one byte. -/
def repeatByte (v : Nat) (n : Nat) : ByteArray :=
  ⟨Array.replicate n v.toUInt8⟩

/-- A bit field of `n` bits is below `2 ^ n`. -/
theorem bitField_lt (b : ByteArray) (start n : Nat) : bitField b start n < Nat.pow 2 n :=
  Nat.mod_lt _ (Nat.two_pow_pos n)

/-- A byte read, in range or not, is below 256. -/
theorem byteAt_lt (b : ByteArray) (i : Nat) : byteAt b i < 256 := by
  unfold byteAt
  split
  · exact UInt8.toNat_lt _
  · decide

end GinSave.Codec
