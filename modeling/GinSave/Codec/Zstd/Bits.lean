import GinSave.Codec.Bytes
import GinSave.Codec.Zstd.Error

/-!
The backward bit stream of the entropy-coded parts of a ZSTD block. The writer finishes a stream
with a single set bit above its last bit, so the highest set bit of the last byte marks the top;
the reader starts there and each read takes the bits just below its position, the highest first.

`pos` counts the bits still unread. A reader may go below the start: the missing bits read as
zeros, and `pos` turns negative, which is how the decoders tell a stream that was overread from
one that was used up exactly.
-/

namespace GinSave.Codec.Zstd

/-- A backward bit stream and the number of bits still above its start. -/
structure BackwardBits where
  bytes : ByteArray
  pos : Int

/-- The stream held by `bytes`: it needs a last byte, and that byte must hold the end mark. -/
def BackwardBits.init (bytes : ByteArray) : Except ZstdError BackwardBits :=
  if bytes.size = 0 then .error .wrongSize
  else
    let last := byteAt bytes (bytes.size - 1)
    if last = 0 then .error .generic
    else .ok ⟨bytes, (8 * (bytes.size - 1) + Nat.log2 last : Nat)⟩

/-- The `n` bits just below the position, the highest first; bits below the start are zeros. -/
def BackwardBits.peek (s : BackwardBits) (n : Nat) : Nat :=
  let low := s.pos - n
  if 0 ≤ low then bitField s.bytes low.toNat n
  else if s.pos ≤ 0 then 0
  else bitField s.bytes 0 s.pos.toNat <<< (n - s.pos.toNat)

/-- Moves the position down by `n` bits. -/
def BackwardBits.skip (s : BackwardBits) (n : Nat) : BackwardBits :=
  { s with pos := s.pos - n }

/-- Reads `n` bits. -/
def BackwardBits.read (s : BackwardBits) (n : Nat) : Nat × BackwardBits :=
  (s.peek n, s.skip n)

/-- Every bit was read and none beyond. -/
def BackwardBits.exhausted (s : BackwardBits) : Bool :=
  s.pos == 0

/-- A read went below the start. -/
def BackwardBits.overread (s : BackwardBits) : Bool :=
  s.pos < 0

/-- Skipping `n` bits lowers the position by `n`. -/
theorem BackwardBits.skip_pos (s : BackwardBits) (n : Nat) : (s.skip n).pos = s.pos - n := rfl

/-- A read leaves the stream where a skip of the same width does. -/
theorem BackwardBits.read_snd (s : BackwardBits) (n : Nat) : (s.read n).2 = s.skip n := rfl

end GinSave.Codec.Zstd
