import GinSave.Codec.Bytes
import GinSave.Fault

/-!
The `.gin` container. A 312-byte header (magic `GIN\0`, version, reserved fields, an id, a path
and the section count at byte 292) is followed by a table of 136-byte section entries: a 64-byte
name, the data's offset (eight bytes), its size, its packed size and its flags (four bytes each),
then parameters, a version, an id and a checksum that extraction does not use.

Reading is sequential, as from a file: the header first, then one entry after another, and a
read that comes up short stops everything.
-/

namespace GinSave.Archive

open GinSave.Codec

/-- The magic number, `GIN\0` read as a little-endian word. -/
def magic : Nat := 0x004E4947

/-- The bytes of the header. -/
def headerSize : Nat := 312

/-- The bytes of a section entry. -/
def entrySize : Nat := 136

/-- The header fields that extraction uses. -/
structure Header where
  magic : Nat
  version : Nat
  count : Nat

/-- A section entry. -/
structure Section where
  name : ByteArray
  offset : Nat
  size : Nat
  packedSize : Nat
  flags : Nat

/-- Reads the header at the start of the bytes. -/
def Header.read (b : ByteArray) : Except Fault Header :=
  if b.size < headerSize then .error (.shortBuffer headerSize)
  else .ok ⟨readLE b 0 4, readLE b 4 4, readLE b 292 4⟩

/-- Reads the entry at `pos`. -/
def Section.read (b : ByteArray) (pos : Nat) : Except Fault Section :=
  if b.size < pos + entrySize then .error (.shortBuffer entrySize)
  else .ok ⟨slice b pos (pos + 64), readLE b (pos + 64) 8, readLE b (pos + 72) 4,
    readLE b (pos + 76) 4, readLE b (pos + 80) 4⟩

/-- Reads `n` entries from `pos` on. -/
def readTable (b : ByteArray) : Nat → Nat → Except Fault (List Section)
  | 0, _ => .ok []
  | n + 1, pos => do
    let s ← Section.read b pos
    let rest ← readTable b n (pos + entrySize)
    return s :: rest

/-- Whether the bytes start with the container's magic. -/
def hasMagic (b : ByteArray) : Bool :=
  4 ≤ b.size && readLE b 0 4 == magic

/-- The bytes to read for a section: its packed size if it has one, else its size. -/
def Section.readSize (s : Section) : Nat :=
  if 0 < s.packedSize then s.packedSize else s.size

/-- The largest offset a read may start from. -/
def seekLimit : Nat := (Nat.pow 2 32 - 1) * 4096

/-- Reads `count` bytes from `offset`, as a seek and a read on a file: the offset must fit a
signed 64-bit word and be neither negative nor past the store's largest file; a read past the
end gives what is there. -/
def readAt (b : ByteArray) (offset : Int) (count : Nat) : Except Fault ByteArray :=
  if offset < -Nat.pow 2 63 || Nat.pow 2 63 ≤ offset then
    .error (.outOfRange "cannot fit 'int' into an offset-sized integer")
  else if offset < 0 || seekLimit < offset then .error (.os .osError 22 "Invalid argument" none)
  else .ok (slice b offset.toNat (offset.toNat + count))

end GinSave.Archive
