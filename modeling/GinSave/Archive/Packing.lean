import GinSave.Codec.Zstd.Frame
import GinSave.Codec.Lz4

/-!
How a section's stored bytes are packed, read off its flags: bit 4 marks a ZSTD frame, else
bit 5 an LZ4 block, else the bytes are stored as they are. Unpacking never stops an extraction:
a section that cannot be unpacked is reported and left out.
-/

namespace GinSave.Archive

open GinSave.Codec

/-- The ways a section may be packed. -/
inductive Packing where
  | zstd
  | lz4
  | stored
  deriving DecidableEq, Repr

/-- Bit `k` of an integer written in two's complement. -/
def intBit (n : Int) (k : Nat) : Bool :=
  match n with
  | .ofNat m => m.testBit k
  | .negSucc m => !(m.testBit k)

/-- The packing the flags announce; ZSTD wins over LZ4. -/
def Packing.ofFlags (flags : Int) : Packing :=
  if intBit flags 4 then .zstd else if intBit flags 5 then .lz4 else .stored

/-- The tag a packing is reported with. -/
def Packing.tag : Packing → String
  | .zstd => "[ZSTD]"
  | .lz4 => "[LZ4]"
  | .stored => "[RAW]"

/-- The content of a section's bytes; `size` is the content size the entry declares. On failure,
the reason as text. -/
def Packing.unpack (p : Packing) (data : ByteArray) (size : Int) : Except String ByteArray :=
  match p with
  | .zstd => (Zstd.decompressWithin data size).mapError Zstd.ZstdFault.message
  | .lz4 => (Lz4.decompress data size).mapError Lz4.Lz4Fault.message
  | .stored => .ok data

end GinSave.Archive
