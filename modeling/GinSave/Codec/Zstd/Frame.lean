import GinSave.Codec.Zstd.Sequences
import GinSave.Codec.Xxh64

/-!
ZSTD frames. A frame opens with the magic number `28 B5 2F FD`, a descriptor byte and the fields
it announces (window, dictionary id, content size), then holds blocks, each with a three-byte
header (last flag, kind, size), and may close with the low 32 bits of the content's xxHash.
Frames whose magic is `50`–`5F 2A 4D 18` are skippable and hold no content.

Only the first frame of an input is decoded: what follows it is not looked at.
-/

namespace GinSave.Codec.Zstd

/-- The fields of a frame header. -/
structure FrameHeader where
  size : Nat
  contentSize : Option Nat
  window : Nat
  checksum : Bool
  singleSegment : Bool

/-- What the first bytes of an input announce. -/
inductive FrameStart where
  | skippable
  | frame (h : FrameHeader)

def frameMagic : Nat := 0xFD2FB528

/-- A skippable frame's magic, whatever its low four bits. -/
def isSkippableMagic (m : Nat) : Bool :=
  m / 16 == 0x184D2A5

/-- The bytes a header of this descriptor takes. -/
def headerSize (descriptor : Nat) : Nat :=
  let single := (descriptor >>> 5) % 2 == 1
  let fcs := descriptor >>> 6
  5 + (if single then 0 else 1) + [0, 1, 2, 4].getD (descriptor % 4) 0 +
    (if fcs == 0 then (if single then 1 else 0) else [0, 2, 4, 8].getD fcs 0)

/-- The start of an input shorter than a magic number: it fails at once unless it begins one. -/
def shortStart (src : ByteArray) : Except ZstdError FrameStart :=
  let n := min 4 src.size
  let filled (m : Nat) := (List.range 4).foldr
    (fun k acc => acc * 256 + (if k < n then byteAt src k else (m >>> (8 * k)) % 256)) 0
  if src.size == 0 || filled frameMagic == frameMagic ||
      isSkippableMagic (filled 0x184D2A50) then .error .truncated
  else .error .unknownPrefix

/-- Reads the header at the start of `src`. `truncated` means the input ends inside it. -/
def readFrameHeader (src : ByteArray) : Except ZstdError FrameStart := do
  if src.size < 5 then return ← shortStart src
  let magic := readLE src 0 4
  if magic != frameMagic then
    if isSkippableMagic magic then
      ensure (8 ≤ src.size) .truncated
      return .skippable
    throw .unknownPrefix
  let d := byteAt src 4
  let size := headerSize d
  ensure (size ≤ src.size) .truncated
  ensure ((d >>> 3) % 2 == 0) .unsupported
  let single := (d >>> 5) % 2 == 1
  let dictBytes := [0, 1, 2, 4].getD (d % 4) 0
  let windowByte := byteAt src 5
  let windowLog := (windowByte >>> 3) + 10
  if !single then ensure (windowLog ≤ 31) .windowTooLarge
  let fcsPos := 5 + (if single then 0 else 1) + dictBytes
  let fcs := d >>> 6
  let content :=
    if fcs == 0 then (if single then some (byteAt src fcsPos) else none)
    else if fcs == 1 then some (readLE src fcsPos 2 + 256)
    else if fcs == 2 then some (readLE src fcsPos 4)
    else
      -- the largest eight-byte size is the decoder's own mark for "not given"
      let v := readLE src fcsPos 8
      if v == Nat.pow 2 64 - 1 then none else some v
  let window :=
    if single then content.getD 0
    else Nat.pow 2 windowLog + (Nat.pow 2 windowLog / 8) * (windowByte % 8)
  return .frame ⟨size, content, window, (d >>> 2) % 2 == 1, single⟩

/-- Decodes the blocks from `pos` on, within `capacity` bytes of content; returns the content and
the position after the last block. -/
def decodeBlocks (src : ByteArray) (capacity : Nat) : Nat → Nat → Carried → ByteArray →
    Except ZstdError (ByteArray × Nat)
  | 0, _, _, _ => .error .truncated
  | fuel + 1, pos, carried, out => do
    ensure (pos + 3 ≤ src.size) .truncated
    let head := readLE src pos 3
    let last := head % 2 == 1
    let kind := (head >>> 1) % 4
    let size := head >>> 3
    let body := pos + 3
    ensure (kind != 3) .corrupt
    let (out, carried, next) ←
      if kind == 0 then do
        ensure (body + size ≤ src.size) .truncated
        ensure (out.size + size ≤ capacity) .outputTooSmall
        pure (out ++ slice src body (body + size), carried, body + size)
      else if kind == 1 then do
        ensure (body + 1 ≤ src.size) .truncated
        ensure (out.size + size ≤ capacity) .outputTooSmall
        pure (out ++ repeatByte (byteAt src body) size, carried, body + 1)
      else do
        ensure (body + size ≤ src.size) .truncated
        let (out, carried) ← decodeCompressed (slice src body (body + size)) carried out capacity
        pure (out, carried, body + size)
    if last then return (out, next)
    decodeBlocks src capacity fuel next carried out

/-- Decodes the frame whose header was read, within `capacity` bytes of content. A declared
content size must be met exactly, and a checksum must match. -/
def decodeFrame (src : ByteArray) (h : FrameHeader) (capacity : Nat) :
    Except ZstdError ByteArray := do
  let (out, pos) ← decodeBlocks src capacity src.size h.size {} ByteArray.empty
  if let some n := h.contentSize then ensure (out.size == n) .corrupt
  if h.checksum then
    ensure (pos + 4 ≤ src.size) .truncated
    ensure (readLE src pos 4 == (Xxh64.hash out).toNat % Nat.pow 2 32) .checksum
  return out

/-- The end of the frame that starts at `pos` with a header of `h`, found by walking the block
headers alone; `none` if the input ends first or a block is of the reserved kind. -/
def frameExtent (src : ByteArray) (h : FrameHeader) : Nat → Nat → Option Nat
  | 0, _ => none
  | fuel + 1, pos =>
    if src.size < pos + 3 then none
    else
      let head := readLE src pos 3
      let kind := (head >>> 1) % 4
      let size := if kind == 1 then 1 else head >>> 3
      if kind == 3 || src.size < pos + 3 + size then none
      else if head % 2 == 1 then
        let stop := pos + 3 + size + (if h.checksum then 4 else 0)
        if src.size < stop then none else some stop
      else frameExtent src h fuel (pos + 3 + size)

/-- Why decompressing a whole input gives no content. -/
inductive ZstdFault where
  /-- The size limit does not fit a signed machine word. -/
  | limitOverflow
  /-- The input does not start with a complete frame header. -/
  | unreadableHeader
  /-- The frame gives no content size and no limit was given. -/
  | unknownSize
  /-- The declared content size does not fit a signed machine word. -/
  | tooLarge
  /-- The frame gives no content size and the limit is negative. -/
  | negativeLimit
  /-- Decoding failed. -/
  | failed (e : ZstdError)
  /-- The content did not fit the limit, or the input ended inside the frame. -/
  | unfinished

/-- The text of a fault. -/
def ZstdFault.message : ZstdFault → String
  | .limitOverflow => "Python int too large to convert to C ssize_t"
  | .unreadableHeader => "error determining content size from frame header"
  | .unknownSize => "could not determine content size in frame header"
  | .tooLarge => "frame is too large to decompress on this platform"
  | .negativeLimit => "Negative size passed to PyBytes_FromStringAndSize"
  | .failed e => "decompression error: " ++ e.name
  | .unfinished => "decompression error: did not decompress full frame"

/-- The largest window a decoder holds when it decodes block by block. -/
def windowLimit : Nat := Nat.pow 2 27 + 1

/-- Decodes block by block, as when the frame is not known to be whole: running out of input or
of room leaves the frame unfinished. -/
def decodeStreaming (src : ByteArray) (h : FrameHeader) (capacity : Nat) :
    Except ZstdFault ByteArray :=
  if windowLimit < max h.window 1024 then .error (.failed .windowTooLarge)
  else match decodeFrame src h capacity with
    | .ok out => .ok out
    | .error .truncated => .error .unfinished
    | .error .outputTooSmall => .error .unfinished
    | .error e => .error (.failed e)

/-- The content of the first frame of `src`. A declared content size is the room given; a frame
without one gets `limit` bytes of room, and must declare a size if `limit` is zero. An empty or
skippable frame has no content. -/
def decompressWithin (src : ByteArray) (limit : Int) : Except ZstdFault ByteArray :=
  if limit < -Nat.pow 2 63 || Nat.pow 2 63 ≤ limit then .error .limitOverflow
  else match readFrameHeader src with
    | .error _ => .error .unreadableHeader
    | .ok .skippable => .ok ByteArray.empty
    | .ok (.frame h) =>
      match h.contentSize with
      | some 0 => .ok ByteArray.empty
      | some n =>
        if n == Nat.pow 2 64 - 2 then .error .unreadableHeader
        else if Nat.pow 2 63 ≤ n then .error .tooLarge
        else match frameExtent src h src.size h.size with
          | some _ => (decodeFrame src h n).mapError .failed
          | none => decodeStreaming src h n
      | none =>
        if limit == 0 then .error .unknownSize
        else if limit < 0 then .error .negativeLimit
        else decodeStreaming src h limit.toNat

end GinSave.Codec.Zstd
