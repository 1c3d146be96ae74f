import GinSave.Codec.Bytes

/-!
LZ4 blocks. A block is a run of sequences: a token byte (four bits of literal length, four of
match length less four), more length bytes when a field is 15 (each 255 adding on), the literals,
and a two-byte offset back into the content. The last sequence has literals only.

Decoding into a room of `capacity` bytes follows the reference decoder's bounds: a literal run
that reaches within 12 bytes of the room's end or within 8 bytes of the input's end must be the
last and end the input exactly, and a match may not reach into the last five bytes of the room.
A short literal run well inside both bounds is taken without the end test, as the reference's
fast path does. Offset zero copies zero bytes. A failure reports the input position where it was
found, plus one.
-/

namespace GinSave.Codec.Lz4

/-- Where the decoder stands: input position and content so far. -/
structure Cursor where
  ip : Nat
  out : ByteArray

/-- Extra length bytes from `ip`: each adds its value and 255 goes on. Stops early once `ip`
reaches `bound`, telling so. -/
def extraLength (src : ByteArray) (bound : Nat) : Nat → Nat → Nat → Nat × Nat × Bool
  | 0, ip, acc => (ip, acc, true)
  | fuel + 1, ip, acc =>
    let s := byteAt src ip
    let ip := ip + 1
    if bound ≤ ip then (ip, acc + s, true)
    else if s == 255 then extraLength src bound fuel ip (acc + s)
    else (ip, acc + s, false)

/-- Appends `n` bytes copied from `distance` back, one at a time; distance zero gives zeros. -/
def copyMatch (distance : Nat) : Nat → ByteArray → ByteArray
  | 0, acc => acc
  | n + 1, acc =>
    let b := if distance == 0 then 0 else byteAt acc (acc.size - distance)
    copyMatch distance n (acc.push b.toUInt8)

/-- The match part of a sequence: offset at `ip`, then its length. After a short literal run
well inside the bounds, a short match from at least eight bytes back is copied without the room
test, as the reference's fast path does. -/
def matchPart (src : ByteArray) (capacity : Nat) (token : Nat) (quick : Bool) (c : Cursor) :
    Except Nat Cursor := do
  let offset := readLE src c.ip 2
  let ip := c.ip + 2
  if quick && token % 16 != 15 && 8 ≤ offset && offset ≤ c.out.size then
    return ⟨ip, copyMatch offset (token % 16 + 4) c.out⟩
  let (ip, len) ←
    if token % 16 == 15 then
      let (ip, extra, stopped) := extraLength src (src.size - 4) src.size ip 0
      if stopped then throw (ip + 1) else pure (ip, 15 + extra)
    else pure (ip, token % 16)
  let len := len + 4
  if c.out.size < offset then throw (ip + 1)
  if capacity < c.out.size + len + 5 then throw (ip + 1)
  return ⟨ip, copyMatch offset len c.out⟩

/-- Decodes the sequences from the cursor on. -/
def decodeLoop (src : ByteArray) (capacity : Nat) : Nat → Cursor → Except Nat ByteArray
  | 0, c => .error (c.ip + 1)
  | fuel + 1, c => do
    let token := byteAt src c.ip
    let ip := c.ip + 1
    let lits := token >>> 4
    if lits < 15 && ip + 17 ≤ src.size && c.out.size + 32 ≤ capacity then
      let c := ⟨ip + lits, c.out ++ slice src ip (ip + lits)⟩
      let c ← matchPart src capacity token true c
      decodeLoop src capacity fuel c
    else
      let (ip, lits) ←
        if lits == 15 then
          if src.size < ip + 15 + 1 then throw (ip + 1)
          else
            let (ip, extra, _) := extraLength src (src.size - 15) src.size ip 0
            pure (ip, 15 + extra)
        else pure (ip, lits)
      let stop := c.out.size + lits
      if capacity < stop + 12 || src.size < ip + lits + 8 then
        if ip + lits != src.size || capacity < stop then throw (ip + 1)
        return c.out ++ slice src ip (ip + lits)
      let c := ⟨ip + lits, c.out ++ slice src ip (ip + lits)⟩
      let c ← matchPart src capacity token false c
      decodeLoop src capacity fuel c

/-- The content of a block decoded into a room of `capacity` bytes. An empty room takes only the
one-byte block `00`; an empty block is refused. -/
def decodeBlock (src : ByteArray) (capacity : Nat) : Except Nat ByteArray :=
  if capacity == 0 then
    if src.size == 1 && byteAt src 0 == 0 then .ok ByteArray.empty else .error 1
  else if src.size == 0 then .error 1
  else decodeLoop src capacity (src.size + 1) ⟨0, ByteArray.empty⟩

/-- Why a block gives no content. -/
inductive Lz4Fault where
  /-- The room does not fit a signed 32-bit size. -/
  | sizeOverflow (tooLarge : Bool)
  /-- A negative size asks for a four-byte size header, and the input is shorter. -/
  | noHeader
  /-- Decoding failed at this input position plus one. -/
  | failed (code : Nat)
  /-- The header's size was not met. -/
  | wrongLength (wrote expected : Nat)

/-- The text of a fault. -/
def Lz4Fault.message : Lz4Fault → String
  | .sizeOverflow true => "signed integer is greater than maximum"
  | .sizeOverflow false => "signed integer is less than minimum"
  | .noHeader => "Input source data size too small"
  | .failed code =>
    "Decompression failed: corrupt input or insufficient space in destination buffer. Error code: "
      ++ toString code
  | .wrongLength w e =>
    "Decompressor wrote " ++ toString w ++ " bytes, but " ++ toString e ++
      " bytes expected from header"

/-- The content of a block given the size of its room. A negative size means the block starts
with its content size, four bytes little-endian, which must then be met exactly. -/
def decompress (src : ByteArray) (size : Int) : Except Lz4Fault ByteArray :=
  if Nat.pow 2 31 ≤ size then .error (.sizeOverflow true)
  else if size < -Nat.pow 2 31 then .error (.sizeOverflow false)
  else if 0 ≤ size then (decodeBlock src size.toNat).mapError .failed
  else if src.size < 4 then .error .noHeader
  else
    let expected := readLE src 0 4
    let body := slice src 4 src.size
    if Nat.pow 2 31 ≤ expected then .error (.failed 1)
    else match decodeBlock body expected with
      | .error code => .error (.failed code)
      | .ok out =>
        if out.size == expected then .ok out else .error (.wrongLength out.size expected)

end GinSave.Codec.Lz4
