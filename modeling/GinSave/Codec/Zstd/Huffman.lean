import GinSave.Codec.Zstd.Fse

/-!
Huffman coding of ZSTD literals. A table is described by one weight per symbol: weight `w > 0`
gives a code of `log + 1 - w` bits, weight zero no code, and the last symbol's weight is left out
because the weights must fill a power of two. The weights come either four bits each or coded
with a small FSE table that two interleaved states share.

Decoding looks up `log` bits at once: the table has `2 ^ log` cells, filled by ascending weight
and, within a weight, by ascending symbol, each symbol taking `2 ^ (w - 1)` cells.
-/

namespace GinSave.Codec.Zstd

/-- A Huffman decoding table: each cell holds a symbol and the length of its code. -/
structure HuffTable where
  log : Nat
  cells : Array (Nat × Nat)

/-- The symbols decoded by the two alternating states of the weight stream. The stream ends when a
state step reads below its start; the other state then gives one last symbol. -/
def weightSymbols (t : FseTable) : Nat → Nat → Nat → BackwardBits → Array Nat →
    Except ZstdError (Array Nat)
  | 0, _, _, _, out => .ok out
  | fuel + 1, s1, s2, bits, out => do
    ensure (out.size ≤ 253) .outputTooSmall
    let out := out.push (t.cell s1).symbol
    let (s1, bits) := t.step s1 bits
    if bits.overread then return out.push (t.cell s2).symbol
    ensure (out.size ≤ 253) .outputTooSmall
    let out := out.push (t.cell s2).symbol
    let (s2, bits) := t.step s2 bits
    if bits.overread then return out.push (t.cell s1).symbol
    weightSymbols t fuel s1 s2 bits out

/-- Weights coded with an FSE table of accuracy at most six. -/
def codedWeights (src : ByteArray) : Except ZstdError (Array Nat) := do
  let read ← readCounts src 256
  ensure (read.accuracy ≤ 6) .tableLogTooLarge
  let table := FseTable.build read.accuracy read.counts
  let bits ← BackwardBits.init (slice src read.size src.size)
  let (s1, bits) := table.start bits
  let (s2, bits) := table.start bits
  weightSymbols table 256 s1 s2 bits #[]

/-- The weights given four bits each, the high half of a byte first. -/
def directWeights (src : ByteArray) (n : Nat) : Array Nat :=
  (List.range n).toArray.map fun i =>
    let b := byteAt src (i / 2)
    if i % 2 == 0 then b >>> 4 else b % 16

/-- Reads the weights of a table description; returns them with the bytes taken. -/
def readWeights (src : ByteArray) : Except ZstdError (Array Nat × Nat) := do
  ensure (0 < src.size) .wrongSize
  let head := byteAt src 0
  if 128 ≤ head then
    let n := head - 127
    let bytes := (n + 1) / 2
    ensure (bytes + 1 ≤ src.size) .wrongSize
    return (directWeights (slice src 1 (1 + bytes)) n, bytes + 1)
  else
    ensure (head + 1 ≤ src.size) .wrongSize
    let ws ← codedWeights (slice src 1 (1 + head))
    return (ws, head + 1)

/-- The sum that the weights fill: `2 ^ (w - 1)` for each weight `w > 0`. -/
def weightTotal (ws : Array Nat) : Nat :=
  ws.foldl (fun acc w => acc + (Nat.pow 2 w) / 2) 0

/-- The cells of a table for complete weights `all`, by ascending weight, then symbol. -/
def huffCells (log : Nat) (all : Array Nat) : Array (Nat × Nat) :=
  (List.range log).foldl
    (fun cells k =>
      let w := k + 1
      (List.range all.size).foldl
        (fun cells s =>
          if all.getD s 0 == w then cells ++ Array.replicate (Nat.pow 2 w / 2) (s, log + 1 - w)
          else cells)
        cells)
    #[]

/-- The table of the given weights, the last symbol's weight added so that they fill a power of
two. At least two symbols must have weight one, and an even number of them. -/
def HuffTable.ofWeights (ws : Array Nat) : Except ZstdError HuffTable := do
  ensure (ws.all (· ≤ 12)) .corrupt
  let total := weightTotal ws
  ensure (total != 0) .corrupt
  let log := Nat.log2 total + 1
  ensure (log ≤ 12) .corrupt
  let rest := Nat.pow 2 log - total
  ensure (Nat.pow 2 (Nat.log2 rest) == rest) .corrupt
  let all := ws.push (Nat.log2 rest + 1)
  let ones := all.foldl (fun n w => if w == 1 then n + 1 else n) 0
  ensure (2 ≤ ones && ones % 2 == 0) .corrupt
  return ⟨log, huffCells log all⟩

/-- Reads a table description; returns the table and the bytes taken. -/
def HuffTable.read (src : ByteArray) : Except ZstdError (HuffTable × Nat) := do
  let (ws, used) ← readWeights src
  let t ← HuffTable.ofWeights ws
  return (t, used)

/-- Decodes `n` symbols from the bits, `log` bits looked up at a time. -/
def HuffTable.decodeLoop (t : HuffTable) : Nat → BackwardBits → ByteArray → ByteArray × BackwardBits
  | 0, bits, out => (out, bits)
  | n + 1, bits, out =>
    let (sym, len) := t.cells.getD (bits.peek t.log) (0, 0)
    t.decodeLoop n (bits.skip len) (out.push sym.toUInt8)

/-- Decodes one stream of `n` symbols, which must use up its bits exactly. -/
def HuffTable.decodeStream (t : HuffTable) (src : ByteArray) (n : Nat) :
    Except ZstdError ByteArray := do
  let bits ← (BackwardBits.init src).mapError fun _ => .corrupt
  let (out, bits) := t.decodeLoop n bits ByteArray.empty
  ensure bits.exhausted .corrupt
  return out

/-- Decodes four streams behind a jump table of three two-byte sizes: the first three streams hold
a quarter of the symbols each, rounded up, and the fourth the rest. -/
def HuffTable.decodeFour (t : HuffTable) (src : ByteArray) (n : Nat) :
    Except ZstdError ByteArray := do
  ensure (10 ≤ src.size) .corrupt
  let l1 := readLE src 0 2
  let l2 := readLE src 2 2
  let l3 := readLE src 4 2
  ensure (l1 + l2 + l3 + 6 ≤ src.size) .corrupt
  let segment := (n + 3) / 4
  ensure (3 * segment ≤ n) .corrupt
  let p2 := 6 + l1
  let p3 := p2 + l2
  let p4 := p3 + l3
  let a ← t.decodeStream (slice src 6 p2) segment
  let b ← t.decodeStream (slice src p2 p3) segment
  let c ← t.decodeStream (slice src p3 p4) segment
  let d ← t.decodeStream (slice src p4 src.size) (n - 3 * segment)
  return a ++ b ++ c ++ d

end GinSave.Codec.Zstd
