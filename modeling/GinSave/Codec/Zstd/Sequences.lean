import GinSave.Codec.Zstd.Literals

/-!
The sequences section of a compressed block, and how a block's content is rebuilt from it.

A sequence copies `literals` bytes from the literals section, then `matchLength` bytes from
`offset` bytes back in the content so far. Its three codes come from three FSE states that share
one backward bit stream; each code adds extra bits to a base value. Offsets below four name one
of the three offsets used last (shifted by one when the sequence copies no literals), which the
frame keeps from block to block.
-/

namespace GinSave.Codec.Zstd

/-- One sequence. -/
structure Sequence where
  literals : Nat
  matchLength : Nat
  offset : Nat

/-- Base value and extra bits of each literal-length code. -/
def literalCodes : Array (Nat × Nat) :=
  (List.range 16).toArray.map (·, 0) ++
  #[(16, 1), (18, 1), (20, 1), (22, 1), (24, 2), (28, 2), (32, 3), (40, 3), (48, 4), (64, 6),
    (128, 7), (256, 8), (512, 9), (1024, 10), (2048, 11), (4096, 12), (8192, 13), (16384, 14),
    (32768, 15), (65536, 16)]

/-- Base value and extra bits of each match-length code. -/
def matchCodes : Array (Nat × Nat) :=
  (List.range 32).toArray.map (· + 3, 0) ++
  #[(35, 1), (37, 1), (39, 1), (41, 1), (43, 2), (47, 2), (51, 3), (59, 3), (67, 4), (83, 4),
    (99, 5), (131, 7), (259, 8), (515, 9), (1027, 10), (2051, 11), (4099, 12), (8195, 13),
    (16387, 14), (32771, 15), (65539, 16)]

/-- The counts of the table used when a block says "predefined" for literal lengths. -/
def literalCounts : Array Int :=
  #[4, 3, 2, 2, 2, 2, 2, 2, 2, 2, 2, 2, 2, 1, 1, 1, 2, 2, 2, 2, 2, 2, 2, 2, 2, 3, 2, 1, 1, 1, 1, 1,
    -1, -1, -1, -1]

/-- The counts of the predefined table for match lengths. -/
def matchCounts : Array Int :=
  #[1, 4, 3, 2, 2, 2, 2, 2, 2, 1, 1, 1, 1, 1, 1, 1, 1, 1, 1, 1, 1, 1, 1, 1, 1, 1, 1, 1, 1, 1, 1, 1,
    1, 1, 1, 1, 1, 1, 1, 1, 1, 1, 1, 1, 1, 1, -1, -1, -1, -1, -1, -1, -1]

/-- The counts of the predefined table for offsets. -/
def offsetCounts : Array Int :=
  #[1, 1, 1, 1, 1, 1, 2, 2, 2, 1, 1, 1, 1, 1, 1, 1, 1, 1, 1, 1, 1, 1, 1, 1, -1, -1, -1, -1, -1]

/-- What each of the three codes is: its largest symbol, its largest accuracy, and its
predefined table. -/
structure CodeKind where
  maxSymbol : Nat
  maxAccuracy : Nat
  predefined : FseTable

def CodeKind.literal : CodeKind := ⟨35, 9, FseTable.build 6 literalCounts⟩
def CodeKind.matchLen : CodeKind := ⟨52, 9, FseTable.build 6 matchCounts⟩
def CodeKind.offset : CodeKind := ⟨31, 8, FseTable.build 5 offsetCounts⟩

/-- The tables and offsets that a frame carries from one block to the next. -/
structure Carried where
  huffman : Option HuffTable := none
  literalTable : Option FseTable := none
  offsetTable : Option FseTable := none
  matchTable : Option FseTable := none
  recent : Nat × Nat × Nat := (1, 4, 8)

/-- Reads the table of one code in the given mode; returns it with the bytes taken. -/
def readCodeTable (kind : CodeKind) (mode : Nat) (src : ByteArray) (prev : Option FseTable) :
    Except ZstdError (FseTable × Nat) :=
  if mode == 0 then .ok (kind.predefined, 0)
  else if mode == 1 then do
    ensure (0 < src.size) .wrongSize
    ensure (byteAt src 0 ≤ kind.maxSymbol) .corrupt
    return (FseTable.single (byteAt src 0), 1)
  else if mode == 2 then
    match readCounts src (kind.maxSymbol + 1) with
    | .error _ => .error .corrupt
    | .ok read =>
      if kind.maxAccuracy < read.accuracy then .error .corrupt
      else .ok (FseTable.build read.accuracy read.counts, read.size)
  else
    match prev with
    | some t => .ok (t, 0)
    | none => .error .corrupt

/-- The offset a code stands for, and the recent offsets after it. `noLiterals` tells whether the
sequence copies no literals. -/
def resolveOffset (code extra : Nat) (noLiterals : Bool) (recent : Nat × Nat × Nat) :
    Nat × (Nat × Nat × Nat) :=
  let (r0, r1, r2) := recent
  if 1 < code then
    let o := Nat.pow 2 code + extra - 3
    (o, (o, r0, r1))
  else if code == 0 then
    if noLiterals then (r1, (r1, r0, r2)) else (r0, recent)
  else
    let index := 1 + (if noLiterals then 1 else 0) + extra
    let chosen := if index == 3 then r0 - 1 else if index == 2 then r2 else r1
    let o := if chosen == 0 then 1 else chosen
    (o, (o, r0, if index == 1 then r2 else r1))

/-- The three FSE states and their tables. -/
structure SeqStates where
  literal : Nat
  offset : Nat
  matchLen : Nat

/-- Decodes `n` sequences: per sequence the offset, match-length and literal-length bits, then
the three states step (literal length, match length, offset). -/
def decodeSequences (lt ot mt : FseTable) : Nat → SeqStates → BackwardBits → Nat × Nat × Nat →
    Array Sequence → Array Sequence × BackwardBits × (Nat × Nat × Nat)
  | 0, _, bits, recent, out => (out, bits, recent)
  | n + 1, st, bits, recent, out =>
    let llCode := (lt.cell st.literal).symbol
    let ofCode := (ot.cell st.offset).symbol
    let mlCode := (mt.cell st.matchLen).symbol
    let (ofExtra, bits) := bits.read ofCode
    let (offset, recent) := resolveOffset ofCode ofExtra (llCode == 0) recent
    let (mlBase, mlBits) := matchCodes.getD mlCode (0, 0)
    let (mlExtra, bits) := bits.read mlBits
    let (llBase, llBits) := literalCodes.getD llCode (0, 0)
    let (llExtra, bits) := bits.read llBits
    let (literal, bits) := lt.step st.literal bits
    let (matchLen, bits) := mt.step st.matchLen bits
    let (offsetState, bits) := ot.step st.offset bits
    decodeSequences lt ot mt n ⟨literal, offsetState, matchLen⟩ bits recent
      (out.push ⟨llBase + llExtra, mlBase + mlExtra, offset⟩)

/-- Appends the bytes from `distance` back, one at a time, so that a copy may overlap what it
writes. -/
def copyBack (distance : Nat) : Nat → ByteArray → ByteArray
  | 0, acc => acc
  | n + 1, acc => copyBack distance n (acc.push (byteAt acc (acc.size - distance)).toUInt8)

/-- Carries out the sequences on `out`, with the block's literals, within `capacity` bytes of
content; the literals left over close the block. -/
def runSequences (lits : ByteArray) (capacity : Nat) (seqs : List Sequence) (out : ByteArray)
    (used : Nat) : Except ZstdError ByteArray :=
  match seqs with
  | [] => do
    let rest := lits.size - used
    ensure (out.size + rest ≤ capacity) .outputTooSmall
    return out ++ slice lits used lits.size
  | s :: more => do
    ensure (out.size + s.literals + s.matchLength ≤ capacity) .outputTooSmall
    ensure (used + s.literals ≤ lits.size) .corrupt
    let out := out ++ slice lits used (used + s.literals)
    ensure (s.offset ≤ out.size) .corrupt
    let out := copyBack s.offset s.matchLength out
    runSequences lits capacity more out (used + s.literals)

/-- The number of sequences at the start of the section, and the bytes it took. -/
def readSequenceCount (src : ByteArray) : Except ZstdError (Nat × Nat) := do
  ensure (1 ≤ src.size) .wrongSize
  let b0 := byteAt src 0
  if b0 < 128 then return (b0, 1)
  else if b0 == 255 then
    ensure (3 ≤ src.size) .wrongSize
    return (readLE src 1 2 + 0x7F00, 3)
  else
    ensure (2 ≤ src.size) .wrongSize
    return ((b0 - 128) * 256 + byteAt src 1, 2)

/-- Rebuilds one compressed block onto `out`, within `capacity` bytes of frame content. -/
def decodeCompressed (src : ByteArray) (carried : Carried) (out : ByteArray) (capacity : Nat) :
    Except ZstdError (ByteArray × Carried) := do
  ensure (src.size < blockMax) .wrongSize
  let lit ← readLiterals src carried.huffman
  let carried := { carried with huffman := lit.table }
  let rest := slice src lit.size src.size
  let (count, head) ← readSequenceCount rest
  if count == 0 then
    ensure (rest.size == 1) .wrongSize
    let out ← runSequences lit.bytes capacity [] out 0
    return (out, carried)
  ensure (head + 1 ≤ rest.size) .wrongSize
  let modes := byteAt rest head
  let pos := head + 1
  let (lt, n1) ← readCodeTable .literal (modes >>> 6) (slice rest pos rest.size) carried.literalTable
  let pos := pos + n1
  let (ot, n2) ← readCodeTable .offset ((modes >>> 4) % 4) (slice rest pos rest.size)
    carried.offsetTable
  let pos := pos + n2
  let (mt, n3) ← readCodeTable .matchLen ((modes >>> 2) % 4) (slice rest pos rest.size)
    carried.matchTable
  let pos := pos + n3
  let bits ← (BackwardBits.init (slice rest pos rest.size)).mapError fun _ => .corrupt
  let (s1, bits) := lt.start bits
  let (s2, bits) := ot.start bits
  let (s3, bits) := mt.start bits
  let (seqs, bits, recent) := decodeSequences lt ot mt count ⟨s1, s2, s3⟩ bits carried.recent #[]
  ensure (bits.pos ≤ 0) .corrupt
  let out ← runSequences lit.bytes capacity seqs.toList out 0
  let carried :=
    { carried with literalTable := some lt, offsetTable := some ot, matchTable := some mt,
                   recent := recent }
  return (out, carried)

end GinSave.Codec.Zstd
