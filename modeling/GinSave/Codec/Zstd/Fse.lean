import GinSave.Codec.Zstd.Bits

/-!
Finite state entropy tables. A table of `2 ^ accuracy` cells is described by one normalized
count per symbol (the number of cells it owns, or `-1` for a symbol rarer than one cell). The
description is read as a little-endian bit field whose widths shrink as the counts use up the
table; a zero count is followed by two-bit fields that skip further zero counts.

The table is laid out from the counts alone: symbols of count `-1` take the last cells one each,
the others are spread over the rest with a fixed stride, and each cell then learns how many bits
to read for the next state and what to add to them.
-/

namespace GinSave.Codec.Zstd

/-- Normalized counts as read from a table description, and the bytes the description took. -/
structure CountsRead where
  accuracy : Nat
  counts : Array Int
  size : Nat

/-- Where the reader of a table description stands. -/
structure CountState where
  pos : Nat
  remaining : Int
  threshold : Nat
  width : Nat
  counts : Array Int
  afterZero : Bool

/-- After a zero count: two-bit fields, each `3` adding three more zero counts and going on, the
last adding its own value. Returns the position after them and the number of zero counts. -/
def zeroRun (src : ByteArray) : Nat → Nat → Nat → Nat × Nat
  | 0, pos, n => (pos, n)
  | fuel + 1, pos, n =>
    let f := bitField src pos 2
    if f = 3 then zeroRun src fuel (pos + 2) (n + 3) else (pos + 2, n + f)

/-- Reads one count after another until the table is used up or `limit` symbols have counts. -/
def countsLoop (src : ByteArray) (limit : Nat) : Nat → CountState → CountState
  | 0, st => st
  | fuel + 1, st =>
    let (pos, counts) :=
      if st.afterZero then
        let (pos, n) := zeroRun src (4 * src.size + 1) st.pos 0
        (pos, st.counts ++ Array.replicate n 0)
      else (st.pos, st.counts)
    if st.afterZero && limit ≤ counts.size then { st with pos, counts }
    else
      let t := st.threshold
      let most : Nat := (2 * (t : Int) - 1 - st.remaining).toNat
      let low := bitField src pos (st.width - 1)
      let (value, used) :=
        if low < most then (low, st.width - 1)
        else
          let v := bitField src pos st.width
          (if t ≤ v then v - most else v, st.width)
      let count : Int := (value : Int) - 1
      let remaining := st.remaining - count.natAbs
      let counts := counts.push count
      let st := { st with pos := pos + used, remaining, counts, afterZero := count == 0 }
      if remaining < t then
        if remaining ≤ 1 then st
        else
          let width := Nat.log2 remaining.toNat + 1
          let st := { st with width, threshold := Nat.pow 2 (width - 1) }
          if limit ≤ counts.size then st else countsLoop src limit fuel st
      else if limit ≤ counts.size then st
      else countsLoop src limit fuel st

/-- Reads a table description for symbols below `limit`. The counts must fill the table exactly,
and the description must lie within `src`. -/
def readCounts (src : ByteArray) (limit : Nat) : Except ZstdError CountsRead := do
  let accuracy := bitField src 0 4 + 5
  ensure (accuracy ≤ 15) .tableLogTooLarge
  let start : CountState :=
    ⟨4, (Nat.pow 2 accuracy + 1 : Nat), Nat.pow 2 accuracy, accuracy + 1, #[], false⟩
  let st := countsLoop src limit (limit + 1) start
  ensure (st.remaining == 1) .corrupt
  ensure (st.counts.size ≤ limit) .symbolsTooMany
  let size := (st.pos + 7) / 8
  ensure (size ≤ src.size) .corrupt
  return ⟨accuracy, st.counts, size⟩

/-- One cell of a decoding table: its symbol, and how the next state is formed from it (read
`bits` bits and add `base`). -/
structure FseCell where
  symbol : Nat
  bits : Nat
  base : Nat

/-- A decoding table of `2 ^ accuracy` cells. -/
structure FseTable where
  accuracy : Nat
  cells : Array FseCell

/-- The next free cell after `pos`, stepping by `step` and passing over the cells above `high`. -/
def nextCell (step mask high : Nat) : Nat → Nat → Nat
  | 0, pos => pos
  | fuel + 1, pos =>
    let p := (pos + step) &&& mask
    if high < p then nextCell step mask high fuel p else p

/-- The symbol of every cell. -/
def spreadSymbols (accuracy : Nat) (counts : Array Int) : Array Nat :=
  let size := Nat.pow 2 accuracy
  let (cells, high) := (List.range counts.size).foldl
    (fun (acc : Array Nat × Nat) s =>
      if counts.getD s 0 == -1 then (acc.1.setIfInBounds acc.2 s, acc.2 - 1) else acc)
    (Array.replicate size 0, size - 1)
  let step := size / 2 + size / 8 + 3
  let (cells, _) := (List.range counts.size).foldl
    (fun (acc : Array Nat × Nat) s =>
      (List.range (counts.getD s 0).toNat).foldl
        (fun (acc : Array Nat × Nat) _ =>
          (acc.1.setIfInBounds acc.2 s, nextCell step (size - 1) high size acc.2))
        acc)
    (cells, 0)
  cells

/-- The decoding table of the counts. -/
def FseTable.build (accuracy : Nat) (counts : Array Int) : FseTable :=
  let size := Nat.pow 2 accuracy
  let next : Array Nat := counts.map fun c => if c == -1 then 1 else c.toNat
  let (cells, _) := (spreadSymbols accuracy counts).foldl
    (fun (acc : Array FseCell × Array Nat) s =>
      let n := acc.2.getD s 1
      let bits := accuracy - Nat.log2 n
      (acc.1.push ⟨s, bits, (n <<< bits) - size⟩, acc.2.setIfInBounds s (n + 1)))
    (#[], next)
  ⟨accuracy, cells⟩

/-- The table of one symbol: every state stands for it and reads no bits. -/
def FseTable.single (symbol : Nat) : FseTable :=
  ⟨0, #[⟨symbol, 0, 0⟩]⟩

/-- The cell of a state. -/
def FseTable.cell (t : FseTable) (state : Nat) : FseCell :=
  t.cells.getD state ⟨0, 0, 0⟩

/-- The first state, read from the stream. -/
def FseTable.start (t : FseTable) (s : BackwardBits) : Nat × BackwardBits :=
  s.read t.accuracy

/-- The state after `state`, read from the stream. -/
def FseTable.step (t : FseTable) (state : Nat) (s : BackwardBits) : Nat × BackwardBits :=
  let c := t.cell state
  let (v, s) := s.read c.bits
  (c.base + v, s)

end GinSave.Codec.Zstd
