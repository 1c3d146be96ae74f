import GinSave.Codec.Zstd.Huffman

/-!
The literals section that opens a compressed block. Its first byte gives the kind (stored, one
repeated byte, Huffman coded with a new table, or coded with the table of an earlier block) and
how wide the size fields that follow are. A Huffman-coded section is one stream or four.
-/

namespace GinSave.Codec.Zstd

/-- The literals of a block, the bytes their section took, and the Huffman table in force after it. -/
structure LiteralsRead where
  bytes : ByteArray
  size : Nat
  table : Option HuffTable

/-- The largest content of one block. -/
def blockMax : Nat := 128 * 1024

/-- Reads the literals section at the start of `src`; `prev` is the table of an earlier block. -/
def readLiterals (src : ByteArray) (prev : Option HuffTable) : Except ZstdError LiteralsRead := do
  ensure (3 ≤ src.size) .corrupt
  let b0 := byteAt src 0
  let kind := b0 % 4
  let form := (b0 >>> 2) % 4
  if kind < 2 then
    let (head, count) :=
      if form == 1 then (2, readLE src 0 2 >>> 4)
      else if form == 3 then (3, readLE src 0 3 >>> 4)
      else (1, b0 >>> 3)
    if kind == 0 then
      ensure (count ≤ blockMax) .outputTooSmall
      ensure (head + count ≤ src.size) .corrupt
      return ⟨slice src head (head + count), head + count, prev⟩
    else
      ensure (head + 1 ≤ src.size) .corrupt
      ensure (count ≤ blockMax) .corrupt
      return ⟨repeatByte (byteAt src head) count, head + 1, prev⟩
  else
    ensure (kind == 2 || prev.isSome) .dictionaryCorrupt
    ensure (5 ≤ src.size) .corrupt
    let word := readLE src 0 4
    let (head, count, packed) :=
      if form == 2 then (4, (word >>> 4) % Nat.pow 2 14, word >>> 18)
      else if form == 3 then (5, (word >>> 4) % Nat.pow 2 18, (word >>> 22) + byteAt src 4 * Nat.pow 2 10)
      else (3, (word >>> 4) % Nat.pow 2 10, (word >>> 14) % Nat.pow 2 10)
    ensure (count ≤ blockMax) .corrupt
    ensure (packed + head ≤ src.size) .corrupt
    let body := slice src head (head + packed)
    let (table, streams) ←
      if kind == 2 then
        match HuffTable.read body with
        | .ok (t, used) => pure (t, slice body used body.size)
        | .error _ => throw .corrupt
      else
        match prev with
        | some t => pure (t, body)
        | none => throw .corrupt
    let decoded :=
      if form == 0 then table.decodeStream streams count else table.decodeFour streams count
    match decoded with
    | .ok bytes => return ⟨bytes, head + packed, some table⟩
    | .error _ => throw .corrupt

end GinSave.Codec.Zstd
