import GinSave.Archive.Container
import GinSave.Text.Utf8

/-!
Reading a text that a file embeds at some offset, one byte at a time as from a file. The plain
reader stops before the first NUL. The path reader also stops as soon as the bytes read so far
end with `.gin`; it reads those bytes as UTF-8 before each further byte, so a character cut by
that point is a fault.

A reader that meets the end of the file before a stop would read on for ever, getting nothing
each time: that outcome is a value of its own, `endless`.
-/

namespace GinSave.Archive

open GinSave.Text GinSave.Codec

/-- What a reader gives: the bytes up to its stop, or that it never stops. -/
inductive ReadOutcome where
  | found (bytes : ByteArray)
  | endless

/-- The bytes from `start` up to the first NUL at or after it. -/
def untilZero (b : ByteArray) (start : Nat) : Nat → ReadOutcome
  | 0 => .endless
  | fuel + 1 =>
    if b.size ≤ start then .endless
    else if byteAt b start == 0 then .found ByteArray.empty
    else match untilZero b (start + 1) fuel with
      | .found rest => .found (ByteArray.mk #[(byteAt b start).toUInt8] ++ rest)
      | .endless => .endless

/-- Reads from `offset` up to the first NUL. -/
def readUntilZero (b : ByteArray) (offset : Int) : Except Fault ReadOutcome := do
  let _ ← readAt b offset 0
  return untilZero b offset.toNat (b.size + 1)

/-- The path reader from position `k`, with the bytes from `start` read so far. -/
def ginPathFrom (b : ByteArray) (start : Nat) : Nat → Nat → Except Fault ReadOutcome
  | 0, _ => .ok .endless
  | fuel + 1, k =>
    let sofar := slice b start k
    if k < b.size && byteAt b k == 0 then .ok (.found sofar)
    else match decodeUtf8 sofar with
      | .error e => .error e
      | .ok text =>
        if text.endsWith ".gin" then .ok (.found sofar)
        else if b.size ≤ k then .ok .endless
        else ginPathFrom b start fuel (k + 1)

/-- Reads from `offset` a path that ends before a NUL or with `.gin`. -/
def readGinPath (b : ByteArray) (offset : Int) : Except Fault ReadOutcome := do
  let _ ← readAt b offset 0
  ginPathFrom b offset.toNat (b.size + 1) offset.toNat

end GinSave.Archive
