/-!
Why a ZSTD frame cannot be decoded. Each cause has the name the format's reference decoder
gives it; `truncated` is the one cause that is not a fault of the bytes read so far: the input
ended before the frame did.
-/

namespace GinSave.Codec.Zstd

/-- A cause for which decoding stops. -/
inductive ZstdError where
  | corrupt
  | checksum
  | outputTooSmall
  | wrongSize
  | windowTooLarge
  | unsupported
  | unknownPrefix
  | tableLogTooLarge
  | symbolsTooMany
  | generic
  | dictionaryCorrupt
  | truncated
  deriving DecidableEq, Repr

/-- The decoder's name for the cause. -/
def ZstdError.name : ZstdError → String
  | .corrupt => "Corrupted block detected"
  | .checksum => "Restored data doesn't match checksum"
  | .outputTooSmall => "Destination buffer is too small"
  | .wrongSize => "Src size is incorrect"
  | .windowTooLarge => "Frame requires too much memory for decoding"
  | .unsupported => "Unsupported frame parameter"
  | .unknownPrefix => "Unknown frame descriptor"
  | .tableLogTooLarge => "tableLog requires too much memory : unsupported"
  | .symbolsTooMany => "Unsupported max Symbol Value : too small"
  | .generic => "Error (generic)"
  | .dictionaryCorrupt => "Dictionary is corrupted"
  | .truncated => "Src size is incorrect"

/-- Fails with `e` unless `ok` holds. -/
def ensure (ok : Bool) (e : ZstdError) : Except ZstdError Unit :=
  if ok then .ok () else .error e

end GinSave.Codec.Zstd
