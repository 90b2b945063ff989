import BlockApp.Bytes.Basic
import BlockApp.Deflate.Inflate

/-!
# Compressed streams

The stream format of RFC 1950: two header bytes, inflatable data, and the Adler-32 of what it inflates
to. Bytes after the stream are ignored.
-/

namespace BlockApp.Deflate

/-- Why a compressed stream cannot be read. -/
inductive StreamFault where
  | header
  | method
  | window
  | checksum
  | dictionary
  | truncated
  | data (fault : Fault)
  deriving Repr, DecidableEq

/-- What is reported of a compressed stream that cannot be read. -/
def StreamFault.message : StreamFault → String
  | .header => "Error -3 while decompressing data: incorrect header check"
  | .method => "Error -3 while decompressing data: unknown compression method"
  | .window => "Error -3 while decompressing data: invalid window size"
  | .checksum => "Error -3 while decompressing data: incorrect data check"
  | .dictionary => "Error 2 while decompressing data"
  | .truncated => "Error -5 while decompressing data: incomplete or truncated stream"
  | .data fault => s!"Error -3 while decompressing data: {fault.message}"

/-- The stream fault of data that could not be inflated to its end. -/
def StreamFault.ofStop : Stop → StreamFault
  | .truncated _ => .truncated
  | .invalid fault => .data fault

/-- Reads a compressed stream. -/
def decompress : Bytes → Except StreamFault Bytes
  | method :: flags :: rest =>
    if (256 * method.toNat + flags.toNat) % 31 ≠ 0 then .error .header
    else if method.toNat % 16 ≠ 8 then .error .method
    else if method.toNat / 16 > 7 then .error .window
    else if flags.toNat / 32 % 2 = 1 then
      .error (if rest.length < 4 then .truncated else .dictionary)
    else
      match inflate rest with
      | .error stop => .error (.ofStop stop)
      | .ok (output, trailer) =>
        if trailer.length < 4 then .error .truncated
        else if Bytes.bigEndian (trailer.take 4) ≠ Bytes.adler32 output then .error .checksum
        else .ok output
  | _ => .error .truncated

end BlockApp.Deflate
