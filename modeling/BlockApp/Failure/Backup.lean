import BlockApp.Bytes.Utf8
import BlockApp.Cipher.Padding
import BlockApp.Deflate.Zlib
import BlockApp.Lzma.Stream
import BlockApp.Text.Quoted

/-!
# What can be wrong in a backup

The problems of backup files and of their encrypted sections, and their wording.
-/

namespace BlockApp

/-- What makes an archive unreadable. -/
inductive ArchiveFault where
  | directoryOffset
  | directoryTruncated
  | directoryMagic
  | extraField (id size : Nat)
  | wideField (name : String)
  | headerTruncated
  | headerMagic
  | nameDiffers (inDirectory : String) (inHeader : Bytes)
  | overlap (name : String)
  | checksum (name : String)
  | data (fault : Deflate.Fault)
  deriving Repr, DecidableEq

/-- The wording of an archive fault. -/
def ArchiveFault.message : ArchiveFault → String
  | .directoryOffset => "Bad offset for central directory"
  | .directoryTruncated => "Truncated central directory"
  | .directoryMagic => "Bad magic number for central directory"
  | .extraField id size =>
    s!"Corrupt extra field {String.ofList (Text.fixedHex Text.hexLower 4 id)} (size={size})"
  | .wideField name => s!"Corrupt zip64 extra field. {name} not found."
  | .headerTruncated => "Truncated file header"
  | .headerMagic => "Bad magic number for file header"
  | .nameDiffers inDirectory inHeader =>
    s!"File name in directory {Text.quoted inDirectory} and header " ++
      s!"{Text.quotedBytes inHeader} differ."
  | .overlap name => s!"Overlapped entries: {Text.quoted name} (possible zip bomb)"
  | .checksum name => s!"Bad CRC-32 for file {Text.quoted name}"
  | .data fault => s!"Error -3 while decompressing data: {fault.message}"

/-- What makes a content of an archive unreadable that is compressed in one of the rarer ways. -/
inductive ContentFault where
  | blockSorted
  | rangeCoded (fault : Lzma.Fault)
  deriving Repr, DecidableEq

/-- The wording of a content fault. -/
def ContentFault.message : ContentFault → String
  | .blockSorted => "Invalid data stream"
  | .rangeCoded fault => fault.message

/-- A problem of a backup file or of an extracted folder. -/
inductive ContainerProblem where
  | shortHeader
  | magic (found : Bytes)
  | version (found : Nat)
  | truncatedName
  | truncatedLength
  | entryLength (length remaining : Nat)
  | duplicate
  | compressed (cause : Deflate.StreamFault)
  | archive (cause : ArchiveFault)
  | missing
  | missingFile (name folder : String)
  deriving Repr, DecidableEq

/-- The wording of a problem of a backup. -/
def ContainerProblem.message : ContainerProblem → String
  | .shortHeader => "file is shorter than the container header"
  | .magic found => s!"bad magic {Text.quotedBytes found}"
  | .version found => s!"unsupported container version {found}"
  | .truncatedName => "truncated entry name"
  | .truncatedLength => "truncated length prefix"
  | .entryLength length remaining => s!"entry length {length} exceeds remaining {remaining} bytes"
  | .duplicate => "section appears more than once"
  | .compressed _ => "corrupt compressed entry"
  | .archive _ => "corrupt ZIP backup"
  | .missing => "required section is missing"
  | .missingFile name folder => s!"file '{name}' does not exist inside {folder}"

/-- What caused a problem of a backup. -/
def ContainerProblem.cause : ContainerProblem → Option String
  | .compressed cause => some cause.message
  | .archive cause => some cause.message
  | _ => none

/-- A key or initial block of a length the cipher does not take. -/
inductive KeyFault where
  | keyLength (length : Nat)
  | startLength
  deriving Repr, DecidableEq

/-- The wording of a key fault. -/
def KeyFault.message : KeyFault → String
  | .keyLength length => s!"Incorrect AES key length ({length} bytes)"
  | .startLength => s!"Incorrect IV length (it must be {Cipher.blockSize} bytes long)"

/-- A problem of an encrypted section. -/
inductive DecryptionProblem where
  | length (length : Nat)
  | key (cause : KeyFault)
  | padding (cause : Cipher.PaddingFault)
  | notText (cause : Utf8.Fault)
  deriving Repr, DecidableEq

/-- The wording of a problem of an encrypted section. -/
def DecryptionProblem.message : DecryptionProblem → String
  | .length count =>
    s!"ciphertext length {count} is not a positive multiple of {Cipher.blockSize}"
  | .key _ | .padding _ => "invalid padding after transform"
  | .notText _ => "result is not valid UTF-8"

/-- What caused a problem of an encrypted section. -/
def DecryptionProblem.cause : DecryptionProblem → Option String
  | .length _ => none
  | .key cause => some cause.message
  | .padding cause => some cause.message
  | .notText cause => some cause.message

end BlockApp
