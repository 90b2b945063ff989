import BlockApp.Bytes.CodePage437
import BlockApp.Failure.Basic

/-!
# The directory of an archive

An archive ends with a record that says where its directory is; the directory lists the entries. Bytes
may stand before the archive, and a comment after the end record.

* `findEnd` looks for the end record, and for the record with wider fields that may stand before it.
* `readDirectory` reads the entries one after the other, each at least `recordSize` bytes long.
* Positions count from where the archive was meant to start; `EndRecord.shift` is how far off that is.
-/

namespace BlockApp.Backup.Archive

/-- Why an archive cannot be read: it is malformed, it asks for too much, or a content is unreadable. -/
inductive Stop where
  | fault (cause : ArchiveFault)
  | limit (cause : ArchiveLimit)
  | content (cause : ContentFault)
  deriving Repr, DecidableEq

/-- The failure of an archive that cannot be read. -/
def Stop.failure : Stop → Failure
  | .fault cause => .container "archive" (.archive cause)
  | .limit cause => .system (.archive cause)
  | .content cause => .system (.content cause)

/-- The number in two bytes at an offset. -/
def word16 (data : Bytes) (offset : Nat) : Nat := (data.slice offset 2).littleEndian

/-- The number in four bytes at an offset. -/
def word32 (data : Bytes) (offset : Nat) : Nat := (data.slice offset 4).littleEndian

/-- The number in eight bytes at an offset. -/
def word64 (data : Bytes) (offset : Nat) : Nat := (data.slice offset 8).littleEndian

/-! ## The end record -/

/-- The mark of an end record. -/
def endMark : Bytes := [0x50, 0x4B, 0x05, 0x06]

/-- The mark of an end record with wide fields. -/
def wideEndMark : Bytes := [0x50, 0x4B, 0x06, 0x06]

/-- The mark of the record that says where the wide end record is. -/
def locatorMark : Bytes := [0x50, 0x4B, 0x06, 0x07]

/-- The length of an end record. -/
def endSize : Nat := 22

/-- The length of an end record with wide fields. -/
def wideEndSize : Nat := 56

/-- The length of a locator. -/
def locatorSize : Nat := 20

/-- The greatest length of a comment, and one more. -/
def commentBound : Nat := 65536

/-- Where the directory of an archive is. -/
structure EndRecord where
  location : Nat
  isWide : Bool
  size : Nat
  offset : Nat
  deriving Repr, DecidableEq

/-- The last place where a mark stands in a byte string. -/
def lastPlace? (mark : Bytes) : (data : Bytes) → Option Nat
  | [] => none
  | b :: rest =>
    match lastPlace? mark rest with
    | some place => some (place + 1)
    | none => if mark.isPrefixOf (b :: rest) then some 0 else none

/-- The place of the end record: at the very end if it has no comment there, else where its mark
stands last. -/
def endPlace? (data : Bytes) : Option Nat :=
  if data.length < endSize then none
  else
    let last := data.drop (data.length - endSize)
    if endMark.isPrefixOf last ∧ word16 last 20 = 0 then some (data.length - endSize)
    else
      let start := data.length - (commentBound + endSize)
      match lastPlace? endMark (data.drop start) with
      | some place =>
        if (data.drop (start + place)).length < endSize then none else some (start + place)
      | none => none

/-- The end record of an archive, `none` for a byte string that is no archive. -/
def findEnd (data : Bytes) : Except Stop (Option EndRecord) :=
  match endPlace? data with
  | none => .ok none
  | some place =>
    let record := data.slice place endSize
    let narrow : EndRecord := ⟨place, false, word32 record 12, word32 record 16⟩
    let locator := data.slice (place - locatorSize) locatorSize
    if place < locatorSize ∨ ¬ locatorMark.isPrefixOf locator then .ok (some narrow)
    else if word32 locator 4 ≠ 0 ∨ word32 locator 16 > 1 then .error (.limit .severalDisks)
    else if place < locatorSize + wideEndSize then .ok none
    else
      let wide := data.slice (place - locatorSize - wideEndSize) wideEndSize
      if wideEndMark.isPrefixOf wide then .ok (some ⟨place, true, word64 wide 40, word64 wide 48⟩)
      else .ok (some narrow)

namespace EndRecord

/-- Where the directory starts. -/
def start (e : EndRecord) : Int :=
  e.location - e.size - (if e.isWide then wideEndSize + locatorSize else 0 : Nat)

/-- How far the archive is from where it was meant to be. -/
def shift (e : EndRecord) : Int := e.start - e.offset

end EndRecord

/-! ## Directory entries -/

/-- An entry of a directory. -/
structure Entry where
  name : List Char
  flags : Nat
  method : Nat
  checksum : Nat
  compressedSize : Nat
  size : Nat
  attributes : Nat
  position : Int
  deriving Repr, DecidableEq

/-- The name of an entry up to its first NUL. -/
def Entry.shortName (e : Entry) : String := String.ofList (e.name.takeWhile (· != '\x00'))

/-- The mark of a directory entry. -/
def recordMark : Bytes := [0x50, 0x4B, 0x01, 0x02]

/-- The length of a directory entry without its name, extra fields and comment. -/
def recordSize : Nat := 46

/-- The latest version of the format that is understood, in tenths. -/
def latestVersion : Nat := 63

/-- A name in the character set that the flags tell. -/
def decodeName (flags : Nat) (name : Bytes) : Except Stop (List Char) :=
  if flags.testBit 11 then (Utf8.decode name).mapError fun fault => .limit (.name fault)
  else .ok (CodePage437.decode name)

/-- The fields that may be too wide for a directory entry. -/
structure WideFields where
  size : Nat
  compressedSize : Nat
  position : Nat
  deriving Repr, DecidableEq

/-- The number that stands for one that is too wide. -/
def tooWide : Nat := 0xFFFFFFFF

/-- The number that stands for one that is too wide, in eight bytes. -/
def muchTooWide : Nat := 0xFFFFFFFFFFFFFFFF

/-- A wide field, and the data after it, if the field's number says that there is one. -/
def readWide (what : String) (isWide : Bool) (value : Nat) (data : Bytes) :
    Except Stop (Nat × Bytes) :=
  if isWide then
    if data.length < 8 then .error (.fault (.wideField what)) else .ok (word64 data 0, data.drop 8)
  else .ok (value, data)

/-- The fields with those replaced that an extra field gives. -/
def readWideFields (fields : WideFields) (data : Bytes) : Except Stop WideFields := do
  let (size, data) ←
    readWide "File size" (fields.size == tooWide || fields.size == muchTooWide) fields.size data
  let (compressedSize, data) ←
    readWide "Compress size" (fields.compressedSize == tooWide) fields.compressedSize data
  let (position, _) ← readWide "Header offset" (fields.position == tooWide) fields.position data
  return ⟨size, compressedSize, position⟩

/-- Reads extra fields, each a number, a length and data. -/
def readExtra (fields : WideFields) (extra : Bytes) : Except Stop WideFields :=
  if extra.length < 4 then .ok fields
  else
    let id := word16 extra 0
    let length := word16 extra 2
    if extra.length < length + 4 then .error (.fault (.extraField id length))
    else do
      let fields ← if id = 1 then readWideFields fields (extra.slice 4 length) else pure fields
      readExtra fields (extra.drop (length + 4))
  termination_by extra.length
  decreasing_by simp only [List.length_drop]; omega

/-- Reads an entry at the start of the rest of a directory, and tells the length of its name, extra
fields and comment. -/
def readEntry (shift : Int) (rest : Bytes) : Except Stop (Entry × Nat) := do
  if rest.length < recordSize then throw (.fault .directoryTruncated)
  if !recordMark.isPrefixOf rest then throw (.fault .directoryMagic)
  let nameLength := word16 rest 28
  let extraLength := word16 rest 30
  let flags := word16 rest 8
  let version := (rest.slice 6 1).littleEndian
  let name ← decodeName flags (rest.slice recordSize nameLength)
  if version > latestVersion then throw (.limit (.version version))
  let fields ← readExtra ⟨word32 rest 24, word32 rest 20, word32 rest 42⟩
    (rest.slice (recordSize + nameLength) extraLength)
  let entry : Entry :=
    { name, flags
      method := word16 rest 10
      checksum := word32 rest 16
      compressedSize := fields.compressedSize
      size := fields.size
      attributes := word32 rest 38
      position := fields.position + shift }
  return (entry, nameLength + extraLength + word16 rest 32)

/-- Reads the entries in the rest of a directory. -/
def readEntries (shift : Int) (rest : Bytes) : Except Stop (List Entry) :=
  if _h : rest = [] then .ok []
  else do
    let (entry, length) ← readEntry shift rest
    let others ← readEntries shift (rest.drop (recordSize + length))
    return entry :: others
  termination_by rest.length
  decreasing_by
    have := List.length_pos_iff.2 _h
    simp only [List.length_drop, recordSize]
    omega

/-- The entries of an archive. -/
def readDirectory (data : Bytes) (e : EndRecord) : Except Stop (List Entry) :=
  if e.start < 0 then .error (.fault .directoryOffset)
  else readEntries e.shift (data.slice e.start.toNat e.size)

/-- Where the room for an entry ends: at the next entry's position, or at the directory. An entry has
no room if one before it in the directory has the same position. -/
def roomEnd (start : Int) (before all : List Entry) (entry : Entry) : Int :=
  if before.any (·.position == entry.position) then entry.position
  else (((all.map (·.position)).filter (entry.position < ·)).min?).getD start

end BlockApp.Backup.Archive
