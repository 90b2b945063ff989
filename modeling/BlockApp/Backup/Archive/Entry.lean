import BlockApp.Backup.Archive.Directory
import BlockApp.Bzip2.Stream
import BlockApp.Section.Name

/-!
# Entries of an archive

The content of an entry. Before it stands a header that repeats the name; the content is stored or
compressed, and its checksum is in the directory.

* `readContent` takes an entry's bytes up to the end of the file at most. A content may be shorter than
  the directory says, but then the checksum must be that of the shorter content.
* `readSections` reads only the entries that are sections.
-/

namespace BlockApp.Backup.Archive

/-! ## Descriptions -/

/-- The names of methods of compression. -/
def methodNames : List (Nat × String) :=
  [(0, "store"), (1, "shrink"), (2, "reduce"), (3, "reduce"), (4, "reduce"), (5, "reduce"),
   (6, "implode"), (7, "tokenize"), (8, "deflate"), (9, "deflate64"), (10, "implode"),
   (12, "bzip2"), (14, "lzma"), (18, "terse"), (19, "lz77"), (97, "wavpack"), (98, "ppmd")]

/-- The letter of a kind of file. -/
def fileKindLetter (kind : Nat) : Char :=
  match kind with
  | 0o01 => 'p'
  | 0o02 => 'c'
  | 0o04 => 'd'
  | 0o06 => 'b'
  | 0o10 => '-'
  | 0o12 => 'l'
  | 0o14 => 's'
  | _ => '?'

/-- The letters of three permissions, `mark` standing for a special one. -/
def permissionLetters (bits : Nat) (special : Bool) (mark noMark : Char) : List Char :=
  [if bits.testBit 2 then 'r' else '-', if bits.testBit 1 then 'w' else '-',
   if special then (if bits.testBit 0 then mark else noMark)
   else if bits.testBit 0 then 'x' else '-']

/-- The kind and the permissions of a file. -/
def modeText (mode : Nat) : String :=
  String.ofList <|
    fileKindLetter (mode / 4096) :: permissionLetters (mode / 64) (mode.testBit 11) 's' 'S' ++
      permissionLetters (mode / 8) (mode.testBit 10) 's' 'S' ++
      permissionLetters mode (mode.testBit 9) 't' 'T'

/-- A number in hexadecimal digits without zeros before it. -/
def hexText (n : Nat) : String := String.ofList (Nat.toDigits 16 n)

/-- An entry with what the directory says about it. Zero is left out. -/
def Entry.description (e : Entry) : String :=
  let method := (methodNames.lookup e.method).getD (toString e.method)
  let mode := e.attributes / 65536
  let others := e.attributes % 65536
  let parts :=
    [s!"<ZipInfo filename={Text.quoted e.shortName}"] ++
    (if e.method = 0 then [] else [s!"compress_type={method}"]) ++
    (if mode = 0 then [] else [s!"filemode={Text.quoted (modeText mode)}"]) ++
    (if others = 0 then [] else [s!"external_attr=0x{hexText others}"]) ++
    [s!"file_size={e.size}"] ++
    (if e.method = 0 ∧ e.size = e.compressedSize then []
      else [s!"compress_size={e.compressedSize}"])
  " ".intercalate parts ++ ">"

/-! ## Contents -/

/-- The mark of the header before a content. -/
def headerMark : Bytes := [0x50, 0x4B, 0x03, 0x04]

/-- The length of the header before a content, without the name and extra fields. -/
def headerSize : Nat := 30

/-- Positions are below this bound, and not below its negative. -/
def positionBound : Int := 0x8000000000000000

/-- The place where the content of an entry starts, after its header. -/
def contentStart (file : Bytes) (e : Entry) : Except Stop Nat := do
  if e.position < -positionBound ∨ positionBound ≤ e.position then throw (.limit .hugePosition)
  if e.position < 0 then throw (.limit .negativePosition)
  let start := e.position.toNat
  let header := file.slice start headerSize
  if header.length < headerSize then throw (.fault .headerTruncated)
  if !headerMark.isPrefixOf header then throw (.fault .headerMagic)
  let name := file.slice (start + headerSize) (word16 header 26)
  if e.flags.testBit 5 then throw (.limit .patchedData)
  if e.flags.testBit 6 then throw (.limit .strongEncryption)
  let decoded ← decodeName (word16 header 6) name
  if decoded ≠ e.name then throw (.fault (.nameDiffers (String.ofList e.name) name))
  return min (start + headerSize + word16 header 26 + word16 header 28) file.length

/-- How a content can be compressed. -/
inductive Method where
  | stored
  | deflated
  | blockSorted
  | rangeCoded
  deriving Repr, DecidableEq

/-- The method of a number. -/
def Method.ofNumber? : Nat → Option Method
  | 0 => some .stored
  | 8 => some .deflated
  | 12 => some .blockSorted
  | 14 => some .rangeCoded
  | _ => none

/-- What data stands for, and whether the data tells that it ends there. -/
def Method.decompress (method : Method) (data : Bytes) : Except Stop (Bytes × Bool) :=
  match method with
  | .stored => .ok (data, false)
  | .deflated =>
    match Deflate.inflate data with
    | .ok (output, _) => .ok (output, true)
    | .error (.truncated output) => .ok (output.toList, false)
    | .error (.invalid fault) => .error (.fault (.data fault))
  | .blockSorted =>
    match Bzip2.decompress data with
    | some content => .ok (content.bytes, content.isWhole)
    | none => .error (.content .blockSorted)
  | .rangeCoded =>
    match Lzma.decompress data with
    | .ok content => .ok (content.bytes, content.isWhole)
    | .error fault => .error (.content (.rangeCoded fault))

/-- A content that has been read, cut to its size. `isWhole` tells whether all of the data was there. -/
def checkContent (e : Entry) (isWhole : Bool) (output : Bytes) : Except Stop Bytes :=
  let content := output.take e.size
  if !isWhole ∧ output.length < e.size then .error (.limit .endOfData)
  else if (Bytes.crc32 content).toNat = e.checksum then .ok content
  else .error (.fault (.checksum e.shortName))

/-- The content of an entry. `room` is where the room for it ends. -/
def readContent (file : Bytes) (room : Int) (e : Entry) : Except Stop Bytes := do
  let start ← contentStart file e
  if start + e.compressedSize > room then throw (.fault (.overlap (String.ofList e.name)))
  if e.flags.testBit 0 then throw (.limit (.encrypted e.description))
  match Method.ofNumber? e.method with
  | none => throw (.limit .compression)
  | some method =>
    let rest := file.drop start
    if rest = [] ∧ e.compressedSize > 0 then throw (.limit .endOfData)
    let (output, isEnd) ← method.decompress (rest.take e.compressedSize)
    checkContent e (isEnd || e.compressedSize ≤ rest.length) output

/-! ## Sections -/

/-- The section whose entry has a name. -/
def sectionOfEntry? (name : String) : Option SectionName :=
  SectionName.all.find? fun s => name == match s with
    | .project => "project"
    | s => "data/" ++ s.name

/-- The sections in the entries `rest`, after the entries `before`. -/
def readSections (file : Bytes) (start : Int) (before rest : List Entry)
    (seen : List SectionName) : Except Failure (List (SectionName × Bytes)) :=
  match rest with
  | [] => .ok []
  | e :: others =>
    match sectionOfEntry? e.shortName with
    | none => readSections file start (before ++ [e]) others seen
    | some name =>
      if name ∈ seen then .error (.container name.name .duplicate)
      else do
        let room := roomEnd start before (before ++ e :: others) e
        let content ← (readContent file room e).mapError Stop.failure
        let sections ← readSections file start (before ++ [e]) others (name :: seen)
        return (name, content) :: sections

/-- The sections in an archive. -/
def read (file : Bytes) (record : EndRecord) : Except Failure (List (SectionName × Bytes)) := do
  let entries ← (readDirectory file record).mapError Stop.failure
  readSections file record.start [] entries []

end BlockApp.Backup.Archive
