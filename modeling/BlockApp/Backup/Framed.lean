import BlockApp.Failure.Basic
import BlockApp.Section.Name

/-!
# Framed backups

The file is a header of five bytes and entries one after the other. An entry is the length of its name in
one byte, the name, a byte of flags, the length of its payload in four bytes, and the payload. Entries
that name no section are skipped; a flag tells whether a payload is compressed.

* `readFrame` reads one entry and returns what follows it, which is shorter.
* `readFrames` goes on with what follows, so it ends with the bytes.
-/

namespace BlockApp.Backup

/-- The first four bytes of a framed backup. -/
def magic : Bytes := [0x53, 0x4B, 0x42, 0x4B]

/-- The version of the format, in the fifth byte. -/
def version : UInt8 := 1

/-- An entry as it is framed. -/
structure Frame where
  name : Bytes
  flags : UInt8
  payload : Bytes
  deriving Repr, DecidableEq

namespace Frame

/-- The name of an entry in messages. -/
def label (name : Bytes) : String := String.ofList (Utf8.decodeAscii name)

/-- The section that an entry holds. -/
def section? (frame : Frame) : Option SectionName := SectionName.ofName? (label frame.name)

/-- Whether the payload of an entry is compressed. -/
def isCompressed (frame : Frame) : Bool := frame.flags &&& 1 == 1

/-- The content of an entry. -/
def content (frame : Frame) : Except Deflate.StreamFault Bytes :=
  if frame.isCompressed then Deflate.decompress frame.payload else .ok frame.payload

end Frame

/-- Reads an entry that starts with the length of its name. `index` counts the entries before it. -/
def readFrame (index : Nat) (nameLength : UInt8) (rest : Bytes) :
    Except Failure (Frame × { after : Bytes // after.length ≤ rest.length }) :=
  if rest.length < nameLength.toNat then .error (.container s!"entry #{index}" .truncatedName)
  else
    let name := rest.take nameLength.toNat
    match h : rest.drop nameLength.toNat with
    | flags :: l₀ :: l₁ :: l₂ :: l₃ :: after =>
      let length := Bytes.bigEndian [l₀, l₁, l₂, l₃]
      if after.length < length then
        .error (.container (Frame.label name) (.entryLength length after.length))
      else
        .ok (⟨name, flags, after.take length⟩, ⟨after.drop length, by
          have := congrArg List.length h
          simp only [List.length_drop, List.length_cons] at *
          omega⟩)
    | _ => .error (.container (Frame.label name) .truncatedLength)

/-- The sections in entries. `index` entries came before, with the sections `seen`. -/
def readFrames (index : Nat) (seen : List SectionName) :
    (data : Bytes) → Except Failure (List (SectionName × Bytes))
  | [] => .ok []
  | nameLength :: rest => do
    let (frame, ⟨after, _h⟩) ← readFrame index nameLength rest
    match frame.section? with
    | none => readFrames (index + 1) seen after
    | some name =>
      if name ∈ seen then .error (.container name.name .duplicate)
      else
        match frame.content with
        | .error cause => .error (.container name.name (.compressed cause))
        | .ok content => do
          let others ← readFrames (index + 1) (name :: seen) after
          return (name, content) :: others
  termination_by data => data.length
  decreasing_by all_goals simp only [List.length_cons]; omega

/-- The sections in a framed backup. -/
def readFramed (data : Bytes) : Except Failure (List (SectionName × Bytes)) :=
  match data with
  | m₀ :: m₁ :: m₂ :: m₃ :: found :: rest =>
    if [m₀, m₁, m₂, m₃] ≠ magic then .error (.container "header" (.magic [m₀, m₁, m₂, m₃]))
    else if found ≠ version then .error (.container "header" (.version found.toNat))
    else readFrames 0 [] rest
  | _ => .error (.container "header" .shortHeader)

end BlockApp.Backup
