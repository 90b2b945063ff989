import BlockApp.Proofs.Backup.Framed
import Mathlib

/-!
# Reading a framed backup by places

The reader of frames goes on with the bytes that are left. Here it is written with places in the whole
byte string, where a byte that is asked for may not be there: then there is no outcome at all. That never
happens, and the two readers agree.

* `readFramedAt` — the reader by places
* `readFramedAt_eq` — it has the outcome of `readFramed`, so it never asks for a byte outside
* `readFramed_exact` — the form of a framed backup, all other byte strings, and the places together
-/

namespace BlockApp

/-- The bytes at a place, none if some of them are not there. -/
def Bytes.at? (data : Bytes) (place count : Nat) : Option Bytes :=
  if place + count ≤ data.length then some (data.slice place count) else none

namespace Backup

/-- Reads the frame at a place, and tells the place after it. -/
def readFrameAt (data : Bytes) (index place : Nat) :
    Option (Except Failure (Frame × { next : Nat // place < next })) := do
  let nameLength ← data[place]?
  let head := place + 1 + nameLength.toNat
  if data.length < head then
    return .error (.container s!"entry #{index}" .truncatedName)
  let name ← data.at? (place + 1) nameLength.toNat
  if data.length < head + 5 then
    return .error (.container (Frame.label name) .truncatedLength)
  let flags ← data[head]?
  let length := (← data.at? (head + 1) 4).bigEndian
  if data.length - (head + 5) < length then
    return .error (.container (Frame.label name) (.entryLength length (data.length - (head + 5))))
  let payload ← data.at? (head + 5) length
  return .ok (⟨name, flags, payload⟩, ⟨head + 5 + length, by omega⟩)

/-- Reads the frames from a place on. -/
def readFramesAt (data : Bytes) (index : Nat) (seen : List SectionName) (place : Nat) :
    Option (Except Failure (List (SectionName × Bytes))) :=
  if data.length ≤ place then some (.ok [])
  else
    match readFrameAt data index place with
    | none => none
    | some (.error failure) => some (.error failure)
    | some (.ok (frame, ⟨next, _h⟩)) =>
      match frame.section? with
      | none => readFramesAt data (index + 1) seen next
      | some name =>
        if name ∈ seen then some (.error (.container name.name .duplicate))
        else
          match frame.content with
          | .error cause => some (.error (.container name.name (.compressed cause)))
          | .ok content =>
            (readFramesAt data (index + 1) (name :: seen) next).map fun others =>
              others.map ((name, content) :: ·)
  termination_by data.length - place

/-- Reads a framed backup by places. -/
def readFramedAt (data : Bytes) : Option (Except Failure (List (SectionName × Bytes))) := do
  if data.length < 5 then return .error (.container "header" .shortHeader)
  let mark ← data.at? 0 4
  let number ← data[4]?
  if mark ≠ magic then return .error (.container "header" (.magic mark))
  if number ≠ version then return .error (.container "header" (.version number.toNat))
  readFramesAt data 0 [] 5

variable {data rest : Bytes} {index place : Nat} {nameLength : UInt8} {seen : List SectionName}

/-! ## One frame -/

theorem length_of_drop (h : data.drop place = nameLength :: rest) :
    data.length = place + 1 + rest.length := by
  have hsize := congrArg List.length h
  rw [List.length_drop, List.length_cons] at hsize
  omega

theorem getElem?_of_drop (h : data.drop place = nameLength :: rest) :
    data[place]? = some nameLength := by
  rw [← List.head?_drop, h]
  rfl

/-- What is left after a byte stands behind its place. -/
theorem at?_of_drop (h : data.drop place = nameLength :: rest) (k : Nat) {count : Nat}
    (hle : k + count ≤ rest.length) :
    data.at? (place + 1 + k) count = some (rest.slice k count) := by
  have hlength := length_of_drop h
  have hrest : data.drop (place + 1) = rest := by
    rw [← List.drop_drop, h]
    rfl
  rw [Bytes.at?, if_pos (by omega), Bytes.slice, ← List.drop_drop, hrest, Bytes.slice]

theorem readFrameAt_of_short_name (index : Nat) (h : data.drop place = nameLength :: rest)
    (hname : rest.length < nameLength.toNat) :
    readFrameAt data index place =
      some (.error (.container s!"entry #{index}" .truncatedName)) := by
  have hlength := length_of_drop h
  unfold readFrameAt
  simp only [getElem?_of_drop h, Option.bind_eq_bind, Option.bind_some]
  rw [if_pos (by omega)]
  rfl

theorem readFrameAt_of_short_head (index : Nat) (h : data.drop place = nameLength :: rest)
    (hname : nameLength.toNat ≤ rest.length) (hhead : rest.length < nameLength.toNat + 5) :
    readFrameAt data index place =
      some (.error (.container (Frame.label (rest.take nameLength.toNat)) .truncatedLength)) := by
  have hlength := length_of_drop h
  have hlabel : data.at? (place + 1) nameLength.toNat = some (rest.slice 0 nameLength.toNat) :=
    at?_of_drop h 0 (by omega)
  unfold readFrameAt
  simp only [getElem?_of_drop h, Option.bind_eq_bind, Option.bind_some]
  rw [if_neg (by omega), hlabel]
  simp only [Option.bind_some]
  rw [if_pos (by omega)]
  rfl

/-- A frame whose parts stand one after the other is read at its place. -/
theorem readFrameAt_of_head (index : Nat) {name tail : Bytes} {flags l₀ l₁ l₂ l₃ : UInt8}
    (h : data.drop place = nameLength :: (name ++ flags :: l₀ :: l₁ :: l₂ :: l₃ :: tail))
    (hname : name.length = nameLength.toNat) :
    (readFrameAt data index place).map (fun x => x.map fun p => (p.1, data.drop p.2.1)) =
      some (if tail.length < Bytes.bigEndian [l₀, l₁, l₂, l₃] then
        .error (.container (Frame.label name)
          (.entryLength (Bytes.bigEndian [l₀, l₁, l₂, l₃]) tail.length))
      else
        .ok (⟨name, flags, tail.take (Bytes.bigEndian [l₀, l₁, l₂, l₃])⟩,
          tail.drop (Bytes.bigEndian [l₀, l₁, l₂, l₃]))) := by
  have hlength := length_of_drop h
  simp only [List.length_append, List.length_cons, hname] at hlength
  -- the parts of the frame, each at its place
  have hlabel : data.at? (place + 1) nameLength.toNat = some name := by
    rw [← Nat.add_zero (place + 1), at?_of_drop h 0 (by simp [hname]), Bytes.slice, List.drop_zero,
      ← hname, List.take_left]
  have hhead : data.drop (place + 1 + nameLength.toNat) = flags :: l₀ :: l₁ :: l₂ :: l₃ :: tail := by
    rw [← List.drop_drop, ← List.drop_drop, h, List.drop_succ_cons, List.drop_zero, ← hname,
      List.drop_left]
  have hcount : data.at? (place + 1 + nameLength.toNat + 1) 4 = some [l₀, l₁, l₂, l₃] :=
    at?_of_drop hhead 0 (by simp)
  have hpayload : data.drop (place + 1 + nameLength.toNat + 5) = tail := by
    rw [← List.drop_drop, hhead]
    rfl
  unfold readFrameAt
  simp only [getElem?_of_drop h, Option.bind_eq_bind, Option.bind_some]
  rw [if_neg (by omega), hlabel, Option.bind_some, if_neg (by omega), getElem?_of_drop hhead,
    Option.bind_some, hcount, Option.bind_some,
    show data.length - (place + 1 + nameLength.toNat + 5) = tail.length by omega]
  by_cases hshort : tail.length < Bytes.bigEndian [l₀, l₁, l₂, l₃]
  · rw [if_pos hshort, if_pos hshort]
    rfl
  · have hat : data.at? (place + 1 + nameLength.toNat + 5) (Bytes.bigEndian [l₀, l₁, l₂, l₃]) =
        some (tail.take (Bytes.bigEndian [l₀, l₁, l₂, l₃])) := by
      rw [Bytes.at?, if_pos (by omega), Bytes.slice, hpayload]
    rw [if_neg hshort, if_neg hshort, hat, ← hpayload, List.drop_drop]
    rfl

/-- The reader of a frame by places agrees with the one that goes on with the bytes that are left. -/
theorem readFrameAt_eq (index : Nat) (h : data.drop place = nameLength :: rest) :
    (readFrameAt data index place).map (fun x => x.map fun p => (p.1, data.drop p.2.1)) =
      some ((readFrame index nameLength rest).map fun p => (p.1, p.2.1)) := by
  rcases frame_cases nameLength.toNat rest with hname | ⟨hname, hhead⟩ | hparts
  · rw [readFrameAt_of_short_name index h hname, readFrame_of_short_name hname]
    rfl
  · rw [readFrameAt_of_short_head index h hname hhead, readFrame_of_short_head hname hhead]
    rfl
  · obtain ⟨name, flags, l₀, l₁, l₂, l₃, tail, hname, rfl⟩ := hparts
    rw [readFrameAt_of_head index h hname, readFrame_of_head hname rfl]

theorem readFrameAt_cases (index : Nat) (h : data.drop place = nameLength :: rest) :
    (∃ failure, readFrameAt data index place = some (.error failure) ∧
      readFrame index nameLength rest = .error failure) ∨
    ∃ frame next hnext hle, readFrameAt data index place = some (.ok (frame, ⟨next, hnext⟩)) ∧
      readFrame index nameLength rest = .ok (frame, ⟨data.drop next, hle⟩) := by
  have heq := readFrameAt_eq index h
  cases hat : readFrameAt data index place with
  | none => simp [hat] at heq
  | some outcome =>
    rw [hat, Option.map_some, Option.some.injEq] at heq
    cases hread : readFrame index nameLength rest with
    | error failure =>
      rw [hread] at heq
      cases outcome with
      | error found =>
        simp only [Except.map, Except.error.injEq] at heq
        exact .inl ⟨failure, by rw [heq], rfl⟩
      | ok p => simp [Except.map] at heq
    | ok q =>
      rw [hread] at heq
      cases outcome with
      | error found => simp [Except.map] at heq
      | ok p =>
        obtain ⟨frame, next, hnext⟩ := p
        obtain ⟨frame', after, hle⟩ := q
        simp only [Except.map, Except.ok.injEq, Prod.mk.injEq] at heq
        obtain ⟨rfl, rfl⟩ := heq
        exact .inr ⟨frame, next, hnext, hle, rfl, rfl⟩

/-! ## All frames -/

/-- What the reader of frames does behind a frame. -/
theorem readFrames_cons {frame : Frame} {after : Bytes} {hle : after.length ≤ rest.length}
    (hread : readFrame index nameLength rest = .ok (frame, ⟨after, hle⟩)) :
    readFrames index seen (nameLength :: rest) =
      match frame.section? with
      | none => readFrames (index + 1) seen after
      | some name =>
        if name ∈ seen then .error (.container name.name .duplicate)
        else
          match frame.content with
          | .error cause => .error (.container name.name (.compressed cause))
          | .ok content => (readFrames (index + 1) (name :: seen) after).map ((name, content) :: ·) := by
  rw [readFrames, hread]
  rfl

/-- The reader of frames by places agrees with the one that goes on with the bytes that are left. -/
theorem readFramesAt_eq :
    readFramesAt data index seen place = some (readFrames index seen (data.drop place)) := by
  induction hsize : data.length - place using Nat.strongRecOn generalizing index seen place with
  | ind size ih =>
    rw [readFramesAt]
    by_cases hend : data.length ≤ place
    · rw [if_pos hend, List.drop_eq_nil_of_le hend, readFrames]
    rw [if_neg hend]
    cases hdrop : data.drop place with
    | nil => exact absurd (List.drop_eq_nil_iff.1 hdrop) hend
    | cons nameLength rest =>
      rcases readFrameAt_cases index hdrop with
        ⟨failure, hat, hread⟩ | ⟨frame, next, hnext, hle, hat, hread⟩
      · rw [hat, readFrames, hread]
        rfl
      have hgoesOn {index : Nat} {seen : List SectionName} :
          readFramesAt data index seen next = some (readFrames index seen (data.drop next)) :=
        ih _ (by omega) rfl
      rw [hat, readFrames_cons hread]
      simp only [hgoesOn, Option.map_some]
      split
      · rfl
      split
      · rfl
      split <;> rfl

/-- **No byte outside is ever asked for**, and the places make no difference. -/
theorem readFramedAt_eq (data : Bytes) : readFramedAt data = some (readFramed data) := by
  unfold readFramedAt
  match data with
  | m₀ :: m₁ :: m₂ :: m₃ :: number :: rest =>
    have hmark : Bytes.at? (m₀ :: m₁ :: m₂ :: m₃ :: number :: rest) 0 4 = some [m₀, m₁, m₂, m₃] :=
      if_pos (by simp)
    have hnumber : (m₀ :: m₁ :: m₂ :: m₃ :: number :: rest)[4]? = some number := rfl
    rw [if_neg (by simp), hmark, hnumber, readFramesAt_eq]
    simp only [readFramed, pure, Option.bind_eq_bind, Option.bind_some]
    split
    · rfl
    split <;> rfl
  | [] | [_] | [_, _] | [_, _, _] | [_, _, _, _] => rfl

/-! ## The form of a framed backup -/

/-- **The reader of framed backups takes exactly their form.** It yields the contents of the frames that
have the names of sections, in order and decompressed where a flag says so, if the bytes are a header
and frames with nothing left over and no section comes twice; frames of other names count for nothing.
All other byte strings are malformed. No byte outside of them is ever asked for. -/
theorem readFramed_exact (data : Bytes) :
    (∀ found, readFramed data = .ok found ↔
      ∃ frames : List Frame, (∀ frame ∈ frames, frame.Fits) ∧
        data = magic ++ version :: frames.flatMap Frame.bytes ∧ Yields frames found ∧
        (found.map (·.1)).Nodup) ∧
    ((∃ found, readFramed data = .ok found) ∨
      ∃ failure : Failure, readFramed data = .error failure ∧ failure.IsContainer) ∧
    readFramedAt data = some (readFramed data) := by
  refine ⟨fun found => readFramed_eq_ok_iff, ?_, readFramedAt_eq data⟩
  cases h : readFramed data with
  | ok found => exact .inl ⟨found, rfl⟩
  | error failure => exact .inr ⟨failure, rfl, isContainer_of_readFramed h⟩

/-- A frame of no section whose payload is not what its flag says, and the frame of a section. -/
def mixedFrames : List Frame := [⟨[0x78], 1, [0xFF]⟩, ⟨SectionName.logic.bytes, 0, [0x41]⟩]

theorem readFramed_exact_mixed :
    readFramed (magic ++ version :: mixedFrames.flatMap Frame.bytes) = .ok [(.logic, [0x41])] ∧
    ∃ failure : Failure, readFramed (magic ++ version ::
      (mixedFrames ++ mixedFrames).flatMap Frame.bytes) = .error failure ∧ failure.IsContainer := by
  constructor
  · refine ((readFramed_exact _).1 _).2 ⟨mixedFrames, ?_, rfl, .skip ?_ (.take rfl ?_ .nil), ?_⟩
    · simp only [mixedFrames, List.forall_mem_cons]
      exact ⟨⟨by decide, by decide⟩, ⟨by decide, by decide⟩, nofun⟩
    · intro name
      cases name <;> decide
    · simp [Frame.Holds]
    · simp
  · obtain ⟨-, h, -⟩ := readFramed_exact (magic ++ version :: (mixedFrames ++ mixedFrames).flatMap Frame.bytes)
    refine h.resolve_left ?_
    rintro ⟨found, hfound⟩
    have htwice : readFramed (magic ++ version :: (mixedFrames ++ mixedFrames).flatMap Frame.bytes) =
        .error (.container "logic" .duplicate) := by cbv
    rw [htwice] at hfound
    simp at hfound

end Backup

end BlockApp
