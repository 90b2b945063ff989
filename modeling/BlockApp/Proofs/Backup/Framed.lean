import BlockApp.Backup.Basic
import BlockApp.Proofs.Outcome
import Mathlib.Algebra.Group.Nat.Defs

/-!
# The form of a framed backup

What a framed backup is, said without the reader: a header and frames written one after the other. The
reader takes exactly these byte strings, and finds in them what the frames of the sections hold.

* `Frame.bytes` — a frame as it is written
* `Yields` — what the frames of a backup hold, in their order
* `readFrame_eq_ok_iff`, `readFrames_eq_ok_iff` — the reader of one frame and of all of them
* `readFramed_eq_ok_iff` — a backup is read if it has the form, and nothing else is
* `exists_complete_iff` — what was read is complete if each of the six sections is there
-/

namespace BlockApp

namespace Bytes

/-- A number in four bytes, most significant first. -/
def ofNat32 (n : Nat) : Bytes :=
  [UInt8.ofNat (n / 0x1000000), UInt8.ofNat (n / 0x10000), UInt8.ofNat (n / 0x100), UInt8.ofNat n]

theorem bigEndian_four (a b c d : UInt8) :
    bigEndian [a, b, c, d] =
      0x1000000 * a.toNat + 0x10000 * b.toNat + 0x100 * c.toNat + d.toNat := by
  simp only [bigEndian, List.foldl_cons, List.foldl_nil]
  omega

theorem bigEndian_four_lt (a b c d : UInt8) : bigEndian [a, b, c, d] < 2 ^ 32 := by
  have ha := a.toNat_lt
  have hb := b.toNat_lt
  have hc := c.toNat_lt
  have hd := d.toNat_lt
  rw [bigEndian_four]
  omega

theorem bigEndian_ofNat32 {n : Nat} (h : n < 2 ^ 32) : bigEndian (ofNat32 n) = n := by
  rw [ofNat32, bigEndian_four]
  simp only [UInt8.toNat_ofNat']
  omega

theorem ofNat32_bigEndian (a b c d : UInt8) : ofNat32 (bigEndian [a, b, c, d]) = [a, b, c, d] := by
  have ha := a.toNat_lt
  have hb := b.toNat_lt
  have hc := c.toNat_lt
  have hd := d.toNat_lt
  rw [bigEndian_four, ofNat32]
  simp only [List.cons.injEq, and_true, ← UInt8.toNat_inj, UInt8.toNat_ofNat']
  omega

end Bytes

namespace Utf8

theorem toNat_ofNat_of_ascii {n : Nat} (h : n < 0x80) : (Char.ofNat n).toNat = n := by
  have hall : ∀ n : Fin 0x80, (Char.ofNat n).toNat = n := by decide
  exact hall ⟨n, h⟩

theorem encodeChar_of_ascii {c : Char} (h : c.toNat < 0x80) :
    String.utf8EncodeChar c = [UInt8.ofNat c.toNat] := by
  rw [String.utf8EncodeChar]
  exact if_pos (Nat.le_of_lt_succ h)

/-- **Only its own bytes are read as a text of ASCII characters.** -/
theorem decodeAscii_eq_iff {s : List Char} (hs : ∀ c ∈ s, c.toNat < 0x80) {bytes : Bytes} :
    decodeAscii bytes = s ↔ bytes = encode s := by
  induction s generalizing bytes with
  | nil => simp [decodeAscii]
  | cons c s ih =>
    have hc := hs c List.mem_cons_self
    rw [encode_cons, encodeChar_of_ascii hc, List.singleton_append]
    cases bytes with
    | nil => simp [decodeAscii]
    | cons b bytes =>
      have hrest : decodeAscii bytes = s ↔ bytes = encode s :=
        ih fun c hmem => hs c (List.mem_cons_of_mem _ hmem)
      rw [decodeAscii, List.map_cons, List.cons.injEq, List.cons.injEq, ← hrest]
      refine and_congr_left fun _ => ?_
      split
      next hb =>
        have hlt : b.toNat < 0x80 := UInt8.lt_iff_toNat_lt.1 hb
        rw [← UInt8.toNat_inj, UInt8.toNat_ofNat', Nat.mod_eq_of_lt (by omega)]
        constructor
        · rintro rfl
          rw [toNat_ofNat_of_ascii hlt]
        · intro h
          rw [h, Char.ofNat_toNat]
      -- a byte that is not ASCII is read as a character that is not
      next hb =>
        refine iff_of_false (fun h => ?_) fun h => hb ?_
        · rw [← h] at hc
          exact absurd hc (by decide)
        · rw [h, UInt8.lt_iff_toNat_lt, UInt8.toNat_ofNat', Nat.mod_eq_of_lt (by omega)]
          exact hc

end Utf8

/-- The name of a section in a backup. -/
def SectionName.bytes (name : SectionName) : Bytes := Utf8.encode name.name.toList

theorem SectionName.ofName?_eq_some_iff {s : String} {name : SectionName} :
    ofName? s = some name ↔ s = name.name := by
  constructor
  · intro h
    have hname : name.name = s := by simpa using List.find?_some h
    exact hname.symm
  · rintro rfl
    exact ofName?_name name

/-- Six values cannot be built if one of them cannot. -/
theorem Sections.exists_of_build_eq_error {ε α : Type} {f : SectionName → Except ε α} {e : ε}
    (h : build f = .error e) : ∃ name, f name = .error e := by
  simp only [build, Except.bind_eq_error_iff, Except.pure_ne_error, and_false, exists_false,
    or_false] at h
  rcases h with h | ⟨-, -, h | ⟨-, -, h | ⟨-, -, h | ⟨-, -, h | ⟨-, -, h⟩⟩⟩⟩⟩ <;> exact ⟨_, h⟩

/-- Whether a failure is that a backup is malformed. -/
def Failure.IsContainer (failure : Failure) : Prop :=
  ∃ name problem, failure = .container name problem

namespace Backup

namespace Frame

/-- Whether the lengths of a frame can be written. -/
def Fits (frame : Frame) : Prop := frame.name.length < 256 ∧ frame.payload.length < 2 ^ 32

/-- A frame as it is written. -/
def bytes (frame : Frame) : Bytes :=
  UInt8.ofNat frame.name.length ::
    (frame.name ++ frame.flags :: (Bytes.ofNat32 frame.payload.length ++ frame.payload))

/-- A frame is of a section if it has the section's name. -/
theorem section?_eq_some_iff {frame : Frame} {name : SectionName} :
    frame.section? = some name ↔ frame.name = name.bytes := by
  have hascii : ∀ c ∈ name.name.toList, c.toNat < 0x80 := by
    cases name <;> simp [SectionName.name]
  rw [section?, SectionName.ofName?_eq_some_iff, label, SectionName.bytes,
    ← Utf8.decodeAscii_eq_iff hascii, ← String.toList_inj, String.toList_ofList]

theorem isCompressed_iff {frame : Frame} : frame.isCompressed = true ↔ frame.flags.toNat % 2 = 1 := by
  rw [isCompressed, beq_iff_eq, ← UInt8.toNat_inj, UInt8.toNat_and, ← Nat.and_one_is_mod]
  rfl

/-- Whether a frame stands for a content: it is the payload, or what the payload decompresses to if the
lowest flag is set. -/
def Holds (frame : Frame) (content : Bytes) : Prop :=
  if frame.flags.toNat % 2 = 1 then Deflate.decompress frame.payload = .ok content
  else frame.payload = content

theorem content_eq_ok_iff {frame : Frame} {content : Bytes} :
    frame.content = .ok content ↔ frame.Holds content := by
  by_cases h : frame.flags.toNat % 2 = 1
  · rw [Frame.content, if_pos (isCompressed_iff.2 h), Holds, if_pos h]
  · rw [Frame.content, if_neg (mt isCompressed_iff.1 h), Holds, if_neg h, Except.ok.injEq]

end Frame

/-- What frames yield: the contents of those that have the name of a section, in order. All others
count for nothing. -/
inductive Yields : List Frame → List (SectionName × Bytes) → Prop where
  | nil : Yields [] []
  | skip {frame : Frame} {frames : List Frame} {found : List (SectionName × Bytes)}
      (hname : ∀ name : SectionName, frame.name ≠ name.bytes) (rest : Yields frames found) :
      Yields (frame :: frames) found
  | take {frame : Frame} {frames : List Frame} {found : List (SectionName × Bytes)}
      {name : SectionName} {content : Bytes} (hname : frame.name = name.bytes)
      (holds : frame.Holds content) (rest : Yields frames found) :
      Yields (frame :: frames) ((name, content) :: found)

/-! ## One frame -/

/-- How far the bytes after the length of a name reach: they end in the name, they end before the
payload, or they begin with a name, a byte of flags and a length. -/
theorem frame_cases (n : Nat) (rest : Bytes) :
    rest.length < n ∨ (n ≤ rest.length ∧ rest.length < n + 5) ∨
      ∃ name flags l₀ l₁ l₂ l₃ tail, name.length = n ∧
        rest = name ++ flags :: l₀ :: l₁ :: l₂ :: l₃ :: tail := by
  rcases Nat.lt_or_ge rest.length n with hname | hname
  · exact .inl hname
  refine .inr ?_
  have hsplit := List.take_append_drop n rest
  have hlength : (rest.take n).length = n := List.length_take_of_le hname
  match hdrop : rest.drop n with
  | flags :: l₀ :: l₁ :: l₂ :: l₃ :: tail =>
    exact .inr ⟨rest.take n, flags, l₀, l₁, l₂, l₃, tail, hlength, by rw [← hdrop, hsplit]⟩
  | [] | [_] | [_, _] | [_, _, _] | [_, _, _, _] =>
    have hshort := congrArg List.length hdrop
    simp only [List.length_drop, List.length_cons, List.length_nil] at hshort
    exact .inl ⟨hname, by omega⟩

variable {index : Nat} {nameLength : UInt8} {rest after : Bytes} {frame : Frame}

theorem readFrame_of_short_name (h : rest.length < nameLength.toNat) :
    readFrame index nameLength rest = .error (.container s!"entry #{index}" .truncatedName) := by
  rw [readFrame, if_pos h]

theorem readFrame_of_short_head (hname : nameLength.toNat ≤ rest.length)
    (h : rest.length < nameLength.toNat + 5) :
    readFrame index nameLength rest =
      .error (.container (Frame.label (rest.take nameLength.toNat)) .truncatedLength) := by
  rw [readFrame, if_neg (Nat.not_lt.2 hname)]
  simp only
  split
  next heq =>
    have hsize := congrArg List.length heq
    simp only [List.length_drop, List.length_cons] at hsize
    omega
  next => rfl

variable {name tail : Bytes} {flags l₀ l₁ l₂ l₃ : UInt8}

theorem readFrame_of_head (hname : name.length = nameLength.toNat)
    (h : rest = name ++ flags :: l₀ :: l₁ :: l₂ :: l₃ :: tail) :
    (readFrame index nameLength rest).map (fun p => (p.1, p.2.1)) =
      if tail.length < Bytes.bigEndian [l₀, l₁, l₂, l₃] then
        .error (.container (Frame.label name)
          (.entryLength (Bytes.bigEndian [l₀, l₁, l₂, l₃]) tail.length))
      else
        .ok (⟨name, flags, tail.take (Bytes.bigEndian [l₀, l₁, l₂, l₃])⟩,
          tail.drop (Bytes.bigEndian [l₀, l₁, l₂, l₃])) := by
  have htake : rest.take nameLength.toNat = name := by simp [h, ← hname]
  have hdrop : rest.drop nameLength.toNat = flags :: l₀ :: l₁ :: l₂ :: l₃ :: tail := by
    simp [h, ← hname]
  rw [readFrame, if_neg (by simp [h, ← hname])]
  simp only
  split
  next heq =>
    obtain ⟨rfl, rfl, rfl, rfl, rfl, rfl⟩ := by simpa using hdrop.symm.trans heq
    rw [htake]
    split <;> rfl
  next hshort => exact absurd hdrop (hshort _ _ _ _ _ _)

theorem exists_readFrame_iff :
    (∃ h, readFrame index nameLength rest = .ok (frame, ⟨after, h⟩)) ↔
      (readFrame index nameLength rest).map (fun p => (p.1, p.2.1)) = .ok (frame, after) := by
  cases readFrame index nameLength rest with
  | error failure => simp [Except.map]
  | ok p =>
    obtain ⟨found, tail, htail⟩ := p
    simp only [Except.map, Except.ok.injEq, Prod.mk.injEq, Subtype.mk.injEq]
    constructor
    · rintro ⟨-, h⟩
      exact h
    · rintro ⟨rfl, rfl⟩
      exact ⟨htail, rfl, rfl⟩

/-- **A frame is read where one is written**, and the rest is what follows it. -/
theorem readFrame_eq_ok_iff :
    (∃ h, readFrame index nameLength rest = .ok (frame, ⟨after, h⟩)) ↔
      frame.Fits ∧ nameLength :: rest = frame.bytes ++ after := by
  constructor
  · intro h
    rcases frame_cases nameLength.toNat rest with hname | ⟨hname, hhead⟩ | hparts
    · simp [readFrame_of_short_name hname] at h
    · simp [readFrame_of_short_head hname hhead] at h
    obtain ⟨name, flags, l₀, l₁, l₂, l₃, tail, hname, rfl⟩ := hparts
    rw [exists_readFrame_iff, readFrame_of_head hname rfl] at h
    split at h
    · simp at h
    next hpayload =>
    simp only [Except.ok.injEq, Prod.mk.injEq] at h
    obtain ⟨rfl, rfl⟩ := h
    have hsize := List.length_take_of_le (Nat.le_of_not_lt hpayload)
    refine ⟨⟨hname ▸ nameLength.toNat_lt, ?_⟩, ?_⟩
    · rw [hsize]
      exact Bytes.bigEndian_four_lt l₀ l₁ l₂ l₃
    · simp [Frame.bytes, hname, hsize, Bytes.ofNat32_bigEndian]
  · rintro ⟨⟨hname, hpayload⟩, hbytes⟩
    simp only [Frame.bytes, List.cons_append, List.cons.injEq] at hbytes
    obtain ⟨rfl, rfl⟩ := hbytes
    have hlength : frame.name.length = (UInt8.ofNat frame.name.length).toNat := by
      rw [UInt8.toNat_ofNat']
      omega
    rw [exists_readFrame_iff, readFrame_of_head hlength (List.append_assoc ..)]
    have hsize := Bytes.bigEndian_ofNat32 hpayload
    simp only [Bytes.ofNat32] at hsize
    rw [hsize, if_neg (by simp)]
    simp

/-! ## All frames -/

variable {seen : List SectionName} {data : Bytes} {found : List (SectionName × Bytes)}

/-- What the reader does with a frame: it skips one of no section, and takes one of a section that it
has not seen. -/
theorem readFrames_cons_eq_ok_iff :
    readFrames index seen (nameLength :: rest) = .ok found ↔
      ∃ (frame : Frame) (after : Bytes), frame.Fits ∧ nameLength :: rest = frame.bytes ++ after ∧
        ((∀ name : SectionName, frame.name ≠ name.bytes) ∧
            readFrames (index + 1) seen after = .ok found ∨
          ∃ name content others, frame.name = name.bytes ∧ name ∉ seen ∧ frame.Holds content ∧
            readFrames (index + 1) (name :: seen) after = .ok others ∧
            found = (name, content) :: others) := by
  rw [readFrames, Except.bind_eq_ok_iff]
  constructor
  · rintro ⟨⟨frame, after, hle⟩, hread, h⟩
    obtain ⟨hfits, hbytes⟩ := readFrame_eq_ok_iff.1 ⟨hle, hread⟩
    refine ⟨frame, after, hfits, hbytes, ?_⟩
    simp only at h
    split at h
    next hnone =>
      refine .inl ⟨fun name hname => ?_, h⟩
      rw [Frame.section?_eq_some_iff.2 hname] at hnone
      exact absurd hnone (by simp)
    next name hsome =>
      split at h
      · simp at h
      next hseen =>
      split at h
      · simp at h
      next content hcontent =>
      simp only [Except.bind_eq_ok_iff, Except.pure_eq_ok_iff] at h
      obtain ⟨others, hothers, rfl⟩ := h
      exact .inr ⟨name, content, others, Frame.section?_eq_some_iff.1 hsome, hseen,
        Frame.content_eq_ok_iff.1 hcontent, hothers, rfl⟩
  · rintro ⟨frame, after, hfits, hbytes, h⟩
    have hframe : ∃ hle, readFrame index nameLength rest = .ok (frame, ⟨after, hle⟩) :=
      readFrame_eq_ok_iff.2 ⟨hfits, hbytes⟩
    obtain ⟨hle, hread⟩ := hframe
    refine ⟨_, hread, ?_⟩
    rcases h with ⟨hname, h⟩ | ⟨name, content, others, hname, hseen, hcontent, hothers, rfl⟩
    · have hnone : frame.section? = none :=
        Option.eq_none_iff_forall_ne_some.2 fun name h => hname name (Frame.section?_eq_some_iff.1 h)
      simp only [hnone, h]
    · simp only [Frame.section?_eq_some_iff.2 hname, Frame.content_eq_ok_iff.2 hcontent, if_neg hseen,
        hothers]
      rfl

/-- Frames that were read stand in the bytes, one after the other. -/
theorem yields_of_readFrames (h : readFrames index seen data = .ok found) :
    ∃ frames : List Frame, (∀ frame ∈ frames, frame.Fits) ∧ data = frames.flatMap Frame.bytes ∧
      Yields frames found ∧ (found.map (·.1)).Nodup ∧ ∀ name ∈ found.map (·.1), name ∉ seen := by
  induction hsize : data.length using Nat.strongRecOn generalizing index seen data found with
  | ind size ih =>
    cases data with
    | nil =>
      rw [readFrames] at h
      cases h
      exact ⟨[], by simp, rfl, .nil, .nil, by simp⟩
    | cons nameLength rest =>
      obtain ⟨frame, after, hfits, hbytes, h⟩ := readFrames_cons_eq_ok_iff.1 h
      have hlt : after.length < size := by
        rw [← hsize, hbytes, Frame.bytes]
        simp only [List.length_append, List.length_cons]
        omega
      rcases h with ⟨hname, h⟩ | ⟨name, content, others, hname, hseen, hcontent, hothers, rfl⟩
      · obtain ⟨frames, hall, rfl, hyields, hnodup, hnew⟩ := ih _ hlt h rfl
        exact ⟨frame :: frames, List.forall_mem_cons.2 ⟨hfits, hall⟩, hbytes, .skip hname hyields,
          hnodup, hnew⟩
      · obtain ⟨frames, hall, rfl, hyields, hnodup, hnew⟩ := ih _ hlt hothers rfl
        refine ⟨frame :: frames, List.forall_mem_cons.2 ⟨hfits, hall⟩, hbytes,
          .take hname hcontent hyields, ?_, ?_⟩
        · rw [List.map_cons, List.nodup_cons]
          exact ⟨fun hmem => hnew name hmem List.mem_cons_self, hnodup⟩
        · rw [List.map_cons, List.forall_mem_cons]
          exact ⟨hseen, fun other hother hmem => hnew other hother (List.mem_cons_of_mem _ hmem)⟩

/-- Frames that are written are read, if no section comes twice. -/
theorem readFrames_of_yields {frames : List Frame} (hall : ∀ frame ∈ frames, frame.Fits)
    (hyields : Yields frames found) (hnodup : (found.map (·.1)).Nodup)
    (hnew : ∀ name ∈ found.map (·.1), name ∉ seen) :
    readFrames index seen (frames.flatMap Frame.bytes) = .ok found := by
  induction hyields generalizing index seen with
  | nil => rw [List.flatMap_nil, readFrames]
  | skip hname _ ih =>
    obtain ⟨hfits, hall⟩ := List.forall_mem_cons.1 hall
    rw [List.flatMap_cons]
    exact readFrames_cons_eq_ok_iff.2 ⟨_, _, hfits, rfl, .inl ⟨hname, ih hall hnodup hnew⟩⟩
  | take hname holds _ ih =>
    obtain ⟨hfits, hall⟩ := List.forall_mem_cons.1 hall
    rw [List.map_cons, List.nodup_cons] at hnodup
    rw [List.map_cons, List.forall_mem_cons] at hnew
    rw [List.flatMap_cons]
    refine readFrames_cons_eq_ok_iff.2 ⟨_, _, hfits, rfl, .inr
      ⟨_, _, _, hname, hnew.1, holds, ih hall hnodup.2 fun other hother hmem => ?_, rfl⟩⟩
    rcases List.mem_cons.1 hmem with rfl | hmem
    · exact hnodup.1 hother
    · exact hnew.2 other hother hmem

/-! ## The whole backup -/

/-- **A framed backup is read exactly if it has the form**: the header, then frames with nothing left
over, no two of one section. -/
theorem readFramed_eq_ok_iff :
    readFramed data = .ok found ↔
      ∃ frames : List Frame, (∀ frame ∈ frames, frame.Fits) ∧
        data = magic ++ version :: frames.flatMap Frame.bytes ∧ Yields frames found ∧
        (found.map (·.1)).Nodup := by
  constructor
  · intro h
    unfold readFramed at h
    split at h
    next m₀ m₁ m₂ m₃ number rest =>
      split at h
      · simp at h
      next hmagic =>
      split at h
      · simp at h
      next hversion =>
      obtain ⟨frames, hall, rfl, hyields, hnodup, -⟩ := yields_of_readFrames h
      rw [Decidable.not_not] at hmagic hversion
      exact ⟨frames, hall, by rw [← hmagic, hversion]; rfl, hyields, hnodup⟩
    next => simp at h
  · rintro ⟨frames, hall, rfl, hyields, hnodup⟩
    exact readFrames_of_yields hall hyields hnodup fun _ _ => List.not_mem_nil

/-! ## Failures -/

theorem isContainer_of_readFrame {failure : Failure}
    (h : readFrame index nameLength rest = .error failure) : failure.IsContainer := by
  unfold readFrame at h
  split at h
  · cases h
    exact ⟨_, _, rfl⟩
  simp only at h
  split at h
  · split at h
    · cases h
      exact ⟨_, _, rfl⟩
    · simp at h
  · cases h
    exact ⟨_, _, rfl⟩

theorem isContainer_of_readFrames {failure : Failure}
    (h : readFrames index seen data = .error failure) : failure.IsContainer := by
  induction hsize : data.length using Nat.strongRecOn generalizing index seen data with
  | ind size ih =>
    cases data with
    | nil => simp [readFrames] at h
    | cons nameLength rest =>
      rw [readFrames, Except.bind_eq_error_iff] at h
      rcases h with h | ⟨⟨frame, after, hle⟩, -, h⟩
      · exact isContainer_of_readFrame h
      have hlt : after.length < size := by
        rw [List.length_cons] at hsize
        omega
      simp only at h
      split at h
      · exact ih _ hlt h rfl
      split at h
      · cases h
        exact ⟨_, _, rfl⟩
      split at h
      · cases h
        exact ⟨_, _, rfl⟩
      rw [Except.bind_eq_error_iff] at h
      rcases h with h | ⟨others, -, h⟩
      · exact ih _ hlt h rfl
      · exact absurd h Except.pure_ne_error

/-- What is not read is malformed. -/
theorem isContainer_of_readFramed {failure : Failure} (h : readFramed data = .error failure) :
    failure.IsContainer := by
  unfold readFramed at h
  split at h
  · split at h
    · cases h
      exact ⟨_, _, rfl⟩
    split at h
    · cases h
      exact ⟨_, _, rfl⟩
    · exact isContainer_of_readFrames h
  · cases h
    exact ⟨_, _, rfl⟩

/-! ## All six sections -/

/-- What is not complete lacks a section. -/
theorem exists_missing_of_complete {failure : Failure} (h : complete found = .error failure) :
    ∃ name, name ∉ found.map (·.1) ∧ failure = .container name.name .missing := by
  obtain ⟨name, hname⟩ := Sections.exists_of_build_eq_error h
  cases hlookup : found.lookup name with
  | some content =>
    rw [hlookup] at hname
    cases hname
  | none =>
    rw [hlookup] at hname
    cases hname
    refine ⟨name, fun hmem => ?_, rfl⟩
    obtain ⟨entry, hentry, hsame⟩ := List.mem_map.1 hmem
    have hother := List.lookup_eq_none_iff.1 hlookup entry hentry
    simp [hsame] at hother

theorem isContainer_of_complete {failure : Failure} (h : complete found = .error failure) :
    failure.IsContainer := by
  obtain ⟨name, -, rfl⟩ := exists_missing_of_complete h
  exact ⟨_, _, rfl⟩

/-- **What was read is complete** if each of the six sections is there. -/
theorem exists_complete_iff :
    (∃ sections, complete found = .ok sections) ↔ ∀ name, name ∈ found.map (·.1) := by
  constructor
  · rintro ⟨sections, h⟩ name
    have hname := Sections.build_eq_ok_iff.1 h name
    cases hlookup : found.lookup name with
    | none =>
      rw [hlookup] at hname
      cases hname
    | some content =>
      obtain ⟨before, after, hsplit, -⟩ := List.lookup_eq_some_iff.1 hlookup
      exact List.mem_map.2 ⟨(name, content), hsplit ▸ by simp, rfl⟩
  · intro hall
    cases h : complete found with
    | ok sections => exact ⟨sections, rfl⟩
    | error failure =>
      obtain ⟨name, hmissing, -⟩ := exists_missing_of_complete h
      exact absurd (hall name) hmissing

end Backup

end BlockApp
