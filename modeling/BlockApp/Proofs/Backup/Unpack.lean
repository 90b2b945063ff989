import BlockApp.Backup.Basic
import BlockApp.Proofs.Backup.Framed
import Mathlib

/-!
# What decides how a backup is read

A backup is taken for an archive wherever the end record of one is found, before anything looks at its
first bytes. So what a framed backup holds last decides whether its frames are read at all, even where
that is a payload that counts for nothing.

* `Archive.HasEnd` — an end record may stand in the last bytes
* `Archive.read_append_emptyEnd` — the end record of an archive without entries is found behind anything
* `unpack_framed_iff` — which framed backups are read for what their frames hold
-/

namespace BlockApp.Backup

variable {data : Bytes} {found : List (SectionName × Bytes)} {sections : Sections Bytes}

namespace Archive

/-- Whether the mark of an end record stands where one may stand: near the end, with room for the
rest of the record. -/
def HasEnd (data : Bytes) : Prop :=
  ∃ place, data.length ≤ place + (commentBound + endSize) ∧ place + endSize ≤ data.length ∧
    endMark <+: data.drop place

/-! ## The place of an end record -/

theorem prefix_drop_of_lastPlace? {mark : Bytes} {place : Nat}
    (h : lastPlace? mark data = some place) : mark <+: data.drop place := by
  induction data generalizing place with
  | nil => simp [lastPlace?] at h
  | cons b rest ih =>
    rw [lastPlace?] at h
    cases hrest : lastPlace? mark rest with
    | some later =>
      rw [hrest, Option.some.injEq] at h
      rw [← h, List.drop_succ_cons]
      exact ih hrest
    | none =>
      rw [hrest] at h
      by_cases hmark : mark.isPrefixOf (b :: rest)
      · rw [if_pos hmark, Option.some.injEq] at h
        rw [← h]
        exact List.isPrefixOf_iff_prefix.1 hmark
      · simp [hmark] at h

theorem hasEnd_of_endPlace? {place : Nat} (h : endPlace? data = some place) : HasEnd data := by
  unfold endPlace? at h
  split at h
  · cases h
  next hlength =>
    simp only at h
    split at h
    next hlast =>
      refine ⟨data.length - endSize, ?_, ?_, List.isPrefixOf_iff_prefix.1 hlast.1⟩ <;> omega
    · split at h
      next later hlater =>
        split at h
        · cases h
        next hroom =>
          have hmark := prefix_drop_of_lastPlace? hlater
          rw [List.drop_drop] at hmark
          rw [List.length_drop] at hroom
          simp only [endSize] at hroom
          refine ⟨_, ?_, ?_, hmark⟩ <;> simp only [endSize] <;> omega
      · cases h

theorem findEnd_eq_none (h : ¬ HasEnd data) : findEnd data = .ok none := by
  cases hplace : endPlace? data with
  | none => rw [findEnd, hplace]
  | some place => exact absurd (hasEnd_of_endPlace? hplace) h

/-! ## An archive without entries -/

/-- The end record of an archive without entries, comment and preceding bytes. -/
def emptyEnd : Bytes := endMark ++ List.replicate 18 0

theorem endPlace?_append_emptyEnd (before : Bytes) :
    endPlace? (before ++ emptyEnd) = some before.length := by
  have hlength : (before ++ emptyEnd).length = before.length + endSize := List.length_append
  have hlast : (before ++ emptyEnd).drop ((before ++ emptyEnd).length - endSize) = emptyEnd := by
    rw [hlength, Nat.add_sub_cancel, List.drop_left]
  rw [endPlace?, if_neg (by omega)]
  simp only [hlast]
  rw [if_pos (by decide), hlength, Nat.add_sub_cancel]

/-- Behind bytes that do not end in a locator, the end record of an archive without entries is found. -/
theorem findEnd_append_emptyEnd {before : Bytes}
    (hbefore : ¬ locatorMark <+: before.drop (before.length - locatorSize)) :
    findEnd (before ++ emptyEnd) = .ok (some ⟨before.length, false, 0, 0⟩) := by
  have hrecord : (before ++ emptyEnd).slice before.length endSize = emptyEnd := by
    rw [Bytes.slice, List.drop_left]
    rfl
  rw [findEnd, endPlace?_append_emptyEnd]
  simp only [hrecord]
  rw [if_pos]
  · rfl
  refine Decidable.or_iff_not_imp_left.2 fun hplace hmark => hbefore ?_
  have hmark := (List.isPrefixOf_iff_prefix.1 hmark).trans (List.take_prefix _ _)
  rw [List.drop_append_of_le_length (Nat.sub_le _ _)] at hmark
  refine List.prefix_of_prefix_length_le hmark (List.prefix_append _ _) ?_
  rw [List.length_drop]
  have : locatorMark.length ≤ locatorSize := by decide
  omega

theorem read_emptyEnd (place : Nat) : read data ⟨place, false, 0, 0⟩ = .ok [] := by
  have hstart : ¬ (EndRecord.start ⟨place, false, 0, 0⟩ < 0) := by
    simp [EndRecord.start]
  rw [read, readDirectory, if_neg hstart]
  simp [Bytes.slice, readEntries, readSections]

end Archive

/-! ## Framed backups behind which something looks like an archive -/

theorem complete_nil : complete [] = .error (.container SectionName.logic.name .missing) := rfl

/-- A backup that ends like an archive without entries is read as one, so all its sections are missing. -/
theorem unpack_append_emptyEnd {before : Bytes}
    (hbefore : ¬ Archive.locatorMark <+: before.drop (before.length - Archive.locatorSize)) :
    unpack (before ++ Archive.emptyEnd) =
      .error (.container SectionName.logic.name .missing) := by
  rw [unpack, Archive.findEnd_append_emptyEnd hbefore]
  simp only [Except.mapError_ok, bind, Except.bind, Archive.read_emptyEnd, complete_nil]

theorem Yields.append_skip {frames : List Frame} (hyields : Yields frames found) {frame : Frame}
    (hname : ∀ name : SectionName, frame.name ≠ name.bytes) : Yields (frames ++ [frame]) found := by
  induction hyields with
  | nil => exact .skip hname .nil
  | skip hother _ ih => exact .skip hother ih
  | take hsection hholds _ ih => exact .take hsection hholds ih

/-- A frame of no section changes nothing for the reader of framed backups. -/
theorem readFramed_append_frame {frame : Frame} (hfits : frame.Fits)
    (hname : ∀ name : SectionName, frame.name ≠ name.bytes) (hread : readFramed data = .ok found) :
    readFramed (data ++ frame.bytes) = .ok found := by
  obtain ⟨frames, hall, rfl, hyields, hnodup⟩ := readFramed_eq_ok_iff.1 hread
  refine readFramed_eq_ok_iff.2 ⟨frames ++ [frame], ?_, ?_, hyields.append_skip hname, hnodup⟩
  · simpa [or_imp, forall_and] using ⟨hall, hfits⟩
  · simp

/-- A payload that ends in an end record stands at the end of its frame. -/
theorem bytes_eq_append {frame : Frame} {body tail : Bytes} (hpayload : frame.payload = body ++ tail) :
    ∃ header : Bytes, frame.bytes = header ++ body ++ tail :=
  ⟨UInt8.ofNat frame.name.length ::
    (frame.name ++ frame.flags :: Bytes.ofNat32 frame.payload.length), by simp [Frame.bytes, hpayload]⟩

theorem unpack_append_frame {frame : Frame} {body : Bytes}
    (hpayload : frame.payload = body ++ Archive.emptyEnd)
    (hlength : Archive.locatorSize ≤ body.length)
    (hbody : ¬ Archive.locatorMark <+: body.drop (body.length - Archive.locatorSize)) :
    unpack (data ++ frame.bytes) = .error (.container SectionName.logic.name .missing) := by
  obtain ⟨header, hbytes⟩ := bytes_eq_append hpayload
  rw [hbytes, ← List.append_assoc, ← List.append_assoc]
  refine unpack_append_emptyEnd fun hmark => hbody ?_
  rwa [List.length_append, Nat.add_sub_assoc hlength, List.drop_length_add_append] at hmark

/-- **Which framed backups are read for what their frames hold**: those in which no archive ends, or one
that has the same sections. It is enough that the mark of an end record does not stand near the end;
but behind every framed backup a frame of no section can stand that its own reader skips and that makes
all sections missing. -/
theorem unpack_framed_iff (hread : readFramed data = .ok found)
    (hcomplete : complete found = .ok sections) :
    (unpack data = .ok sections ↔
      Archive.findEnd data = .ok none ∨
        ∃ record found', Archive.findEnd data = .ok (some record) ∧
          Archive.read data record = .ok found' ∧ complete found' = .ok sections) ∧
    (¬ Archive.HasEnd data → unpack data = .ok sections) ∧
    ∀ (frame : Frame) (body : Bytes), frame.Fits → (∀ name : SectionName, frame.name ≠ name.bytes) →
      frame.payload = body ++ Archive.emptyEnd → Archive.locatorSize ≤ body.length →
      ¬ Archive.locatorMark <+: body.drop (body.length - Archive.locatorSize) →
      readFramed (data ++ frame.bytes) = .ok found ∧
        unpack (data ++ frame.bytes) = .error (.container SectionName.logic.name .missing) := by
  have hiff : unpack data = .ok sections ↔
      Archive.findEnd data = .ok none ∨
        ∃ record found', Archive.findEnd data = .ok (some record) ∧
          Archive.read data record = .ok found' ∧ complete found' = .ok sections := by
    simp only [unpack, Except.bind_eq_ok_iff, Except.mapError_eq_ok_iff]
    constructor
    · rintro ⟨end?, hend, h⟩
      cases end? with
      | none => exact .inl hend
      | some record =>
        obtain ⟨found', hfound', h⟩ := Except.bind_eq_ok_iff.1 h
        exact .inr ⟨record, found', hend, hfound', h⟩
    · rintro (hend | ⟨record, found', hend, hfound', h⟩)
      · exact ⟨none, hend, Except.bind_eq_ok_iff.2 ⟨found, hread, hcomplete⟩⟩
      · exact ⟨some record, hend, Except.bind_eq_ok_iff.2 ⟨found', hfound', h⟩⟩
  refine ⟨hiff, fun hend => hiff.2 (.inl (Archive.findEnd_eq_none hend)), ?_⟩
  intro frame body hfits hname hpayload hlength hbody
  exact ⟨readFramed_append_frame hfits hname hread, unpack_append_frame hpayload hlength hbody⟩

/-- A framed backup whose six sections are empty. -/
def emptyBackup : Bytes :=
  magic ++ version :: SectionName.all.flatMap fun name => Frame.bytes ⟨name.bytes, 0, []⟩

/-- A frame of no section that holds an archive without entries. -/
def archiveFrame : Frame := ⟨[0x7A, 0x69, 0x70], 0, List.replicate 20 0 ++ Archive.emptyEnd⟩

theorem unpack_framed_iff_empty :
    unpack emptyBackup = .ok ⟨[], [], [], [], [], []⟩ ∧
    readFramed (emptyBackup ++ archiveFrame.bytes) = .ok (SectionName.all.map fun name => (name, [])) ∧
    unpack (emptyBackup ++ archiveFrame.bytes) =
      .error (.container SectionName.logic.name .missing) := by
  have hread : readFramed emptyBackup = .ok (SectionName.all.map fun name => (name, [])) := by cbv
  have hcomplete : complete (SectionName.all.map fun name => (name, [])) =
      .ok ⟨[], [], [], [], [], []⟩ := rfl
  obtain ⟨-, hwithout, hwith⟩ := unpack_framed_iff hread hcomplete
  refine ⟨hwithout ?_, hwith archiveFrame (List.replicate 20 0) ⟨by decide, by decide⟩ ?_ rfl ?_ ?_⟩
  · rintro ⟨place, -, -, hmark⟩
    have hmem : 0x50 ∈ emptyBackup := List.mem_of_mem_drop (hmark.subset List.mem_cons_self)
    revert hmem
    decide
  · intro name
    cases name <;> decide
  · decide
  · decide

end BlockApp.Backup
