import BlockApp.Proofs.Backup.Framed
import Mathlib

/-!
# How reading a backup fails

What is wrong with a framed backup is always reported as a malformed container. An archive can also ask
for what its reader does not do, or hold a content that cannot be decompressed, and then it is the
reader's own failure that comes out.

* `Archive.readSections_eq_error_iff` — the first entry that fails, after entries that were read
* `Archive.StopsWith` — the three stages at which reading an archive stops
* `Archive.Entry.Unhandled` — why a content behind a sound header makes the reader itself fail
* `unpack_unreported_iff` — the backups whose failure is not that of a malformed container
-/

namespace BlockApp

namespace Backup

variable {file : Bytes} {failure : Failure}

namespace Archive

variable {start : Int} {entries before rest : List Entry} {seen : List SectionName} {stop : Stop}

/-- Whether a reader stops as the archive is malformed, and not because of what the reader is able to
do. -/
def Stop.IsFault : Stop → Prop
  | .fault _ => True
  | .limit _ | .content _ => False

theorem Stop.isContainer_failure_iff : stop.failure.IsContainer ↔ stop.IsFault := by
  cases stop with
  | fault cause => exact iff_of_true ⟨_, _, rfl⟩ trivial
  | limit | content => exact iff_of_false (by rintro ⟨_, _, ⟨⟩⟩) id

/-! ## The entries of sections -/

/-- The sections that entries are of. -/
def sectionsOf (entries : List Entry) : List SectionName :=
  entries.filterMap fun e => sectionOfEntry? e.shortName

theorem mem_sectionsOf_append_singleton {e : Entry} {name other : SectionName}
    (hname : sectionOfEntry? e.shortName = some name) :
    other ∈ sectionsOf (before ++ [e]) ↔ other ∈ name :: sectionsOf before := by
  simp [sectionsOf, hname, or_comm]

theorem sectionsOf_append_singleton_of_none {e : Entry}
    (hname : sectionOfEntry? e.shortName = none) :
    sectionsOf (before ++ [e]) = sectionsOf before := by
  simp [sectionsOf, hname]

/-- Whether the reader gets through the last of these entries, which stand after `before`: what is of a
section is not of an earlier one, and its content is read. -/
def Passes (file : Bytes) (start : Int) (entries before : List Entry) : List Entry → Prop
  | [] => True
  | e :: others =>
    (∀ name, sectionOfEntry? e.shortName = some name →
      name ∉ sectionsOf before ∧
        ∃ content, readContent file (roomEnd start before entries e) e = .ok content) ∧
    Passes file start entries (before ++ [e]) others

/-- How the reader fails at an entry of a section that stands after `before`. -/
inductive FailsAt (file : Bytes) (start : Int) (entries before : List Entry) (e : Entry) :
    Failure → Prop
  | duplicate {name : SectionName} (hname : sectionOfEntry? e.shortName = some name)
    (hseen : name ∈ sectionsOf before) :
    FailsAt file start entries before e (.container name.name .duplicate)
  | content {name : SectionName} {stop : Stop} (hname : sectionOfEntry? e.shortName = some name)
    (hnew : name ∉ sectionsOf before)
    (hread : readContent file (roomEnd start before entries e) e = .error stop) :
    FailsAt file start entries before e stop.failure

/-- The first entry at which the reader fails is the one in front, or one after it that it gets to. -/
theorem exists_failsAt_cons_iff {e : Entry} {others : List Entry} :
    (∃ middle x after, e :: others = middle ++ x :: after ∧
        Passes file start entries before middle ∧
          FailsAt file start entries (before ++ middle) x failure) ↔
      FailsAt file start entries before e failure ∨
        Passes file start entries before [e] ∧
          ∃ middle x after, others = middle ++ x :: after ∧
            Passes file start entries (before ++ [e]) middle ∧
              FailsAt file start entries (before ++ [e] ++ middle) x failure := by
  constructor
  · rintro ⟨_ | ⟨first, middle⟩, x, after, hsplit, hpasses, hfails⟩
    · cases hsplit
      rw [List.append_nil] at hfails
      exact .inl hfails
    · cases hsplit
      refine .inr ⟨⟨hpasses.1, trivial⟩, middle, x, after, rfl, hpasses.2, ?_⟩
      rwa [List.append_assoc, List.singleton_append]
  · rintro (hfails | ⟨hpasses, middle, x, after, rfl, hmiddle, hfails⟩)
    · refine ⟨[], e, others, rfl, trivial, ?_⟩
      rwa [List.append_nil]
    · refine ⟨e :: middle, x, after, rfl, ⟨hpasses.1, hmiddle⟩, ?_⟩
      rwa [List.append_assoc, List.singleton_append] at hfails

/-- An entry of no section is no matter to the reader. -/
theorem not_failsAt_of_none {e : Entry} (hname : sectionOfEntry? e.shortName = none) :
    ¬ FailsAt file start entries before e failure := by
  rintro (⟨hother, -⟩ | ⟨hother, -, -⟩) <;> simp [hname] at hother

theorem passes_singleton_of_none {e : Entry} (hname : sectionOfEntry? e.shortName = none) :
    Passes file start entries before [e] :=
  ⟨by simp [hname], trivial⟩

/-- The reader fails at an entry of a section if it is the second one or cannot be read. -/
theorem failsAt_iff {e : Entry} {name : SectionName} (hname : sectionOfEntry? e.shortName = some name) :
    FailsAt file start entries before e failure ↔
      name ∈ sectionsOf before ∧ failure = .container name.name .duplicate ∨
        name ∉ sectionsOf before ∧
          ∃ stop, readContent file (roomEnd start before entries e) e = .error stop ∧
            stop.failure = failure := by
  constructor
  · rintro (⟨hother, hold⟩ | ⟨hother, hnew, hread⟩)
    · cases hname.symm.trans hother
      exact .inl ⟨hold, rfl⟩
    · cases hname.symm.trans hother
      exact .inr ⟨hnew, _, hread, rfl⟩
  · rintro (⟨hold, rfl⟩ | ⟨hnew, stop, hread, rfl⟩)
    · exact .duplicate hname hold
    · exact .content hname hnew hread

theorem passes_singleton_iff {e : Entry} {name : SectionName}
    (hname : sectionOfEntry? e.shortName = some name) :
    Passes file start entries before [e] ↔
      name ∉ sectionsOf before ∧
        ∃ content, readContent file (roomEnd start before entries e) e = .ok content := by
  simp [Passes, hname]

/-- The reader of sections fails at the first entry that has a section for the second time or whose
content cannot be read. -/
theorem readSections_eq_error_iff (hseen : ∀ name, name ∈ seen ↔ name ∈ sectionsOf before) :
    readSections file start before rest seen = .error failure ↔
      ∃ middle e after, rest = middle ++ e :: after ∧
        Passes file start (before ++ rest) before middle ∧
          FailsAt file start (before ++ rest) (before ++ middle) e failure := by
  induction rest generalizing before seen with
  | nil => simp [readSections]
  | cons e others ih =>
    have hall : before ++ e :: others = before ++ [e] ++ others := by simp
    rw [exists_failsAt_cons_iff, readSections]
    cases hname : sectionOfEntry? e.shortName with
    | none =>
      have hseen' : ∀ name, name ∈ seen ↔ name ∈ sectionsOf (before ++ [e]) := by
        rwa [sectionsOf_append_singleton_of_none hname]
      simp only [not_failsAt_of_none hname, passes_singleton_of_none hname, false_or, true_and]
      rw [ih hseen', ← hall]
    | some name =>
      rw [failsAt_iff hname, passes_singleton_iff hname]
      by_cases hmem : name ∈ sectionsOf before
      · simp [hmem, (hseen name).2 hmem, eq_comm]
      · have hseen' : ∀ other, other ∈ name :: seen ↔ other ∈ sectionsOf (before ++ [e]) := by
          intro other
          rw [mem_sectionsOf_append_singleton hname, List.mem_cons, List.mem_cons, hseen]
        -- the rest is read only behind a content that was
        simp only [if_neg fun h => hmem ((hseen name).1 h), Except.bind_eq_error_iff,
          Except.mapError_eq_error_iff, Except.mapError_eq_ok_iff, Except.pure_ne_error, and_false,
          exists_false, or_false, hmem, false_and, false_or, not_false_eq_true, true_and,
          exists_and_right, ih hseen', ← hall]

/-! ## Contents -/

/-- Why the content of an entry makes the reader itself fail, when the header before it is sound.
`data` is what stands behind the header. -/
inductive Entry.Unhandled (e : Entry) (data : Bytes) : Prop
  | encrypted (h : e.flags.testBit 0 = true)
  | method (h : Method.ofNumber? e.method = none)
  | absent (h : data = []) (hsize : 0 < e.compressedSize)
  | corrupt {method : Method} {cause : ContentFault} (hmethod : Method.ofNumber? e.method = some method)
    (h : method.decompress (data.take e.compressedSize) = .error (.content cause))
  | early {method : Method} {output : Bytes} (hmethod : Method.ofNumber? e.method = some method)
    (h : method.decompress (data.take e.compressedSize) = .ok (output, false))
    (hdata : data.length < e.compressedSize) (hsize : output.length < e.size)

/-- Where there is data in a known way to compress it, and without encryption, what is wrong is found in
decompressing it. -/
theorem Entry.unhandled_iff {e : Entry} {data : Bytes} {method : Method}
    (hflag : ¬ e.flags.testBit 0 = true) (hmethod : Method.ofNumber? e.method = some method)
    (hthere : ¬ (data = [] ∧ e.compressedSize > 0)) :
    e.Unhandled data ↔
      (∃ cause, method.decompress (data.take e.compressedSize) = .error (.content cause)) ∨
        ∃ output, method.decompress (data.take e.compressedSize) = .ok (output, false) ∧
          data.length < e.compressedSize ∧ output.length < e.size := by
  constructor
  · rintro (h | h | ⟨h, hsize⟩ | ⟨h, hcause⟩ | ⟨h, houtput, hdata, hsize⟩)
    · exact absurd h hflag
    · exact absurd (hmethod.symm.trans h) nofun
    · exact absurd ⟨h, hsize⟩ hthere
    · cases hmethod.symm.trans h
      exact .inl ⟨_, hcause⟩
    · cases hmethod.symm.trans h
      exact .inr ⟨_, houtput, hdata, hsize⟩
  · rintro (⟨cause, hcause⟩ | ⟨output, houtput, hdata, hsize⟩)
    · exact .corrupt hmethod hcause
    · exact .early hmethod houtput hdata hsize

/-- What is compressed is never beyond the limits of its reader: it is malformed or corrupt. -/
theorem decompress_ne_limit {method : Method} {data : Bytes} {cause : ArchiveLimit} :
    method.decompress data ≠ .error (.limit cause) := by
  cases method <;> simp only [Method.decompress] <;> (try split) <;> simp

theorem checkContent_unhandled_iff {e : Entry} {isWhole : Bool} {output : Bytes} :
    (∃ stop, checkContent e isWhole output = .error stop ∧ ¬ stop.IsFault) ↔
      isWhole = false ∧ output.length < e.size := by
  rw [checkContent]
  split
  next h =>
    have h : isWhole = false ∧ output.length < e.size := by simpa using h
    exact iff_of_true ⟨_, rfl, id⟩ h
  next h =>
    have h : ¬ (isWhole = false ∧ output.length < e.size) := by simpa using h
    refine iff_of_false ?_ h
    rintro ⟨stop, hstop, hfault⟩
    split at hstop
    · cases hstop
    · cases hstop
      exact hfault trivial

/-- Behind a sound header, exactly the unhandled contents make the reader itself fail. -/
theorem readContent_unhandled_iff {e : Entry} {room : Int} {place : Nat}
    (hplace : contentStart file e = .ok place) (hroom : place + e.compressedSize ≤ room) :
    (∃ stop, readContent file room e = .error stop ∧ ¬ stop.IsFault) ↔
      e.Unhandled (file.drop place) := by
  have hfits : ¬ (place + e.compressedSize > room) := by omega
  rw [readContent, hplace]
  simp only [bind, Except.bind, if_neg hfits]
  by_cases hflag : e.flags.testBit 0 = true
  · rw [if_pos hflag]
    exact iff_of_true ⟨_, rfl, id⟩ (.encrypted hflag)
  rw [if_neg hflag]
  cases hmethod : Method.ofNumber? e.method with
  | none => exact iff_of_true ⟨_, rfl, id⟩ (.method hmethod)
  | some method =>
    simp only
    by_cases habsent : file.drop place = [] ∧ e.compressedSize > 0
    · rw [if_pos habsent]
      exact iff_of_true ⟨_, rfl, id⟩ (.absent habsent.1 habsent.2)
    rw [if_neg habsent, Entry.unhandled_iff hflag hmethod habsent]
    cases hdata : method.decompress ((file.drop place).take e.compressedSize) with
    | error stop =>
      cases stop with
      | fault cause => simp [Stop.IsFault]
      | limit cause => exact absurd hdata decompress_ne_limit
      | content cause => simp [Stop.IsFault]
    | ok result =>
      obtain ⟨output, isEnd⟩ := result
      simp only [checkContent_unhandled_iff, Bool.or_eq_false_iff, decide_eq_false_iff_not, Nat.not_le]
      constructor
      · rintro ⟨⟨rfl, hshort⟩, hsize⟩
        exact .inr ⟨output, rfl, hshort, hsize⟩
      · rintro (⟨cause, ⟨⟩⟩ | ⟨_, ⟨⟩, hshort, hsize⟩)
        exact ⟨⟨rfl, hshort⟩, hsize⟩

/-! ## A whole archive -/

/-- How reading a file as an archive stops: at the end record, in the directory, or at the content of a
section that it gets to. -/
inductive StopsWith (file : Bytes) (stop : Stop) : Prop
  | ending (hend : findEnd file = .error stop)
  | directory {record : EndRecord} (hend : findEnd file = .ok (some record))
    (hread : readDirectory file record = .error stop)
  | content {record : EndRecord} {before after : List Entry} {e : Entry} {name : SectionName}
    (hend : findEnd file = .ok (some record))
    (hdirectory : readDirectory file record = .ok (before ++ e :: after))
    (hpasses : Passes file record.start (before ++ e :: after) [] before)
    (hname : sectionOfEntry? e.shortName = some name) (hnew : name ∉ sectionsOf before)
    (hread : readContent file (roomEnd record.start before (before ++ e :: after) e) e = .error stop)

/-- What an archive fails with is that a section is there twice, or what the reader stops with. -/
theorem read_eq_error_iff {record : EndRecord} (hend : findEnd file = .ok (some record))
    (hfailure : ¬ failure.IsContainer) :
    read file record = .error failure ↔
      ∃ stop, StopsWith file stop ∧ failure = stop.failure := by
  rw [read, Except.bind_eq_error_iff]
  constructor
  · rintro (h | ⟨entries, hdirectory, h⟩)
    · obtain ⟨stop, hread, rfl⟩ := Except.mapError_eq_error_iff.1 h
      exact ⟨stop, .directory hend hread, rfl⟩
    · rw [Except.mapError_eq_ok_iff] at hdirectory
      obtain ⟨before, e, after, rfl, hpasses, hfails⟩ :=
        (readSections_eq_error_iff (by simp [sectionsOf])).1 h
      cases hfails with
      | duplicate => exact absurd ⟨_, _, rfl⟩ hfailure
      | content hname hnew hread =>
        exact ⟨_, .content hend hdirectory hpasses hname hnew hread, rfl⟩
  · rintro ⟨stop, hstops, rfl⟩
    cases hstops with
    | ending hother => simp [hend] at hother
    | directory hother hread =>
      cases hend.symm.trans hother
      exact .inl (Except.mapError_eq_error_iff.2 ⟨stop, hread, rfl⟩)
    | content hother hdirectory hpasses hname hnew hread =>
      cases hend.symm.trans hother
      refine .inr ⟨_, Except.mapError_eq_ok_iff.2 hdirectory, ?_⟩
      exact (readSections_eq_error_iff (by simp [sectionsOf])).2
        ⟨_, _, _, rfl, hpasses, .content hname hnew hread⟩

end Archive

/-! ## A whole backup -/

/-- A backup in which no archive ends never fails but as a malformed container. -/
theorem unpack_failsWith_of_framed (hend : Archive.findEnd file = .ok none) :
    (unpack file).FailsWith Failure.IsContainer := by
  rw [unpack, hend]
  show (readFramed file >>= complete).FailsWith _
  exact .bind (fun _ => isContainer_of_readFramed) fun _ _ _ => isContainer_of_complete

theorem unpack_eq_error_iff (hfailure : ¬ failure.IsContainer) :
    unpack file = .error failure ↔ ∃ stop, Archive.StopsWith file stop ∧ failure = stop.failure := by
  cases hend : Archive.findEnd file with
  | error stop =>
    rw [unpack, hend]
    constructor
    · rintro ⟨⟩
      exact ⟨stop, .ending hend, rfl⟩
    · rintro ⟨other, hstops, rfl⟩
      cases hstops with
      | ending hother =>
        cases hend.symm.trans hother
        rfl
      | directory hother => simp [hend] at hother
      | content hother => simp [hend] at hother
  | ok end? =>
    cases end? with
    | none =>
      refine iff_of_false (fun h => hfailure (unpack_failsWith_of_framed hend _ h)) ?_
      rintro ⟨stop, hstops, -⟩
      cases hstops with
      | ending hother | directory hother | content hother => simp [hend] at hother
    | some record =>
      rw [← Archive.read_eq_error_iff hend hfailure, unpack, hend]
      show (Archive.read file record >>= complete) = _ ↔ _
      constructor
      · intro h
        rcases Except.bind_eq_error_iff.1 h with h | ⟨found, -, h⟩
        · exact h
        · exact absurd (isContainer_of_complete h) hfailure
      · exact fun h => Except.bind_eq_error_iff.2 (.inl h)

/-- **Which backups fail otherwise than as a malformed container**: those where reading an archive stops
with something that is not a fault of the archive. A framed backup never does. Behind a sound header,
a content does so if it is encrypted, compressed in a way or with data the reader does not take, or ends
too early. -/
theorem unpack_unreported_iff (file : Bytes) :
    (∀ failure, (unpack file = .error failure ∧ ¬ failure.IsContainer) ↔
      ∃ stop, Archive.StopsWith file stop ∧ ¬ stop.IsFault ∧ failure = stop.failure) ∧
    (Archive.findEnd file = .ok none → (unpack file).FailsWith Failure.IsContainer) ∧
    ∀ (e : Archive.Entry) (place : Nat) (room : Int), Archive.contentStart file e = .ok place →
      place + e.compressedSize ≤ room →
      ((∃ stop, Archive.readContent file room e = .error stop ∧ ¬ stop.IsFault) ↔
        e.Unhandled (file.drop place)) := by
  refine ⟨fun failure => ?_, unpack_failsWith_of_framed,
    fun _ _ _ => Archive.readContent_unhandled_iff⟩
  constructor
  · rintro ⟨h, hfailure⟩
    obtain ⟨stop, hstops, rfl⟩ := (unpack_eq_error_iff hfailure).1 h
    exact ⟨stop, hstops, fun hfault => hfailure (Archive.Stop.isContainer_failure_iff.2 hfault), rfl⟩
  · rintro ⟨stop, hstops, hfault, rfl⟩
    have hfailure := fun h => hfault (Archive.Stop.isContainer_failure_iff.1 h)
    exact ⟨(unpack_eq_error_iff hfailure).2 ⟨stop, hstops, rfl⟩, hfailure⟩

/-! ## An archive with a corrupt content -/

/-- A number in four bytes, the lowest first. -/
def low32 (n : Nat) : Bytes := (Bytes.ofNat32 n).reverse

/-- An entry to be written: its name, the number of its method, and data that stands for the letter `A`. -/
structure Part where
  name : Bytes
  method : UInt8
  data : Bytes

namespace Part

/-- The fields that the header and the directory have in common. -/
def fields (p : Part) : Bytes :=
  [20, 0, 0, 0, p.method, 0, 0, 0, 0, 0] ++ low32 (Bytes.crc32 [0x41]).toNat ++
    low32 p.data.length ++ low32 1 ++ [UInt8.ofNat p.name.length, 0, 0, 0]

def header (p : Part) : Bytes := Archive.headerMark ++ p.fields ++ p.name ++ p.data

def record (p : Part) (place : Nat) : Bytes :=
  Archive.recordMark ++ [20, 0] ++ p.fields ++ List.replicate 10 0 ++ low32 place ++ p.name

end Part

/-- The directory of parts that are written from a place on. -/
def directoryOf (place : Nat) : List Part → Bytes
  | [] => []
  | p :: parts => p.record place ++ directoryOf (place + p.header.length) parts

/-- An archive of parts. -/
def archiveOf (parts : List Part) : Bytes :=
  let contents := parts.flatMap Part.header
  let directory := directoryOf 0 parts
  contents ++ directory ++ Archive.endMark ++ [0, 0, 0, 0, UInt8.ofNat parts.length, 0] ++
    [UInt8.ofNat parts.length, 0] ++ low32 directory.length ++ low32 contents.length ++ [0, 0]

/-- The name of a section's entry. -/
def entryName (name : SectionName) : Bytes :=
  if name = .project then name.bytes else Utf8.encode "data/".toList ++ name.bytes

/-- An archive with all six sections, the first of which is said to be block-sorted and is not. -/
def corruptArchive : Bytes :=
  archiveOf <| SectionName.all.map fun name =>
    if name = .logic then ⟨entryName name, 12, [0x41, 0x41, 0x41, 0x41]⟩
    else ⟨entryName name, 0, [0x41]⟩

/-- What the directory of that archive says of its first entry. -/
def corruptEntry : Archive.Entry :=
  ⟨"data/logic".toList, 0, 12, (Bytes.crc32 [0x41]).toNat, 4, 1, 0, 0⟩

set_option maxRecDepth 100000 in
theorem unpack_unreported_iff_corrupt :
    unpack corruptArchive = .error (.system (.content .blockSorted)) ∧
    (∃ stop, Archive.StopsWith corruptArchive stop ∧ ¬ stop.IsFault) ∧
    (∃ stop, Archive.readContent corruptArchive 44 corruptEntry = .error stop ∧ ¬ stop.IsFault) ∧
    (unpack (magic ++ [version])).FailsWith Failure.IsContainer := by
  have hunpack : unpack corruptArchive = .error (.system (.content .blockSorted)) := by cbv
  have hfailure : ¬ (Failure.system (.content .blockSorted)).IsContainer := by rintro ⟨_, _, ⟨⟩⟩
  have hplace : Archive.contentStart corruptArchive corruptEntry = .ok 40 := by cbv
  have hcorrupt : corruptEntry.Unhandled (corruptArchive.drop 40) := .corrupt rfl (by cbv)
  obtain ⟨hwhole, -, hentry⟩ := unpack_unreported_iff corruptArchive
  obtain ⟨stop, hstops, hfault, -⟩ := (hwhole _).1 ⟨hunpack, hfailure⟩
  refine ⟨hunpack, ⟨stop, hstops, hfault⟩, ?_, (unpack_unreported_iff _).2.1 (by cbv)⟩
  exact (hentry corruptEntry 40 44 hplace (by decide)).2 hcorrupt

end Backup

end BlockApp
