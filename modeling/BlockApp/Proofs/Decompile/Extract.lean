import BlockApp.Decompile.Basic
import BlockApp.Proofs.Backup.Folder
import BlockApp.Proofs.Backup.Probe
import BlockApp.Proofs.Decompile.Artifacts

/-!
# Extracting a backup first

The sections of a backup may be written into a folder as they are stored or as texts. Decompiling the folder
makes the same as decompiling the backup: texts in UTF-8 are never taken for encrypted, so no section is
decrypted twice.

* `Backup.decryptAll_plain` — sections that are stored as texts, with any key
* `Decompile.load_of_writeFolder` — what a folder is for a run
* `Decompile.produce_of_writeFolder` — what is made of the folder
-/

namespace BlockApp

namespace Backup

/-! ## Sections that are texts -/

/-- Sections that are stored as texts. -/
def plain (texts : Sections String) : Sections Bytes := texts.map fun text => Utf8.encode text.toList

theorem decryptAll_plain (k : CipherKey) (texts : Sections String) :
    decryptAll k (plain texts) = .ok texts :=
  Sections.build_eq_ok_iff.2 fun name => by
    rw [plain, Sections.get_map]
    exact sectionText_encode k name.name (texts.get name)

end Backup

namespace Decompile

open Backup

variable {settings : Settings} {disk disk' : Disk} {folder source : Path} {contents raw : Sections Bytes}
  {texts : Sections String}

/-! ## What a run makes of a folder -/

/-- A folder that contents were written into has them for a run. -/
theorem load_of_writeFolder (h : writeFolder disk folder contents = (disk', .ok ())) :
    load disk' folder = .ok contents := by
  have hlook := Disk.look_eq_ok_some_iff.2 (find_folder_of_writeFolder h)
  rw [load, hlook]
  exact readFolder_of_writeFolder h

/-- What is made depends on the texts of the sections only. -/
theorem produce_eq_of_texts {disk₁ disk₂ : Disk} {source₁ source₂ : Path}
    {contents₁ contents₂ : Sections Bytes} (h₁ : load disk₁ source₁ = .ok contents₁)
    (h₂ : load disk₂ source₂ = .ok contents₂)
    (htexts : decryptAll settings.cipher contents₁ = decryptAll settings.cipher contents₂)
    (selection : Selection) :
    produce settings disk₁ source₁ selection = produce settings disk₂ source₂ selection := by
  simp only [produce, h₁, h₂, bind, Except.bind, htexts]

/-- **Extracting first changes nothing.** Where the sections of a backup can be written as they are
stored, they can be written as texts, and the other way round. Either way the folder has what was written,
the same texts are read from it, and the same is made of it as of the backup. None of the texts is taken
for encrypted. -/
theorem produce_of_writeFolder (hraw : decryptAll settings.cipher raw = .ok texts) :
    (∀ disk folder, (∃ disk', writeFolder disk folder raw = (disk', .ok ())) ↔
      ∃ disk', writeFolder disk folder (plain texts) = (disk', .ok ())) ∧
    (∀ contents, contents = raw ∨ contents = plain texts → ∀ disk folder disk',
      writeFolder disk folder contents = (disk', .ok ()) →
        readFolder disk' folder = .ok contents ∧
        load disk' folder = .ok contents ∧
        decryptAll settings.cipher contents = .ok texts ∧
        ∀ disk₀ source, load disk₀ source = .ok raw → ∀ selection,
          produce settings disk' folder selection = produce settings disk₀ source selection) ∧
    ∀ name, looksEncrypted ((plain texts).get name) = false := by
  refine ⟨fun disk folder => ?_, fun contents hcontents disk folder disk' hwrite => ?_, fun name => ?_⟩
  · rw [exists_writeFolder_iff, exists_writeFolder_iff]
  · have htexts : decryptAll settings.cipher contents = .ok texts := by
      rcases hcontents with rfl | rfl
      · exact hraw
      · exact decryptAll_plain settings.cipher texts
    refine ⟨readFolder_of_writeFolder hwrite, load_of_writeFolder hwrite, htexts,
      fun disk₀ source hsource selection => ?_⟩
    exact produce_eq_of_texts (load_of_writeFolder hwrite) hsource (htexts.trans hraw.symm) selection
  · exact looksEncrypted_eq_false_iff.2 ⟨_, by rw [plain, Sections.get_map]⟩

/-! ## A mix of sections -/

/-- Two sections that are encrypted, one that is a text, and three that are empty. -/
def mixedContents : Sections Bytes where
  logic := CipherKey.sharedSample
  view := [0x78]
  file := []
  library := CipherKey.sharedSample
  resource := []
  project := []

/-- The texts of the mixed sections. -/
def mixedTexts : Sections String := ⟨"é", "x", "", "é", "", ""⟩

theorem decryptAll_mixedContents : decryptAll shortSettings.cipher mixedContents = .ok mixedTexts := by
  refine Sections.build_eq_ok_iff.2 fun name => ?_
  have hprobe : looksEncrypted CipherKey.sharedSample = true := by decide +kernel
  cases name with
  | logic => exact sectionText_of_decrypt hprobe CipherKey.decrypt_sharedSample
  | library => exact sectionText_of_decrypt hprobe CipherKey.decrypt_sharedSample
  | view => exact sectionText_encode _ _ "x"
  | file => exact sectionText_encode _ _ ""
  | resource => exact sectionText_encode _ _ ""
  | project => exact sectionText_encode _ _ ""

theorem exists_disk_of_isOk {outcome : Disk × Except DiskFault Unit} (h : outcome.2.isOk = true) :
    ∃ disk, outcome = (disk, .ok ()) := by
  obtain ⟨disk, fault | ⟨⟨⟩⟩⟩ := outcome
  · simp [Except.isOk, Except.toBool] at h
  · exact ⟨disk, rfl⟩

/-- The mixed sections in a folder, as they are stored and as texts. -/
theorem produce_of_writeFolder_mixed :
    decryptAll shortSettings.cipher mixedContents = .ok mixedTexts ∧
    ∃ stored extracted : Disk,
      writeFolder ⟨[], []⟩ ⟨.here, ["out"]⟩ mixedContents = (stored, .ok ()) ∧
      writeFolder ⟨[], []⟩ ⟨.here, ["out"]⟩ (plain mixedTexts) = (extracted, .ok ()) ∧
      readFolder extracted ⟨.here, ["out"]⟩ = .ok (plain mixedTexts) ∧
      produce shortSettings extracted ⟨.here, ["out"]⟩ .all =
        produce shortSettings stored ⟨.here, ["out"]⟩ .all := by
  have hmixed := decryptAll_mixedContents
  obtain ⟨hwritable, hfolder, -⟩ := produce_of_writeFolder hmixed
  obtain ⟨stored, hstored⟩ :
      ∃ stored, writeFolder ⟨[], []⟩ ⟨.here, ["out"]⟩ mixedContents = (stored, .ok ()) :=
    exists_disk_of_isOk (by decide +kernel)
  obtain ⟨extracted, hextracted⟩ := (hwritable _ _).1 ⟨stored, hstored⟩
  obtain ⟨-, hload, -⟩ := hfolder _ (.inl rfl) _ _ _ hstored
  obtain ⟨hread, -, -, hsame⟩ := hfolder _ (.inr rfl) _ _ _ hextracted
  exact ⟨hmixed, stored, extracted, hstored, hextracted, hread, hsame _ _ hload _⟩

end Decompile

end BlockApp
