import BlockApp.Proofs.Backup.Encrypted
import BlockApp.Proofs.Bytes.WellFormed

/-!
# Telling texts from encrypted sections

Nothing marks an encrypted section. The probe reads the bytes as a text with a replacement for whatever is
none and writes that text again. A replaced sequence never comes back as it was: what is written is
well-formed UTF-8, and what is well-formed has nothing to replace. So the probe takes exactly the bytes that
are no UTF-8 for encrypted, and a section that it takes for a text can be read as one.

* `looksEncrypted_eq_false_iff` — what is not taken for encrypted
* `sectionText_encode`, `sectionText_eq_of_encrypted` — sections that are texts, and all others
* `sectionText_by_wellFormed` — the probe and the text of a section, for all byte strings
-/

namespace BlockApp.Backup

variable {k : CipherKey} {name : String} {bytes : Bytes} {text : String}

/-! ## What is taken for encrypted -/

/-- **The bytes that are not taken for encrypted are the texts in UTF-8.** -/
theorem looksEncrypted_eq_false_iff :
    looksEncrypted bytes = false ↔ ∃ text, Utf8.encode text = bytes := by
  rw [looksEncrypted, bne_eq_false_iff_eq]
  constructor
  · intro h
    exact ⟨_, h⟩
  · rintro ⟨text, rfl⟩
    rw [Utf8.decodeLossy_encode]

theorem looksEncrypted_eq_true_of_not (h : ¬Utf8.IsWellFormed bytes) : looksEncrypted bytes = true := by
  rw [Utf8.isWellFormed_iff, ← looksEncrypted_eq_false_iff] at h
  exact Bool.eq_true_of_not_eq_false h

/-! ## The text of a section -/

/-- A section that is stored as a text has that text, whatever the key. -/
theorem sectionText_encode (k : CipherKey) (name text : String) :
    sectionText k name (Utf8.encode text.toList) = .ok text := by
  have hplain : looksEncrypted (Utf8.encode text.toList) = false :=
    looksEncrypted_eq_false_iff.2 ⟨_, rfl⟩
  simp [sectionText, hplain, plainText, Utf8.decode_encode]

/-- A section that is taken for encrypted is decrypted, with all that comes of it. -/
theorem sectionText_eq_of_encrypted (hprobe : looksEncrypted bytes = true) :
    sectionText k name bytes = ((k.decrypt bytes).map String.ofList).mapError (.decryption name) := by
  rw [sectionText, if_pos hprobe]
  cases k.decrypt bytes <;> rfl

/-- A section that is no text has the text that it is decrypted to. -/
theorem sectionText_of_decrypt (hprobe : looksEncrypted bytes = true)
    (h : k.decrypt bytes = .ok text.toList) : sectionText k name bytes = .ok text := by
  rw [sectionText_eq_of_encrypted hprobe, h, Except.map, Except.mapError, String.ofList_toList]

/-- **The probe is exact.** A section is not taken for encrypted if and only if its bytes are well-formed
UTF-8. Then its text is the one text that is written in these bytes. Otherwise all that comes of the section
is what decrypting it gives. Either way no section is refused for not being UTF-8 itself. -/
theorem sectionText_by_wellFormed (k : CipherKey) (name : String) (bytes : Bytes) :
    (looksEncrypted bytes = false ↔ Utf8.IsWellFormed bytes) ∧
    (Utf8.IsWellFormed bytes → ∃ text : String, sectionText k name bytes = .ok text ∧
      ∀ other : String, Utf8.encode other.toList = bytes ↔ other = text) ∧
    (¬Utf8.IsWellFormed bytes →
      sectionText k name bytes = ((k.decrypt bytes).map String.ofList).mapError (.decryption name)) ∧
    ∀ fault, sectionText k name bytes ≠ .error (.system (.text fault)) := by
  have hplain : Utf8.IsWellFormed bytes → ∃ text : String, sectionText k name bytes = .ok text ∧
      ∀ other : String, Utf8.encode other.toList = bytes ↔ other = text := by
    intro hwell
    obtain ⟨chars, rfl⟩ := Utf8.isWellFormed_iff.1 hwell
    have hread := sectionText_encode k name (String.ofList chars)
    rw [String.toList_ofList] at hread
    refine ⟨String.ofList chars, hread, fun other => ⟨fun hother => ?_, ?_⟩⟩
    · have hread' := sectionText_encode k name other
      rw [hother] at hread'
      exact Except.ok.inj (hread'.symm.trans hread)
    · rintro rfl
      rw [String.toList_ofList]
  have hencrypted : ¬Utf8.IsWellFormed bytes →
      sectionText k name bytes = ((k.decrypt bytes).map String.ofList).mapError (.decryption name) :=
    fun hnot => sectionText_eq_of_encrypted (looksEncrypted_eq_true_of_not hnot)
  refine ⟨by rw [looksEncrypted_eq_false_iff, Utf8.isWellFormed_iff], hplain, hencrypted,
    fun fault hfault => ?_⟩
  by_cases hwell : Utf8.IsWellFormed bytes
  · obtain ⟨text, htext, -⟩ := hplain hwell
    exact nomatch htext.symm.trans hfault
  · have hnone := (hencrypted hwell).symm.trans hfault
    cases hdecrypt : k.decrypt bytes with
    | ok chars => rw [hdecrypt] at hnone; cases hnone
    | error problem => rw [hdecrypt] at hnone; cases hnone

/-- A replacement character that is written, and one that is cut off. -/
theorem sectionText_by_wellFormed_replacement :
    Utf8.IsWellFormed [0xEF, 0xBF, 0xBD] ∧ ¬Utf8.IsWellFormed [0xEF, 0xBF] ∧
    (∃ text : String, sectionText .shared "logic" [0xEF, 0xBF, 0xBD] = .ok text ∧
      ∀ other : String, Utf8.encode other.toList = [0xEF, 0xBF, 0xBD] ↔ other = text) ∧
    sectionText .shared "logic" [0xEF, 0xBF] =
      ((CipherKey.shared.decrypt [0xEF, 0xBF]).map String.ofList).mapError (.decryption "logic") := by
  have hwell : Utf8.IsWellFormed [0xEF, 0xBF, 0xBD] := Utf8.isWellFormed_iff.2 ⟨['\uFFFD'], by decide⟩
  have hnot : ¬Utf8.IsWellFormed [0xEF, 0xBF] := by
    rw [← (sectionText_by_wellFormed .shared "logic" _).1]
    decide +kernel
  exact ⟨hwell, hnot, (sectionText_by_wellFormed .shared "logic" _).2.1 hwell,
    (sectionText_by_wellFormed .shared "logic" _).2.2.1 hnot⟩

end BlockApp.Backup
