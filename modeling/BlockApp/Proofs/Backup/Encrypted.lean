import BlockApp.Backup.Encrypted
import BlockApp.Proofs.Bytes.Utf8
import BlockApp.Proofs.Cipher.Aes
import BlockApp.Settings.Basic

/-!
# Encrypting and decrypting undo each other

Three steps make an encrypted text: UTF-8, padding and chaining. Each of them has one written form, and its
reader takes no other. So a byte string is decrypted to a text exactly if it is that text encrypted.

* `CipherKey.decryptBytes_encryptBytes`, `CipherKey.encryptBytes_decryptBytes` — chaining, on whole blocks
* `Cipher.unpad_eq_ok_iff` — the padded forms of a byte string
* `CipherKey.decrypt_eq_ok_iff` — what is decrypted to a text
* `CipherKey.decrypt_undoes_encrypt` — all of it, and which byte strings are refused
-/

namespace BlockApp

open Cipher

/-! ## Whole blocks -/

namespace Aes.Block

/-- Sixteen bytes make a block. -/
theorem exists_toList {bytes : Bytes} (h : bytes.length = blockSize) :
    ∃ block : Block, block.toList = bytes := by
  match bytes, h with
  | [a0, a1, a2, a3, b0, b1, b2, b3, c0, c1, c2, c3, d0, d1, d2, d3], _ =>
    exact ⟨⟨⟨a0, a1, a2, a3⟩, ⟨b0, b1, b2, b3⟩, ⟨c0, c1, c2, c3⟩, ⟨d0, d1, d2, d3⟩⟩, rfl⟩

/-- A byte string of whole blocks is that of its blocks. -/
theorem exists_toBytes {bytes : Bytes} (h : bytes.length % blockSize = 0) :
    ∃ blocks, toBytes blocks = bytes := by
  induction hsize : bytes.length using Nat.strongRecOn generalizing bytes with
  | ind size ih =>
    by_cases hempty : bytes = []
    · exact ⟨[], hempty.symm⟩
    have hpos := List.length_pos_iff.2 hempty
    have hfull : blockSize ≤ bytes.length := Nat.le_of_dvd hpos (Nat.dvd_of_mod_eq_zero h)
    have hfirst : (bytes.take blockSize).length = blockSize := List.length_take_of_le hfull
    have hrest : (bytes.drop blockSize).length % blockSize = 0 := by
      rw [List.length_drop, ← Nat.mod_eq_sub_mod hfull, h]
    have hless : (bytes.drop blockSize).length < size := by
      rw [List.length_drop, hsize]
      exact Nat.sub_lt (hsize ▸ hpos) (by decide)
    obtain ⟨block, hfirst⟩ := exists_toList hfirst
    obtain ⟨blocks, hrest⟩ := ih _ hless hrest rfl
    exact ⟨block :: blocks, by rw [toBytes_cons, hfirst, hrest, List.take_append_drop]⟩

@[simp] theorem length_toBytes (blocks : List Block) :
    (toBytes blocks).length = blockSize * blocks.length := by
  induction blocks with
  | nil => rfl
  | cons block blocks ih =>
    rw [toBytes_cons, List.length_append, ih, length_toList, List.length_cons, blockSize]
    omega

end Aes.Block

namespace CipherKey

variable (k : CipherKey) {bytes : Bytes}

theorem decryptBytes_encryptBytes (h : bytes.length % blockSize = 0) :
    k.decryptBytes (k.encryptBytes bytes) = bytes := by
  obtain ⟨blocks, rfl⟩ := Aes.Block.exists_toBytes h
  simp only [decryptBytes, encryptBytes, Aes.Block.ofBytes_toBytes]
  rw [decryptChain_encryptChain (Aes.decryptBlock_encryptBlock k.key) Aes.Block.xor_xor_cancel]

theorem encryptBytes_decryptBytes (h : bytes.length % blockSize = 0) :
    k.encryptBytes (k.decryptBytes bytes) = bytes := by
  obtain ⟨blocks, rfl⟩ := Aes.Block.exists_toBytes h
  simp only [decryptBytes, encryptBytes, Aes.Block.ofBytes_toBytes]
  rw [encryptChain_decryptChain (Aes.encryptBlock_decryptBlock k.key) Aes.Block.xor_xor_cancel]

theorem length_encryptBytes (h : bytes.length % blockSize = 0) :
    (k.encryptBytes bytes).length = bytes.length := by
  obtain ⟨blocks, rfl⟩ := Aes.Block.exists_toBytes h
  simp [encryptBytes, Aes.Block.ofBytes_toBytes]

theorem length_decryptBytes (h : bytes.length % blockSize = 0) :
    (k.decryptBytes bytes).length = bytes.length := by
  obtain ⟨blocks, rfl⟩ := Aes.Block.exists_toBytes h
  simp [decryptBytes, Aes.Block.ofBytes_toBytes]

end CipherKey

/-! ## Padding -/

/-- **What is cut off is between one and sixteen bytes that tell how many they are.** -/
theorem Cipher.unpad_eq_ok_iff {padded content : Bytes} :
    unpad padded = .ok content ↔
      ∃ n, 1 ≤ n ∧ n ≤ blockSize ∧ padded = content ++ List.replicate n (UInt8.ofNat n) := by
  constructor
  · intro h
    simp only [unpad] at h
    split at h
    · cases h
    · next hbounds =>
      split at h
      · cases h
      · next htail =>
        generalize (padded.getLastD 0).toNat = n at h hbounds htail
        rw [ne_eq, Decidable.not_not] at htail
        injection h with h
        refine ⟨n, by omega, by omega, ?_⟩
        rw [← h, ← htail, List.take_append_drop]
  · rintro ⟨n, hpos, hle, rfl⟩
    have hblock : blockSize = 16 := rfl
    have hlast : ((content ++ List.replicate n (UInt8.ofNat n)).getLastD 0).toNat = n := by
      obtain ⟨m, rfl⟩ : ∃ m, n = m + 1 := ⟨n - 1, by omega⟩
      rw [List.replicate_succ', ← List.append_assoc, List.getLastD_concat, UInt8.toNat_ofNat']
      exact Nat.mod_eq_of_lt (by omega)
    have hlength : (content ++ List.replicate n (UInt8.ofNat n)).length - n = content.length := by simp
    simp only [unpad, hlast, hlength]
    rw [if_neg (by simp only [List.length_append, List.length_replicate]; omega)]
    simp

namespace CipherKey

/-! ## Texts -/

variable (k : CipherKey) {bytes content : Bytes} {text : List Char}

theorem checkLength_eq_ok_iff {u : Unit} :
    checkLength bytes = .ok u ↔ bytes ≠ [] ∧ bytes.length % blockSize = 0 := by
  unfold checkLength
  split
  · next h => exact iff_of_false nofun fun ⟨hne, hmod⟩ => h.elim hne fun hnot => hnot hmod
  · next h =>
    rw [not_or, ne_eq, Decidable.not_not] at h
    exact iff_of_true rfl h

theorem decrypt_eq_ok_iff :
    k.decrypt bytes = .ok text ↔
      (bytes ≠ [] ∧ bytes.length % blockSize = 0) ∧ unpad (k.decryptBytes bytes) = .ok (Utf8.encode text) := by
  simp only [decrypt, Except.bind_eq_ok_iff, Except.mapError_eq_ok_iff, checkLength_eq_ok_iff,
    Utf8.decode_eq_ok_iff]
  constructor
  · rintro ⟨-, hlength, content, hcontent, rfl⟩
    exact ⟨hlength, hcontent⟩
  · rintro ⟨hlength, hcontent⟩
    exact ⟨(), hlength, _, hcontent, rfl⟩

theorem pad_ne_nil (content : Bytes) : pad content ≠ [] := by
  have hpos := paddingLength_pos content
  intro h
  have hlength := congrArg List.length h
  simp only [pad, List.length_append, List.length_replicate, List.length_nil] at hlength
  omega

theorem decrypt_encrypt (text : List Char) : k.decrypt (k.encrypt text) = .ok text := by
  have hwhole := length_pad_mod (Utf8.encode text)
  rw [decrypt_eq_ok_iff, encrypt, k.decryptBytes_encryptBytes hwhole]
  refine ⟨⟨fun hempty => ?_, by rw [k.length_encryptBytes hwhole, hwhole]⟩, unpad_pad _⟩
  have hlength := k.length_encryptBytes hwhole
  rw [hempty, List.length_nil, eq_comm, List.length_eq_zero_iff] at hlength
  exact pad_ne_nil _ hlength

theorem encrypt_of_decrypt (h : k.decrypt bytes = .ok text) : k.encrypt text = bytes := by
  obtain ⟨⟨-, hwhole⟩, hcontent⟩ := k.decrypt_eq_ok_iff.1 h
  have hpadded := eq_pad_of_unpad (by rw [k.length_decryptBytes hwhole, hwhole]) hcontent
  rw [encrypt, ← hpadded, k.encryptBytes_decryptBytes hwhole]

/-- Whether bytes have the form of an encrypted text: whole blocks, at least one, that are decrypted to
a text in UTF-8 and one to sixteen bytes that tell how many they are. -/
structure Encrypted (k : CipherKey) (bytes : Bytes) : Prop where
  nonempty : 0 < bytes.length
  whole : 16 ∣ bytes.length
  padded : ∃ content n, 1 ≤ n ∧ n ≤ 16 ∧
    k.decryptBytes bytes = content ++ List.replicate n (UInt8.ofNat n) ∧
    content.toByteArray.IsValidUTF8

theorem exists_decrypt_iff : (∃ text, k.decrypt bytes = .ok text) ↔ k.Encrypted bytes := by
  simp only [decrypt_eq_ok_iff, unpad_eq_ok_iff]
  constructor
  · rintro ⟨text, ⟨hne, hwhole⟩, n, hpos, hle, hpadded⟩
    exact ⟨List.length_pos_iff.2 hne, Nat.dvd_of_mod_eq_zero hwhole, _, n, hpos, hle, hpadded,
      Utf8.isValidUTF8_iff.2 ⟨text, rfl⟩⟩
  · rintro ⟨hpos, hwhole, content, n, hone, hle, hpadded, hvalid⟩
    obtain ⟨text, rfl⟩ := Utf8.isValidUTF8_iff.1 hvalid
    exact ⟨text, ⟨List.length_pos_iff.1 hpos, Nat.mod_eq_zero_of_dvd hwhole⟩, n, hone, hle, hpadded⟩

/-- What is refused is refused for its length, its padding or what is left without it. -/
theorem decrypt_cases (k : CipherKey) (bytes : Bytes) :
    (∃ text, k.decrypt bytes = .ok text) ∨ k.decrypt bytes = .error (.length bytes.length) ∨
      (∃ fault, k.decrypt bytes = .error (.padding fault)) ∨
      ∃ fault, k.decrypt bytes = .error (.notText fault) := by
  unfold decrypt checkLength
  split
  · exact .inr (.inl rfl)
  · cases unpad (k.decryptBytes bytes) with
    | error fault => exact .inr (.inr (.inl ⟨fault, rfl⟩))
    | ok content =>
      cases hcontent : Utf8.decode content with
      | error fault => exact .inr (.inr (.inr ⟨fault, by simp [hcontent, bind, Except.bind]⟩))
      | ok text => exact .inl ⟨text, by simp [hcontent, bind, Except.bind]⟩

/-- **Encrypting and decrypting undo each other**, with any key and initial block. What is decrypted is
known by its form, and all else is refused. -/
theorem decrypt_undoes_encrypt (k : CipherKey) :
    (∀ text, k.decrypt (k.encrypt text) = .ok text) ∧
      (∀ bytes text, k.decrypt bytes = .ok text → k.encrypt text = bytes) ∧
      (∀ bytes, (∃ text, k.decrypt bytes = .ok text) ↔ k.Encrypted bytes) ∧
      ∀ bytes, ¬k.Encrypted bytes →
        k.decrypt bytes = .error (.length bytes.length) ∨
          (∃ fault, k.decrypt bytes = .error (.padding fault)) ∨
          ∃ fault, k.decrypt bytes = .error (.notText fault) := by
  refine ⟨k.decrypt_encrypt, fun bytes text => k.encrypt_of_decrypt, fun bytes => k.exists_decrypt_iff,
    fun bytes hnot => ?_⟩
  exact (k.decrypt_cases bytes).resolve_left fun h => hnot (k.exists_decrypt_iff.1 h)

/-- The key and the initial block of a backup unless settings say otherwise. -/
def shared : CipherKey where
  key := BlockText.shared.bytes
  start := BlockText.shared.bytes
  key_length := by decide +kernel
  start_length := BlockText.shared.length_eq

/-- A letter of two bytes, encrypted. -/
def sharedSample : Bytes :=
  [0xD1, 0x86, 0x94, 0xCF, 0x71, 0x83, 0x37, 0xF0, 0xC5, 0x29, 0x04, 0x3B, 0x80, 0x6C, 0x49, 0x5E]

theorem decrypt_sharedSample : shared.decrypt sharedSample = .ok ['é'] :=
  shared.decrypt_eq_ok_iff.2 ⟨⟨by decide, by decide⟩,
    unpad_eq_ok_iff.2 ⟨14, by decide, by decide, by decide +kernel⟩⟩

theorem decrypt_undoes_encrypt_shared :
    (shared.decrypt sharedSample = .ok ['é'] ∧ shared.encrypt ['é'] = sharedSample) ∧
      ¬shared.Encrypted [0x2E] ∧
        (shared.decrypt [0x2E] = .error (.length 1) ∨
          (∃ fault, shared.decrypt [0x2E] = .error (.padding fault)) ∨
          ∃ fault, shared.decrypt [0x2E] = .error (.notText fault)) := by
  have hshort : ¬shared.Encrypted [0x2E] := fun h => absurd h.whole (by decide)
  exact ⟨⟨decrypt_sharedSample, (decrypt_undoes_encrypt shared).2.1 _ _ decrypt_sharedSample⟩, hshort,
    (decrypt_undoes_encrypt shared).2.2.2 _ hshort⟩

end CipherKey

end BlockApp
