import BlockApp.Bytes.Basic

/-!
# Padding to whole blocks

A byte string is filled up to a whole number of blocks by `n` bytes of value `n`, at least one, so
that the last byte always tells how many bytes to take away.

Main statement: `unpad_pad`.
-/

namespace BlockApp.Cipher

/-- The number of bytes in a block. -/
def blockSize : Nat := 16

/-- Why a padded byte string cannot be cut. -/
inductive PaddingFault where
  /-- The last byte is no number of padding bytes. -/
  | length
  /-- The padding bytes are not all alike. -/
  | bytes
  deriving Repr, DecidableEq

/-- What is reported of bad padding. -/
def PaddingFault.message : PaddingFault → String
  | .length => "Padding is incorrect."
  | .bytes => "PKCS#7 padding is incorrect."

/-- The number of padding bytes that a byte string gets. -/
def paddingLength (bytes : Bytes) : Nat := blockSize - bytes.length % blockSize

/-- Fills a byte string up to whole blocks. -/
def pad (bytes : Bytes) : Bytes :=
  bytes ++ List.replicate (paddingLength bytes) (UInt8.ofNat (paddingLength bytes))

/-- Takes the padding off a byte string. -/
def unpad (padded : Bytes) : Except PaddingFault Bytes :=
  let n := (padded.getLastD 0).toNat
  if n < 1 ∨ n > min blockSize padded.length then .error .length
  else if padded.drop (padded.length - n) ≠ List.replicate n (UInt8.ofNat n) then .error .bytes
  else .ok (padded.take (padded.length - n))

theorem paddingLength_pos (bytes : Bytes) : 0 < paddingLength bytes := by
  have := Nat.mod_lt bytes.length (show 0 < blockSize by decide)
  simp only [paddingLength]
  omega

theorem paddingLength_le (bytes : Bytes) : paddingLength bytes ≤ blockSize := by
  simp only [paddingLength]
  omega

/-- A padded byte string fills whole blocks. -/
theorem length_pad_mod (bytes : Bytes) : (pad bytes).length % blockSize = 0 := by
  simp only [pad, List.length_append, List.length_replicate, paddingLength, blockSize]
  omega

/-- **Padding can be taken off**. -/
theorem unpad_pad (bytes : Bytes) : unpad (pad bytes) = .ok bytes := by
  have hpos := paddingLength_pos bytes
  have hle := paddingLength_le bytes
  have hlast : (pad bytes).getLastD 0 = UInt8.ofNat (paddingLength bytes) := by
    obtain ⟨k, hk⟩ : ∃ k, paddingLength bytes = k + 1 := ⟨paddingLength bytes - 1, by omega⟩
    simp [pad, hk, List.replicate_succ', ← List.append_assoc]
  have hn : ((pad bytes).getLastD 0).toNat = paddingLength bytes := by
    rw [hlast, UInt8.toNat_ofNat']
    exact Nat.mod_eq_of_lt (by have : blockSize = 16 := rfl; omega)
  have hlen : (pad bytes).length - paddingLength bytes = bytes.length := by simp [pad]
  have hcond : ¬(paddingLength bytes < 1 ∨
      paddingLength bytes > min blockSize (pad bytes).length) := by
    simp only [pad, List.length_append, List.length_replicate]
    omega
  simp only [unpad, hn, if_neg hcond, hlen]
  simp [pad]

/-- What is taken off is the padding: nothing else unpads to the same bytes. -/
theorem eq_pad_of_unpad {padded bytes : Bytes} (hlen : padded.length % blockSize = 0)
    (h : unpad padded = .ok bytes) : padded = pad bytes := by
  simp only [unpad] at h
  split at h
  · cases h
  · next hbounds =>
    split at h
    · cases h
    · next htail =>
      generalize hn : (padded.getLastD 0).toNat = n at h hbounds htail
      simp only [ne_eq, Decidable.not_not] at htail
      injection h with h
      have hsplit : padded = bytes ++ List.replicate n (UInt8.ofNat n) := by
        rw [← h, ← htail, List.take_append_drop]
      have hcount : bytes.length + n = padded.length := by
        rw [hsplit]
        simp
      have hpad : paddingLength bytes = n := by
        simp only [paddingLength, blockSize] at *
        omega
      rw [pad, hpad]
      exact hsplit

end BlockApp.Cipher
