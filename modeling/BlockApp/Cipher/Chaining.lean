/-!
# Cipher block chaining

Every block is added to the encrypted block before it, the first to an initial block. The mode is
stated for any block type with an addition and any pair of block functions.

Main statement: `decryptChain_encryptChain`, decryption undoes encryption when the block functions
do; `encryptChain_decryptChain` is the other direction.
-/

namespace BlockApp.Cipher

variable {β : Type}

/-- Encrypts a list of blocks after the encrypted block `previous`. -/
def encryptChain (add : β → β → β) (encrypt : β → β) : (previous : β) → List β → List β
  | _, [] => []
  | previous, block :: blocks =>
    let image := encrypt (add block previous)
    image :: encryptChain add encrypt image blocks

/-- Decrypts a list of blocks after the encrypted block `previous`. -/
def decryptChain (add : β → β → β) (decrypt : β → β) : (previous : β) → List β → List β
  | _, [] => []
  | previous, image :: images =>
    add (decrypt image) previous :: decryptChain add decrypt image images

@[simp] theorem length_encryptChain (add : β → β → β) (encrypt : β → β) (previous : β)
    (blocks : List β) : (encryptChain add encrypt previous blocks).length = blocks.length := by
  induction blocks generalizing previous with
  | nil => rfl
  | cons block blocks ih => simp [encryptChain, ih]

@[simp] theorem length_decryptChain (add : β → β → β) (decrypt : β → β) (previous : β)
    (images : List β) : (decryptChain add decrypt previous images).length = images.length := by
  induction images generalizing previous with
  | nil => rfl
  | cons image images ih => simp [decryptChain, ih]

/-- **Decryption undoes encryption** when it does so on blocks and adding twice cancels. -/
theorem decryptChain_encryptChain {add : β → β → β} {encrypt decrypt : β → β}
    (hblock : ∀ b, decrypt (encrypt b) = b) (hadd : ∀ a b, add (add a b) b = a)
    (previous : β) (blocks : List β) :
    decryptChain add decrypt previous (encryptChain add encrypt previous blocks) = blocks := by
  induction blocks generalizing previous with
  | nil => rfl
  | cons block blocks ih => simp [encryptChain, decryptChain, hblock, hadd, ih]

/-- **Encryption undoes decryption** when it does so on blocks and adding twice cancels. -/
theorem encryptChain_decryptChain {add : β → β → β} {encrypt decrypt : β → β}
    (hblock : ∀ b, encrypt (decrypt b) = b) (hadd : ∀ a b, add (add a b) b = a)
    (previous : β) (images : List β) :
    encryptChain add encrypt previous (decryptChain add decrypt previous images) = images := by
  induction images generalizing previous with
  | nil => rfl
  | cons image images ih => simp [encryptChain, decryptChain, hblock, hadd, ih]

end BlockApp.Cipher
