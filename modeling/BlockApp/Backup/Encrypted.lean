import BlockApp.Bytes.Utf8
import BlockApp.Cipher.Aes
import BlockApp.Cipher.Chaining
import BlockApp.Failure.Basic
import BlockApp.Section.Name

/-!
# Encrypted sections

A section is stored as text or encrypted: its text in UTF-8, padded to whole blocks and chained with a key
and an initial block that every backup shares. Nothing marks an encrypted section, but encrypted bytes are
hardly ever text.

* `looksEncrypted` reads the bytes as text with a replacement for whatever is none, and tells whether
  writing that text gives other bytes.
* `CipherKey.decrypt` checks in this order: the length, the padding, the text.
-/

namespace BlockApp

/-- The lengths of keys. -/
def keyLengths : List Nat := [16, 24, 32]

/-- A key and an initial block. -/
structure CipherKey where
  key : Bytes
  start : Bytes
  key_length : key.length ∈ keyLengths
  start_length : start.length = Cipher.blockSize
  deriving Repr, DecidableEq

namespace CipherKey

/-- The key and the initial block of two byte strings, if they have the right lengths. -/
def ofBytes (key start : Bytes) : Except KeyFault CipherKey :=
  if hkey : key.length ∈ keyLengths then
    if hstart : start.length = Cipher.blockSize then .ok ⟨key, start, hkey, hstart⟩
    else .error .startLength
  else .error (.keyLength key.length)

/-- The block that the first block is added to. -/
def startBlock (k : CipherKey) : Aes.Block :=
  (Aes.Block.ofBytes k.start).1.headD
    ⟨⟨0, 0, 0, 0⟩, ⟨0, 0, 0, 0⟩, ⟨0, 0, 0, 0⟩, ⟨0, 0, 0, 0⟩⟩

/-- Encrypts whole blocks. -/
def encryptBytes (k : CipherKey) (bytes : Bytes) : Bytes :=
  Aes.Block.toBytes <|
    Cipher.encryptChain Aes.Block.xor (Aes.encryptBlock k.key) k.startBlock
      (Aes.Block.ofBytes bytes).1

/-- Decrypts whole blocks. -/
def decryptBytes (k : CipherKey) (bytes : Bytes) : Bytes :=
  Aes.Block.toBytes <|
    Cipher.decryptChain Aes.Block.xor (Aes.decryptBlock k.key) k.startBlock
      (Aes.Block.ofBytes bytes).1

/-- Encrypts a text. -/
def encrypt (k : CipherKey) (text : List Char) : Bytes :=
  k.encryptBytes (Cipher.pad (Utf8.encode text))

/-- Whether bytes are whole blocks, at least one. -/
def checkLength (bytes : Bytes) : Except DecryptionProblem Unit :=
  if bytes = [] ∨ bytes.length % Cipher.blockSize ≠ 0 then .error (.length bytes.length) else .ok ()

/-- Decrypts a text. -/
def decrypt (k : CipherKey) (bytes : Bytes) : Except DecryptionProblem (List Char) := do
  checkLength bytes
  let content ← (Cipher.unpad (k.decryptBytes bytes)).mapError .padding
  (Utf8.decode content).mapError .notText

/-- Encrypts a text with a key and an initial block of any lengths. -/
def encryptWith (key start : Bytes) (text : List Char) : Except KeyFault Bytes := do
  return (← ofBytes key start).encrypt text

/-- Decrypts a text with a key and an initial block of any lengths. They are looked at after the length
of what is decrypted. -/
def decryptWith (key start bytes : Bytes) : Except DecryptionProblem (List Char) := do
  checkLength bytes
  let k ← (ofBytes key start).mapError .key
  k.decrypt bytes

end CipherKey

namespace Backup

/-- Whether bytes are encrypted, as they are no text. -/
def looksEncrypted (bytes : Bytes) : Bool := Utf8.encode (Utf8.decodeLossy bytes) != bytes

/-- The text of bytes that are not encrypted. -/
def plainText (bytes : Bytes) : Except Failure String :=
  match Utf8.decode bytes with
  | .ok text => .ok (String.ofList text)
  | .error fault => .error (.system (.text fault))

/-- The text of a section, decrypted if it looks encrypted. `name` is the section in messages. -/
def sectionText (k : CipherKey) (name : String) (bytes : Bytes) : Except Failure String :=
  if looksEncrypted bytes then
    match k.decrypt bytes with
    | .ok text => .ok (String.ofList text)
    | .error problem => .error (.decryption name problem)
  else plainText bytes

/-- The texts of the six sections. -/
def decryptAll (k : CipherKey) (contents : Sections Bytes) : Except Failure (Sections String) :=
  Sections.build fun name => sectionText k name.name (contents.get name)

end Backup

end BlockApp
