import BlockApp.Cipher.Aes
import Mathlib.Data.FinEnum
import Mathlib.Data.Finite.Prod
import Mathlib.Data.Fintype.EquivFin

/-!
# Decryption of a block undoes its encryption

Each step of a round can be undone. A round of decryption undoes the substitution and the shift of one
round of encryption and the mix of the round before, so the rounds are paired with a shift by one
(`decryptRounds_encryptRounds`). Nothing is asked of the round keys.

* `unmixColumn_mixColumn` — mixing is linear, and on each of the four bytes it is undone by itself
* `decryptBlock_encryptBlock` — decryption undoes encryption, with any key
* `encryptBlock_decryptBlock` — and the other way round, as there are finitely many blocks
-/

namespace BlockApp.Aes

/-! ## Bytes -/

/-- What holds of each of the 256 bytes holds of all. -/
theorem forall_byte {p : UInt8 → Prop} (h : ∀ n : Fin 256, p (UInt8.ofNat n)) (b : UInt8) : p b := by
  have hb := h ⟨b.toNat, b.toNat_lt⟩
  rwa [UInt8.ofNat_toNat] at hb

/-- The box in its order, looked up in the inverse box. -/
theorem map_inverseSubstitution :
    substitution.toList.map (fun b => inverseSubstitution.toList.getD b.toNat 0) =
      (List.range 256).map UInt8.ofNat := by decide +kernel

theorem unsubstitute_substitute (b : UInt8) : unsubstitute (substitute b) = b := by
  have hb : b.toNat < 256 := b.toNat_lt
  have hsize : b.toNat < substitution.toList.length := by
    rw [show substitution.toList.length = 256 by decide +kernel]
    exact hb
  have hnth := congrArg (·[b.toNat]?) map_inverseSubstitution
  simp only [List.getElem?_map, List.getElem?_range hb, Option.map_some, UInt8.ofNat_toNat,
    List.getElem?_eq_getElem hsize, Option.some.injEq] at hnth
  simp only [unsubstitute, substitute, Array.getD_eq_getD_getElem?, ← Array.getElem?_toList]
  rw [List.getElem?_eq_getElem hsize, Option.getD_some]
  simpa using hnth

theorem ge_half_iff (b : UInt8) : b ≥ 0x80 ↔ b.toBitVec.msb = true := by
  rw [BitVec.msb_eq_decide, decide_eq_true_iff]
  exact UInt8.le_iff_toNat_le

theorem double_xor (a b : UInt8) : double (a ^^^ b) = double a ^^^ double b := by
  simp only [double, ge_half_iff, UInt8.toBitVec_xor, BitVec.msb_xor, UInt8.shiftLeft_xor]
  cases a.toBitVec.msb <;> cases b.toBitVec.msb
  · simp
  · simp [UInt8.xor_assoc]
  · simp only [Bool.xor_false, reduceIte, Bool.false_eq_true, UInt8.xor_zero]
    ac_rfl
  · -- the two reductions cancel
    have hcancel (x y k : UInt8) : (x ^^^ k) ^^^ (y ^^^ k) = (x ^^^ y) ^^^ (k ^^^ k) := by ac_rfl
    simp only [Bool.xor_self, reduceIte, Bool.false_eq_true, hcancel, UInt8.xor_self]

theorem ite_xor (bit : Bool) (a b : UInt8) :
    (if bit then a ^^^ b else 0) = (if bit then a else 0) ^^^ (if bit then b else 0) := by
  cases bit <;> simp

/-- Multiplication by a field element is linear. -/
theorem times_xor (bit0 bit1 bit2 bit3 : Bool) (a b : UInt8) :
    times bit0 bit1 bit2 bit3 (a ^^^ b) =
      times bit0 bit1 bit2 bit3 a ^^^ times bit0 bit1 bit2 bit3 b := by
  simp only [times, double_xor, ite_xor]
  ac_rfl

/-! ## Columns -/

/-- The first byte of a mixed column. The others are that of the column turned round. -/
def mixByte (a b c d : UInt8) : UInt8 := double a ^^^ times3 b ^^^ c ^^^ d

/-- The first byte of an unmixed column. -/
def unmixByte (a b c d : UInt8) : UInt8 := times14 a ^^^ times11 b ^^^ times13 c ^^^ times9 d

theorem mixColumn_eq (w : Word) :
    mixColumn w = ⟨mixByte w.b0 w.b1 w.b2 w.b3, mixByte w.b1 w.b2 w.b3 w.b0,
      mixByte w.b2 w.b3 w.b0 w.b1, mixByte w.b3 w.b0 w.b1 w.b2⟩ := by
  simp only [mixColumn, mixByte, Word.mk.injEq, true_and]
  refine ⟨?_, ?_, ?_⟩ <;> ac_rfl

theorem unmixColumn_eq (w : Word) :
    unmixColumn w = ⟨unmixByte w.b0 w.b1 w.b2 w.b3, unmixByte w.b1 w.b2 w.b3 w.b0,
      unmixByte w.b2 w.b3 w.b0 w.b1, unmixByte w.b3 w.b0 w.b1 w.b2⟩ := by
  simp only [unmixColumn, unmixByte, Word.mk.injEq, true_and]
  refine ⟨?_, ?_, ?_⟩ <;> ac_rfl

/-- What a byte of a column adds to the first byte of the column mixed and unmixed: all of it if it is
the first, and nothing else. -/
theorem unmix_double (b : UInt8) :
    times14 (double b) ^^^ times11 b ^^^ times13 b ^^^ times9 (times3 b) = b ∧
      times14 (times3 b) ^^^ times11 (double b) ^^^ times13 b ^^^ times9 b = 0 ∧
      times14 b ^^^ times11 (times3 b) ^^^ times13 (double b) ^^^ times9 b = 0 ∧
      times14 b ^^^ times11 b ^^^ times13 (times3 b) ^^^ times9 (double b) = 0 := by
  revert b
  exact forall_byte (by decide +kernel)

theorem unmixByte_mixByte (a b c d : UInt8) :
    unmixByte (mixByte a b c d) (mixByte b c d a) (mixByte c d a b) (mixByte d a b c) = a := by
  calc unmixByte (mixByte a b c d) (mixByte b c d a) (mixByte c d a b) (mixByte d a b c)
    _ = (times14 (double a) ^^^ times11 a ^^^ times13 a ^^^ times9 (times3 a)) ^^^
        (times14 (times3 b) ^^^ times11 (double b) ^^^ times13 b ^^^ times9 b) ^^^
        (times14 c ^^^ times11 (times3 c) ^^^ times13 (double c) ^^^ times9 c) ^^^
        (times14 d ^^^ times11 d ^^^ times13 (times3 d) ^^^ times9 (double d)) := by
      simp only [unmixByte, mixByte, times14, times11, times13, times9, times_xor]
      ac_rfl
    _ = a := by
      obtain ⟨hfirst, -⟩ := unmix_double a
      obtain ⟨-, hsecond, -⟩ := unmix_double b
      obtain ⟨-, -, hthird, -⟩ := unmix_double c
      obtain ⟨-, -, -, hfourth⟩ := unmix_double d
      simp only [hfirst, hsecond, hthird, hfourth, UInt8.xor_zero]

theorem unmixColumn_mixColumn (w : Word) : unmixColumn (mixColumn w) = w := by
  rw [mixColumn_eq, unmixColumn_eq]
  simp only [unmixByte_mixByte]

/-! ## Rounds -/

theorem Block.map_map {f g : UInt8 → UInt8} (h : ∀ b, f (g b) = b) (a : Block) :
    (a.map g).map f = a := by
  simp [Block.map, Word.map, h]

theorem Block.mapWords_mapWords {f g : Word → Word} (h : ∀ w, f (g w) = w) (a : Block) :
    (a.mapWords g).mapWords f = a := by
  simp [Block.mapWords, h]

/-- The steps of a round of encryption that every round has, the key apart. -/
def scramble (state : Block) : Block := shiftRows (state.map substitute)

/-- The steps of a round of decryption that every round has, the key apart. -/
def unscramble (state : Block) : Block := (unshiftRows state).map unsubstitute

theorem unscramble_scramble (state : Block) : unscramble (scramble state) = state := by
  rw [unscramble, scramble, unshiftRows_shiftRows]
  exact Block.map_map unsubstitute_substitute state

theorem encryptRounds_cons {key : Block} {keys : List Block} (h : keys ≠ []) (state : Block) :
    encryptRounds (key :: keys) state =
      encryptRounds keys (((scramble state).mapWords mixColumn).xor key) := by
  cases keys with
  | nil => exact absurd rfl h
  | cons next keys => rfl

theorem decryptRounds_cons {key : Block} {keys : List Block} (h : keys ≠ []) (state : Block) :
    decryptRounds (key :: keys) state =
      decryptRounds keys (((unscramble state).xor key).mapWords unmixColumn) := by
  cases keys with
  | nil => exact absurd rfl h
  | cons next keys => rfl

/-- **Decryption goes back through the rounds.** `before` are the keys of the rounds before, from the
last. -/
theorem decryptRounds_encryptRounds (keys : List Block) (last : Block) {before : List Block}
    (hbefore : before ≠ []) (state : Block) :
    decryptRounds (keys.reverse ++ before) ((encryptRounds (keys ++ [last]) state).xor last) =
      decryptRounds before (scramble state) := by
  induction keys generalizing before state with
  | nil =>
    show decryptRounds before (((scramble state).xor last).xor last) = _
    rw [Block.xor_xor_cancel]
  | cons key keys ih =>
    rw [List.cons_append, encryptRounds_cons (by simp), List.reverse_cons, List.append_assoc,
      List.singleton_append, ih (by simp), decryptRounds_cons hbefore, unscramble_scramble,
      Block.xor_xor_cancel, Block.mapWords_mapWords unmixColumn_mixColumn]

/-! ## Blocks -/

/-- **Decryption of a block undoes its encryption.** -/
theorem decryptBlock_encryptBlock (key : Bytes) (block : Block) :
    decryptBlock key (encryptBlock key block) = block := by
  unfold decryptBlock encryptBlock
  generalize roundKeys key = keys
  cases keys with
  | nil => rfl
  | cons first keys =>
    rcases List.eq_nil_or_concat keys with rfl | ⟨keys, last, rfl⟩
    · exact Block.xor_xor_cancel block first
    · simp only [List.concat_eq_append, List.reverse_cons, List.reverse_append, List.reverse_nil,
        List.nil_append, List.cons_append]
      rw [decryptRounds_encryptRounds keys last (by simp)]
      show (unscramble (scramble (block.xor first))).xor first = block
      rw [unscramble_scramble, Block.xor_xor_cancel]

instance : Finite Word :=
  Finite.of_injective (fun w => (w.b0, w.b1, w.b2, w.b3)) fun v w h => by
    cases v
    cases w
    simpa using h

instance : Finite Block :=
  Finite.of_injective (fun a => (a.w0, a.w1, a.w2, a.w3)) fun a b h => by
    cases a
    cases b
    simpa using h

/-- **Encryption of a block undoes its decryption.** Encryption loses nothing, so among finitely many
blocks it misses none. -/
theorem encryptBlock_decryptBlock (key : Bytes) (block : Block) :
    encryptBlock key (decryptBlock key block) = block := by
  have hinjective : Function.Injective (encryptBlock key) :=
    Function.LeftInverse.injective (decryptBlock_encryptBlock key)
  obtain ⟨plain, rfl⟩ := Finite.injective_iff_surjective.1 hinjective block
  rw [decryptBlock_encryptBlock]

end BlockApp.Aes
