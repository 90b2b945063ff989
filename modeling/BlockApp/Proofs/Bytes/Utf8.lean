import BlockApp.Bytes.Utf8
import BlockApp.Proofs.Outcome

/-!
# Reading UTF-8 undoes writing it

The scanner cuts a byte string into pieces and loses no byte of it, and it cuts the encoding of a text
into the characters of the text. So what is read as a text is the encoding of that text and of no other.

A character that is begun carries what its continuation has to be: whatever completes it makes up its
encoding (`Begun.Keeps`). That holds of each first byte, by arithmetic on the ranges of the next byte, and
a continuation byte keeps it.

* `Completes` — the bytes that complete a character, and its number
* `bytesOf_scan` — the pieces of a byte string make it up
* `scan_encode` — the pieces of an encoding are the characters
* `decode_eq_ok_iff` — a byte string is read as a text exactly if it is the encoding of it
* `isValidUTF8_iff` — the same said with the library's notion of valid bytes
-/

namespace BlockApp.Utf8

/-! ## First bytes -/

theorem start_one {b : UInt8} (h : b.toNat < 0x80) :
    start b = ([.char (Char.ofNat b.toNat)], none) := by
  rw [start, if_pos (UInt8.lt_iff_toNat_lt.2 h)]

theorem start_two {b : UInt8} (hlow : 0xC2 ≤ b.toNat) (hhigh : b.toNat < 0xE0) :
    start b = ([], some ⟨[b], b.toNat - 0xC0, 1, 0x80, 0xBF⟩) := by
  simp only [start, UInt8.lt_iff_toNat_lt, UInt8.reduceToNat]
  rw [if_neg (by omega), if_neg (by omega), if_pos (by omega)]

/-- The forms of three bytes: the second byte keeps overlong forms and surrogates out. -/
theorem start_three {b : UInt8} (hlow : 0xE0 ≤ b.toNat) (hhigh : b.toNat < 0xF0) :
    start b = ([], some ⟨[b], b.toNat - 0xE0, 2, if b.toNat = 0xE0 then 0xA0 else 0x80,
      if b.toNat = 0xED then 0x9F else 0xBF⟩) := by
  simp only [start, UInt8.lt_iff_toNat_lt, ← UInt8.toNat_inj, UInt8.reduceToNat]
  rw [if_neg (by omega), if_neg (by omega), if_neg (by omega)]
  by_cases hfirst : b.toNat = 0xE0
  · simp [hfirst]
  · rw [if_neg hfirst]
    by_cases hsurrogate : b.toNat = 0xED
    · simp [hsurrogate]
    · rw [if_neg hsurrogate, if_pos hhigh, if_neg hfirst, if_neg hsurrogate]

/-- The forms of four bytes: the second byte keeps overlong forms and too great numbers out. -/
theorem start_four {b : UInt8} (hlow : 0xF0 ≤ b.toNat) (hhigh : b.toNat < 0xF5) :
    start b = ([], some ⟨[b], b.toNat - 0xF0, 3, if b.toNat = 0xF0 then 0x90 else 0x80,
      if b.toNat = 0xF4 then 0x8F else 0xBF⟩) := by
  simp only [start, UInt8.lt_iff_toNat_lt, ← UInt8.toNat_inj, UInt8.reduceToNat]
  rw [if_neg (by omega), if_neg (by omega), if_neg (by omega), if_neg (by omega), if_neg (by omega),
    if_neg (by omega)]
  by_cases hfirst : b.toNat = 0xF0
  · simp [hfirst]
  · rw [if_neg hfirst]
    by_cases hlast : b.toNat = 0xF4
    · simp [hlast]
    · rw [if_pos (by omega), if_neg hfirst, if_neg hlast]

theorem start_bad {b : UInt8} (h : 0x80 ≤ b.toNat ∧ b.toNat < 0xC2 ∨ 0xF5 ≤ b.toNat) :
    start b = ([.bad [b] .startByte], none) := by
  simp only [start, UInt8.lt_iff_toNat_lt, ← UInt8.toNat_inj, UInt8.reduceToNat]
  rw [if_neg (by omega)]
  rcases h with h | h
  · rw [if_pos (by omega)]
  · rw [if_neg (by omega), if_neg (by omega), if_neg (by omega), if_neg (by omega), if_neg (by omega),
      if_neg (by omega), if_neg (by omega), if_neg (by omega)]

/-! ## Completing a character -/

/-- The bytes that complete a character of which some bits are known, and its number. `low` and `high`
bound the next byte only. -/
inductive Completes : (bits owed : Nat) → (low high : UInt8) → Bytes → Nat → Prop where
  | last {bits n : Nat} {low high b : UInt8} (hlow : low ≤ b) (hhigh : b ≤ high)
      (hn : 64 * bits + (b.toNat - 0x80) = n) : Completes bits 1 low high [b] n
  | more {bits next owed n : Nat} {low high b : UInt8} {rest : Bytes} (hlow : low ≤ b)
      (hhigh : b ≤ high) (hnext : 64 * bits + (b.toNat - 0x80) = next)
      (h : Completes next (owed + 1) 0x80 0xBF rest n) :
      Completes bits (owed + 2) low high (b :: rest) n

theorem not_completes_zero {bits n : Nat} {low high : UInt8} {more : Bytes} :
    ¬Completes bits 0 low high more n := nofun

theorem Completes.eq_of_one {bits n : Nat} {low high : UInt8} {more : Bytes}
    (h : Completes bits 1 low high more n) :
    ∃ b, more = [b] ∧ low ≤ b ∧ b ≤ high ∧ 64 * bits + (b.toNat - 0x80) = n := by
  cases h with
  | @last _ _ _ _ b hlow hhigh hn => exact ⟨b, rfl, hlow, hhigh, hn⟩

theorem Completes.eq_of_more {bits owed n : Nat} {low high : UInt8} {more : Bytes}
    (h : Completes bits (owed + 2) low high more n) :
    ∃ b rest, more = b :: rest ∧ low ≤ b ∧ b ≤ high ∧
      Completes (64 * bits + (b.toNat - 0x80)) (owed + 1) 0x80 0xBF rest n := by
  cases h with
  | @more _ _ _ _ _ _ b rest hlow hhigh hnext h =>
    rw [← hnext] at h
    exact ⟨b, rest, rfl, hlow, hhigh, h⟩

theorem scanFrom_of_completes {bits owed n : Nat} {low high : UInt8} {more : Bytes}
    (h : Completes bits owed low high more n) (taken rest : Bytes) :
    scanFrom (some ⟨taken, bits, owed, low, high⟩) (more ++ rest) =
      .char (Char.ofNat n) :: scanFrom none rest := by
  induction h generalizing taken with
  | last hlow hhigh hn =>
    rw [List.singleton_append, scanFrom, if_pos ⟨hlow, hhigh⟩]
    simp only [hn, reduceIte]
  | more hlow hhigh hnext _ ih =>
    rw [List.cons_append, scanFrom, if_pos ⟨hlow, hhigh⟩]
    simp only [hnext, if_neg (show _ + 2 ≠ 1 by omega)]
    exact ih _

theorem scanFrom_of_begun {b : UInt8} {begun : Begun} {more : Bytes} {n : Nat}
    (hstart : start b = ([], some begun))
    (h : Completes begun.bits begun.owed begun.low begun.high more n) (rest : Bytes) :
    scanFrom none (b :: more ++ rest) = .char (Char.ofNat n) :: scanFrom none rest := by
  rw [List.cons_append, scanFrom, hstart, List.nil_append]
  exact scanFrom_of_completes h _ rest

/-! ## The encoding of a number -/

theorem toNat_ofNat_of_lt {n : Nat} (h : n < 0x100) : (UInt8.ofNat n).toNat = n := by
  rw [UInt8.toNat_ofNat']
  exact Nat.mod_eq_of_lt h

theorem encodeChar_ofNat {n : Nat} (h : n.isValidChar) :
    String.utf8EncodeChar (Char.ofNat n) =
      if n ≤ 0x7F then [UInt8.ofNat n]
      else if n ≤ 0x7FF then [UInt8.ofNat (n / 64 % 32 + 0xC0), UInt8.ofNat (n % 64 + 0x80)]
      else if n ≤ 0xFFFF then
        [UInt8.ofNat (n / 4096 % 16 + 0xE0), UInt8.ofNat (n / 64 % 64 + 0x80),
          UInt8.ofNat (n % 64 + 0x80)]
      else
        [UInt8.ofNat (n / 262144 % 8 + 0xF0), UInt8.ofNat (n / 4096 % 64 + 0x80),
          UInt8.ofNat (n / 64 % 64 + 0x80), UInt8.ofNat (n % 64 + 0x80)] := by
  have hval : (Char.ofNat n).val.toNat = n := by
    rw [Char.ofNat, dif_pos h]
    rfl
  rw [String.utf8EncodeChar]
  simp only [hval]

/-- The last byte of a longer form carries the low bits. -/
theorem completes_tail (n : Nat) :
    Completes (n / 64) 1 0x80 0xBF [UInt8.ofNat (n % 64 + 0x80)] n := by
  have hbyte : (UInt8.ofNat (n % 64 + 0x80)).toNat = n % 64 + 0x80 := toNat_ofNat_of_lt (by omega)
  refine .last (UInt8.le_iff_toNat_le.2 ?_) (UInt8.le_iff_toNat_le.2 ?_) ?_
  · simp only [hbyte, UInt8.reduceToNat]
    omega
  · simp only [hbyte, UInt8.reduceToNat]
    omega
  · rw [hbyte]
    omega

/-- A byte between the first and the last carries the next six bits. -/
theorem Completes.cons {m owed n : Nat} {low high : UInt8} {rest : Bytes}
    (h : Completes m (owed + 1) 0x80 0xBF rest n) (hlow : low.toNat ≤ m % 64 + 0x80)
    (hhigh : m % 64 + 0x80 ≤ high.toNat) :
    Completes (m / 64) (owed + 2) low high (UInt8.ofNat (m % 64 + 0x80) :: rest) n := by
  have hbyte : (UInt8.ofNat (m % 64 + 0x80)).toNat = m % 64 + 0x80 := toNat_ofNat_of_lt (by omega)
  refine .more (UInt8.le_iff_toNat_le.2 ?_) (UInt8.le_iff_toNat_le.2 ?_) ?_ h
  · rwa [hbyte]
  · rwa [hbyte]
  · rw [hbyte]
    omega

theorem scanFrom_one {n : Nat} (hhigh : n ≤ 0x7F) (rest : Bytes) :
    scanFrom none (UInt8.ofNat n :: rest) = .char (Char.ofNat n) :: scanFrom none rest := by
  have hn := toNat_ofNat_of_lt (show n < 0x100 by omega)
  rw [scanFrom, start_one (by omega), hn]
  rfl

theorem scanFrom_two {n : Nat} (hlow : 0x7F < n) (hhigh : n ≤ 0x7FF) (rest : Bytes) :
    scanFrom none
        ([UInt8.ofNat (n / 64 % 32 + 0xC0), UInt8.ofNat (n % 64 + 0x80)] ++ rest) =
      .char (Char.ofNat n) :: scanFrom none rest := by
  have hn := toNat_ofNat_of_lt (show n / 64 % 32 + 0xC0 < 0x100 by omega)
  refine scanFrom_of_begun (start_two (by omega) (by omega)) ?_ rest
  rw [hn, show n / 64 % 32 + 0xC0 - 0xC0 = n / 64 by omega]
  exact completes_tail n

theorem scanFrom_three {n : Nat} (hlow : 0x7FF < n) (hhigh : n ≤ 0xFFFF) (hvalid : n.isValidChar)
    (rest : Bytes) :
    scanFrom none
        ([UInt8.ofNat (n / 4096 % 16 + 0xE0), UInt8.ofNat (n / 64 % 64 + 0x80),
          UInt8.ofNat (n % 64 + 0x80)] ++ rest) =
      .char (Char.ofNat n) :: scanFrom none rest := by
  have hlimit : n < 0xD800 ∨ 0xDFFF < n ∧ n < 0x110000 := hvalid
  have hn := toNat_ofNat_of_lt (show n / 4096 % 16 + 0xE0 < 0x100 by omega)
  refine scanFrom_of_begun (start_three (by omega) (by omega)) ?_ rest
  rw [hn, show n / 4096 % 16 + 0xE0 - 0xE0 = n / 64 / 64 by omega]
  -- the bounds of the second byte keep out what is shorter in two bytes, and the surrogates
  refine (completes_tail n).cons ?_ ?_
  · simp only [apply_ite UInt8.toNat, UInt8.reduceToNat]
    split <;> omega
  · simp only [apply_ite UInt8.toNat, UInt8.reduceToNat]
    split <;> omega

theorem scanFrom_four {n : Nat} (hlow : 0xFFFF < n) (hhigh : n < 0x110000) (rest : Bytes) :
    scanFrom none
        ([UInt8.ofNat (n / 262144 % 8 + 0xF0), UInt8.ofNat (n / 4096 % 64 + 0x80),
          UInt8.ofNat (n / 64 % 64 + 0x80), UInt8.ofNat (n % 64 + 0x80)] ++ rest) =
      .char (Char.ofNat n) :: scanFrom none rest := by
  have hn := toNat_ofNat_of_lt (show n / 262144 % 8 + 0xF0 < 0x100 by omega)
  refine scanFrom_of_begun (start_four (by omega) (by omega)) ?_ rest
  rw [hn, show n / 262144 % 8 + 0xF0 - 0xF0 = n / 64 / 64 / 64 by omega,
    show n / 4096 % 64 = n / 64 / 64 % 64 by omega]
  have htail : Completes (n / 64 / 64) 2 0x80 0xBF
      [UInt8.ofNat (n / 64 % 64 + 0x80), UInt8.ofNat (n % 64 + 0x80)] n :=
    (completes_tail n).cons (by simp only [UInt8.reduceToNat]; omega)
      (by simp only [UInt8.reduceToNat]; omega)
  -- the bounds of the second byte keep out what is shorter in three bytes, and what is too great
  refine htail.cons ?_ ?_
  · simp only [apply_ite UInt8.toNat, UInt8.reduceToNat]
    split <;> omega
  · simp only [apply_ite UInt8.toNat, UInt8.reduceToNat]
    split <;> omega

/-- **The encoding of a character is scanned as that character.** -/
theorem scanFrom_encodeChar (c : Char) (rest : Bytes) :
    scanFrom none (String.utf8EncodeChar c ++ rest) = .char c :: scanFrom none rest := by
  obtain ⟨n, hvalid, rfl⟩ : ∃ n : Nat, n.isValidChar ∧ c = Char.ofNat n :=
    ⟨c.toNat, c.valid, (Char.ofNat_toNat c).symm⟩
  rw [encodeChar_ofNat hvalid]
  split
  · next hone => exact scanFrom_one hone rest
  next hone =>
  split
  · next htwo => exact scanFrom_two (Nat.lt_of_not_le hone) htwo rest
  next htwo =>
  split
  · next hthree => exact scanFrom_three (Nat.lt_of_not_le htwo) hthree hvalid rest
  · next hthree =>
    have hlimit : n < 0xD800 ∨ 0xDFFF < n ∧ n < 0x110000 := hvalid
    exact scanFrom_four (Nat.lt_of_not_le hthree) (by omega) rest

/-- The pieces of the encoding of a text are its characters. -/
theorem scan_encode (s : List Char) : scan (encode s) = s.map .char := by
  induction s with
  | nil => rfl
  | cons c s ih => rw [scan, encode_cons, scanFrom_encodeChar, ← scan, ih, List.map_cons]

/-! ## No byte is lost -/

theorem encodeChar_two {b x : UInt8} (hlow : 0xC2 ≤ b.toNat) (hhigh : b.toNat < 0xE0)
    (hx : 0x80 ≤ x) (hx' : x ≤ 0xBF) :
    String.utf8EncodeChar (Char.ofNat (64 * (b.toNat - 0xC0) + (x.toNat - 0x80))) = [b, x] := by
  simp only [UInt8.le_iff_toNat_le, UInt8.reduceToNat] at hx hx'
  rw [encodeChar_ofNat (.inl (by omega)), if_neg (by omega), if_pos (by omega)]
  simp only [List.cons.injEq, ← UInt8.toNat_inj, UInt8.toNat_ofNat', and_true]
  omega

theorem encodeChar_three {b x y : UInt8} (hlow : 0xE0 ≤ b.toNat) (hhigh : b.toNat < 0xF0)
    (hx : (if b.toNat = 0xE0 then 0xA0 else 0x80) ≤ x)
    (hx' : x ≤ if b.toNat = 0xED then 0x9F else 0xBF) (hy : 0x80 ≤ y) (hy' : y ≤ 0xBF) :
    String.utf8EncodeChar
        (Char.ofNat (64 * (64 * (b.toNat - 0xE0) + (x.toNat - 0x80)) + (y.toNat - 0x80))) =
      [b, x, y] := by
  simp only [UInt8.le_iff_toNat_le, apply_ite UInt8.toNat, UInt8.reduceToNat] at hx hx' hy hy'
  have hsize : (b.toNat = 0xE0 → 0xA0 ≤ x.toNat) ∧ 0x80 ≤ x.toNat := by split at hx <;> omega
  have hsurrogate : (b.toNat = 0xED → x.toNat ≤ 0x9F) ∧ x.toNat ≤ 0xBF := by split at hx' <;> omega
  rw [encodeChar_ofNat (by unfold Nat.isValidChar; omega), if_neg (by omega), if_neg (by omega),
    if_pos (by omega)]
  simp only [List.cons.injEq, ← UInt8.toNat_inj, UInt8.toNat_ofNat', and_true]
  omega

theorem encodeChar_four {b x y z : UInt8} (hlow : 0xF0 ≤ b.toNat) (hhigh : b.toNat < 0xF5)
    (hx : (if b.toNat = 0xF0 then 0x90 else 0x80) ≤ x)
    (hx' : x ≤ if b.toNat = 0xF4 then 0x8F else 0xBF) (hy : 0x80 ≤ y) (hy' : y ≤ 0xBF)
    (hz : 0x80 ≤ z) (hz' : z ≤ 0xBF) :
    String.utf8EncodeChar
        (Char.ofNat (64 * (64 * (64 * (b.toNat - 0xF0) + (x.toNat - 0x80)) + (y.toNat - 0x80)) +
          (z.toNat - 0x80))) =
      [b, x, y, z] := by
  simp only [UInt8.le_iff_toNat_le, apply_ite UInt8.toNat, UInt8.reduceToNat] at hx hx' hy hy' hz hz'
  have hsize : (b.toNat = 0xF0 → 0x90 ≤ x.toNat) ∧ 0x80 ≤ x.toNat := by split at hx <;> omega
  have hgreatest : (b.toNat = 0xF4 → x.toNat ≤ 0x8F) ∧ x.toNat ≤ 0xBF := by split at hx' <;> omega
  rw [encodeChar_ofNat (by unfold Nat.isValidChar; omega), if_neg (by omega), if_neg (by omega),
    if_neg (by omega)]
  simp only [List.cons.injEq, ← UInt8.toNat_inj, UInt8.toNat_ofNat', and_true]
  omega

/-- Whether all that completes a character begun makes up the encoding of a character. -/
def Begun.Keeps (begun : Begun) : Prop :=
  ∀ more n, Completes begun.bits begun.owed begun.low begun.high more n →
    String.utf8EncodeChar (Char.ofNat n) = begun.taken ++ more

theorem Begun.Keeps.add {begun : Begun} (h : begun.Keeps) {b : UInt8} (hlow : begun.low ≤ b)
    (hhigh : b ≤ begun.high) (howed : begun.owed ≠ 1) :
    Begun.Keeps
      ⟨begun.taken ++ [b], 64 * begun.bits + (b.toNat - 0x80), begun.owed - 1, 0x80, 0xBF⟩ := by
  intro more n hmore
  obtain ⟨taken, bits, owed, low, high⟩ := begun
  match owed with
  | 0 => exact absurd hmore not_completes_zero
  | 1 => exact absurd rfl howed
  | owed + 2 =>
    rw [List.append_assoc]
    exact h _ _ (.more hlow hhigh rfl hmore)

theorem keeps_two {b : UInt8} (hlow : 0xC2 ≤ b.toNat) (hhigh : b.toNat < 0xE0) :
    Begun.Keeps ⟨[b], b.toNat - 0xC0, 1, 0x80, 0xBF⟩ := by
  intro more n hmore
  obtain ⟨x, rfl, hx, hx', hn⟩ := hmore.eq_of_one
  rw [← hn]
  exact encodeChar_two hlow hhigh hx hx'

theorem keeps_three {b : UInt8} (hlow : 0xE0 ≤ b.toNat) (hhigh : b.toNat < 0xF0) :
    Begun.Keeps ⟨[b], b.toNat - 0xE0, 2, if b.toNat = 0xE0 then 0xA0 else 0x80,
      if b.toNat = 0xED then 0x9F else 0xBF⟩ := by
  intro more n hmore
  obtain ⟨x, more, rfl, hx, hx', hmore⟩ := hmore.eq_of_more
  obtain ⟨y, rfl, hy, hy', hn⟩ := hmore.eq_of_one
  rw [← hn]
  exact encodeChar_three hlow hhigh hx hx' hy hy'

theorem keeps_four {b : UInt8} (hlow : 0xF0 ≤ b.toNat) (hhigh : b.toNat < 0xF5) :
    Begun.Keeps ⟨[b], b.toNat - 0xF0, 3, if b.toNat = 0xF0 then 0x90 else 0x80,
      if b.toNat = 0xF4 then 0x8F else 0xBF⟩ := by
  intro more n hmore
  obtain ⟨x, more, rfl, hx, hx', hmore⟩ := hmore.eq_of_more
  obtain ⟨y, more, rfl, hy, hy', hmore⟩ := hmore.eq_of_more
  obtain ⟨z, rfl, hz, hz', hn⟩ := hmore.eq_of_one
  rw [← hn]
  exact encodeChar_four hlow hhigh hx hx' hy hy' hz hz'

/-- A first byte is a piece of its own, or begins a character that keeps it. -/
theorem start_cases (b : UInt8) :
    (∃ piece, start b = ([piece], none) ∧ piece.bytes = [b]) ∨
      ∃ begun, start b = ([], some begun) ∧ begun.taken = [b] ∧ begun.Keeps := by
  by_cases hone : b.toNat < 0x80
  · refine .inl ⟨_, start_one hone, ?_⟩
    rw [Piece.bytes, encodeChar_ofNat (.inl (by omega)), if_pos (by omega), UInt8.ofNat_toNat]
  by_cases hbad : b.toNat < 0xC2 ∨ 0xF5 ≤ b.toNat
  · exact .inl ⟨_, start_bad (by omega), rfl⟩
  refine .inr ?_
  by_cases htwo : b.toNat < 0xE0
  · exact ⟨_, start_two (by omega) htwo, rfl, keeps_two (by omega) htwo⟩
  by_cases hthree : b.toNat < 0xF0
  · exact ⟨_, start_three (by omega) hthree, rfl, keeps_three (by omega) hthree⟩
  · exact ⟨_, start_four (by omega) (by omega), rfl, keeps_four (by omega) (by omega)⟩

/-- The bytes that pieces were read from. -/
def bytesOf (pieces : List Piece) : Bytes := pieces.flatMap Piece.bytes

@[simp] theorem bytesOf_nil : bytesOf [] = [] := rfl

@[simp] theorem bytesOf_cons (piece : Piece) (pieces : List Piece) :
    bytesOf (piece :: pieces) = piece.bytes ++ bytesOf pieces := rfl

/-- The bytes of a character begun, if there is one. -/
def takenOf : Option Begun → Bytes
  | none => []
  | some begun => begun.taken

/-- The scan goes on with no character begun, or with one that keeps its bytes. -/
theorem bytesOf_scanFrom {begun? : Option Begun} (h : ∀ begun ∈ begun?, begun.Keeps)
    (bytes : Bytes) : bytesOf (scanFrom begun? bytes) = takenOf begun? ++ bytes := by
  have hstart {b : UInt8} {rest : Bytes}
      (ih : ∀ {begun?}, (∀ begun ∈ begun?, begun.Keeps) →
        bytesOf (scanFrom begun? rest) = takenOf begun? ++ rest) :
      bytesOf ((start b).1 ++ scanFrom (start b).2 rest) = b :: rest := by
    rcases start_cases b with ⟨piece, hb, hpiece⟩ | ⟨begun, hb, htaken, hkeeps⟩
    · rw [hb, List.singleton_append, bytesOf_cons, hpiece, ih (by simp), takenOf]
      rfl
    · rw [hb, List.nil_append, ih (by simpa using hkeeps), takenOf, htaken, List.singleton_append]
  induction bytes generalizing begun? with
  | nil =>
    cases begun? with
    | none => rfl
    | some begun => simp [scanFrom, Piece.bytes, takenOf]
  | cons b rest ih =>
    cases begun? with
    | none =>
      rw [scanFrom, hstart ih]
      rfl
    | some begun =>
      have hkeeps := h begun rfl
      rw [scanFrom]
      split
      · next hbounds =>
        dsimp only
        split
        · next howed =>
          obtain ⟨taken, bits, owed, low, high⟩ := begun
          obtain rfl : owed = 1 := howed
          have hchar := hkeeps [b] _ (.last hbounds.1 hbounds.2 rfl)
          rw [bytesOf_cons, Piece.bytes, hchar, ih (by simp)]
          simp [takenOf]
        · next howed =>
          rw [ih (by simpa using hkeeps.add hbounds.1 hbounds.2 howed)]
          simp [takenOf]
      · rw [bytesOf_cons, hstart ih]
        rfl

/-- **The pieces of a byte string make it up.** -/
theorem bytesOf_scan (bytes : Bytes) : bytesOf (scan bytes) = bytes :=
  bytesOf_scanFrom (by simp) bytes

/-! ## Texts -/

theorem bytesOf_map_char (s : List Char) : bytesOf (s.map .char) = encode s := by
  rw [bytesOf, List.flatMap_map]
  rfl

theorem readPieces_eq_ok_iff {pieces : List Piece} {position : Nat} {s : List Char} :
    readPieces position pieces = .ok s ↔ pieces = s.map .char := by
  induction pieces generalizing position s with
  | nil => simp [readPieces, eq_comm]
  | cons piece pieces ih =>
    cases piece with
    | bad bytes reason => cases s <;> simp [readPieces]
    | char c =>
      simp only [readPieces, Except.bind_eq_ok_iff, Except.pure_eq_ok_iff, ih]
      cases s with
      | nil => simp
      | cons d s =>
        simp only [List.cons.injEq, List.map_cons, Piece.char.injEq]
        constructor
        · rintro ⟨_, hpieces, rfl, rfl⟩
          exact ⟨rfl, hpieces⟩
        · rintro ⟨rfl, hpieces⟩
          exact ⟨s, hpieces, rfl, rfl⟩

/-- **A byte string is read as a text exactly if it is the encoding of it.** -/
theorem decode_eq_ok_iff {bytes : Bytes} {s : List Char} : decode bytes = .ok s ↔ encode s = bytes := by
  rw [decode, readPieces_eq_ok_iff]
  constructor
  · intro h
    rw [← bytesOf_scan bytes, h, bytesOf_map_char]
  · rintro rfl
    exact scan_encode s

theorem decode_encode (s : List Char) : decode (encode s) = .ok s := decode_eq_ok_iff.2 rfl

/-- Nothing of the encoding of a text is replaced. -/
theorem decodeLossy_encode (s : List Char) : decodeLossy (encode s) = s := by
  rw [decodeLossy, scan_encode, List.map_map]
  exact List.map_id s

/-- The library's valid bytes are the encodings of texts. -/
theorem isValidUTF8_iff {bytes : Bytes} :
    bytes.toByteArray.IsValidUTF8 ↔ ∃ s, encode s = bytes := by
  constructor
  · rintro ⟨s, h⟩
    refine ⟨s, ?_⟩
    have hdata : bytes = s.flatMap String.utf8EncodeChar := by
      simpa [List.utf8Encode] using congrArg (·.data.toList) h
    exact hdata.symm
  · rintro ⟨s, rfl⟩
    exact ⟨s, rfl⟩

end BlockApp.Utf8
