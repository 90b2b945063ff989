import BlockApp.Proofs.Bytes.Utf8

/-!
# Well-formed UTF-8

Which byte strings are UTF-8 is said here without the scanner. A form of one to four bytes carries a
number. It stands for a character if no shorter form carries the number, and if the number is neither a
surrogate nor above U+10FFFF. A byte string is well-formed if forms that stand for characters make it up.

* `Carries` — the forms and the numbers in them
* `standsFor_iff` — a form stands for a character exactly if it is the encoding of it
* `isWellFormed_iff` — the well-formed byte strings are the encodings of texts
-/

namespace BlockApp.Utf8

/-! ## Forms -/

/-- Whether a byte may stand behind the first byte of a form. -/
def IsContinuation (b : UInt8) : Prop := 0x80 ≤ b.toNat ∧ b.toNat < 0xC0

/-- The forms of one to four bytes. The first byte tells how many there are; the bits behind its mark and
those of the continuation bytes make up a number. -/
inductive Carries : Bytes → Nat → Prop where
  | one {a : UInt8} {n : Nat} (ha : a.toNat < 0x80) (hn : a.toNat = n) : Carries [a] n
  | two {a b : UInt8} {n : Nat} (ha : 0xC0 ≤ a.toNat ∧ a.toNat < 0xE0) (hb : IsContinuation b)
      (hn : 0x40 * (a.toNat - 0xC0) + (b.toNat - 0x80) = n) : Carries [a, b] n
  | three {a b c : UInt8} {n : Nat} (ha : 0xE0 ≤ a.toNat ∧ a.toNat < 0xF0) (hb : IsContinuation b)
      (hc : IsContinuation c)
      (hn : 0x1000 * (a.toNat - 0xE0) + 0x40 * (b.toNat - 0x80) + (c.toNat - 0x80) = n) :
      Carries [a, b, c] n
  | four {a b c d : UInt8} {n : Nat} (ha : 0xF0 ≤ a.toNat ∧ a.toNat < 0xF8) (hb : IsContinuation b)
      (hc : IsContinuation c) (hd : IsContinuation d)
      (hn : 0x40000 * (a.toNat - 0xF0) + 0x1000 * (b.toNat - 0x80) + 0x40 * (c.toNat - 0x80) +
        (d.toNat - 0x80) = n) :
      Carries [a, b, c, d] n

/-- The least number that no form shorter than this length carries. -/
def leastOf : Nat → Nat
  | 2 => 0x80
  | 3 => 0x800
  | 4 => 0x10000
  | _ => 0

/-- Whether a form stands for the character with a number. -/
structure StandsFor (form : Bytes) (n : Nat) : Prop where
  carries : Carries form n
  not_overlong : leastOf form.length ≤ n
  not_surrogate : n < 0xD800 ∨ 0xE000 ≤ n
  not_above : n ≤ 0x10FFFF

/-- Whether forms that stand for characters make up a byte string. -/
def IsWellFormed (bytes : Bytes) : Prop :=
  ∃ forms : List Bytes, (∀ form ∈ forms, ∃ n, StandsFor form n) ∧ forms.flatten = bytes

/-! ## Encodings -/

variable {bytes : Bytes} {n : Nat}

theorem StandsFor.isValidChar (h : StandsFor bytes n) : n.isValidChar := by
  have hsurrogate := h.not_surrogate
  have habove := h.not_above
  unfold Nat.isValidChar
  omega

theorem encodeChar_of_standsFor (h : StandsFor bytes n) :
    String.utf8EncodeChar (Char.ofNat n) = bytes := by
  have hleast := h.not_overlong
  have habove := h.not_above
  rw [encodeChar_ofNat h.isValidChar]
  cases h.carries with
  | one ha hn =>
    rw [if_pos (by omega), ← hn, UInt8.ofNat_toNat]
  | two ha hb hn =>
    unfold IsContinuation at hb
    simp only [List.length_cons, List.length_nil, leastOf] at hleast
    rw [if_neg (by omega), if_pos (by omega)]
    simp only [List.cons.injEq, ← UInt8.toNat_inj, UInt8.toNat_ofNat', and_true]
    omega
  | three ha hb hc hn =>
    unfold IsContinuation at hb hc
    simp only [List.length_cons, List.length_nil, leastOf] at hleast
    rw [if_neg (by omega), if_neg (by omega), if_pos (by omega)]
    simp only [List.cons.injEq, ← UInt8.toNat_inj, UInt8.toNat_ofNat', and_true]
    omega
  | four ha hb hc hd hn =>
    unfold IsContinuation at hb hc hd
    simp only [List.length_cons, List.length_nil, leastOf] at hleast
    rw [if_neg (by omega), if_neg (by omega), if_neg (by omega)]
    simp only [List.cons.injEq, ← UInt8.toNat_inj, UInt8.toNat_ofNat', and_true]
    omega

/-- Six bits behind the mark of a continuation byte. -/
theorem isContinuation_ofNat (m : Nat) : IsContinuation (UInt8.ofNat (m % 64 + 0x80)) := by
  rw [IsContinuation, toNat_ofNat_of_lt (by omega)]
  omega

theorem carries_encodeChar (h : n.isValidChar) :
    Carries (String.utf8EncodeChar (Char.ofNat n)) n ∧
      leastOf (String.utf8EncodeChar (Char.ofNat n)).length ≤ n := by
  have hlimit : n < 0xD800 ∨ 0xDFFF < n ∧ n < 0x110000 := h
  have hbits (m : Nat) : (UInt8.ofNat (m % 64 + 0x80)).toNat = m % 64 + 0x80 :=
    toNat_ofNat_of_lt (by omega)
  rw [encodeChar_ofNat h]
  split
  · next hone =>
    have ha : (UInt8.ofNat n).toNat = n := toNat_ofNat_of_lt (by omega)
    exact ⟨.one (by omega) ha, Nat.zero_le n⟩
  split
  · next htwo =>
    have ha : (UInt8.ofNat (n / 64 % 32 + 0xC0)).toNat = n / 64 % 32 + 0xC0 :=
      toNat_ofNat_of_lt (by omega)
    refine ⟨.two (by omega) (isContinuation_ofNat n) ?_, ?_⟩
    · rw [ha, hbits]
      omega
    · simp only [List.length_cons, List.length_nil, leastOf]
      omega
  split
  · next hthree =>
    have ha : (UInt8.ofNat (n / 4096 % 16 + 0xE0)).toNat = n / 4096 % 16 + 0xE0 :=
      toNat_ofNat_of_lt (by omega)
    refine ⟨.three (by omega) (isContinuation_ofNat _) (isContinuation_ofNat n) ?_, ?_⟩
    · rw [ha, hbits, hbits]
      omega
    · simp only [List.length_cons, List.length_nil, leastOf]
      omega
  · have ha : (UInt8.ofNat (n / 262144 % 8 + 0xF0)).toNat = n / 262144 % 8 + 0xF0 :=
      toNat_ofNat_of_lt (by omega)
    refine ⟨.four (by omega) (isContinuation_ofNat _) (isContinuation_ofNat _)
      (isContinuation_ofNat n) ?_, ?_⟩
    · rw [ha, hbits, hbits, hbits]
      omega
    · simp only [List.length_cons, List.length_nil, leastOf]
      omega

/-- **A form stands for a character exactly if it is the encoding of it.** -/
theorem standsFor_iff :
    StandsFor bytes n ↔ n.isValidChar ∧ String.utf8EncodeChar (Char.ofNat n) = bytes := by
  constructor
  · intro h
    exact ⟨h.isValidChar, encodeChar_of_standsFor h⟩
  · rintro ⟨hvalid, rfl⟩
    have hlimit : n < 0xD800 ∨ 0xDFFF < n ∧ n < 0x110000 := hvalid
    obtain ⟨hcarries, hleast⟩ := carries_encodeChar hvalid
    exact ⟨hcarries, hleast, by omega, by omega⟩

theorem exists_standsFor_iff :
    (∃ n, StandsFor bytes n) ↔ ∃ c : Char, String.utf8EncodeChar c = bytes := by
  simp only [standsFor_iff]
  constructor
  · rintro ⟨n, -, rfl⟩
    exact ⟨_, rfl⟩
  · rintro ⟨c, rfl⟩
    exact ⟨c.toNat, c.valid, by rw [Char.ofNat_toNat]⟩

/-- **The well-formed byte strings are the encodings of texts.** -/
theorem isWellFormed_iff : IsWellFormed bytes ↔ ∃ text, encode text = bytes := by
  constructor
  · rintro ⟨forms, hforms, rfl⟩
    induction forms with
    | nil => exact ⟨[], rfl⟩
    | cons form forms ih =>
      obtain ⟨hform, hforms⟩ := List.forall_mem_cons.1 hforms
      obtain ⟨c, hc⟩ := exists_standsFor_iff.1 hform
      obtain ⟨text, htext⟩ := ih hforms
      exact ⟨c :: text, by rw [encode_cons, hc, htext, List.flatten_cons]⟩
  · rintro ⟨text, rfl⟩
    refine ⟨text.map String.utf8EncodeChar, fun form hform => ?_, List.flatMap_def.symm⟩
    obtain ⟨c, -, rfl⟩ := List.mem_map.1 hform
    exact exists_standsFor_iff.2 ⟨c, rfl⟩

end BlockApp.Utf8
