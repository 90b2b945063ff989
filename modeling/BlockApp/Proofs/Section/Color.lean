import BlockApp.Section.Color
import BlockApp.Proofs.Outcome

/-!
# Colours as they are kept

What a colour is kept as: eight upper-case digits, mostly. A line feed at the end of a colour written with
`#` is kept too, and hides from the length of eight, so such a colour has two digits before it in any case.
Every kept form can be written so that it is kept as itself.

* `Color.IsKept`, `Color.exists_normalize_iff` — the kept forms
* `Color.normalize_written` — a kept form written and normalized again
-/

namespace BlockApp

namespace Text

/-- Whether a character is a hexadecimal digit and not a lower-case letter. -/
def isUpperHex (c : Char) : Bool := c.isDigit || ('A' ≤ c && c ≤ 'F')

theorem toNat_lt_of_isHexDigit {c : Char} (h : isHexDigit c = true) : c.toNat < 128 := by
  simp only [isHexDigit, Char.isDigit, Bool.or_eq_true, Bool.and_eq_true, decide_eq_true_eq,
    Char.le_def, UInt32.le_iff_toNat_le] at h
  have hnat : c.val.toNat = c.toNat := rfl
  have h9 : ('9' : Char).val.toNat = 57 := rfl
  have hf : ('f' : Char).val.toNat = 102 := rfl
  have hF : ('F' : Char).val.toNat = 70 := rfl
  have h57 : (57 : UInt32).toNat = 57 := rfl
  omega

theorem isUpperHex_toUpper {c : Char} (h : isHexDigit c = true) : isUpperHex c.toUpper = true := by
  have hall : ∀ n < 128, isHexDigit (Char.ofNat n) = true →
      isUpperHex (Char.ofNat n).toUpper = true := by decide +kernel
  have hc := hall c.toNat (toNat_lt_of_isHexDigit h)
  rw [Char.ofNat_toNat] at hc
  exact hc h

theorem isHexDigit_of_isUpperHex {c : Char} (h : isUpperHex c = true) : isHexDigit c = true := by
  simp only [isUpperHex, Bool.or_eq_true] at h
  simp only [isHexDigit, Bool.or_eq_true]
  rcases h with hdigit | hletter
  · exact .inl (.inl hdigit)
  · exact .inr hletter

theorem toUpper_of_isUpperHex {c : Char} (h : isUpperHex c = true) : c.toUpper = c := by
  have hall : ∀ n < 128, isUpperHex (Char.ofNat n) = true →
      (Char.ofNat n).toUpper = Char.ofNat n := by decide +kernel
  have hc := hall c.toNat (toNat_lt_of_isHexDigit (isHexDigit_of_isUpperHex h))
  rw [Char.ofNat_toNat] at hc
  exact hc h

theorem ne_lineFeed_of_isHexDigit {c : Char} (h : isHexDigit c = true) : c ≠ '\n' := by
  rintro rfl
  exact absurd h (by decide)

theorem isUpperHex_hexUpper {n : Nat} (h : n < 16) : isUpperHex (hexUpper n) = true := by
  have hall : ∀ n < 16, isUpperHex (hexUpper n) = true := by decide +kernel
  exact hall n h

theorem all_isUpperHex_fixedHex (places n : Nat) :
    ∀ c ∈ fixedHex hexUpper places n, isUpperHex c = true := by
  intro c hc
  obtain ⟨d, hd, rfl⟩ := exists_digit_of_mem_fixedHex hc
  exact isUpperHex_hexUpper hd

/-- A text is what is left without a line feed at its end, or that and the line feed. -/
theorem withoutFinalNewline_cases (s : List Char) :
    s = withoutFinalNewline s ∨ s = withoutFinalNewline s ++ ['\n'] := by
  unfold withoutFinalNewline
  split
  · next h =>
    obtain ⟨before, rfl⟩ := List.getLast?_eq_some_iff.1 h
    exact .inr (by rw [List.dropLast_concat])
  · exact .inl rfl

theorem withoutFinalNewline_concat (s : List Char) : withoutFinalNewline (s ++ ['\n']) = s := by
  simp [withoutFinalNewline]

theorem withoutFinalNewline_of_notMem {s : List Char} (h : '\n' ∉ s) : withoutFinalNewline s = s := by
  rw [withoutFinalNewline, if_neg fun hlast => h (List.mem_of_getLast? hlast)]

theorem exists_withoutFinalNewline_hash (s : List Char) :
    ∃ rest, withoutFinalNewline ('#' :: s) = '#' :: rest := by
  rcases withoutFinalNewline_cases ('#' :: s) with hsame | hline
  · exact ⟨s, hsame.symm⟩
  · cases hrest : withoutFinalNewline ('#' :: s) with
    | nil =>
      rw [hrest] at hline
      exact absurd (List.head_eq_of_cons_eq hline) (by decide)
    | cons first rest =>
      rw [hrest] at hline
      obtain rfl : '#' = first := List.head_eq_of_cons_eq hline
      exact ⟨rest, rfl⟩

/-- What is written with `#` is no numeral. -/
theorem Numeral.read?_hash (s : List Char) : read? ('#' :: s) = none := by
  obtain ⟨rest, hrest⟩ := exists_withoutFinalNewline_hash s
  have hdigit : digitValue? '#' = none := by decide
  rw [read?, hrest]
  show (digits? ('#' :: rest)).map (⟨false, ·⟩) = none
  rw [digits?, if_neg (List.cons_ne_nil _ _), List.mapM_cons, hdigit]
  rfl

end Text

namespace Color

variable {s text value digits : List Char}

/-- What a colour can be kept as: eight digits, or six or eight with two before them and a line feed
after them. -/
def IsKept (value : List Char) : Prop :=
  (value.length = 8 ∧ ∀ c ∈ value, Text.isUpperHex c = true) ∨
    ∃ digits, (digits.length = 6 ∨ digits.length = 8) ∧ (∀ c ∈ digits, Text.isUpperHex c = true) ∧
      value = 'F' :: 'F' :: (digits ++ ['\n'])

/-- A text that is kept as this. -/
def written (value : List Char) : List Char := '#' :: if value.length = 8 then value else value.drop 2

theorem map_toUpper_eq_self (h : ∀ c ∈ digits, Text.isUpperHex c = true) :
    digits.map Char.toUpper = digits :=
  (List.map_congr_left fun c hc => Text.toUpper_of_isUpperHex (h c hc)).trans (List.map_id digits)

theorem hexDigits?_hash (hcount : digits.length = 6 ∨ digits.length = 8)
    (hdigits : ∀ c ∈ digits, Text.isUpperHex c = true) :
    hexDigits? ('#' :: digits) = some digits ∧
      hexDigits? ('#' :: (digits ++ ['\n'])) = some (digits ++ ['\n']) := by
  have hhex : digits.all Text.isHexDigit = true :=
    List.all_eq_true.2 fun c hc => Text.isHexDigit_of_isUpperHex (hdigits c hc)
  have hline : '\n' ∉ digits := fun hmem =>
    Text.ne_lineFeed_of_isHexDigit (Text.isHexDigit_of_isUpperHex (hdigits _ hmem)) rfl
  have hupper := map_toUpper_eq_self hdigits
  constructor
  · simp only [hexDigits?, Text.withoutFinalNewline_of_notMem hline]
    rw [if_pos ⟨hcount, hhex⟩, hupper]
  · simp only [hexDigits?, Text.withoutFinalNewline_concat]
    rw [if_pos ⟨hcount, hhex⟩, List.map_append, hupper]
    rfl

/-- **A kept form can be written**: what is written so is kept as that form. -/
theorem normalize_written (h : IsKept value) : normalize (written value) = .ok (some value) := by
  rcases h with ⟨hlength, hdigits⟩ | ⟨digits, hcount, hdigits, rfl⟩
  · rw [written, if_pos hlength, normalize, (hexDigits?_hash (.inr hlength) hdigits).1]
    simp only [if_pos hlength]
  · -- with the line feed there are seven or nine characters, so that the two before them are put back
    have hlong : (digits ++ ['\n']).length ≠ 8 := by
      rw [List.length_append, List.length_singleton]
      omega
    have hvalue : ('F' :: 'F' :: (digits ++ ['\n'])).length ≠ 8 := by
      simp only [List.length_cons, List.length_append, List.length_nil]
      omega
    rw [written, if_neg hvalue, List.drop_succ_cons, List.drop_succ_cons, List.drop_zero, normalize,
      (hexDigits?_hash hcount hdigits).2]
    simp only [if_neg hlong]

/-- Six or eight digits are kept in this form, with a line feed after them or without. -/
theorem isKept_of_digits (hcount : digits.length = 6 ∨ digits.length = 8)
    (hdigits : ∀ c ∈ digits, Text.isUpperHex c = true) {found : List Char}
    (hfound : found = digits ∨ found = digits ++ ['\n']) :
    IsKept (if found.length = 8 then found else 'F' :: 'F' :: found) := by
  rcases hfound with rfl | rfl
  · split
    · next height => exact .inl ⟨height, hdigits⟩
    · next hne =>
      refine .inl ⟨by simp only [List.length_cons]; omega, ?_⟩
      rintro c (_ | ⟨_, _ | ⟨_, hc⟩⟩)
      · decide
      · decide
      · exact hdigits c hc
  · rw [if_neg (by rw [List.length_append, List.length_singleton]; omega)]
    exact .inr ⟨digits, hcount, hdigits, rfl⟩

theorem isKept_of_hexDigits? (h : hexDigits? text = some digits) :
    IsKept (if digits.length = 8 then digits else 'F' :: 'F' :: digits) := by
  unfold hexDigits? at h
  split at h
  · next s =>
    dsimp only at h
    split at h
    · next hvalid =>
      obtain ⟨hcount, hhex⟩ := hvalid
      cases h
      have hcount' : ((Text.withoutFinalNewline s).map Char.toUpper).length = 6 ∨
          ((Text.withoutFinalNewline s).map Char.toUpper).length = 8 := by rwa [List.length_map]
      refine isKept_of_digits hcount' (fun c hc => ?_) ?_
      · obtain ⟨d, hd, rfl⟩ := List.mem_map.1 hc
        exact Text.isUpperHex_toUpper (List.all_eq_true.1 hhex d hd)
      · rcases Text.withoutFinalNewline_cases s with hsame | hline
        · exact .inl (congrArg (List.map Char.toUpper) hsame)
        · exact .inr ((congrArg (List.map Char.toUpper) hline).trans List.map_append)
    · cases h
  · cases h

/-- **What a colour is kept as.** -/
theorem exists_normalize_iff : (∃ text, normalize text = .ok (some value)) ↔ IsKept value := by
  constructor
  · rintro ⟨text, h⟩
    unfold normalize at h
    split at h
    · next digits hdigits =>
      cases h
      exact isKept_of_hexDigits? hdigits
    · split at h
      · cases h
      · next numeral _ =>
        rw [Except.bind_eq_ok_iff] at h
        obtain ⟨n, -, h⟩ := h
        split at h
        · cases h
          exact .inl ⟨Text.length_fixedHex _ _ _, Text.all_isUpperHex_fixedHex _ _⟩
        · cases h
  · intro h
    exact ⟨written value, normalize_written h⟩

example : normalize "#ff0000\n".toList = .ok (some "FFFF0000\n".toList) := by rfl

end Color

end BlockApp
