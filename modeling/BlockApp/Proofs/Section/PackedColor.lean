import BlockApp.Proofs.Project.Colors
import BlockApp.Proofs.Source.Literal
import Mathlib.Data.Nat.Digits.Lemmas

/-!
# Packed colours

A colour may be written as a decimal number, the signed number of 32 bits that packs its four channels. It
is kept as the digits of the same bits. A number has many spellings, with a minus sign, zeros at the front,
digits of other scripts and a line feed at the end, and what is kept hangs on the number only.

* `Numeral.Spells`, `Numeral.spells_iff_denotes` — the spellings of a number are the texts read as it
* `unsigned?`, `signed?` — what the digits of a colour are read as, without a sign and with one
* `normalize_of_denotes` — what is kept of a number
* `twosComplement_of_spells` — the bits that are kept are those of the number
-/

namespace BlockApp

/-- The number that digits write, the most significant one first, as it is computed. -/
theorem foldl_eq_ofDigits (base : Nat) (digits : List Nat) :
    digits.foldl (base * · + ·) 0 = Nat.ofDigits base digits.reverse := by
  rw [Nat.ofDigits_eq_foldr, List.foldr_reverse]
  congr 1
  funext n d
  exact Nat.add_comm (base * n) d

/-! ## Spellings of a number -/

namespace Text

theorem exists_of_mem_of_mapM {α β : Type} {f : α → Option β} {s : List α} {values : List β}
    (h : s.mapM f = some values) {c : α} (hc : c ∈ s) : ∃ value, f c = some value := by
  induction s generalizing values with
  | nil => exact absurd hc List.not_mem_nil
  | cons first rest ih =>
    simp only [List.mapM_cons, Option.bind_eq_bind, Option.bind_eq_some_iff] at h
    obtain ⟨value, hvalue, others, hothers, -⟩ := h
    rcases List.mem_cons.1 hc with rfl | hc
    · exact ⟨value, hvalue⟩
    · exact ih hothers hc

theorem digits?_eq_some_iff {s : List Char} {digits : List Nat} :
    digits? s = some digits ↔ s ≠ [] ∧ s.mapM digitValue? = some digits := by
  unfold digits?
  split
  · next hempty => simp [hempty]
  · next hne => exact (and_iff_right hne).symm

/-- What is behind a text without a line feed is left out if it is one. -/
theorem withoutFinalNewline_append {s ending : List Char} (h : '\n' ∉ s)
    (hending : ending ∈ [[], ['\n']]) : withoutFinalNewline (s ++ ending) = s := by
  rcases List.mem_pair.1 hending with rfl | rfl
  · rw [List.append_nil, withoutFinalNewline_of_notMem h]
  · exact withoutFinalNewline_concat s

theorem exists_ending (s : List Char) :
    ∃ ending ∈ [[], ['\n']], s = withoutFinalNewline s ++ ending := by
  rcases withoutFinalNewline_cases s with hsame | hline
  · exact ⟨[], by decide, hsame.trans (List.append_nil _).symm⟩
  · exact ⟨['\n'], by decide, hline⟩

namespace Numeral

/-- Whether a text is made of figures that write this number: one decimal digit or more, of any script, the
most significant one first, and no more than can be converted. Zeros may stand at the front. -/
def Figures (s : List Char) (n : Nat) : Prop :=
  s ≠ [] ∧ s.length ≤ maxDigits ∧
    ∃ digits, s.mapM digitValue? = some digits ∧ n = Nat.ofDigits 10 digits.reverse

/-- Whether a text spells this number: figures with a minus sign or none before them, and a line feed or
none behind them. -/
inductive Spells : List Char → Int → Prop
  | plain {s ending : List Char} {n : Nat} (figures : Figures s n) (hending : ending ∈ [[], ['\n']]) :
    Spells (s ++ ending) n
  | minus {s ending : List Char} {n : Nat} (figures : Figures s n) (hending : ending ∈ [[], ['\n']]) :
    Spells ('-' :: s ++ ending) (-n)

variable {s ending : List Char} {c : Char} {n : Nat} {number : Int}

theorem figures_iff : Figures s n ↔
    ∃ digits, digits? s = some digits ∧ digits.length ≤ maxDigits ∧ n = magnitude digits := by
  have hvalue (digits : List Nat) : magnitude digits = Nat.ofDigits 10 digits.reverse :=
    foldl_eq_ofDigits 10 digits
  constructor
  · rintro ⟨hne, hcount, digits, hdigits, rfl⟩
    refine ⟨digits, digits?_eq_some_iff.2 ⟨hne, hdigits⟩, ?_, (hvalue digits).symm⟩
    rwa [length_of_mapM_digitValue? hdigits]
  · rintro ⟨digits, hread, hcount, rfl⟩
    obtain ⟨hne, hdigits⟩ := digits?_eq_some_iff.1 hread
    refine ⟨hne, ?_, digits, hdigits, hvalue digits⟩
    rwa [← length_of_mapM_digitValue? hdigits]

/-- A character that is no digit does not stand among figures. -/
theorem Figures.notMem (h : Figures s n) (hc : digitValue? c = none) : c ∉ s := by
  intro hmem
  obtain ⟨-, -, digits, hdigits, -⟩ := h
  obtain ⟨d, hd⟩ := exists_of_mem_of_mapM hdigits hmem
  rw [hc] at hd
  cases hd

theorem read?_minus (h : '\n' ∉ s) (hending : ending ∈ [[], ['\n']]) :
    read? ('-' :: s ++ ending) = (digits? s).map (⟨true, ·⟩) := by
  have hline : '\n' ∉ '-' :: s := List.not_mem_cons_of_ne_of_not_mem (by decide) h
  rw [read?, withoutFinalNewline_append hline hending]
  rfl

theorem read?_plain (h : '\n' ∉ s) (hminus : '-' ∉ s) (hending : ending ∈ [[], ['\n']]) :
    read? (s ++ ending) = (digits? s).map (⟨false, ·⟩) := by
  rw [read?, withoutFinalNewline_append h hending]
  split
  · exact absurd List.mem_cons_self hminus
  · rfl

theorem value_eq_ok_iff {negative : Bool} {digits : List Nat} :
    value ⟨negative, digits⟩ = .ok number ↔ digits.length ≤ maxDigits ∧
      number = if negative then -(magnitude digits : Int) else magnitude digits := by
  unfold value
  split
  · next hmany => exact iff_of_false nofun fun h => Nat.not_lt.2 h.1 hmany
  · next hfew =>
    rw [Except.ok.injEq, and_iff_right (Nat.not_lt.1 hfew), eq_comm]

/-- A text that spells a number is read as it. -/
theorem Spells.denotes (h : Spells s number) : Denotes s number := by
  cases h with
  | plain figures hending =>
    obtain ⟨digits, hdigits, hcount, rfl⟩ := figures_iff.1 figures
    refine ⟨⟨false, digits⟩, ?_, value_eq_ok_iff.2 ⟨hcount, rfl⟩⟩
    rw [read?_plain (figures.notMem (by decide)) (figures.notMem (by decide)) hending, hdigits]
    rfl
  | minus figures hending =>
    obtain ⟨digits, hdigits, hcount, rfl⟩ := figures_iff.1 figures
    refine ⟨⟨true, digits⟩, ?_, value_eq_ok_iff.2 ⟨hcount, rfl⟩⟩
    rw [read?_minus (figures.notMem (by decide)) hending, hdigits]
    rfl

/-- **The spellings of a number are the texts that are read as it.** -/
theorem spells_iff_denotes : Spells s number ↔ Denotes s number := by
  refine ⟨Spells.denotes, ?_⟩
  rintro ⟨⟨negative, digits⟩, hread, hvalue⟩
  obtain ⟨hcount, rfl⟩ := value_eq_ok_iff.1 hvalue
  obtain ⟨ending, hending, hs⟩ := exists_ending s
  unfold read? at hread
  split at hread
  · next figures hbefore =>
    obtain ⟨read, hdigits, hnumeral⟩ := Option.map_eq_some_iff.1 hread
    cases hnumeral
    rw [hs, hbefore]
    exact .minus (figures_iff.2 ⟨digits, hdigits, hcount, rfl⟩) hending
  · obtain ⟨read, hdigits, hnumeral⟩ := Option.map_eq_some_iff.1 hread
    cases hnumeral
    rw [hs]
    exact .plain (figures_iff.2 ⟨digits, hdigits, hcount, rfl⟩) hending

end Numeral

end Text

/-! ## The bits of a number -/

namespace Color

open Text.Numeral

variable {s : List Char} {number : Int}

/-- The number that hexadecimal digits write, the most significant one first. -/
def unsigned? (value : List Char) : Option Nat :=
  (value.mapM Source.hexValue?).map fun digits => Nat.ofDigits 16 digits.reverse

/-- The number with a sign that hexadecimal digits write as the bits of its two's complement, of which
there are 32. -/
def signed? (value : List Char) : Option Int :=
  (unsigned? value).map fun bits => (BitVec.ofNat 32 bits).toInt

/-- **What is kept of a number**, however it is spelled. -/
theorem normalize_of_denotes (h : Denotes s number) :
    normalize s = .ok (if isPacked number then some (packedDigits number) else none) := by
  obtain ⟨numeral, hread, hvalue⟩ := h
  have hnone : hexDigits? s = none := by
    cases hhex : hexDigits? s with
    | none => rfl
    | some digits =>
      obtain ⟨rest, rfl, -⟩ := hexDigits?_eq_some hhex
      rw [read?_hash] at hread
      cases hread
  unfold normalize
  simp only [hnone, hread, hvalue]
  rfl

theorem isPacked_iff : isPacked number = true ↔ -2 ^ 31 ≤ number ∧ number < 2 ^ 31 := by
  simp [isPacked]

theorem isDigits_packedDigits (number : Int) : IsDigits (packedDigits number) :=
  ⟨Text.length_fixedHex _ _ _, Text.all_isUpperHex_fixedHex _ _⟩

/-- The digits of a number are read as what is left of it modulo `2 ^ 32`. -/
theorem unsigned?_packedDigits (number : Int) :
    ∃ bits : Nat, unsigned? (packedDigits number) = some bits ∧ (bits : Int) = number % 2 ^ 32 := by
  have hupper : ∀ d < 16, Source.hexValue? (Text.hexUpper d) = some d := by decide
  have hnonneg : 0 ≤ number % 4294967296 := Int.emod_nonneg number (by decide)
  have hlt : number % 4294967296 < 4294967296 := Int.emod_lt_of_pos number (by decide)
  obtain ⟨digits, hdigits, hvalue⟩ :=
    Source.mapM_hexValue?_fixedHex hupper 8 (number % 4294967296).toNat
  rw [foldl_eq_ofDigits, Nat.mod_eq_of_lt (by omega)] at hvalue
  refine ⟨(number % 4294967296).toNat, ?_, ?_⟩
  · rw [unsigned?, packedDigits, hdigits, Option.map_some, hvalue]
  · rw [Int.toNat_of_nonneg hnonneg]
    rfl

/-- With a sign they are read as the number itself, if it has 32 bits. -/
theorem signed?_packedDigits (h : isPacked number = true) : signed? (packedDigits number) = some number := by
  obtain ⟨hleast, hmost⟩ := isPacked_iff.1 h
  obtain ⟨bits, hbits, hmod⟩ := unsigned?_packedDigits number
  have hsigned : (BitVec.ofNat 32 bits).toInt = number := by
    calc
      (BitVec.ofNat 32 bits).toInt = (bits : Int).bmod (2 ^ 32) := BitVec.toInt_ofNat' ..
      _ = (number % 2 ^ 32).bmod (2 ^ 32) := by rw [hmod]
      _ = number.bmod (2 ^ 32) := Int.emod_bmod number (2 ^ 32)
      _ = number := Int.bmod_eq_of_le (by omega) (by omega)
  rw [signed?, hbits, Option.map_some, hsigned]

/-- Numbers that have 32 bits have the same digits only if they are the same. -/
theorem packedDigits_inj {other : Int} (h : isPacked number = true) (h' : isPacked other = true) :
    packedDigits other = packedDigits number ↔ other = number := by
  constructor
  · intro hdigits
    have hread := signed?_packedDigits h'
    rw [hdigits, signed?_packedDigits h] at hread
    exact (Option.some.inj hread).symm
  · rintro rfl
    rfl

/-- **The digits of a packed colour are the bits of its number.** However a number is spelled, there is an
answer for it, and it is a colour exactly if the number has 32 bits with its sign. The colour is eight
upper-case digits, which are what is left of the number modulo `2 ^ 32`, and read with a sign they are the
number. So another number has another colour, and another spelling of the same number has this one. -/
theorem twosComplement_of_spells (h : Spells s number) :
    ∃ result, normalize s = .ok result ∧
      (result.isSome ↔ -2 ^ 31 ≤ number ∧ number < 2 ^ 31) ∧
      ∀ value ∈ result, IsDigits value ∧
        (∃ bits : Nat, unsigned? value = some bits ∧ (bits : Int) = number % 2 ^ 32) ∧
        signed? value = some number ∧
        ∀ other otherNumber, Spells other otherNumber →
          (normalize other = .ok (some value) ↔ otherNumber = number) := by
  refine ⟨_, normalize_of_denotes h.denotes, ?_, ?_⟩
  · rw [← isPacked_iff]
    split
    · next hpacked => simp [hpacked]
    · next hpacked => simp [hpacked]
  · intro value hvalue
    split at hvalue
    · next hpacked =>
      cases hvalue
      refine ⟨isDigits_packedDigits number, unsigned?_packedDigits number, signed?_packedDigits hpacked,
        fun other otherNumber hother => ?_⟩
      rw [normalize_of_denotes hother.denotes]
      by_cases hpacked' : isPacked otherNumber = true
      · rw [if_pos hpacked', Except.ok.injEq, Option.some.injEq, packedDigits_inj hpacked hpacked']
      · rw [if_neg hpacked']
        refine iff_of_false nofun ?_
        rintro rfl
        exact hpacked' hpacked
    · cases hvalue

/-- The least colour, with a zero at the front, a digit of another script and a line feed at the end. -/
theorem twosComplement_of_spells_least :
    Spells "-0\u0662147483648\n".toList (-2147483648) ∧
      normalize "-0\u0662147483648\n".toList = .ok (some "80000000".toList) ∧
      unsigned? "80000000".toList = some 2147483648 ∧
      signed? "80000000".toList = some (-2147483648) ∧
      ∀ other otherNumber, Spells other otherNumber →
        (normalize other = .ok (some "80000000".toList) ↔ otherNumber = -2147483648) := by
  have hfigures : Figures "0\u0662147483648".toList 2147483648 :=
    ⟨by decide, by decide, [0, 2, 1, 4, 7, 4, 8, 3, 6, 4, 8], by decide +kernel, by decide +kernel⟩
  have hspells : Spells "-0\u0662147483648\n".toList (-2147483648) := .minus hfigures (by decide)
  have hvalue : normalize "-0\u0662147483648\n".toList = .ok (some "80000000".toList) := by decide +kernel
  obtain ⟨result, hresult, -, hbits⟩ := twosComplement_of_spells hspells
  obtain rfl : some "80000000".toList = result := Except.ok.inj (hvalue.symm.trans hresult)
  obtain ⟨-, ⟨bits, hunsigned, hmod⟩, hsigned, hothers⟩ := hbits _ rfl
  obtain rfl : bits = 2147483648 := by omega
  exact ⟨hspells, hvalue, hunsigned, hsigned, hothers⟩

end Color

end BlockApp
