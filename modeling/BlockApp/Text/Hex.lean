/-!
# Hexadecimal text

Digits of a fixed number of places, most significant first. A number that needs more places keeps its
low ones.
-/

namespace BlockApp.Text

/-- The lower-case digit of a number below sixteen. -/
def hexLower (n : Nat) : Char :=
  if n < 10 then Char.ofNat (48 + n) else Char.ofNat (87 + n)

/-- The upper-case digit of a number below sixteen. -/
def hexUpper (n : Nat) : Char :=
  if n < 10 then Char.ofNat (48 + n) else Char.ofNat (55 + n)

/-- The last `places` digits of `n`. -/
def fixedHex (digit : Nat → Char) : (places n : Nat) → List Char
  | 0, _ => []
  | places + 1, n => fixedHex digit places (n / 16) ++ [digit (n % 16)]

@[simp] theorem length_fixedHex (digit : Nat → Char) (places n : Nat) :
    (fixedHex digit places n).length = places := by
  induction places generalizing n with
  | zero => rfl
  | succ places ih => simp [fixedHex, ih]

/-- A character of a number is the digit of a number below sixteen. -/
theorem exists_digit_of_mem_fixedHex {digit : Nat → Char} {places n : Nat} {c : Char}
    (h : c ∈ fixedHex digit places n) : ∃ d < 16, c = digit d := by
  induction places generalizing n with
  | zero => exact absurd h List.not_mem_nil
  | succ places ih =>
    rcases List.mem_append.1 h with hhigh | hlow
    · exact ih hhigh
    · exact ⟨n % 16, Nat.mod_lt n (by decide), List.mem_singleton.1 hlow⟩

/-- Whether a character is a hexadecimal digit of either case. -/
def isHexDigit (c : Char) : Bool :=
  c.isDigit || ('a' ≤ c && c ≤ 'f') || ('A' ≤ c && c ≤ 'F')

end BlockApp.Text
