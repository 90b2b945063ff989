import BlockApp.Proofs.Section.Color
import BlockApp.Proofs.Text.Split
import BlockApp.Proofs.View.Names
import Mathlib.Data.List.TakeWhile

/-!
# Tokens

Names, flags, numbers and the digits of colours, said of their characters alone. The texts that are taken
for tokens are these, but a number may have decimal digits of any script, and one line feed may stand behind
each of them. A token is complete if it has neither.

* `Text.IsName`, `Text.IsFlags`, `Text.IsDecimal` — names, flags and numbers
* `Text.isIdentifier_iff`, `Text.isFlagList_iff`, `Text.isNumber_iff` — the texts that are taken for them
* `Token.Accepted`, `Token.Complete`, `Token.Accepted.complete_iff` — which accepted tokens are complete
-/

namespace BlockApp

namespace Text

/-- Whether a text is a name: ASCII letters, digits and underscores, and no digit first. -/
structure IsName (s : List Char) : Prop where
  nonempty : s ≠ []
  chars : ∀ c ∈ s, c.isAlphanum = true ∨ c = '_'
  first : ∀ c ∈ s.head?, c.isDigit = false

/-- Whether a text is names with `|` between them. -/
def IsFlags (s : List Char) : Prop :=
  ∃ names : List (List Char), names ≠ [] ∧ (∀ name ∈ names, IsName name) ∧ s = joinWith '|' names

/-- Whether a text is digits of some kind, at least one. -/
def IsRun (digit : Char → Bool) (s : List Char) : Prop := s ≠ [] ∧ ∀ c ∈ s, digit c = true

/-- Whether a text is a number without a sign: digits, and a point with digits behind it or none. -/
inductive IsUnsigned (digit : Char → Bool) : List Char → Prop
  | whole {s : List Char} (h : IsRun digit s) : IsUnsigned digit s
  | fraction {s t : List Char} (h : IsRun digit s) (h' : IsRun digit t) : IsUnsigned digit (s ++ '.' :: t)

/-- Whether a text is a number: a minus sign or none, and a number without a sign. -/
inductive IsDecimal (digit : Char → Bool) : List Char → Prop
  | plain {s : List Char} (h : IsUnsigned digit s) : IsDecimal digit s
  | minus {s : List Char} (h : IsUnsigned digit s) : IsDecimal digit ('-' :: s)

variable {s : List Char} {c : Char} {digit digit' : Char → Bool}

/-! ## Characters -/

theorem toNat_lt_of_isAlphanum (h : c.isAlphanum = true) : c.toNat < 128 := by
  have hlast {last : UInt32} (hle : c.val ≤ last) : c.toNat ≤ last.toNat := UInt32.le_iff_toNat_le.1 hle
  rcases Bool.or_eq_true_iff.1 h with halpha | hdigit
  · rcases Bool.or_eq_true_iff.1 halpha with hupper | hlower
    · have hZ : c.toNat ≤ 90 := hlast (of_decide_eq_true hupper).2
      exact Nat.lt_of_le_of_lt hZ (by decide)
    · have hz : c.toNat ≤ 122 := hlast (of_decide_eq_true (Bool.and_eq_true_iff.1 hlower).2)
      exact Nat.lt_of_le_of_lt hz (by decide)
  · have h9 : c.toNat ≤ 57 := hlast (of_decide_eq_true (Bool.and_eq_true_iff.1 hdigit).2)
    exact Nat.lt_of_le_of_lt h9 (by decide)

theorem toNat_lt_of_isNamePart (h : isNamePart c = true) : c.toNat < 128 := by
  rw [isNamePart, Bool.or_eq_true, beq_iff_eq] at h
  rcases h with halpha | rfl
  · exact toNat_lt_of_isAlphanum halpha
  · decide

/-- What can start a name is what can continue one and is no digit. -/
theorem isNameStart_iff : isNameStart c = true ↔ isNamePart c = true ∧ c.isDigit = false := by
  have hall : ∀ n < 128, (isNameStart (Char.ofNat n) = true ↔
      isNamePart (Char.ofNat n) = true ∧ (Char.ofNat n).isDigit = false) := by decide +kernel
  by_cases hsmall : c.toNat < 128
  · have hc := hall c.toNat hsmall
    rwa [Char.ofNat_toNat] at hc
  · have hnone : isNamePart c = false :=
      Bool.eq_false_iff.2 fun hpart => hsmall (toNat_lt_of_isNamePart hpart)
    refine iff_of_false (fun hstart => ?_) fun h => ?_
    · rw [isNamePart_of_isNameStart hstart] at hnone
      cases hnone
    · rw [h.1] at hnone
      cases hnone

/-- The decimal digits among the ASCII characters are the usual ones. -/
theorem isDigit_of_toNat_lt (h : isDigit c = true) (hsmall : c.toNat < 128) : c.isDigit = true := by
  have hall : ∀ n < 128, isDigit (Char.ofNat n) = true → (Char.ofNat n).isDigit = true := by
    decide +kernel
  have hc := hall c.toNat hsmall
  rw [Char.ofNat_toNat] at hc
  exact hc h

/-- A word holds no blank. -/
theorem isBlank_eq_false_of_mem_words {word : List Char} (h : word ∈ words s) (hc : c ∈ word) :
    isBlank c = false := by
  fun_induction words s with
  | case1 => exact absurd h List.not_mem_nil
  | case2 s first rest hsplit _ ih =>
    rcases List.mem_cons.1 h with rfl | h
    · rcases List.mem_cons.1 hc with rfl | hc
      · have hfirst := List.head?_dropWhile_not isBlank s
        rw [hsplit] at hfirst
        simpa using hfirst
      · simpa using List.mem_takeWhile_imp hc
    · exact ih h

/-! ## What is taken for them -/

theorem isBareIdentifier_iff : isBareIdentifier s = true ↔ IsName s := by
  have hpart {c : Char} : isNamePart c = true ↔ c.isAlphanum = true ∨ c = '_' := by
    rw [isNamePart, Bool.or_eq_true, beq_iff_eq]
  cases s with
  | nil => exact iff_of_false (by decide) fun h => h.nonempty rfl
  | cons first rest =>
    rw [isBareIdentifier, Bool.and_eq_true, List.all_eq_true, isNameStart_iff]
    constructor
    · rintro ⟨⟨hfirst, hdigit⟩, hrest⟩
      refine ⟨List.cons_ne_nil _ _, fun c hc => hpart.1 ?_, fun c hc => ?_⟩
      · rcases List.mem_cons.1 hc with rfl | hc
        · exact hfirst
        · exact hrest c hc
      · cases hc
        exact hdigit
    · intro h
      have hchars (c : Char) (hc : c ∈ first :: rest) : isNamePart c = true := hpart.2 (h.chars c hc)
      exact ⟨⟨hchars first List.mem_cons_self, h.first first rfl⟩,
        fun c hc => hchars c (List.mem_cons_of_mem _ hc)⟩

/-- A text is taken for what is left of it without a line feed at its end. -/
theorem withoutFinalNewline_iff {p : List Char → Prop} (hp : ∀ t, p t → '\n' ∉ t) :
    p (withoutFinalNewline s) ↔ ∃ t, p t ∧ (s = t ∨ s = t ++ ['\n']) := by
  constructor
  · intro h
    exact ⟨_, h, withoutFinalNewline_cases s⟩
  · rintro ⟨t, ht, rfl | rfl⟩
    · rwa [withoutFinalNewline_of_notMem (hp _ ht)]
    · rwa [withoutFinalNewline_concat]

theorem IsName.notMem (h : IsName s) (hc : isNamePart c = false) : c ∉ s := by
  intro hmem
  rw [isNamePart_of_isBareIdentifier (isBareIdentifier_iff.2 h) hmem] at hc
  cases hc

/-- **The texts that are taken for names.** -/
theorem isIdentifier_iff : isIdentifier s = true ↔ ∃ t, IsName t ∧ (s = t ∨ s = t ++ ['\n']) := by
  rw [isIdentifier, isBareIdentifier_iff]
  exact withoutFinalNewline_iff fun t h => h.notMem (by decide)

theorem IsFlags.char (h : IsFlags s) (hc : c ∈ s) : c = '|' ∨ isNamePart c = true := by
  obtain ⟨names, -, hnames, rfl⟩ := h
  refine (mem_joinWith hc).imp_right ?_
  rintro ⟨name, hname, hc⟩
  exact isNamePart_of_isBareIdentifier (isBareIdentifier_iff.2 (hnames name hname)) hc

/-- **The texts that are taken for flags.** -/
theorem isFlagList_iff : isFlagList s = true ↔ ∃ t, IsFlags t ∧ (s = t ∨ s = t ++ ['\n']) := by
  rw [← withoutFinalNewline_iff (p := IsFlags), isFlagList, List.all_eq_true]
  · simp only [isBareIdentifier_iff]
    constructor
    · intro h
      exact ⟨_, splitAt_ne_nil _ _, h, (joinWith_splitAt _ _).symm⟩
    · rintro ⟨names, hne, hnames, hsplit⟩
      rw [hsplit, splitAt_joinWith hne fun name hname => (hnames name hname).notMem (by decide)]
      exact hnames
  · intro t h hmem
    rcases h.char hmem with hbar | hname
    · exact absurd hbar (by decide)
    · exact absurd hname (by decide)

/-- Digits are read up to what is none. -/
theorem IsRun.takeWhile_append {rest : List Char} (h : IsRun digit s)
    (hrest : ∀ c ∈ rest.head?, digit c = false) :
    (s ++ rest).takeWhile digit = s ∧ (s ++ rest).dropWhile digit = rest := by
  rw [List.takeWhile_append_of_pos h.2, List.dropWhile_append_of_pos h.2]
  cases rest with
  | nil => simp
  | cons c rest => simp [hrest c rfl]

/-- Whether a text is read as a number without a sign. -/
def isUnsigned (s : List Char) : Bool :=
  !(s.takeWhile isDigit).isEmpty &&
    match s.dropWhile isDigit with
    | [] => true
    | '.' :: fraction => !fraction.isEmpty && fraction.all isDigit
    | _ => false

theorem isUnsigned_iff : isUnsigned s = true ↔ IsUnsigned isDigit s := by
  constructor
  · intro h
    rw [isUnsigned, Bool.and_eq_true, Bool.not_eq_true', List.isEmpty_eq_false_iff] at h
    obtain ⟨hne, hrest⟩ := h
    have hwhole : IsRun isDigit (s.takeWhile isDigit) := ⟨hne, fun c hc => List.mem_takeWhile_imp hc⟩
    rw [← List.takeWhile_append_dropWhile (p := isDigit) (l := s)]
    split at hrest
    · next heq =>
      rw [heq, List.append_nil]
      exact .whole hwhole
    · next fraction heq =>
      rw [Bool.and_eq_true, Bool.not_eq_true', List.isEmpty_eq_false_iff, List.all_eq_true] at hrest
      rw [heq]
      exact .fraction hwhole hrest
    · cases hrest
  · rintro (h | ⟨h, h'⟩)
    · have hnothing : ∀ c ∈ ([] : List Char).head?, isDigit c = false := nofun
      obtain ⟨htake, hdrop⟩ := h.takeWhile_append hnothing
      rw [List.append_nil] at htake hdrop
      rw [isUnsigned, htake, hdrop, Bool.and_true, Bool.not_eq_true', List.isEmpty_eq_false_iff]
      exact h.1
    · next whole fraction =>
      have hpoint : ∀ c ∈ ('.' :: fraction).head?, isDigit c = false := by
        rintro c ⟨⟩
        decide
      obtain ⟨htake, hdrop⟩ := h.takeWhile_append hpoint
      simp only [isUnsigned, htake, hdrop, Bool.and_eq_true, Bool.not_eq_true',
        List.isEmpty_eq_false_iff, List.all_eq_true]
      exact ⟨h.1, h'⟩

theorem IsUnsigned.char (h : IsUnsigned digit s) (hc : c ∈ s) : c = '.' ∨ digit c = true := by
  cases h with
  | whole h => exact .inr (h.2 c hc)
  | fraction h h' =>
    rcases List.mem_append.1 hc with hc | hc
    · exact .inr (h.2 c hc)
    · exact (List.mem_cons.1 hc).imp_right (h'.2 c)

theorem IsDecimal.char (h : IsDecimal digit s) (hc : c ∈ s) : c ∈ ['-', '.'] ∨ digit c = true := by
  cases h with
  | plain h => exact (h.char hc).imp_left fun hpoint => by simp [hpoint]
  | minus h =>
    rcases List.mem_cons.1 hc with rfl | hc
    · exact .inl List.mem_cons_self
    · exact (h.char hc).imp_left fun hpoint => by simp [hpoint]

/-- The sign of a number is cut off before its digits are read. -/
theorem isUnsigned_tail_iff :
    isUnsigned (if s.head? = some '-' then s.tail else s) = true ↔ IsDecimal isDigit s := by
  rw [isUnsigned_iff]
  constructor
  · intro h
    cases s with
    | nil => exact .plain h
    | cons first rest =>
      split at h
      · next hsign =>
        cases hsign
        exact .minus h
      · exact .plain h
  · rintro (h | h)
    · rw [if_neg]
      · exact h
      · intro hsign
        rcases h.char (List.mem_of_head? hsign) with hpoint | hdigit
        · exact absurd hpoint (by decide)
        · exact absurd hdigit (by decide)
    · exact h

/-- **The texts that are taken for numbers.** -/
theorem isNumber_iff :
    isNumber s = true ↔ ∃ t, IsDecimal isDigit t ∧ (s = t ∨ s = t ++ ['\n']) := by
  rw [← withoutFinalNewline_iff (p := IsDecimal isDigit), ← isUnsigned_tail_iff]
  · rfl
  · intro t h hmem
    rcases h.char hmem with hsign | hdigit
    · exact absurd hsign (by decide)
    · exact absurd hdigit (by decide)

/-! ## Other digits -/

theorem IsRun.mono (h : IsRun digit s) (hdigits : ∀ c ∈ s, digit c = true → digit' c = true) :
    IsRun digit' s :=
  ⟨h.1, fun c hc => hdigits c hc (h.2 c hc)⟩

theorem IsUnsigned.mono (h : IsUnsigned digit s) (hdigits : ∀ c ∈ s, digit c = true → digit' c = true) :
    IsUnsigned digit' s := by
  cases h with
  | whole h => exact .whole (h.mono hdigits)
  | fraction h h' =>
    refine .fraction (h.mono fun c hc => hdigits c (List.mem_append_left _ hc)) (h'.mono fun c hc => ?_)
    exact hdigits c (List.mem_append_right _ (List.mem_cons_of_mem _ hc))

/-- A number is still one if its digits are digits of another kind, too. -/
theorem IsDecimal.mono (h : IsDecimal digit s) (hdigits : ∀ c ∈ s, digit c = true → digit' c = true) :
    IsDecimal digit' s := by
  cases h with
  | plain h => exact .plain (h.mono hdigits)
  | minus h => exact .minus (h.mono fun c hc => hdigits c (List.mem_cons_of_mem _ hc))

end Text

/-! ## Tokens -/

/-- What a token is. -/
inductive TokenKind where
  | name
  | flags
  | number
  | color
  deriving Repr, DecidableEq

/-- A token: its kind, and its text. -/
structure Token where
  kind : TokenKind
  text : String
  deriving Repr, DecidableEq

/-- Whether a text is a token of a kind, if these are the decimal digits. -/
def TokenKind.Matches (digit : Char → Bool) : TokenKind → List Char → Prop
  | .name, s => Text.IsName s
  | .flags, s => Text.IsFlags s
  | .number, s => Text.IsDecimal digit s
  | .color, s => Text.IsRun Text.isUpperHex s

/-- Whether a token is complete: it is one of its kind, with ASCII digits, and no other character. -/
def Token.Complete (t : Token) : Prop := t.kind.Matches Char.isDigit t.text.toList

/-- Whether a token is one of its kind, with decimal digits of any script, and a line feed behind it or
none. -/
def Token.Accepted (t : Token) : Prop :=
  ∃ s, t.kind.Matches Text.isDigit s ∧ (t.text.toList = s ∨ t.text.toList = s ++ ['\n'])

namespace TokenKind

variable {digit digit' : Char → Bool} {kind : TokenKind} {s : List Char} {c : Char}

theorem Matches.mono (h : kind.Matches digit s) (hdigits : ∀ c ∈ s, digit c = true → digit' c = true) :
    kind.Matches digit' s := by
  cases kind with
  | name | flags | color => exact h
  | number => exact Text.IsDecimal.mono h hdigits

/-- What is in a token. -/
theorem Matches.char (h : kind.Matches digit s) (hc : c ∈ s) :
    c ∈ ['|', '-', '.'] ∨ Text.isNamePart c = true ∨ digit c = true := by
  cases kind with
  | name =>
    exact .inr (.inl (Text.isNamePart_of_isBareIdentifier (Text.isBareIdentifier_iff.2 h) hc))
  | flags =>
    rcases Text.IsFlags.char h hc with rfl | hname
    · exact .inl List.mem_cons_self
    · exact .inr (.inl hname)
  | number => exact (Text.IsDecimal.char h hc).imp (List.mem_cons_of_mem _) .inr
  | color =>
    have hupper : Text.isUpperHex c = true := h.2 c hc
    have hall : ∀ n < 128, Text.isUpperHex (Char.ofNat n) = true →
        Text.isNamePart (Char.ofNat n) = true := by
      decide +kernel
    have hpart := hall c.toNat (Text.toNat_lt_of_isHexDigit (Text.isHexDigit_of_isUpperHex hupper))
    rw [Char.ofNat_toNat] at hpart
    exact .inr (.inl (hpart hupper))

end TokenKind

/-- **Which accepted tokens are complete**: those with no line feed and no character that is not ASCII. -/
theorem Token.Accepted.complete_iff {t : Token} (h : t.Accepted) :
    t.Complete ↔ ∀ c ∈ t.text.toList, c ≠ '\n' ∧ c.toNat < 128 := by
  constructor
  · intro hcomplete c hc
    have hline : '\n' ∉ t.text.toList := by
      intro hmem
      have hchar := hcomplete.char hmem
      exact absurd hchar (by decide)
    refine ⟨fun heq => hline (heq ▸ hc), ?_⟩
    rcases hcomplete.char hc with hmark | hname | hdigit
    · simp only [List.mem_cons, List.not_mem_nil, or_false] at hmark
      rcases hmark with rfl | rfl | rfl <;> decide
    · exact Text.toNat_lt_of_isNamePart hname
    · exact Text.toNat_lt_of_isAlphanum (by rw [Char.isAlphanum, hdigit, Bool.or_true])
  · intro hchars
    obtain ⟨s, hmatch, htext | htext⟩ := h
    · rw [Token.Complete, htext]
      refine hmatch.mono fun c hc hdigit => Text.isDigit_of_toNat_lt hdigit ?_
      exact (hchars c (htext ▸ hc)).2
    · have hmem : '\n' ∈ t.text.toList := by
        rw [htext]
        exact List.mem_append_right _ (List.mem_singleton_self _)
      exact absurd rfl (hchars _ hmem).1

theorem Token.Complete.accepted {t : Token} (h : t.Complete) : t.Accepted := by
  refine ⟨_, h.mono fun c _ hdigit => ?_, .inl rfl⟩
  rw [Text.isDigit, Text.digitValue?_of_isDigit hdigit]
  rfl

/-- A name without a line feed is complete. -/
theorem Token.complete_name {name : String} (h : Text.isIdentifier name.toList = true)
    (hline : '\n' ∉ name.toList) : (⟨.name, name⟩ : Token).Complete := by
  obtain ⟨s, hs, htext | htext⟩ := Text.isIdentifier_iff.1 h
  · rw [Complete, htext]
    exact hs
  · rw [htext] at hline
    exact absurd (List.mem_append_right _ (List.mem_singleton_self _)) hline

end BlockApp
