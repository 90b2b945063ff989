/-!
# Outcomes of computations that can fail

When a computation in `Except` gives a result or a fault, said about its parts. These statements take
a chain of steps apart without unfolding the monad.

* `Except.bind_eq_ok_iff`, `Except.bind_eq_error_iff` — two steps one after the other
* `Except.exists_bind_eq_ok_iff` — steps of which none needs the result of another to give its own
* `Except.foldlM_append_eq_ok_iff`, `Except.foldlM_eq_error_iff` — a run over a list in two parts
* `Except.FailsWith` — all faults that there can be are of one kind
-/

namespace Except

variable {ε ε' α β : Type}

@[simp] theorem pure_eq_ok_iff {a b : α} : (pure a : Except ε α) = .ok b ↔ a = b := by
  simp [pure, Except.pure]

@[simp] theorem pure_ne_error {a : α} {e : ε} : (pure a : Except ε α) ≠ .error e := by
  simp [pure, Except.pure]

@[simp] theorem throw_eq_error_iff {e e' : ε} : (throw e : Except ε α) = .error e' ↔ e = e' := by
  simp [throw, throwThe, MonadExceptOf.throw]

@[simp] theorem throw_ne_ok {e : ε} {a : α} : (throw e : Except ε α) ≠ .ok a := by
  simp [throw, throwThe, MonadExceptOf.throw]

@[simp] theorem bind_eq_ok_iff {x : Except ε α} {f : α → Except ε β} {b : β} :
    x >>= f = .ok b ↔ ∃ a, x = .ok a ∧ f a = .ok b := by
  cases x <;> simp [bind, Except.bind]

@[simp] theorem seqRight_eq_ok_iff {x : Except ε α} {y : Except ε β} {b : β} :
    x *> y = .ok b ↔ (∃ a, x = .ok a) ∧ y = .ok b := by
  cases x <;> simp [SeqRight.seqRight, Except.bind]

theorem seqRight_eq_error_iff {x : Except ε α} {y : Except ε β} {e : ε} :
    x *> y = .error e ↔ x = .error e ∨ (∃ a, x = .ok a) ∧ y = .error e := by
  cases x <;> simp [SeqRight.seqRight, Except.bind]

theorem bind_eq_error_iff {x : Except ε α} {f : α → Except ε β} {e : ε} :
    x >>= f = .error e ↔ x = .error e ∨ ∃ a, x = .ok a ∧ f a = .error e := by
  cases x <;> simp [bind, Except.bind]

@[simp] theorem map_eq_ok_iff {x : Except ε α} {f : α → β} {b : β} :
    f <$> x = .ok b ↔ ∃ a, x = .ok a ∧ f a = b := by
  cases x <;> simp [Functor.map, Except.map]

theorem map_eq_error_iff {x : Except ε α} {f : α → β} {e : ε} :
    f <$> x = .error e ↔ x = .error e := by
  cases x <;> simp [Functor.map, Except.map]

@[simp] theorem mapError_ok {f : ε → ε'} (a : α) : (.ok a : Except ε α).mapError f = .ok a := rfl

@[simp] theorem mapError_error {f : ε → ε'} (e : ε) :
    (.error e : Except ε α).mapError f = .error (f e) := rfl

@[simp] theorem mapError_eq_ok_iff {x : Except ε α} {f : ε → ε'} {a : α} :
    x.mapError f = .ok a ↔ x = .ok a := by
  cases x <;> simp

theorem mapError_eq_error_iff {x : Except ε α} {f : ε → ε'} {e : ε'} :
    x.mapError f = .error e ↔ ∃ e', x = .error e' ∧ f e' = e := by
  cases x <;> simp

/-- Whether a step gives a result does not hang on what is made of it. -/
theorem exists_bind_pure_eq_ok_iff {x : Except ε α} {f : α → β} :
    (∃ b, (do return f (← x) : Except ε β) = .ok b) ↔ ∃ a, x = .ok a := by
  cases x with
  | error e => exact iff_of_false nofun nofun
  | ok a => exact iff_of_true ⟨f a, rfl⟩ ⟨a, rfl⟩

/-- Steps give a result if each of them does, where it does not hang on the first whether the others do. -/
theorem exists_bind_eq_ok_iff {x : Except ε α} {f : α → Except ε β} {p : Prop}
    (hf : ∀ a, (∃ b, f a = .ok b) ↔ p) : (∃ b, x >>= f = .ok b) ↔ (∃ a, x = .ok a) ∧ p := by
  cases x with
  | error e => exact iff_of_false nofun nofun
  | ok a => exact (hf a).trans (and_iff_right ⟨a, rfl⟩).symm

theorem exists_of_isOk {x : Except ε α} (h : x.isOk = true) : ∃ a, x = .ok a := by
  cases x with
  | error e => simp [Except.isOk, Except.toBool] at h
  | ok a => exact ⟨a, rfl⟩

/-- A run over a list stops at the first fault, so it can be cut anywhere. -/
theorem foldlM_append_eq_ok_iff {f : β → α → Except ε β} {b c : β} {xs ys : List α} :
    (xs ++ ys).foldlM f b = .ok c ↔ ∃ a, xs.foldlM f b = .ok a ∧ ys.foldlM f a = .ok c := by
  rw [List.foldlM_append, bind_eq_ok_iff]

/-- A run over a list ends with the first fault. -/
theorem foldlM_eq_error_iff {f : β → α → Except ε β} {b : β} {xs : List α} {e : ε} :
    xs.foldlM f b = .error e ↔
      ∃ (before : List α) (x : α) (rest : List α) (a : β), xs = before ++ x :: rest ∧
        before.foldlM f b = .ok a ∧ f a x = .error e := by
  constructor
  · intro h
    induction xs generalizing b with
    | nil => exact absurd h pure_ne_error
    | cons x xs ih =>
      rw [List.foldlM_cons, bind_eq_error_iff] at h
      rcases h with hx | ⟨a, hx, hxs⟩
      · exact ⟨[], x, xs, b, rfl, rfl, hx⟩
      · obtain ⟨before, y, rest, c, rfl, hbefore, hy⟩ := ih hxs
        refine ⟨x :: before, y, rest, c, rfl, ?_, hy⟩
        rw [List.foldlM_cons, hx]
        exact hbefore
  · rintro ⟨before, x, rest, a, rfl, hbefore, hx⟩
    rw [List.foldlM_append, hbefore]
    show (x :: rest).foldlM f a = _
    rw [List.foldlM_cons, hx]
    rfl

/-! ## Lists of results -/

theorem mapM_cons_eq_ok_iff {f : α → Except ε β} {x : α} {xs : List α} {ys : List β} :
    (x :: xs).mapM f = .ok ys ↔ ∃ y rest, f x = .ok y ∧ xs.mapM f = .ok rest ∧ ys = y :: rest := by
  simp only [List.mapM_cons, bind_eq_ok_iff, pure_eq_ok_iff]
  constructor
  · rintro ⟨y, hy, rest, hrest, rfl⟩
    exact ⟨y, rest, hy, hrest, rfl⟩
  · rintro ⟨y, rest, hy, hrest, rfl⟩
    exact ⟨y, hy, rest, hrest, rfl⟩

/-- What results have in common with what they are of. -/
theorem map_eq_of_mapM {γ : Type} {f : α → Except ε β} {g : α → γ} {k : β → γ} {xs : List α}
    {ys : List β} (h : xs.mapM f = .ok ys) (hkeep : ∀ x y, f x = .ok y → k y = g x) :
    ys.map k = xs.map g := by
  induction xs generalizing ys with
  | nil =>
    cases h
    rfl
  | cons x xs ih =>
    obtain ⟨y, rest, hy, hrest, rfl⟩ := mapM_cons_eq_ok_iff.1 h
    rw [List.map_cons, List.map_cons, hkeep x y hy, ih hrest]

theorem mapM_append_eq_ok_iff {f : α → Except ε β} {xs xs' : List α} {ys : List β} :
    (xs ++ xs').mapM f = .ok ys ↔
      ∃ zs zs', xs.mapM f = .ok zs ∧ xs'.mapM f = .ok zs' ∧ ys = zs ++ zs' := by
  simp only [List.mapM_append, bind_eq_ok_iff, pure_eq_ok_iff]
  constructor
  · rintro ⟨zs, hzs, zs', hzs', rfl⟩
    exact ⟨zs, zs', hzs, hzs', rfl⟩
  · rintro ⟨zs, zs', hzs, hzs', rfl⟩
    exact ⟨zs, hzs, zs', hzs', rfl⟩

theorem exists_source_of_mapM {f : α → Except ε β} {xs : List α} {ys : List β}
    (h : xs.mapM f = .ok ys) {y : β} (hy : y ∈ ys) : ∃ x ∈ xs, f x = .ok y := by
  induction xs generalizing ys with
  | nil =>
    cases h
    simp at hy
  | cons first xs ih =>
    obtain ⟨z, rest, hz, hrest, rfl⟩ := mapM_cons_eq_ok_iff.1 h
    rcases List.mem_cons.1 hy with rfl | hy
    · exact ⟨first, List.mem_cons_self, hz⟩
    · obtain ⟨x, hx, hfx⟩ := ih hrest hy
      exact ⟨x, List.mem_cons_of_mem _ hx, hfx⟩

theorem exists_result_of_mapM {f : α → Except ε β} {xs : List α} {ys : List β}
    (h : xs.mapM f = .ok ys) {x : α} (hx : x ∈ xs) : ∃ y ∈ ys, f x = .ok y := by
  induction xs generalizing ys with
  | nil => exact absurd hx List.not_mem_nil
  | cons first xs ih =>
    obtain ⟨z, rest, hz, hrest, rfl⟩ := mapM_cons_eq_ok_iff.1 h
    rcases List.mem_cons.1 hx with rfl | hx
    · exact ⟨z, List.mem_cons_self, hz⟩
    · obtain ⟨y, hy, hfx⟩ := ih hrest hx
      exact ⟨y, List.mem_cons_of_mem _ hy, hfx⟩

/-- All results have a property if all of what they are made of has the one that they have it by. -/
theorem forall_mem_iff_of_mapM {f : α → Except ε β} {p : β → Prop} {q : α → Prop} {xs : List α}
    {ys : List β} (h : xs.mapM f = .ok ys) (hpq : ∀ x ∈ xs, ∀ y, f x = .ok y → (p y ↔ q x)) :
    (∀ y ∈ ys, p y) ↔ ∀ x ∈ xs, q x := by
  constructor
  · intro hall x hx
    obtain ⟨y, hy, hmade⟩ := exists_result_of_mapM h hx
    exact (hpq x hx y hmade).1 (hall y hy)
  · intro hall y hy
    obtain ⟨x, hx, hmade⟩ := exists_source_of_mapM h hy
    exact (hpq x hx y hmade).2 (hall x hx)

/-- The results of a list, if each of its elements has one. -/
theorem mapM_eq_ok_of_forall {f : α → Except ε β} {g : α → β} {xs : List α}
    (h : ∀ x ∈ xs, f x = .ok (g x)) : xs.mapM f = .ok (xs.map g) := by
  induction xs with
  | nil => rfl
  | cons x xs ih =>
    obtain ⟨hx, hxs⟩ := List.forall_mem_cons.1 h
    exact mapM_cons_eq_ok_iff.2 ⟨_, _, hx, ih hxs, rfl⟩

/-- A list has results if each of its elements has one. -/
theorem exists_mapM_eq_ok_iff {f : α → Except ε β} {xs : List α} :
    (∃ ys, xs.mapM f = .ok ys) ↔ ∀ x ∈ xs, ∃ y, f x = .ok y := by
  induction xs with
  | nil => exact iff_of_true ⟨[], rfl⟩ (by simp)
  | cons x xs ih =>
    rw [List.forall_mem_cons, ← ih]
    constructor
    · rintro ⟨ys, h⟩
      obtain ⟨y, rest, hy, hrest, rfl⟩ := mapM_cons_eq_ok_iff.1 h
      exact ⟨⟨y, hy⟩, rest, hrest⟩
    · rintro ⟨⟨y, hy⟩, rest, hrest⟩
      exact ⟨y :: rest, mapM_cons_eq_ok_iff.2 ⟨y, rest, hy, hrest, rfl⟩⟩

/-- The results for some of a list are those of the results that are of them. -/
theorem mapM_filter {f : α → Except ε β} {p : α → Bool} {q : β → Bool} {xs : List α} {ys : List β}
    (h : xs.mapM f = .ok ys) (hpq : ∀ x y, f x = .ok y → q y = p x) :
    (xs.filter p).mapM f = .ok (ys.filter q) := by
  induction xs generalizing ys with
  | nil =>
    cases h
    rfl
  | cons x xs ih =>
    obtain ⟨y, rest, hy, hrest, rfl⟩ := mapM_cons_eq_ok_iff.1 h
    rw [List.filter_cons, List.filter_cons, hpq x y hy]
    split
    · exact mapM_cons_eq_ok_iff.2 ⟨y, _, hy, ih hrest, rfl⟩
    · exact ih hrest

/-- Results that hang on a part of what they are of are the same if these parts are. -/
theorem map_eq_map_of_mapM {γ δ : Type} {f : α → Except ε β} {g : α → γ} {k : β → δ} {xs xs' : List α}
    {ys ys' : List β} (h : xs.mapM f = .ok ys) (h' : xs'.mapM f = .ok ys')
    (hsame : ∀ x x' y y', g x = g x' → f x = .ok y → f x' = .ok y' → k y = k y')
    (hparts : xs.map g = xs'.map g) : ys.map k = ys'.map k := by
  induction xs generalizing xs' ys ys' with
  | nil =>
    cases List.map_eq_nil_iff.1 hparts.symm
    cases h
    cases h'
    rfl
  | cons x xs ih =>
    obtain ⟨x', rest', rfl, hx, hrest'⟩ := List.map_eq_cons_iff.1 hparts.symm
    obtain ⟨y, rest, hy, hrest, rfl⟩ := mapM_cons_eq_ok_iff.1 h
    obtain ⟨y', more', hy', hmore', rfl⟩ := mapM_cons_eq_ok_iff.1 h'
    rw [List.map_cons, List.map_cons, hsame x x' y y' hx.symm hy hy', ih hrest hmore' hrest'.symm]

/-! ## Kinds of faults -/

/-- Whether all faults of a computation are of a kind. -/
def FailsWith (p : ε → Prop) (x : Except ε α) : Prop := ∀ e, x = .error e → p e

namespace FailsWith

variable {p q : ε → Prop} {x : Except ε α}

theorem ok (a : α) : FailsWith p (.ok a : Except ε α) := nofun

theorem pure (a : α) : FailsWith p (Pure.pure a : Except ε α) := fun _ h => absurd h pure_ne_error

theorem error {e : ε} (h : p e) : FailsWith p (.error e : Except ε α) := by
  rintro _ ⟨⟩
  exact h

theorem mono (h : x.FailsWith p) (hpq : ∀ e, p e → q e) : x.FailsWith q :=
  fun e he => hpq e (h e he)

theorem bind {f : α → Except ε β} (hx : x.FailsWith p) (hf : ∀ a, x = .ok a → (f a).FailsWith p) :
    (x >>= f).FailsWith p := by
  intro e h
  rcases bind_eq_error_iff.1 h with h | ⟨a, ha, h⟩
  · exact hx e h
  · exact hf a ha e h

theorem map (f : α → β) (h : x.FailsWith p) : (f <$> x).FailsWith p :=
  fun e he => h e (map_eq_error_iff.1 he)

theorem mapError {f : ε → ε'} {q : ε' → Prop} (h : x.FailsWith fun e => q (f e)) :
    (x.mapError f).FailsWith q := by
  intro e he
  obtain ⟨e, hx, rfl⟩ := mapError_eq_error_iff.1 he
  exact h e hx

theorem mapM {f : α → Except ε β} {xs : List α} (h : ∀ x ∈ xs, (f x).FailsWith p) :
    (xs.mapM f).FailsWith p := by
  induction xs with
  | nil => exact pure _
  | cons x xs ih =>
    obtain ⟨hx, hxs⟩ := List.forall_mem_cons.1 h
    rw [List.mapM_cons]
    exact hx.bind fun _ _ => (ih hxs).bind fun _ _ => pure _

/-- A run over a list has faults of a kind if each of its steps has. -/
theorem foldlM {f : β → α → Except ε β} {b : β} {xs : List α}
    (h : ∀ b, ∀ x ∈ xs, (f b x).FailsWith p) : (xs.foldlM f b).FailsWith p := by
  intro e he
  obtain ⟨before, x, rest, a, rfl, -, hx⟩ := foldlM_eq_error_iff.1 he
  exact h a x (by simp) e hx

end FailsWith

end Except
