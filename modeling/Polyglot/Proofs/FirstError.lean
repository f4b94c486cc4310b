import Polyglot.Log.Event

/-!
# Folds that stop at the first error

Registrations and insertions are carried out one after the other, and the first
error is the answer.

- `foldlM_eq_error`: such an error comes from one element, behind a front that went
  through, and what stands behind that element is not looked at.
- `foldlM_induction`: what every step keeps, the fold keeps.
- `exists_foldlM_eq_ok`: a fold goes through when no step is refused.
-/

namespace Polyglot

universe u v w

variable {α : Type u} {σ : Type v} {ε : Type w}

theorem foldlM_cons_of_ok {step : σ → α → Except ε σ} {s t : σ} {x : α}
    (h : step s x = .ok t) (xs : List α) : (x :: xs).foldlM step s = xs.foldlM step t := by
  rw [List.foldlM_cons, h]
  rfl

theorem foldlM_cons_of_error {step : σ → α → Except ε σ} {s : σ} {x : α} {e : ε}
    (h : step s x = .error e) (xs : List α) : (x :: xs).foldlM step s = .error e := by
  rw [List.foldlM_cons, h]
  rfl

theorem foldlM_eq_error {step : σ → α → Except ε σ} {s : σ} {xs : List α} {e : ε} :
    xs.foldlM step s = .error e ↔
      ∃ front x back t, xs = front ++ x :: back ∧ front.foldlM step s = .ok t ∧
        step t x = .error e := by
  induction xs generalizing s with
  | nil =>
    constructor
    · intro h
      cases h
    · rintro ⟨front, x, back, t, h, -⟩
      cases front <;> cases h
  | cons y ys ih =>
    cases hy : step s y with
    | error e' =>
      rw [foldlM_cons_of_error hy]
      constructor
      · intro h
        exact ⟨[], y, ys, s, rfl, rfl, hy.trans (by rw [Except.error.inj h])⟩
      · rintro ⟨front, x, back, t, heq, hfront, hx⟩
        cases front with
        | nil =>
          obtain ⟨rfl, rfl⟩ := List.cons.inj heq
          cases hfront
          exact hy.symm.trans hx
        | cons z zs =>
          obtain ⟨rfl, rfl⟩ := List.cons.inj heq
          rw [foldlM_cons_of_error hy] at hfront
          cases hfront
    | ok t =>
      rw [foldlM_cons_of_ok hy, ih]
      constructor
      · rintro ⟨front, x, back, t', rfl, hfront, hx⟩
        exact ⟨y :: front, x, back, t', rfl, (foldlM_cons_of_ok hy front).trans hfront, hx⟩
      · rintro ⟨front, x, back, t', heq, hfront, hx⟩
        cases front with
        | nil =>
          obtain ⟨rfl, rfl⟩ := List.cons.inj heq
          cases hfront
          rw [hy] at hx
          cases hx
        | cons z zs =>
          obtain ⟨rfl, rfl⟩ := List.cons.inj heq
          rw [foldlM_cons_of_ok hy] at hfront
          exact ⟨zs, x, back, t', rfl, hfront, hx⟩

/-- What holds at the start and is kept by every step that goes through holds at the end. The
property may look at the elements so far. -/
theorem foldlM_induction {step : σ → α → Except ε σ} (P : List α → σ → Prop)
    (hstep : ∀ xs s x t, P xs s → step s x = .ok t → P (xs ++ [x]) t)
    {before xs : List α} {s t : σ} (hs : P before s) (h : xs.foldlM step s = .ok t) :
    P (before ++ xs) t := by
  induction xs generalizing before s with
  | nil =>
    cases h
    rw [List.append_nil]
    exact hs
  | cons x xs ih =>
    cases hx : step s x with
    | error e =>
      rw [foldlM_cons_of_error hx] at h
      cases h
    | ok s' =>
      rw [foldlM_cons_of_ok hx] at h
      have hrest := ih (hstep before s x s' hs hx) h
      rwa [List.append_assoc] at hrest

/-- A fold goes through when every step can be taken that the property allows, and the property
is kept; here it has to hold of every front. -/
theorem exists_foldlM_eq_ok {step : σ → α → Except ε σ} (P : List α → σ → Prop)
    (hstep : ∀ xs s x t, P xs s → step s x = .ok t → P (xs ++ [x]) t) {xs : List α} {s : σ}
    (hs : P [] s) (htotal : ∀ front x back t, xs = front ++ x :: back → P front t →
      ∃ t', step t x = .ok t') : ∃ t, xs.foldlM step s = .ok t := by
  cases h : xs.foldlM step s with
  | ok t => exact ⟨t, rfl⟩
  | error e =>
    obtain ⟨front, x, back, t, rfl, hfront, hx⟩ := foldlM_eq_error.1 h
    obtain ⟨t', ht'⟩ := htotal front x back t rfl (foldlM_induction P hstep hs hfront)
    rw [hx] at ht'
    cases ht'

/-! ## Results -/

theorem exists_eq_ok_of_isOk {x : Except ε σ} (h : x.isOk = true) : ∃ s, x = .ok s := by
  cases x with
  | error e => cases h
  | ok s => exact ⟨s, rfl⟩

theorem exists_eq_error {x : Except ε σ} (h : ¬ ∃ s, x = .ok s) : ∃ e, x = .error e := by
  cases x with
  | error e => exact ⟨e, rfl⟩
  | ok s => exact absurd ⟨s, rfl⟩ h

/-- What is done with a value leaves an error alone. -/
theorem map_eq_error {β : Type v} {x : Except ε σ} {f : σ → β} {e : ε} :
    x.map f = .error e ↔ x = .error e := by
  cases x <;> simp [Except.map]

/-- What is done with an error leaves a value alone. -/
theorem mapError_eq_ok {ε' : Type v} {x : Except ε σ} {f : ε → ε'} {s : σ} :
    x.mapError f = .ok s ↔ x = .ok s := by
  cases x with
  | error e =>
    constructor
    · intro h
      cases h
    · intro h
      cases h
  | ok t =>
    constructor
    · intro h
      cases h
      rfl
    · intro h
      cases h
      rfl

theorem bind_eq_ok {β : Type v} {α : Type v} {x : Except ε α} {f : α → Except ε β} {b : β} :
    x >>= f = .ok b ↔ ∃ a, x = .ok a ∧ f a = .ok b := by
  cases x with
  | error e =>
    constructor
    · intro h
      cases h
    · rintro ⟨a, h, -⟩
      cases h
  | ok a =>
    constructor
    · intro h
      exact ⟨a, rfl, h⟩
    · rintro ⟨a', h, hf⟩
      cases h
      exact hf

theorem bind_eq_error {β : Type v} {α : Type v} {x : Except ε α} {f : α → Except ε β} {e : ε} :
    x >>= f = .error e ↔ x = .error e ∨ ∃ a, x = .ok a ∧ f a = .error e := by
  cases x with
  | error e' =>
    constructor
    · intro h
      cases h
      exact .inl rfl
    · rintro (h | ⟨a, h, -⟩)
      · cases h
        rfl
      · cases h
  | ok a =>
    constructor
    · intro h
      exact .inr ⟨a, rfl, h⟩
    · rintro (h | ⟨a', h, hf⟩)
      · cases h
      · cases h
        exact hf

/-- The value of logged steps in a row, without their events. -/
theorem Logged.value_andThen {β : Type v} {α : Type v} (x : Logged (Except ε α))
    (f : α → Logged (Except ε β)) : (x.andThen f).value = x.value >>= fun a => (f a).value := by
  obtain ⟨value, events⟩ := x
  cases value <;> rfl

end Polyglot
