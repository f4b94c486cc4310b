import Mathlib.Data.List.Forall2

/-!
# Lists in step

Lists that go through related things in one order. What is found in the one list at a place,
as a member or as the first with a property, has its partner in the other.

- `forall₂_of_ascending`: lists that ascend by name are in step when they have the same
  members up to the relation.
- `rel_find?`: the first elements with a property are related.
-/

namespace Polyglot

universe u v w

variable {α : Type u} {β : Type v} {R : α → β → Prop} {xs : List α} {ys : List β}

/-! ## Partners -/

/-- In lists that correspond to each other, every member has a partner. -/
theorem exists_of_mem_left (h : List.Forall₂ R xs ys) : ∀ x ∈ xs, ∃ y ∈ ys, R x y := by
  induction h with
  | nil => exact List.forall_mem_nil _
  | cons hxy _ ih =>
    refine List.forall_mem_cons.2 ⟨⟨_, List.mem_cons_self, hxy⟩, fun x hx => ?_⟩
    obtain ⟨y, hy, h⟩ := ih x hx
    exact ⟨y, List.mem_cons_of_mem _ hy, h⟩

/-- Elements at one place of lists in step are related. -/
theorem exists_of_getElem?_left (h : List.Forall₂ R xs ys) {i : Nat} {x : α}
    (hx : xs[i]? = some x) : ∃ y, ys[i]? = some y ∧ R x y := by
  induction h generalizing i with
  | nil => cases hx
  | cons hxy _ ih =>
    cases i with
    | zero =>
      rw [List.getElem?_cons_zero, Option.some.injEq] at hx
      exact ⟨_, rfl, hx ▸ hxy⟩
    | succ i => exact ih hx

/-- What can be told of related elements alike can be told of the lists alike. -/
theorem map_eq_map_of_forall₂ {γ : Type w} {f : α → γ} {g : β → γ}
    (hfg : ∀ x y, R x y → f x = g y) (h : List.Forall₂ R xs ys) : xs.map f = ys.map g := by
  induction h with
  | nil => rfl
  | @cons x y xs ys hxy _ ih => rw [List.map_cons, List.map_cons, hfg x y hxy, ih]

/-- Ascending lists are in step when every element of each has a partner of its name in the
other. -/
theorem forall₂_of_ascending {f : α → String} {g : β → String} (hR : ∀ x y, R x y → f x = g y)
    (hxs : xs.Pairwise (f · < f ·)) (hys : ys.Pairwise (g · < g ·))
    (left : ∀ x ∈ xs, ∃ y ∈ ys, R x y) (right : ∀ y ∈ ys, ∃ x ∈ xs, R x y) :
    List.Forall₂ R xs ys := by
  induction xs generalizing ys with
  | nil =>
    cases ys with
    | nil => exact .nil
    | cons y ys =>
      obtain ⟨x, hx, -⟩ := right y List.mem_cons_self
      cases hx
  | cons x xs ih =>
    cases ys with
    | nil =>
      obtain ⟨y, hy, -⟩ := left x List.mem_cons_self
      cases hy
    | cons y ys =>
      obtain ⟨hx, hxs⟩ := List.pairwise_cons.1 hxs
      obtain ⟨hy, hys⟩ := List.pairwise_cons.1 hys
      -- the first elements are partners: otherwise each name would be less than the other
      have hfirst : R x y := by
        obtain ⟨y', hy', hxy'⟩ := left x List.mem_cons_self
        obtain ⟨x', hx', hx'y⟩ := right y List.mem_cons_self
        rcases List.mem_cons.1 hy' with rfl | hy'
        · exact hxy'
        · rcases List.mem_cons.1 hx' with rfl | hx'
          · exact hx'y
          · have hlt : f x < f x' := hx x' hx'
            have hgt : g y < g y' := hy y' hy'
            rw [← hR x y' hxy', ← hR x' y hx'y] at hgt
            exact absurd (String.lt_trans hlt hgt) (String.lt_irrefl _)
      have hname := hR x y hfirst
      refine .cons hfirst (ih hxs hys ?_ ?_)
      · intro x' hx'
        obtain ⟨y', hy', hxy'⟩ := left x' (List.mem_cons_of_mem _ hx')
        refine ⟨y', (List.mem_cons.1 hy').resolve_left ?_, hxy'⟩
        rintro rfl
        have hlt : f x < f x' := hx x' hx'
        rw [hname, hR x' y' hxy'] at hlt
        exact String.lt_irrefl _ hlt
      · intro y' hy'
        obtain ⟨x', hx', hxy'⟩ := right y' (List.mem_cons_of_mem _ hy')
        refine ⟨x', (List.mem_cons.1 hx').resolve_left ?_, hxy'⟩
        rintro rfl
        have hlt : g y < g y' := hy y' hy'
        rw [← hname, hR x' y' hxy'] at hlt
        exact String.lt_irrefl _ hlt

/-! ## Searches -/

/-- The first elements with a property are related. -/
theorem rel_find? {p : α → Bool} {q : β → Bool} (hpq : ∀ x y, R x y → p x = q y)
    (h : List.Forall₂ R xs ys) : Option.Rel R (xs.find? p) (ys.find? q) := by
  induction h with
  | nil => exact .none
  | @cons x y xs ys hxy _ ih =>
    rw [List.find?_cons, List.find?_cons, hpq x y hxy]
    cases q y with
    | true => exact .some hxy
    | false => exact ih

theorem rel_or {x x' : Option α} {y y' : Option β} (h : Option.Rel R x y)
    (h' : Option.Rel R x' y') : Option.Rel R (x.or x') (y.or y') := by
  cases h with
  | none => exact h'
  | some hxy => exact .some hxy

theorem bind_eq_of_rel {γ : Type w} {f : α → Option γ} {g : β → Option γ}
    (hfg : ∀ a b, R a b → f a = g b) {x : Option α} {y : Option β} (h : Option.Rel R x y) :
    x.bind f = y.bind g := by
  cases h with
  | none => rfl
  | some hxy => exact hfg _ _ hxy

end Polyglot
