/-!
# Blank characters

The `White_Space` property, the trimming of a text at both ends, and the cut
of a text at its first space. Trimming removes every blank character, the cut
looks at U+0020 alone.

- `trim_eq_nil`: a text trims to nothing exactly when it is all blank.
- `cutAtSpace_eq_some`: what a cut returns, glued with one space, is the text.
-/

namespace Polyglot.Text

/-- Characters with the property `White_Space`. -/
def isBlank (c : Char) : Bool :=
  let n := c.toNat
  (0x09 ≤ n && n ≤ 0x0D) || n == 0x20 || n == 0x85 || n == 0xA0 || n == 0x1680
    || (0x2000 ≤ n && n ≤ 0x200A) || n == 0x2028 || n == 0x2029 || n == 0x202F
    || n == 0x205F || n == 0x3000

/-- Drop the blank characters at the front. -/
def trimFront (cs : List Char) : List Char := cs.dropWhile isBlank

/-- Drop the blank characters at the back. -/
def trimBack (cs : List Char) : List Char := (cs.reverse.dropWhile isBlank).reverse

/-- Drop the blank characters at both ends. -/
def trim (cs : List Char) : List Char := trimBack (trimFront cs)

/-- Cut at the first U+0020: what is before it and what is after it. -/
def cutAtSpace : List Char → Option (List Char × List Char)
  | [] => none
  | c :: cs => if c = ' ' then some ([], cs) else (cutAtSpace cs).map fun (a, b) => (c :: a, b)

/-! ## Laws -/

theorem trimFront_eq_nil {cs : List Char} : trimFront cs = [] ↔ ∀ c ∈ cs, isBlank c := by
  induction cs with
  | nil => simp [trimFront]
  | cons c cs ih =>
    by_cases hc : isBlank c
    · have hdrop : trimFront (c :: cs) = trimFront cs := List.dropWhile_cons_of_pos hc
      rw [hdrop, ih, List.forall_mem_cons]
      exact (and_iff_right hc).symm
    · simp [trimFront, hc]

theorem trimBack_eq_nil {cs : List Char} : trimBack cs = [] ↔ ∀ c ∈ cs, isBlank c := by
  rw [trimBack, List.reverse_eq_nil_iff, ← trimFront, trimFront_eq_nil]
  simp only [List.mem_reverse]

/-- A text trims to nothing exactly when it is all blank. -/
theorem trim_eq_nil {cs : List Char} : trim cs = [] ↔ ∀ c ∈ cs, isBlank c := by
  rw [trim, trimBack_eq_nil]
  constructor
  · intro h
    induction cs with
    | nil => simp
    | cons c cs ih =>
      by_cases hc : isBlank c
      · simp only [trimFront, List.dropWhile_cons, hc, if_true] at h
        simpa [hc] using ih h
      · simp only [trimFront, List.dropWhile_cons, hc] at h
        exact absurd (h c (by simp)) hc
  · intro h c hc
    exact h c ((List.dropWhile_sublist _).mem hc)

@[simp] theorem cutAtSpace_nil : cutAtSpace [] = none := rfl

/-- What a cut returns, glued with one space, is the text; the front holds no space. -/
theorem cutAtSpace_eq_some {cs a b : List Char} :
    cutAtSpace cs = some (a, b) ↔ cs = a ++ ' ' :: b ∧ ' ' ∉ a := by
  induction cs generalizing a with
  | nil => simp
  | cons c cs ih =>
    by_cases hc : c = ' '
    · subst hc
      cases a with
      | nil => simp [cutAtSpace]
      | cons d a => simp [cutAtSpace]; grind
    · cases a with
      | nil => simp [cutAtSpace, hc]
      | cons d a =>
        simp only [cutAtSpace, hc, if_false, Option.map_eq_some_iff, Prod.mk.injEq,
          List.cons.injEq, List.cons_append, List.mem_cons, not_or]
        constructor
        · rintro ⟨⟨a', b'⟩, h, ⟨rfl, rfl⟩, rfl⟩
          exact ⟨⟨rfl, (ih.1 h).1⟩, Ne.symm hc, (ih.1 h).2⟩
        · rintro ⟨⟨rfl, h⟩, -, hn⟩
          exact ⟨(a, b), ih.2 ⟨h, hn⟩, ⟨rfl, rfl⟩, rfl⟩

/-- A text without a space is not cut. -/
theorem cutAtSpace_eq_none {cs : List Char} : cutAtSpace cs = none ↔ ' ' ∉ cs := by
  induction cs with
  | nil => simp
  | cons c cs ih =>
    by_cases hc : c = ' '
    · simp [cutAtSpace, hc]
    · simp [cutAtSpace, hc, ih, Ne.symm hc]

end Polyglot.Text
