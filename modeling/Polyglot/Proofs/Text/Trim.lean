import Polyglot.Text.Blank

/-!
# What trimming leaves

Trimming and cutting run over a text character by character; here they are told by
how the text is put together.

- `Trimmed`: no blank character stands at either end.
- `trim_eq_iff`: what trimming leaves is the one trimmed text that, with blanks around it,
  gives the text. The case without characters is apart: where nothing is left, every
  cut of the blanks into front and back will do.
-/

namespace Polyglot.Text

/-- Nothing but blank characters. -/
def AllBlank (cs : List Char) : Prop := ∀ c ∈ cs, isBlank c = true

def beginsBlank (cs : List Char) : Bool := cs.head?.any isBlank

def endsBlank (cs : List Char) : Bool := cs.getLast?.any isBlank

/-- No blank character at either end. -/
structure Trimmed (cs : List Char) : Prop where
  front : beginsBlank cs = false
  back : endsBlank cs = false

instance : DecidablePred AllBlank := fun cs => inferInstanceAs (Decidable (∀ c ∈ cs, _))

instance : DecidablePred Trimmed := fun cs =>
  decidable_of_iff (beginsBlank cs = false ∧ endsBlank cs = false)
    ⟨fun h => ⟨h.1, h.2⟩, fun h => ⟨h.front, h.back⟩⟩

/-! ## Blank texts and blank ends -/

@[simp] theorem allBlank_nil : AllBlank [] := List.forall_mem_nil _

theorem allBlank_cons {c : Char} {cs : List Char} :
    AllBlank (c :: cs) ↔ isBlank c = true ∧ AllBlank cs := List.forall_mem_cons

theorem allBlank_append {as bs : List Char} :
    AllBlank (as ++ bs) ↔ AllBlank as ∧ AllBlank bs := List.forall_mem_append

theorem allBlank_reverse {cs : List Char} : AllBlank cs.reverse ↔ AllBlank cs := by
  simp [AllBlank]

theorem isBlank_space : isBlank ' ' = true := by decide

theorem beginsBlank_cons (c : Char) (cs : List Char) : beginsBlank (c :: cs) = isBlank c := rfl

theorem beginsBlank_append {as : List Char} (h : as ≠ []) (bs : List Char) :
    beginsBlank (as ++ bs) = beginsBlank as := by
  cases as with
  | nil => exact absurd rfl h
  | cons a as => rfl

theorem endsBlank_eq_beginsBlank_reverse (cs : List Char) :
    endsBlank cs = beginsBlank cs.reverse := by
  rw [endsBlank, beginsBlank, List.head?_reverse]

theorem endsBlank_append {bs : List Char} (h : bs ≠ []) (as : List Char) :
    endsBlank (as ++ bs) = endsBlank bs := by
  rw [endsBlank_eq_beginsBlank_reverse, List.reverse_append,
    beginsBlank_append (mt List.reverse_eq_nil_iff.1 h), ← endsBlank_eq_beginsBlank_reverse]

/-- A text that is all blank and does not end in a blank is empty. -/
theorem eq_nil_of_allBlank {cs : List Char} (h : AllBlank cs) (hend : endsBlank cs = false) :
    cs = [] := by
  rcases List.eq_nil_or_concat cs with rfl | ⟨front, c, rfl⟩
  · rfl
  · rw [List.concat_eq_append] at h hend
    have hc : isBlank c = true := h c (by simp)
    rw [endsBlank_append (List.cons_ne_nil c [])] at hend
    exact absurd (hc.symm.trans hend) Bool.noConfusion

/-- Texts with a first part that does not begin, and a last part that does not end in a blank. -/
theorem Trimmed.append {as bs : List Char} (ha : as ≠ []) (hfront : beginsBlank as = false)
    (hb : bs ≠ []) (hback : endsBlank bs = false) : Trimmed (as ++ bs) :=
  ⟨(beginsBlank_append ha bs).trans hfront, (endsBlank_append hb as).trans hback⟩

/-! ## One end -/

/-- Blanks in front of a text that does not begin with one are dropped, and nothing else. -/
theorem trimFront_append {front cs : List Char} (hfront : AllBlank front)
    (hcs : beginsBlank cs = false) : trimFront (front ++ cs) = cs := by
  rw [trimFront, List.dropWhile_append_of_pos hfront]
  cases cs with
  | nil => rfl
  | cons c cs =>
    rw [List.dropWhile_cons_of_neg]
    rwa [Bool.not_eq_true, ← beginsBlank_cons c cs]

/-- What is dropped at the front is blank, and what is left does not begin with a blank. -/
theorem exists_trimFront (cs : List Char) :
    beginsBlank (trimFront cs) = false ∧ ∃ front, AllBlank front ∧ cs = front ++ trimFront cs := by
  induction cs with
  | nil => exact ⟨rfl, [], allBlank_nil, rfl⟩
  | cons c cs ih =>
    obtain ⟨hbegin, front, hfront, heq⟩ := ih
    by_cases hc : isBlank c
    · have hdrop : trimFront (c :: cs) = trimFront cs := List.dropWhile_cons_of_pos hc
      rw [hdrop]
      exact ⟨hbegin, c :: front, allBlank_cons.2 ⟨hc, hfront⟩, congrArg (c :: ·) heq⟩
    · have hdrop : trimFront (c :: cs) = c :: cs := List.dropWhile_cons_of_neg hc
      rw [hdrop]
      exact ⟨Bool.not_eq_true _ ▸ hc, [], allBlank_nil, rfl⟩

theorem trimBack_eq_reverse (cs : List Char) : trimBack cs = (trimFront cs.reverse).reverse := rfl

theorem trimBack_append {cs back : List Char} (hback : AllBlank back)
    (hcs : endsBlank cs = false) : trimBack (cs ++ back) = cs := by
  rw [trimBack_eq_reverse, List.reverse_append, trimFront_append (allBlank_reverse.2 hback),
    List.reverse_reverse]
  rwa [← endsBlank_eq_beginsBlank_reverse]

theorem exists_trimBack (cs : List Char) :
    endsBlank (trimBack cs) = false ∧ ∃ back, AllBlank back ∧ cs = trimBack cs ++ back := by
  obtain ⟨hbegin, front, hfront, heq⟩ := exists_trimFront cs.reverse
  refine ⟨?_, front.reverse, allBlank_reverse.2 hfront, ?_⟩
  · rw [trimBack_eq_reverse, endsBlank_eq_beginsBlank_reverse, List.reverse_reverse]
    exact hbegin
  · rw [trimBack_eq_reverse, ← List.reverse_append, ← heq, List.reverse_reverse]

/-! ## Both ends -/

theorem trimmed_trim (cs : List Char) : Trimmed (trim cs) := by
  obtain ⟨hend, back, -, heq⟩ := exists_trimBack (trimFront cs)
  refine ⟨?_, hend⟩
  have hbegin := (exists_trimFront cs).1
  by_cases hnil : trim cs = []
  · rw [hnil]
    rfl
  · -- what is left begins as it did before the blanks behind it were dropped
    rw [heq] at hbegin
    rwa [← beginsBlank_append hnil back]

theorem exists_trim (cs : List Char) :
    ∃ front back, AllBlank front ∧ AllBlank back ∧ cs = front ++ trim cs ++ back := by
  obtain ⟨-, front, hfront, hcs⟩ := exists_trimFront cs
  obtain ⟨-, back, hback, hrest⟩ := exists_trimBack (trimFront cs)
  refine ⟨front, back, hfront, hback, ?_⟩
  rw [List.append_assoc]
  show cs = front ++ (trimBack (trimFront cs) ++ back)
  rw [← hrest, ← hcs]

/-- What trimming leaves is the trimmed text that stands between the blanks. -/
theorem trim_eq_iff {cs t : List Char} :
    trim cs = t ↔ Trimmed t ∧
      ∃ front back, AllBlank front ∧ AllBlank back ∧ cs = front ++ t ++ back := by
  constructor
  · rintro rfl
    exact ⟨trimmed_trim cs, exists_trim cs⟩
  · rintro ⟨ht, front, back, hfront, hback, rfl⟩
    -- without characters between them, front and back are one run of blanks
    by_cases hnil : t = []
    · subst hnil
      rw [trim_eq_nil, List.append_nil]
      exact allBlank_append.2 ⟨hfront, hback⟩
    · have hbegin : beginsBlank (t ++ back) = false :=
        (beginsBlank_append hnil back).trans ht.front
      rw [trim, List.append_assoc, trimFront_append hfront hbegin, trimBack_append hback ht.back]

end Polyglot.Text
