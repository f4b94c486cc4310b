import Mathlib.Data.List.Sort
import Polyglot.Dispatch.KindIndex

/-!
# What the kind index holds

The index of a unit in terms of the kinds of its nodes alone, whatever way the
table of positions grew.

- `find_ofKinds`: under a kind stand the positions at which it occurs, ascending.
- `select_ofKinds`: a selection is the positions below the bound at which one of the
  kinds occurs, in document order. Repeated, overlapping and absent kinds make no
  difference, because both sides are strictly ascending, and a strictly ascending
  list is determined by its members.
-/

namespace Polyglot.KindIndex

/-! ## The table -/

/-- Noting a position changes what is stored under its kind and nothing else. -/
theorem lookup_note (kind k : String) (p : Nat) (table : List (String × List Nat)) :
    ((note kind p table).lookup k).getD []
      = (table.lookup k).getD [] ++ if k = kind then [p] else [] := by
  induction table with
  | nil =>
    by_cases h : k = kind
    · subst h
      simp [note]
    · have hne : (k == kind) = false := by simpa using h
      simp [note, List.lookup_cons, h, hne]
  | cons entry rest ih =>
    obtain ⟨k', ps⟩ := entry
    rw [note]
    by_cases hk : k = k'
    · -- the entry is the one that is looked up, so it is found before and after
      subst hk
      by_cases h : k = kind <;> simp [h]
    · have hne : (k == k') = false := by simpa using hk
      split
      · rename_i heq
        have hkind : k ≠ kind := heq ▸ hk
        simp [List.lookup_cons, hne, hkind]
      · rw [List.lookup_cons, hne, List.lookup_cons, hne]
        exact ih

/-- What consecutive kinds add to a table: under each one, its positions. -/
theorem lookup_noteAll (kinds : List String) (start : Nat) (table : List (String × List Nat))
    (k : String) :
    ((noteAll start table kinds).lookup k).getD []
      = (table.lookup k).getD [] ++ kinds.idxsOf k start := by
  induction kinds generalizing start table with
  | nil => simp [noteAll, List.idxsOf]
  | cons kind rest ih =>
    rw [noteAll, ih, lookup_note, List.append_assoc]
    congr 1
    by_cases h : k = kind
    · subst h
      simp [List.idxsOf]
    · have hne : (kind == k) = false := by simpa using Ne.symm h
      simp [List.idxsOf, h, hne]

/-- Under a kind stand the positions at which it occurs. -/
theorem find_ofKinds (kinds : List String) (k : String) :
    (ofKinds kinds).find k = kinds.idxsOf k := by
  rw [find, ofKinds, lookup_noteAll]
  simp

theorem mem_find_ofKinds {kinds : List String} {k : String} {i : Nat} :
    i ∈ (ofKinds kinds).find k ↔ kinds[i]? = some k := by
  rw [find_ofKinds, List.mem_idxsOf_iff_exists_getElem_pos, List.getElem?_eq_some_iff]
  simp only [beq_iff_eq]

/-! ## Selection -/

theorem mem_dropRepeats {ns : List Nat} {i : Nat} : i ∈ dropRepeats ns ↔ i ∈ ns := by
  fun_induction dropRepeats ns with
  | case1 => rfl
  | case2 => rfl
  | case3 n ns ih => simp [ih]
  | case4 m n ns _ ih => simp [ih]

theorem dropRepeats_ascending {ns : List Nat} (h : ns.Pairwise (· ≤ ·)) :
    (dropRepeats ns).Pairwise (· < ·) := by
  fun_induction dropRepeats ns with
  | case1 => exact .nil
  | case2 n => exact List.pairwise_singleton _ n
  | case3 n ns ih => exact ih (List.pairwise_cons.1 h).2
  | case4 m n ns hne ih =>
    obtain ⟨hm, hns⟩ := List.pairwise_cons.1 h
    refine List.pairwise_cons.2 ⟨fun i hi => ?_, ih hns⟩
    -- `m` is below its neighbour, which is the least of the rest
    have hlt : m < n := Nat.lt_of_le_of_ne (hm n List.mem_cons_self) hne
    rcases List.mem_cons.1 (mem_dropRepeats.1 hi) with rfl | hi
    · exact hlt
    · exact Nat.lt_of_lt_of_le hlt ((List.pairwise_cons.1 hns).1 i hi)

theorem mem_select {x : KindIndex} {kinds : List String} {bound i : Nat} :
    i ∈ x.select kinds bound ↔ (∃ k ∈ kinds, i ∈ x.find k) ∧ i < bound := by
  simp [select, mem_dropRepeats]

/-- A selection is strictly ascending, whatever the table holds. -/
theorem select_ascending (x : KindIndex) (kinds : List String) (bound : Nat) :
    (x.select kinds bound).Pairwise (· < ·) := by
  refine dropRepeats_ascending ?_
  have h := List.pairwise_mergeSort' (· ≤ ·) ((kinds.flatMap x.find).filter (· < bound))
  exact h

/-- The positions below the bound at which one of the kinds occurs. -/
theorem select_ofKinds (kinds wanted : List String) (bound : Nat) :
    (ofKinds kinds).select wanted bound = (kinds.take bound).findIdxs (wanted.contains ·) := by
  refine (select_ascending _ wanted bound).eq_of_mem_iff List.pairwise_findIdxs fun i => ?_
  rw [mem_select, List.mem_findIdxs_iff_exists_getElem_pos]
  constructor
  · rintro ⟨⟨k, hk, hi⟩, hb⟩
    obtain ⟨hlt, rfl⟩ := List.getElem?_eq_some_iff.1 (mem_find_ofKinds.1 hi)
    refine ⟨by rw [List.length_take]; omega, ?_⟩
    rw [List.getElem_take]
    exact List.contains_iff_mem.2 hk
  · rintro ⟨hlt, hmem⟩
    rw [List.length_take] at hlt
    rw [List.getElem_take] at hmem
    refine ⟨⟨kinds[i], List.contains_iff_mem.1 hmem, ?_⟩, by omega⟩
    exact mem_find_ofKinds.2 (List.getElem?_eq_getElem _)

end Polyglot.KindIndex
