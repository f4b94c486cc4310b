/-!
# Entries under names

Tables are kept as lists of entries, each a name with what is stored under it, and a lookup takes
the first entry of a name. Where no name stands twice, the order of the entries plays no part. A
table that ascends by name is changed under one name at a time, and stays in order.

- `update`: change what is stored under a name.
- `update_cases`: an entry is put in or changed, and all others stay as they are.
- `update_ascending`, `lookup_update`: the order and the lookups behind a change.
- `nodup_of_ascending`: in a table that ascends by name, no name stands twice.
- `lookup_eq_some`: what a name leads to is a matter of membership.
-/

namespace Polyglot.Entries

universe u

variable {β : Type u} {entries : List (String × β)}

/-- Store `f` of what is stored under a name; a new name comes to stand before all greater ones. -/
def update (f : Option β → β) (name : String) : List (String × β) → List (String × β)
  | [] => [(name, f none)]
  | (n, b) :: rest =>
    if name < n then (name, f none) :: (n, b) :: rest
    else if name = n then (name, f (some b)) :: rest
    else (n, b) :: update f name rest

/-! ## Lookups -/

theorem nodup_of_ascending (h : entries.Pairwise (·.1 < ·.1)) : (entries.map Prod.fst).Nodup :=
  List.pairwise_map.2 (h.imp String.ne_of_lt)

/-- Where no name stands twice, a name leads to what stands with it in an entry. -/
theorem lookup_eq_some (h : (entries.map Prod.fst).Nodup) {name : String} {b : β} :
    entries.lookup name = some b ↔ (name, b) ∈ entries := by
  rw [List.lookup_eq_some_iff]
  constructor
  · rintro ⟨front, back, rfl, -⟩
    exact List.mem_append_right _ List.mem_cons_self
  · intro hmem
    obtain ⟨front, back, rfl⟩ := List.append_of_mem hmem
    refine ⟨front, back, rfl, fun e he => ?_⟩
    -- the lookup does not stop in front of the entry, since there it finds other names
    rw [List.map_append, List.nodup_append] at h
    have hne := h.2.2 e.1 (List.mem_map_of_mem he) name List.mem_cons_self
    simpa using Ne.symm hne

theorem lookup_eq_none {name : String} :
    entries.lookup name = none ↔ name ∉ entries.map Prod.fst := by
  rw [List.lookup_eq_none_iff, List.mem_map, not_exists]
  refine forall_congr' fun e => ?_
  rw [not_and, bne_iff_ne]
  exact forall_congr' fun _ => ne_comm

/-! ## Changes -/

section Update

variable (f : Option β → β) (name : String)

/-- A change puts one entry in, or changes one that is there. -/
theorem update_cases (entries : List (String × β)) :
    (∃ front back, entries = front ++ back ∧
        update f name entries = front ++ (name, f none) :: back) ∨
      ∃ front b back, entries = front ++ (name, b) :: back ∧
        update f name entries = front ++ (name, f (some b)) :: back := by
  induction entries with
  | nil => exact .inl ⟨[], [], rfl, rfl⟩
  | cons e rest ih =>
    obtain ⟨n, b⟩ := e
    rw [update]
    by_cases hlt : name < n
    · rw [if_pos hlt]
      exact .inl ⟨[], (n, b) :: rest, rfl, rfl⟩
    · rw [if_neg hlt]
      by_cases heq : name = n
      · rw [if_pos heq, ← heq]
        exact .inr ⟨[], b, rest, rfl, rfl⟩
      · rw [if_neg heq]
        rcases ih with ⟨front, back, hrest, hupdate⟩ | ⟨front, c, back, hrest, hupdate⟩
        · exact .inl ⟨(n, b) :: front, back, by rw [hrest]; rfl, by rw [hupdate]; rfl⟩
        · exact .inr ⟨(n, b) :: front, c, back, by rw [hrest]; rfl, by rw [hupdate]; rfl⟩

theorem mem_names_update {n : String} :
    n ∈ (update f name entries).map Prod.fst ↔ n = name ∨ n ∈ entries.map Prod.fst := by
  rcases update_cases f name entries with
    ⟨front, back, rfl, hupdate⟩ | ⟨front, b, back, rfl, hupdate⟩
  · simp only [hupdate, List.map_append, List.map_cons, List.mem_append, List.mem_cons]
    exact or_left_comm
  · simp only [hupdate, List.map_append, List.map_cons, List.mem_append, List.mem_cons]
    exact (or_iff_right_of_imp fun h => .inr (.inl h)).symm

/-- A new name is one more entry. -/
theorem update_perm (h : name ∉ entries.map Prod.fst) :
    (update f name entries).Perm ((name, f none) :: entries) := by
  rcases update_cases f name entries with
    ⟨front, back, rfl, hupdate⟩ | ⟨front, b, back, rfl, hupdate⟩
  · rw [hupdate]
    exact List.perm_middle
  · exact absurd (by simp) h

/-- Behind a change the table is in order as before. -/
theorem update_ascending (h : entries.Pairwise (·.1 < ·.1)) :
    (update f name entries).Pairwise (·.1 < ·.1) := by
  induction entries with
  | nil => exact List.pairwise_singleton _ _
  | cons e rest ih =>
    obtain ⟨n, b⟩ := e
    obtain ⟨hn, hrest⟩ := List.pairwise_cons.1 h
    rw [update]
    by_cases hlt : name < n
    · -- the new name stands before all others
      rw [if_pos hlt]
      refine List.pairwise_cons.2 ⟨List.forall_mem_cons.2 ⟨hlt, fun g hg => ?_⟩, h⟩
      exact String.lt_trans hlt (hn g hg)
    · rw [if_neg hlt]
      by_cases heq : name = n
      · rw [if_pos heq]
        exact List.pairwise_cons.2 ⟨fun g hg => heq ▸ hn g hg, hrest⟩
      · rw [if_neg heq]
        refine List.pairwise_cons.2 ⟨fun g hg => ?_, ih hrest⟩
        have hmem : g.1 ∈ (update f name rest).map Prod.fst := List.mem_map_of_mem hg
        rcases (mem_names_update f name).1 hmem with hname | hold
        · have hle : n ≤ name := String.not_lt.1 hlt
          show n < g.1
          rw [hname]
          exact Decidable.byContradiction fun hnot =>
            heq (String.le_antisymm (String.not_lt.1 hnot) hle)
        · obtain ⟨g', hg', hname⟩ := List.mem_map.1 hold
          exact hname ▸ hn g' hg'

/-- Behind a change the name leads to what was stored, and every other name to what it led to. -/
theorem lookup_update (h : entries.Pairwise (·.1 < ·.1)) (n : String) :
    (update f name entries).lookup n
      = if n = name then some (f (entries.lookup name)) else entries.lookup n := by
  have hnodup := nodup_of_ascending (update_ascending f name h)
  rcases update_cases f name entries with
    ⟨front, back, rfl, hupdate⟩ | ⟨front, b, back, rfl, hupdate⟩
  all_goals
    rw [hupdate, List.map_append, List.map_cons, List.nodup_append, List.nodup_cons] at hnodup
    obtain ⟨-, ⟨hback, -⟩, hapart⟩ := hnodup
    have hfront : front.lookup name = none :=
      lookup_eq_none.2 fun hmem => hapart name hmem name List.mem_cons_self rfl
    rw [hupdate]
    by_cases hn : n = name
    · subst hn
      simp [List.lookup_append, hfront, lookup_eq_none.2 hback]
    · have hne : (n == name) = false := by simpa using hn
      simp [List.lookup_append, List.lookup_cons, hn, hne]

end Update

end Polyglot.Entries
