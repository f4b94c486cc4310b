import Mathlib.Algebra.BigOperators.Group.List.Lemmas
import Mathlib.Algebra.GroupWithZero.Nat
import Polyglot.Entries
import Polyglot.Proofs.Dispatch.Candidates

/-!
# The index as a partition

An index sorts the positions of a unit by kind. Its table grows position by position on top of
what it holds, so what it is in the end is said of the kinds noted so far: each of them has one
entry, and no other kind has one. Noting a position keeps this (`Keyed.note`), and so does noting
any number of them (`Keyed.noteAll`). As the positions under a kind are known already
(`find_ofKinds`), this is all that is needed to know every entry.

- `mem_positions_ofKinds`: the entries of an index are the kinds of the unit with their positions.
- `entries_disjoint`, `entries_cover`: no position stands in two entries, and each stands in one.
- `Partitions`: what it means that the entries cut the positions of a unit into parts.
- `Dispatcher.index_partitions`: on a dispatcher with any history, they cut those of the unit
  indexed last.
-/

namespace Polyglot

namespace KindIndex

/-! ## The kinds in the table -/

/-- Each of the kinds noted so far has one entry, and no other kind has one. -/
structure Keyed (table : List (String × List Nat)) (noted : List String) : Prop where
  nodup : (table.map Prod.fst).Nodup
  mem_iff : ∀ k, k ∈ table.map Prod.fst ↔ k ∈ noted

theorem keyed_nil : Keyed [] [] := ⟨List.nodup_nil, fun _ => Iff.rfl⟩

/-- Noting a position makes an entry for its kind if there is none. -/
theorem map_fst_note (kind : String) (p : Nat) (table : List (String × List Nat)) :
    (note kind p table).map Prod.fst
      = if kind ∈ table.map Prod.fst then table.map Prod.fst
        else table.map Prod.fst ++ [kind] := by
  induction table with
  | nil => rfl
  | cons entry rest ih =>
    obtain ⟨k, ps⟩ := entry
    rw [note]
    by_cases h : k = kind
    · subst h
      simp
    · have hmem : kind ∈ ((k, ps) :: rest).map Prod.fst ↔ kind ∈ rest.map Prod.fst := by
        rw [List.map_cons, List.mem_cons]
        exact or_iff_right (Ne.symm h)
      rw [if_neg h, List.map_cons, ih]
      simp only [hmem]
      split <;> rfl

namespace Keyed

variable {table : List (String × List Nat)} {noted : List String}

/-- One more position, wherever it is. -/
theorem note (h : Keyed table noted) (kind : String) (p : Nat) :
    Keyed (note kind p table) (noted ++ [kind]) := by
  by_cases hold : kind ∈ table.map Prod.fst
  · refine ⟨?_, fun k => ?_⟩
    · rw [map_fst_note, if_pos hold]
      exact h.nodup
    · rw [map_fst_note, if_pos hold, h.mem_iff, List.mem_append, List.mem_singleton]
      refine ⟨.inl, ?_⟩
      rintro (hk | rfl)
      · exact hk
      · exact (h.mem_iff k).1 hold
  · refine ⟨?_, fun k => ?_⟩
    · rw [map_fst_note, if_neg hold]
      refine List.nodup_append.2 ⟨h.nodup, List.nodup_singleton kind, fun a ha b hb hab => ?_⟩
      rw [List.mem_singleton.1 hb] at hab
      exact hold (hab ▸ ha)
    · rw [map_fst_note, if_neg hold, List.mem_append, List.mem_append, h.mem_iff]

/-- Any number of further positions, from wherever they count. -/
theorem noteAll (h : Keyed table noted) (start : Nat) (kinds : List String) :
    Keyed (noteAll start table kinds) (noted ++ kinds) := by
  induction kinds generalizing start table noted with
  | nil =>
    rw [List.append_nil]
    exact h
  | cons kind rest ih =>
    have hrest := ih (h.note kind start) (start + 1)
    rw [List.append_assoc] at hrest
    exact hrest

end Keyed

theorem keyed_ofKinds (kinds : List String) : Keyed (ofKinds kinds).positions kinds :=
  keyed_nil.noteAll 0 kinds

/-! ## The entries -/

/-- Where no kind has two entries, each entry is the one that is found. -/
theorem find_of_mem {x : KindIndex} {k : String} {ps : List Nat}
    (h : (x.positions.map Prod.fst).Nodup) (hmem : (k, ps) ∈ x.positions) : x.find k = ps := by
  rw [find, (Entries.lookup_eq_some h).2 hmem, Option.getD_some]

/-- The entries of an index are the kinds of the unit, each with its positions. -/
theorem mem_positions_ofKinds {kinds : List String} {k : String} {ps : List Nat} :
    (k, ps) ∈ (ofKinds kinds).positions ↔ k ∈ kinds ∧ ps = (ofKinds kinds).find k := by
  have hkeyed := keyed_ofKinds kinds
  constructor
  · intro hmem
    exact ⟨(hkeyed.mem_iff k).1 (List.mem_map_of_mem hmem), (find_of_mem hkeyed.nodup hmem).symm⟩
  · rintro ⟨hk, rfl⟩
    obtain ⟨⟨k', ps⟩, hmem, rfl⟩ := List.mem_map.1 ((hkeyed.mem_iff k).2 hk)
    rw [find_of_mem hkeyed.nodup hmem]
    exact hmem

section Entry

variable {kinds : List String} {e : String × List Nat}

/-- The positions of an entry are those of the nodes of its kind. -/
theorem mem_entry (he : e ∈ (ofKinds kinds).positions) {i : Nat} :
    i ∈ e.2 ↔ kinds[i]? = some e.1 := by
  rw [(mem_positions_ofKinds.1 he).2, mem_find_ofKinds]

/-- There is no entry without a node of its kind. -/
theorem entry_ne_nil (he : e ∈ (ofKinds kinds).positions) : e.2 ≠ [] := by
  obtain ⟨hk, -⟩ := mem_positions_ofKinds.1 he
  obtain ⟨i, hi⟩ := List.mem_iff_getElem?.1 hk
  exact List.ne_nil_of_mem ((mem_entry he).2 hi)

theorem entry_ascending (he : e ∈ (ofKinds kinds).positions) : e.2.Pairwise (· < ·) := by
  rw [(mem_positions_ofKinds.1 he).2, find_ofKinds]
  exact List.pairwise_idxsOf

end Entry

/-- No position stands in two entries, since its node has only one kind. -/
theorem entries_disjoint (kinds : List String) :
    (ofKinds kinds).positions.Pairwise fun e e' => e.2.Disjoint e'.2 := by
  have hdistinct := List.pairwise_map.1 (keyed_ofKinds kinds).nodup
  refine hdistinct.imp_of_mem fun {e e'} he he' hne i hi hi' => ?_
  have hkind := (mem_entry he).1 hi
  have hkind' := (mem_entry he').1 hi'
  exact hne (Option.some.inj (hkind.symm.trans hkind'))

/-- Every position of the unit stands in the entry of its kind. -/
theorem entries_cover (kinds : List String) :
    ((ofKinds kinds).positions.flatMap Prod.snd).Perm (List.range kinds.length) := by
  have hnodup : ((ofKinds kinds).positions.flatMap Prod.snd).Nodup :=
    List.nodup_flatMap.2
      ⟨fun e he => (entry_ascending he).imp Nat.ne_of_lt, entries_disjoint kinds⟩
  rw [List.perm_ext_iff_of_nodup hnodup List.nodup_range]
  intro i
  rw [List.mem_flatMap, List.mem_range]
  constructor
  · rintro ⟨e, he, hi⟩
    exact (List.getElem?_eq_some_iff.1 ((mem_entry he).1 hi)).1
  · intro hi
    have hentry : (kinds[i], (ofKinds kinds).find kinds[i]) ∈ (ofKinds kinds).positions :=
      mem_positions_ofKinds.2 ⟨List.getElem_mem hi, rfl⟩
    exact ⟨_, hentry, (mem_entry hentry).2 (List.getElem?_eq_getElem hi)⟩

/-! ## Parts -/

/-- The entries of the index cut the positions of a unit with these kinds into parts, one for each
kind that occurs. -/
structure Partitions (x : KindIndex) (kinds : List String) : Prop where
  /-- Each kind of the unit has one entry, and no other kind has one. -/
  kinds_perm : (x.positions.map Prod.fst).Perm kinds.dedup
  /-- What is found under the kind of an entry are the positions of this entry. -/
  find_eq : ∀ e ∈ x.positions, x.find e.1 = e.2
  nonempty : ∀ e ∈ x.positions, e.2 ≠ []
  ascending : ∀ e ∈ x.positions, e.2.Pairwise (· < ·)
  disjoint : x.positions.Pairwise fun e e' => e.2.Disjoint e'.2
  /-- Under any kind are found the positions of the nodes of this kind, and no others. -/
  mem_find : ∀ k i, i ∈ x.find k ↔ kinds[i]? = some k
  /-- Together the entries hold every position of the unit once. -/
  covers : (x.positions.flatMap Prod.snd).Perm (List.range kinds.length)

/-- The index of a unit partitions its positions. -/
theorem partitions_ofKinds (kinds : List String) : (ofKinds kinds).Partitions kinds where
  kinds_perm := by
    have hkeyed := keyed_ofKinds kinds
    rw [List.perm_ext_iff_of_nodup hkeyed.nodup (List.nodup_dedup kinds)]
    intro k
    rw [hkeyed.mem_iff, List.mem_dedup]
  find_eq _ he := find_of_mem (keyed_ofKinds kinds).nodup he
  nonempty _ he := entry_ne_nil he
  ascending _ he := entry_ascending he
  disjoint := entries_disjoint kinds
  mem_find _ _ := mem_find_ofKinds
  covers := entries_cover kinds

/-! ## Counts -/

/-- As many positions are counted under a kind as there are nodes of this kind. -/
theorem count_ofKinds (kinds : List String) (k : String) :
    (ofKinds kinds).count k = kinds.count k := by
  rw [count, find_ofKinds, List.length_idxsOf]

theorem sum_count_ofKinds (kinds : List String) :
    (kinds.dedup.map (ofKinds kinds).count).sum = kinds.length := by
  simp only [funext (count_ofKinds kinds), List.sum_map_count_dedup_eq_length]

end KindIndex

/-! ## The unit indexed last -/

universe t

/-- Whatever was done with a kind index, its entries are a partition of the positions of the unit
indexed last, by kind, and of no unit before. The count of a kind is the number of nodes of this
kind, so the counts of the kinds that occur add up to the number of all nodes. -/
theorem Dispatcher.index_partitions (history : List Use.{t}) :
    let kinds := lastKinds history
    ∃ x, Strategy.kindIndexed.dispatcher.run history = .kindIndexed x ∧
      x.Partitions kinds ∧ (∀ k, x.count k = kinds.count k) ∧
      (kinds.dedup.map x.count).sum = kinds.length := by
  intro kinds
  have hrun : Strategy.kindIndexed.dispatcher.run history = .kindIndexed (.ofKinds kinds) :=
    run_dispatcher .kindIndexed history
  exact ⟨.ofKinds kinds, hrun, KindIndex.partitions_ofKinds kinds,
    KindIndex.count_ofKinds kinds, KindIndex.sum_count_ofKinds kinds⟩

end Polyglot
