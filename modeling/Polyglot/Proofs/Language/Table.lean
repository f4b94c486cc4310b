import Polyglot.Entries
import Polyglot.Language.Table

/-!
# Keys of a version table

What a table answers about keys, in terms of the list of keys alone.

- `collision?_eq_some`: the key that speaks against a registration is the first one
  that is taken or repeated; those before it are free and distinct.
- `lookup_eq_some`: no key stands twice, so what a key leads to is a matter of
  membership.
-/

namespace Polyglot.VersionTable

universe u

variable {η : Type u}

/-- The keys of a table. -/
def names (t : VersionTable η) : List String := t.keys.map Prod.fst

/-! ## Collisions -/

/-- Keys have no collision when they and the keys of the table are all distinct. -/
theorem collision?_eq_none_iff_nodup {t : VersionTable η} {keys : List String} :
    t.collision? keys = none ↔ (t.names ++ keys).Nodup := by
  rw [collision?_eq_none, List.nodup_append]
  constructor
  · rintro ⟨hd, hf⟩
    refine ⟨t.keys_nodup, hd, ?_⟩
    rintro a ha b hb rfl
    exact hf a hb ha
  · rintro ⟨-, hd, hf⟩
    exact ⟨hd, fun k hk ht => hf k ht k hk rfl⟩

theorem collisionAfter?_eq_some {t : VersionTable η} {seen keys : List String} {key : String} :
    t.collisionAfter? seen keys = some key ↔
      ∃ front back, keys = front ++ key :: back ∧ t.collisionAfter? seen front = none ∧
        (key ∈ seen ∨ key ∈ front ∨ key ∈ t.names) := by
  induction keys generalizing seen with
  | nil => simp [collisionAfter?]
  | cons k ks ih =>
    rw [collisionAfter?]
    by_cases hk : seen.contains k || t.hasKey k
    · -- the first key already collides, so nothing can come before the collision
      rw [if_pos hk, Option.some.injEq]
      have hmem : k ∈ seen ∨ k ∈ t.names := by
        rw [Bool.or_eq_true, List.contains_iff_mem, hasKey_iff] at hk
        exact hk
      constructor
      · rintro rfl
        exact ⟨[], ks, rfl, rfl, hmem.imp_right Or.inr⟩
      · rintro ⟨front, back, heq, hfree, -⟩
        cases front with
        | nil => exact (List.cons.inj heq).1
        | cons f fs =>
          obtain ⟨rfl, -⟩ := List.cons.inj heq
          rw [collisionAfter?, if_pos hk] at hfree
          cases hfree
    · rw [if_neg hk, ih]
      constructor
      · rintro ⟨front, back, rfl, hfree, hkey⟩
        refine ⟨k :: front, back, rfl, ?_, ?_⟩
        · rw [collisionAfter?, if_neg hk]
          exact hfree
        · rcases hkey with h | h | h
          · rcases List.mem_cons.1 h with rfl | h
            · exact .inr (.inl List.mem_cons_self)
            · exact .inl h
          · exact .inr (.inl (List.mem_cons_of_mem _ h))
          · exact .inr (.inr h)
      · rintro ⟨front, back, heq, hfree, hkey⟩
        cases front with
        | nil =>
          -- the key at the head does not collide
          obtain ⟨rfl, rfl⟩ := List.cons.inj heq
          rw [Bool.or_eq_true, List.contains_iff_mem, hasKey_iff] at hk
          rcases hkey with h | h | h
          · exact absurd (.inl h) hk
          · cases h
          · exact absurd (.inr h) hk
        | cons f fs =>
          obtain ⟨rfl, rfl⟩ := List.cons.inj heq
          rw [collisionAfter?, if_neg hk] at hfree
          refine ⟨fs, back, rfl, hfree, ?_⟩
          rcases hkey with h | h | h
          · exact .inl (List.mem_cons_of_mem _ h)
          · rcases List.mem_cons.1 h with rfl | h
            · exact .inl List.mem_cons_self
            · exact .inr (.inl h)
          · exact .inr (.inr h)

/-- The colliding key is the first one that is taken or stands earlier. -/
theorem collision?_eq_some {t : VersionTable η} {keys : List String} {key : String} :
    t.collision? keys = some key ↔
      ∃ front back, keys = front ++ key :: back ∧ (t.names ++ front).Nodup ∧
        key ∈ t.names ++ front := by
  rw [collision?, collisionAfter?_eq_some]
  refine exists_congr fun front => exists_congr fun back => and_congr_right fun _ => ?_
  rw [← collision?, collision?_eq_none_iff_nodup, List.mem_append]
  simp [or_comm]

/-! ## Lookup -/

/-- A key leads to an ordinal when the table has the pair. -/
theorem lookup_eq_some {t : VersionTable η} {key : String} {i : Nat} :
    t.keys.lookup key = some i ↔ (key, i) ∈ t.keys :=
  Entries.lookup_eq_some t.keys_nodup

end Polyglot.VersionTable
