import Mathlib.Data.List.Nodup
import Polyglot.Proofs.Language.Default

/-!
# Which registrations are accepted

The keys of a registration, its id and then its aliases, are checked from the front. A place
among them offends if the key there is already a key of the table or stands at an earlier
place. So which places offend is a matter of the list and the table alone, and the check is
told by it: there is a collision as soon as some place offends, and its key is the one at the
first of these places.

- `VersionTable.Offends`, `VersionTable.FirstOffence`: places that offend, and the first one.
- `collision?_eq_none_iff_offends`, `collision?_eq_some_iff_offends`: what the check finds.
- `first_offence_told`: which registrations are accepted, and what is told of the others.
-/

namespace Polyglot

universe u

variable {η : Type u}

namespace VersionTable

/-- The key at this place is a key of the table, or it stands at an earlier place. -/
def Offends (t : VersionTable η) (keys : List String) (p : Nat) : Prop :=
  ∃ key, keys[p]? = some key ∧ (t.hasKey key = true ∨ ∃ q < p, keys[q]? = some key)

/-- The key stands at this place, which offends, and no place before it does. -/
structure FirstOffence (t : VersionTable η) (keys : List String) (p : Nat) (key : String) :
    Prop where
  key_at : keys[p]? = some key
  offends : t.Offends keys p
  first : ∀ q < p, ¬ t.Offends keys q

section

variable {t : VersionTable η} {keys : List String} {key : String} {p : Nat}

theorem Offends.lt_length (h : t.Offends keys p) : p < keys.length := by
  obtain ⟨key, hkey, -⟩ := h
  exact (List.getElem?_eq_some_iff.1 hkey).1

/-- What stands behind a place has no part in whether it offends. -/
theorem offends_append_left {front : List String} (back : List String) (hp : p < front.length) :
    t.Offends (front ++ back) p ↔ t.Offends front p := by
  have hget : ∀ q, q ≤ p → (front ++ back)[q]? = front[q]? := fun q hq =>
    List.getElem?_append_left (by omega)
  unfold Offends
  rw [hget p (Nat.le_refl p)]
  refine exists_congr fun key => and_congr_right fun _ => or_congr_right ?_
  refine exists_congr fun q => and_congr_right fun hq => ?_
  rw [hget q (Nat.le_of_lt hq)]

/-- Where no place offends, the keys are distinct, from each other and from those of the table. -/
theorem nodup_iff_offends : (t.names ++ keys).Nodup ↔ ∀ p, ¬ t.Offends keys p := by
  rw [List.nodup_append]
  constructor
  · rintro ⟨-, hdistinct, hfree⟩ p ⟨key, hp, hkey⟩
    rcases hkey with htable | ⟨q, hq, hearlier⟩
    · exact hfree key (hasKey_iff.1 htable) key (List.mem_of_getElem? hp) rfl
    · have hlt : p < keys.length := (List.getElem?_eq_some_iff.1 hp).1
      have hne := List.nodup_iff_getElem?_ne_getElem?.1 hdistinct q p hq hlt
      exact hne (hearlier.trans hp.symm)
  · intro h
    refine ⟨t.keys_nodup, ?_, ?_⟩
    · rw [List.nodup_iff_getElem?_ne_getElem?]
      intro q p hq hp heq
      have hkey : keys[p]? = some keys[p] := List.getElem?_eq_getElem hp
      exact h p ⟨keys[p], hkey, .inr ⟨q, hq, heq.trans hkey⟩⟩
    · rintro key htable _ hkeys rfl
      obtain ⟨p, hp⟩ := List.getElem?_of_mem hkeys
      exact h p ⟨key, hp, .inl (hasKey_iff.2 htable)⟩

theorem collision?_eq_none_iff_offends :
    t.collision? keys = none ↔ ∀ p, ¬ t.Offends keys p := by
  rw [collision?_eq_none_iff_nodup, nodup_iff_offends]

/-- The key that is found is the one at the first place that offends. -/
theorem collision?_eq_some_iff_offends :
    t.collision? keys = some key ↔ ∃ p, t.FirstOffence keys p key := by
  rw [collision?_eq_some]
  constructor
  · rintro ⟨front, back, rfl, fresh, taken⟩
    have hat : (front ++ key :: back)[front.length]? = some key := by simp
    refine ⟨front.length, hat, ⟨key, hat, ?_⟩, fun q hq => ?_⟩
    · rcases List.mem_append.1 taken with htable | hfront
      · exact .inl (hasKey_iff.2 htable)
      · obtain ⟨q, hq⟩ := List.getElem?_of_mem hfront
        have hlt : q < front.length := (List.getElem?_eq_some_iff.1 hq).1
        exact .inr ⟨q, hlt, (List.getElem?_append_left hlt).trans hq⟩
    · rw [offends_append_left _ hq]
      exact nodup_iff_offends.1 fresh q
  · rintro ⟨p, hat, ⟨_, hat', hkey⟩, hfirst⟩
    obtain rfl := Option.some.inj (hat.symm.trans hat')
    obtain ⟨hp, hget⟩ := List.getElem?_eq_some_iff.1 hat
    have hsplit : keys = keys.take p ++ key :: keys.drop (p + 1) := by
      rw [← hget, ← List.drop_eq_getElem_cons hp, List.take_append_drop]
    have hlength : (keys.take p).length = p := List.length_take_of_le (Nat.le_of_lt hp)
    refine ⟨keys.take p, keys.drop (p + 1), hsplit, ?_, ?_⟩
    · rw [nodup_iff_offends]
      intro q hq
      have hlt : q < p := hlength ▸ hq.lt_length
      rw [← offends_append_left (keys.drop p) hq.lt_length, List.take_append_drop] at hq
      exact hfirst q hlt hq
    · rcases hkey with htable | ⟨q, hq, hearlier⟩
      · exact List.mem_append_left _ (hasKey_iff.1 htable)
      · have hfront : (keys.take p)[q]? = some key := by
          rw [List.getElem?_take_of_lt hq]
          exact hearlier
        exact List.mem_append_right _ (List.mem_of_getElem? hfront)

end

example (language : Identity) :
    (empty language : VersionTable Unit).collision? ["17", "b", "b", "17"] = some "b" := rfl

end VersionTable

namespace Builder

open Registration

section

variable {b : Builder η} {rs : List (Registration η)} {r : Registration η}

theorem register_eq_ok : (b.register r).2 = .ok () ↔ b.refusal? r = none := by
  cases h : b.refusal? r with
  | none => simp [register_of_free h]
  | some fault => simp [register_of_refusal? h]

theorem register_eq_error {fault : RegistryError} :
    (b.register r).2 = .error fault ↔ b.refusal? r = some fault := by
  cases h : b.refusal? r with
  | none => simp [register_of_free h]
  | some fault' => simp [register_of_refusal? h]

/-- A key is told as soon as there is a collision, whatever else speaks against the
registration. -/
theorem refusal?_eq_duplicateKey {language key : String} :
    b.refusal? r = some (.duplicateKey language key) ↔
      language = b.name ∧ b.table.collision? r.keys = some key := by
  unfold refusal?
  cases b.table.collision? r.keys with
  | some found => simp [eq_comm]
  | none => cases r.isDefault <;> cases b.defaultVersion? <;> simp

/-- The second default mark is told beside the one registration that has the first. -/
theorem Records.of_defaultAlreadySet (h : Records b rs) {language existing attempted : String}
    (hr : b.refusal? r = some (.defaultAlreadySet language existing attempted)) :
    language = b.name ∧ attempted = r.id ∧
      ∃ d ∈ rs, d.isDefault = true ∧ d.id = existing ∧ ∀ e ∈ rs, e.isDefault = true → e = d := by
  cases h.refusal?_eq_some.1 hr with
  | @defaultAlreadySet d _ _ hd =>
    refine ⟨rfl, rfl, d, List.mem_of_find?_eq_some hd, List.find?_some hd, rfl, ?_⟩
    intro e he marked
    exact Option.some.inj ((h.find?_default he marked).symm.trans hd)

theorem Records.refusal?_eq_none_iff_offends (h : Records b rs) :
    b.refusal? r = none ↔
      (∀ p, ¬ b.table.Offends r.keys p) ∧
        ¬ (r.isDefault = true ∧ ∃ d ∈ rs, d.isDefault = true) := by
  rw [Builder.refusal?_eq_none, VersionTable.collision?_eq_none_iff_offends, ← h.default?_isSome]
  refine and_congr_right fun _ => ?_
  rw [not_and, ← Option.isSome_iff_exists, Option.not_isSome_iff_eq_none]

end

/-- A registration is accepted when no place among its keys offends and it is not a second default
mark. If a key is told, it is the one at the first place that offends; without the mark, a place
that offends is always told so; and a second default mark is told with the id of the one
registration that has the first. -/
theorem first_offence_told (name terseName : String) (script : List (Call η))
    (r : Registration η) :
    let b := (new name terseName : Builder η).run script
    let rs := (new name terseName : Builder η).accepted script
    ((b.register r).2 = .ok () ↔
        (∀ p, ¬ b.table.Offends r.keys p) ∧
          ¬ (r.isDefault = true ∧ ∃ d ∈ rs, d.isDefault = true)) ∧
      (∀ language key, (b.register r).2 = .error (.duplicateKey language key) →
        language = name ∧ ∃ p, b.table.FirstOffence r.keys p key) ∧
      (r.isDefault = false → ∀ p, b.table.Offends r.keys p →
        ∃ key, (b.register r).2 = .error (.duplicateKey name key)) ∧
      ∀ language existing attempted,
        (b.register r).2 = .error (.defaultAlreadySet language existing attempted) →
        language = name ∧ attempted = r.id ∧
          ∃ d ∈ rs, d.isDefault = true ∧ d.id = existing ∧
            ∀ e ∈ rs, e.isDefault = true → e = d := by
  intro b rs
  have h : Records b rs := records_run (records_new name terseName) script
  have hname : b.name = name := name_run _ script
  refine ⟨?_, fun language key htold => ?_, fun _ p hp => ?_, ?_⟩
  · rw [register_eq_ok]
    exact h.refusal?_eq_none_iff_offends
  · obtain ⟨hlanguage, hkey⟩ := refusal?_eq_duplicateKey.1 (register_eq_error.1 htold)
    exact ⟨hlanguage.trans hname, VersionTable.collision?_eq_some_iff_offends.1 hkey⟩
  · cases hcollision : b.table.collision? r.keys with
    | none => exact absurd hp (VersionTable.collision?_eq_none_iff_offends.1 hcollision p)
    | some key =>
      exact ⟨key, register_eq_error.2 (refusal?_eq_duplicateKey.2 ⟨hname.symm, hcollision⟩)⟩
  · intro language existing attempted htold
    rw [← hname]
    exact h.of_defaultAlreadySet (register_eq_error.1 htold)

end Builder

end Polyglot
