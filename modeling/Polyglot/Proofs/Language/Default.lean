import Polyglot.Proofs.Language.Record
import Polyglot.Proofs.Language.Settings

/-!
# A second default version

A language has one default version, so a second default mark is always refused, and the builder
stays as it is. What is said then depends on the keys: as long as they are fresh, the two default
versions are named, but the first key that is taken or repeated comes before that.

- `Records.find?_default`: the marked registration of a builder is the only one.
- `second_default_refused`: what is said to a second default mark.
- `default_mark_not_told_first`: the mark is not always what is told.
-/

namespace Polyglot

universe u

variable {η : Type u}

namespace Builder

open Registration

section

variable {b : Builder η} {rs : List (Registration η)} {d r : Registration η}

/-- A script does not change the name of the language. -/
theorem name_run (b : Builder η) (script : List (Call η)) : (b.run script).name = b.name := by
  rw [name, language_run]
  rfl

/-- Where a registration with the mark was taken in, it is the first one with the mark. -/
theorem Records.find?_default (h : Records b rs) (hd : d ∈ rs) (marked : d.isDefault = true) :
    rs.find? (·.isDefault) = some d := by
  cases hfind : rs.find? (·.isDefault) with
  | none => exact absurd marked (List.find?_eq_none.1 hfind d hd)
  | some d' =>
    obtain ⟨i, hi⟩ := List.getElem?_of_mem hd
    obtain ⟨j, hj⟩ := List.getElem?_of_mem (List.mem_of_find?_eq_some hfind)
    have hdefault := (h.default?_eq_some hi).2 marked
    have hdefault' := (h.default?_eq_some hj).2 (List.find?_some hfind)
    -- the ordinal of the default version is the place of both
    cases hdefault.symm.trans hdefault'
    exact hj.symm.trans hi

/-- Behind a default version nothing with the mark is acceptable. -/
theorem Records.exists_refusal (h : Records b rs) (hd : d ∈ rs) (marked : d.isDefault = true)
    (hr : r.isDefault = true) : ∃ fault, b.refusal? r = some fault := by
  cases hrefusal : b.refusal? r with
  | some fault => exact ⟨fault, rfl⟩
  | none =>
    have hone := (h.refusal?_eq_none.1 hrefusal).one_default
    have hpos : 0 < rs.countP (·.isDefault) := List.countP_pos_iff.2 ⟨d, hd, marked⟩
    rw [List.countP_append, List.countP_singleton, if_pos hr] at hone
    omega

end

/-- A second default mark is refused whatever the builder went through, and it leaves the builder
as it was. The refusal names both default versions if the keys are fresh, and otherwise the first
key that is not. -/
theorem second_default_refused (name terseName : String) (script : List (Call η))
    {d r : Registration η}
    (hd : d ∈ (new name terseName : Builder η).accepted script) (marked : d.isDefault = true)
    (hr : r.isDefault = true) :
    let b := (new name terseName : Builder η).run script
    let taken := ((new name terseName : Builder η).accepted script).flatMap keys
    ∃ fault, b.register r = (b, .error fault) ∧
      ((taken ++ r.keys).Nodup ∧ fault = .defaultAlreadySet name d.id r.id ∨
        ∃ front key back, r.keys = front ++ key :: back ∧ (taken ++ front).Nodup ∧
          key ∈ taken ++ front ∧ fault = .duplicateKey name key) := by
  intro b taken
  have h : Records b ((new name terseName : Builder η).accepted script) :=
    records_run (records_new name terseName) script
  have hname : b.name = name := name_run _ script
  obtain ⟨fault, hrefusal⟩ := h.exists_refusal hd marked hr
  refine ⟨fault, register_of_refusal? hrefusal, ?_⟩
  have hreason := h.refusal?_eq_some.1 hrefusal
  rw [hname] at hreason
  cases hreason with
  | duplicateKey split fresh collides => exact .inr ⟨_, _, _, split, fresh, collides, rfl⟩
  | defaultAlreadySet fresh _ default =>
    rw [h.find?_default hd marked] at default
    cases default
    exact .inl ⟨fresh, rfl⟩

/-! ## A mark and a key at once -/

/-- A default version. -/
def firstDefault : Registration Unit := { id := "1.0", handler := (), isDefault := true }

/-- Another version with the mark; one of its keys is the id of the first. -/
def secondDefault : Registration Unit :=
  { id := "2.0", aliases := ["1.0"], handler := (), isDefault := true }

/-- The collision is told and not the second mark. -/
theorem second_default_refused_taken :
    firstDefault ∈ (new "Ada" "ada").accepted [.register firstDefault] ∧
      firstDefault.isDefault = true ∧ secondDefault.isDefault = true ∧
      ((new "Ada" "ada").run [.register firstDefault]).register secondDefault
        = ((new "Ada" "ada").run [.register firstDefault],
            .error (.duplicateKey "Ada" "1.0")) := by
  have hd : firstDefault ∈ (new "Ada" "ada").accepted [.register firstDefault] :=
    List.mem_singleton.2 rfl
  refine ⟨hd, rfl, rfl, ?_⟩
  obtain ⟨fault, hregister, -⟩ :=
    second_default_refused "Ada" "ada" [.register firstDefault] hd rfl (r := secondDefault) rfl
  have htold : (((new "Ada" "ada").run [.register firstDefault]).register secondDefault).2
      = .error (.duplicateKey "Ada" "1.0") := rfl
  rw [hregister] at htold
  rw [hregister, ← htold]

/-- Not every second default mark is told as such. -/
theorem default_mark_not_told_first :
    ¬ ∀ (name terseName : String) (script : List (Call Unit)) (d r : Registration Unit),
      d ∈ (new name terseName : Builder Unit).accepted script → d.isDefault = true →
      r.isDefault = true →
      (((new name terseName : Builder Unit).run script).register r).2
        = .error (.defaultAlreadySet name d.id r.id) := by
  intro h
  have htold := h "Ada" "ada" [.register firstDefault] firstDefault secondDefault
    (List.mem_singleton.2 rfl) rfl rfl
  cases htold

end Builder

end Polyglot
