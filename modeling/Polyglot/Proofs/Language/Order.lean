import Mathlib.Data.List.Pairwise
import Polyglot.Proofs.Language.Query

/-!
# The order of versions

Versions are compared by the name of their language, then by ordinal, then by id. Sameness and
hashing look at the same three parts, so they fit the order for versions of any languages. Inside
one registry the names of the languages ascend, and inside one language the ordinals, so the
versions of the registry ascend strictly in the order in which they are listed.

- `Version.compare_eq_lt_iff`: when a version is less than another one.
- `LanguageModule.versions_ascending`, `Registry.versions_ascending`: versions are listed in order.
- `perm_flatMap_filter`, `sorted_flatMap_filter`: elements grouped by a list of different ones.
- `Registry.sorted_iff`: a selection is sorted when it follows the list of the registry.
- `Registry.versions_ordered`: the order is lawful, and sorting gives the order of the registry.
-/

namespace Polyglot

universe u

variable {η : Type u}

theorem Text.compare_eq_lt_iff {s t : String} : compare s t = .lt ↔ bytes s < bytes t := by
  rw [bytes_lt_iff]
  exact compareOfLessAndEq_eq_lt

namespace Version

/-! ## Laws -/

instance : Std.TransOrd (Version η) :=
  inferInstanceAs <| Std.TransCmp <| compareLex (compareOn fun v : Version η => v.language.name) <|
    compareLex (compareOn Version.ordinal) (compareOn Version.id)

instance : Std.LawfulBEqOrd (Version η) where
  compare_eq_iff_beq {v w} := by
    show ((compare v.language.name w.language.name).then
      ((compare v.ordinal w.ordinal).then (compare v.id w.id))) = .eq ↔ _
    rw [Ordering.then_eq_eq, Ordering.then_eq_eq, Std.compare_eq_iff_eq, Std.compare_eq_iff_eq,
      Std.compare_eq_iff_eq, beq_iff, rank, rank, Prod.mk.injEq, Prod.mk.injEq]

/-- Names count first, then ordinals, then ids; names and ids are compared by their bytes. -/
theorem compare_eq_lt_iff {v w : Version η} :
    compare v w = .lt ↔
      Text.bytes v.language.name < Text.bytes w.language.name ∨
        v.language.name = w.language.name ∧
          (v.ordinal < w.ordinal ∨ v.ordinal = w.ordinal ∧ Text.bytes v.id < Text.bytes w.id) := by
  show ((compare v.language.name w.language.name).then
    ((compare v.ordinal w.ordinal).then (compare v.id w.id))) = .lt ↔ _
  rw [Ordering.then_eq_lt, Ordering.then_eq_lt, Std.compare_eq_iff_eq, Std.compare_eq_iff_eq,
    Text.compare_eq_lt_iff, Text.compare_eq_lt_iff, Nat.compare_eq_lt]

end Version

/-! ## Versions in order -/

/-- In one language versions ascend in the order of their registration. -/
theorem LanguageModule.versions_ascending (m : LanguageModule η) :
    m.versions.Pairwise fun v w => v.language.name = w.language.name ∧ v.ordinal < w.ordinal := by
  refine List.pairwise_iff_getElem.2 fun i j hi hj hij => ⟨?_, ?_⟩
  · rw [m.table.language_eq _ (List.getElem_mem hi), m.table.language_eq _ (List.getElem_mem hj)]
  · show (m.table.versions[i]).ordinal < (m.table.versions[j]).ordinal
    rw [m.table.ordinal_eq i hi, m.table.ordinal_eq j hj]
    exact hij

/-! ## Elements grouped -/

/-- Elements put in groups by a list of pairwise different ones, with each of them in some group. -/
theorem perm_flatMap_filter {α : Type u} [BEq α] [EquivBEq α] {vs xs : List α}
    (hvs : vs.Pairwise fun v w => (v == w) = false) (hxs : ∀ x ∈ xs, ∃ v ∈ vs, (x == v) = true) :
    (vs.flatMap fun v => xs.filter (· == v)).Perm xs := by
  induction vs generalizing xs with
  | nil =>
    have hnil : xs = [] := List.eq_nil_iff_forall_not_mem.2 fun x hx => by simpa using hxs x hx
    rw [hnil, List.flatMap_nil]
  | cons v vs ih =>
    obtain ⟨hv, hvs⟩ := List.pairwise_cons.1 hvs
    -- the elements of a later group are not in the group of `v`
    have hgroup (w : α) (hw : w ∈ vs) :
        xs.filter (· == w) = (xs.filter fun x => !(x == v)).filter (· == w) := by
      rw [List.filter_filter]
      refine List.filter_congr fun x _ => ?_
      cases hxw : x == w with
      | false => rfl
      | true =>
        rw [BEq.congr_left hxw, BEq.comm, hv w hw]
        rfl
    have hcover (x : α) (hx : x ∈ xs.filter fun x => !(x == v)) : ∃ w ∈ vs, (x == w) = true := by
      obtain ⟨hx, hxv⟩ := List.mem_filter.1 hx
      obtain ⟨w, hw, hxw⟩ := hxs x hx
      rcases List.mem_cons.1 hw with rfl | hw
      · rw [hxw] at hxv
        cases hxv
      · exact ⟨w, hw, hxw⟩
    have hrest := ih hvs hcover
    rw [List.flatMap_cons, List.flatMap_congr hgroup]
    exact (hrest.append_left _).trans (List.filter_append_perm _ xs)

/-- Groups that stand in strict order are sorted. -/
theorem sorted_flatMap_filter {α : Type u} [BEq α] [Ord α] [Std.TransOrd α] [Std.LawfulBEqOrd α]
    {vs : List α} (xs : List α) (hvs : vs.Pairwise fun v w => compare v w = .lt) :
    (vs.flatMap fun v => xs.filter (· == v)).Pairwise fun v w => (compare v w).isLE = true := by
  -- an element counts in the order as that of its group does
  have hgroup {x v : α} (hx : x ∈ xs.filter (· == v)) : compare x v = .eq :=
    Std.LawfulBEqOrd.compare_eq_iff_beq.2 (List.mem_filter.1 hx).2
  refine List.pairwise_flatMap.2 ⟨fun v _ => ?_, hvs.imp fun {v w} hvw x hx y hy => ?_⟩
  · refine List.pairwise_of_forall_mem_list fun x hx y hy => ?_
    rw [Std.TransCmp.congr_left (hgroup hx), Std.OrientedCmp.eq_symm (hgroup hy)]
    rfl
  · rw [Std.TransCmp.congr_left (hgroup hx), Std.TransCmp.congr_right (hgroup hy), hvw]
    rfl

/-! ## The versions of a registry -/

namespace Registry

/-- The versions of all languages, language by language. -/
def versions (r : Registry η) : List (Version η) := r.modules.flatMap LanguageModule.versions

/-- Versions stand before others of a greater language, and before later ones of their own. -/
theorem versions_ascending (r : Registry η) :
    r.versions.Pairwise fun v w =>
      Text.bytes v.language.name < Text.bytes w.language.name ∨
        v.language.name = w.language.name ∧ v.ordinal < w.ordinal := by
  refine List.pairwise_flatMap.2 ⟨fun m _ => m.versions_ascending.imp .inr, ?_⟩
  refine r.bytes_ascending.imp fun {m n} hmn v hv w hw => .inl ?_
  rw [m.table.language_eq v hv, n.table.language_eq w hw]
  exact hmn

theorem compare_versions (r : Registry η) :
    r.versions.Pairwise fun v w => compare v w = .lt := by
  refine r.versions_ascending.imp fun h => Version.compare_eq_lt_iff.2 ?_
  exact h.imp_right fun ⟨hname, hordinal⟩ => ⟨hname, .inl hordinal⟩

theorem versions_distinct (r : Registry η) :
    r.versions.Pairwise fun v w => (v == w) = false := by
  refine r.compare_versions.imp fun {v w} h => ?_
  rw [← Bool.not_eq_true, ← Std.LawfulBEqOrd.compare_eq_iff_beq, h]
  nofun

variable {r : Registry η}

/-- Inside one registry sameness tells the versions apart. -/
theorem eq_of_version_beq {v w : Version η} (hv : v ∈ r.versions) (hw : w ∈ r.versions)
    (h : (v == w) = true) : v = w := by
  have : Std.Symm fun v w : Version η => (v == w) = false := ⟨fun v w h => BEq.comm.trans h⟩
  by_contra hne
  rw [r.versions_distinct.forall hv hw hne] at h
  cases h

/-- A selection is sorted when it holds what it selects in the order of the registry. -/
theorem sorted_iff {xs ys : List (Version η)} (hxs : ∀ v ∈ xs, v ∈ r.versions) :
    ys.Perm xs ∧ ys.Pairwise (fun v w => (compare v w).isLE = true) ↔
      ys = r.versions.flatMap fun v => xs.filter (· == v) := by
  have hperm : (r.versions.flatMap fun v => xs.filter (· == v)).Perm xs :=
    perm_flatMap_filter r.versions_distinct fun x hx => ⟨x, hxs x hx, BEq.rfl⟩
  have hsorted := sorted_flatMap_filter xs r.compare_versions
  constructor
  · rintro ⟨hys, hle⟩
    refine List.Perm.eq_of_pairwise (fun v w hv hw hvw hwv => ?_) hle hsorted (hys.trans hperm.symm)
    refine eq_of_version_beq (hxs v (hys.mem_iff.1 hv)) (hxs w (hperm.mem_iff.1 hw)) ?_
    exact Std.LawfulBEqOrd.compare_eq_iff_beq.1 (Std.OrientedCmp.isLE_antisymm hvw hwv)
  · rintro rfl
    exact ⟨hperm, hsorted⟩

/-- The order of versions is lawful for versions of any languages, and fits sameness and hashing.
A registry lists its versions strictly in this order, languages by name and each language by
registration, so no two of them are the same, and a selection of them is sorted exactly when it
follows the list of the registry. -/
theorem versions_ordered (r : Registry η) :
    (∀ u v w : Version η,
      compare v v = .eq ∧
      ((compare v w).isLE = true → (compare w v).isLE = true → (v == w) = true) ∧
      ((compare u v).isLE = true → (compare v w).isLE = true → (compare u w).isLE = true) ∧
      ((compare v w).isLE = true ∨ (compare w v).isLE = true) ∧
      (compare w v = .gt ↔ compare v w = .lt) ∧
      (compare v w = .eq ↔ (v == w) = true) ∧
      ((v == w) = true → v.rank = w.rank ∧ hash v = hash w)) ∧
    r.versions.Pairwise (fun v w => compare v w = .lt) ∧
    r.versions.Pairwise (fun v w =>
      Text.bytes v.language.name < Text.bytes w.language.name ∨
        v.language.name = w.language.name ∧ v.ordinal < w.ordinal) ∧
    (∀ m ∈ r.modules, ∀ (i : Nat) (hi : i < m.versions.length),
      m.versions[i].language = m.identity ∧ m.versions[i].ordinal = i) ∧
    r.versions.Pairwise (fun v w => (v == w) = false) ∧
    ∀ xs ys : List (Version η), (∀ v ∈ xs, v ∈ r.versions) →
      (ys.Perm xs ∧ ys.Pairwise (fun v w => (compare v w).isLE = true) ↔
        ys = r.versions.flatMap fun v => xs.filter (· == v)) := by
  have hswap (v w : Version η) : compare w v = (compare v w).swap := Std.OrientedCmp.eq_swap
  refine ⟨fun u v w => ⟨Std.ReflCmp.compare_self, fun hvw hwv => ?_, Std.TransCmp.isLE_trans, ?_,
    ?_, Std.LawfulBEqOrd.compare_eq_iff_beq, fun h => ?_⟩, r.compare_versions,
    r.versions_ascending, fun m _ i hi => ⟨?_, m.table.ordinal_eq i hi⟩, r.versions_distinct,
    fun xs ys hxs => sorted_iff hxs⟩
  · exact Std.LawfulBEqOrd.compare_eq_iff_beq.1 (Std.OrientedCmp.isLE_antisymm hvw hwv)
  · rw [hswap v w]
    cases compare v w <;> simp
  · rw [hswap v w]
    cases compare v w <;> simp
  · exact ⟨Version.beq_iff.1 h, Version.hash_eq_of_beq h⟩
  · exact m.table.language_eq _ (List.getElem_mem hi)

end Registry

end Polyglot
